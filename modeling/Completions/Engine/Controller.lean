import Completions.Engine.Generation
import Completions.Request.Validation

/-!
The controller lets one run at a time through the gate and turns every failure into a result. A sink
is told of the end exactly once: with the whole text, or with nothing when the run failed.
-/

namespace Completions

structure Controller (σ : Type) where
  backend : Backend σ
  batch : Nat
  batch_pos : 0 < batch
  /-- Refuse a run while another is going on instead of waiting for it. -/
  rejectWhenBusy : Bool
  maxPromptTokens : Option Int

namespace Controller

variable {σ : Type}

def make? (backend : Backend σ) (batch : Int) (rejectWhenBusy : Bool) (maxPromptTokens : Option Int) :
    Except Cause (Controller σ) :=
  if h : 0 < batch then
    .ok { backend, batch := batch.toNat, batch_pos := by omega, rejectWhenBusy, maxPromptTokens }
  else .error .batchSize

/-- What a run needs before it may begin; the prompt it is to read. -/
def receive (c : Controller σ) (request : Request) (override : Option Prompt) (s : Station σ) :
    Except Fault Prompt := do
  match override.or request.prompt with
  | none => .error Cause.noPrompt.fault
  | some prompt =>
    request.validate.mapError Request.Breach.fault
    if !c.backend.ready s.world then .error Cause.notReady.fault
    if s.gate.running then
      .error (if c.rejectWhenBusy then Cause.busy.fault else Cause.waitsForItself.fault)
    pure prompt

def task (request : Request) (sink : Option (Sink σ)) (watch : σ → Bool) : Generation.Task σ where
  words := request.stop
  sampling := request.sampling
  grammar := request.grammar
  jsonSchema := request.jsonSchema
  stream := request.stream
  ignoreEnd := request.ignoreEos
  sink
  watch

def finishSink (sink : Option (Sink σ)) (text : String) : Act σ Unit := do
  match sink with
  | some sink =>
    let _ ← sink text true
    pure ()
  | none => pure ()

/-- Tell the sink that the run failed; a failure of the sink changes nothing. -/
def failed (sink : Option (Sink σ)) (f : Fault) (s : Station σ) : Result × Station σ :=
  (.failed f, ((finishSink sink "").settled s).2)

def deliver (c : Controller σ) (sink : Option (Sink σ)) (d : Generation.Draft) : Act σ Completion := do
  finishSink sink d.text
  let ended ← Act.turn c.backend.now
  pure (d.completion ended)

def generate (c : Controller σ) (request : Request) (prompt : Prompt) (sink : Option (Sink σ))
    (watch : σ → Bool) (s : Station σ) : Result × Station σ :=
  let write := Generation.write c.backend c.batch c.maxPromptTokens request.maxNewTokens prompt
    (task request sink watch)
  match write.settled s.enter with
  | (.error f, s) => failed sink f s.leave
  | (.ok d, s) =>
    match (c.deliver sink d).settled s with
    | (.error f, s) => (.failed f, s.leave)
    | (.ok completion, s) => (.completed completion, s.leave)

def run (c : Controller σ) (request : Request) (sink : Option (Sink σ) := none)
    (override : Option Prompt := none) (watch : σ → Bool := fun _ => false) (s : Station σ) :
    Result × Station σ :=
  match c.receive request override s with
  | .error f => failed sink f s
  | .ok prompt => c.generate request prompt sink watch s

end Controller

end Completions
