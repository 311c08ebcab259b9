import Completions.Rehearsal.World

/-!
Sessions: steps taken one after another on one engine. A sink may be given steps of its own to take
when it is called, so runs can be asked for within runs.
-/

namespace Completions.Rehearsal

inductive Kind where
  | run (override : Option Prompt)
  | complete
  | chat

/-- How a sink answers its calls, which are counted from one. -/
structure SinkPlan where
  failing : List Nat := []
  fault : Fault := ⟨.runtime, ""⟩
  goOn : Bool := true
  turnsAt : Option Nat := none
  thenGoOn : Bool := false

mutual

inductive Step where
  /-- Run the model. Without a sink plan there is no sink, and the inner plan is not used. -/
  | generate (kind : Kind) (request : Except Fault Request) (sink : Option SinkPlan) (inner : Plan)
      (event : Option Bool) (clock : List Float)
  | listen (service : Engine.Service) (request : Except Fault Request) (listener : Listener)
      (clock : List Float)
  | change (f : Script → Script)
  | cancel
  | setEvent
  | isGenerating
  | tokenize (content : Json) (inPieces : Bool)
  | detokenize (tokens : Json)
  | info
  | shutdown

inductive Plan where
  | done
  | step (call : Nat) (step : Step) (rest : Plan)

end

def SinkPlan.answer (p : SinkPlan) (call : Nat) (last : Bool) : Except Fault Bool :=
  if call ∈ p.failing then .error p.fault
  else match p.turnsAt with
    | some n => .ok (if !last && n ≤ call then p.thenGoOn else p.goOn)
    | none => .ok p.goOn

namespace World

def beginRun (w : World) (event : Option Bool) (clock : List Float) : World :=
  { w with wish := none, clock, event, handed := [], inner := [] }

/-- The caller of the run around the one that has ended comes back. -/
def endRun (w outer : World) : World :=
  { w with event := outer.event, handed := outer.handed, inner := outer.inner }

def hand (w : World) (text : String) (last : Bool) : World :=
  { w with handed := (text, last) :: w.handed }

def traceSince (w earlier : World) : List Entry :=
  (w.trace.take (w.trace.length - earlier.trace.length)).reverse

end World

abbrev Stage := Station World

/-- In a rehearsal time stands still. -/
def stamp : Stamp := ⟨1700000000, 1700000000000000000, "0123456789abcdef0123456789abcdef"⟩

def answerOf (act : Act World α) (f : α → Answer) (s : Stage) : Answer × Stage :=
  match act s with
  | .ok a s => (f a, s)
  | .error fault s => (.refused fault, s)

def serve (e : Engine World) (kind : Kind) (r : Request) (sink : Option (Sink World)) :
    Act World Result :=
  match kind with
  | .run override => e.run r sink override World.watch
  | .complete => e.complete r sink World.watch
  | .chat => e.chat stamp r sink World.watch

/-- A run whose sink is already there, from the world it begins in to the one it leaves. -/
def generate (e : Engine World) (kind : Kind) (request : Except Fault Request)
    (sink : Option (Sink World)) (event : Option Bool) (clock : List Float) (s : Stage) :
    Answer × Stage :=
  let act : Act World Result := do
    let r ← Act.ofExcept request
    serve e kind r sink
  let (outcome, t) := act.settled (s.mapWorld fun w => w.beginRun event clock)
  (.ran outcome t.world.handed.reverse (t.world.traceSince s.world) t.world.wish t.gate.running t.world.inner,
    t.mapWorld fun w => w.endRun s.world)

def listen (e : Engine World) (service : Engine.Service) (request : Except Fault Request)
    (listener : Listener) (clock : List Float) (s : Stage) : Answer × Stage :=
  let (outcome, t) : Except Fault (List Event) × Stage :=
    match request with
    | .error f => (.error f, s.mapWorld fun w => w.beginRun none clock)
    | .ok r =>
      let (events, t) :=
        e.stream service stamp listener r (s.mapWorld fun w => w.beginRun none clock)
      (.ok events, t)
  let record := if listener = .stays then some (t.world.traceSince s.world, t.world.wish) else none
  (.streamed outcome record t.gate.running, t.mapWorld fun w => w.endRun s.world)

mutual

def Step.perform (e : Engine World) : Step → Stage → Answer × Stage
  | .generate kind request none _ event clock, s => generate e kind request none event clock s
  | .generate kind request (some plan) inner event clock, s =>
    let sink : Sink World := fun text last s =>
      let s := s.mapWorld fun w => w.hand text last
      let call := s.world.handed.length
      let (answers, s) := inner.perform e call s
      let s := s.mapWorld fun w => { w with inner := w.inner ++ answers }
      match plan.answer call last with
      | .ok goOn => .ok goOn s
      | .error f => .error f s
    generate e kind request (some sink) event clock s
  | .listen service request listener clock, s => listen e service request listener clock s
  | .change f, s => (.done, s.mapWorld fun w => { w with script := f w.script })
  | .cancel, s => answerOf Engine.cancel (fun _ => .done) s
  | .setEvent, s => (.done, s.mapWorld World.setEvent)
  | .isGenerating, s => answerOf Engine.isGenerating .flag s
  | .tokenize content false, s => answerOf (e.tokenize content) .tokens s
  | .tokenize content true, s => answerOf (e.tokenizeInPieces content) .pieces s
  | .detokenize tokens, s => answerOf (e.detokenize tokens) .text s
  | .info, s => (.info (e.backend.info s.world) e.config, s)
  | .shutdown, s => answerOf e.shutdown (fun _ => .unloaded) s

def Plan.perform (e : Engine World) : Plan → Nat → Stage → List Answer × Stage
  | .done, _, s => ([], s)
  | .step call step rest, n, s =>
    if call = n then
      let (answer, s) := step.perform e s
      let (answers, s) := rest.perform e n s
      (answer :: answers, s)
    else rest.perform e n s

end

def Step.performAll (e : Engine World) : List Step → Stage → List Answer × Stage
  | [], s => ([], s)
  | step :: rest, s =>
    let (answer, s) := step.perform e s
    let (answers, s) := Step.performAll e rest s
    (answer :: answers, s)

def session (e : Engine World) (steps : List Step) (s : Stage) : List Answer × Stage :=
  Step.performAll e steps (s.mapWorld fun w => { w with engaged := true })

end Completions.Rehearsal
