import Completions.Engine.Event
import Completions.Rehearsal.Script

/-!
The world of a rehearsal: the script and how far it has been played, the trace, the clock, the caller
of the run that is going on, and what that run has handed to its sink.
-/

namespace Completions.Rehearsal

/-- What a step of a session comes to. A step that runs the model also tells what was handed over,
what the backend was asked for, whether a run was going on afterwards, and what the steps within it
came to. -/
inductive Answer where
  | done
  | flag (b : Bool)
  | tokens (ts : List Int)
  | pieces (ps : List (Int × String))
  | text (s : String)
  | info (info : Fields) (config : Config)
  | unloaded
  | refused (fault : Fault)
  | ran (outcome : Except Fault Result) (handed : List (String × Bool)) (trace : List Entry)
      (wish : Option Wish) (running : Bool) (inner : List Answer)
  | streamed (outcome : Except Fault (List Event)) (record : Option (List Entry × Option Wish))
      (running : Bool)

structure World where
  script : Script := {}
  taken : Nat := 0
  decodes : Nat := 0
  /-- The last entry is first. -/
  trace : List Entry := []
  wish : Option Wish := none
  clock : List Float := []
  /-- Whether the caller of the run has left, if the caller can. -/
  event : Option Bool := none
  handed : List (String × Bool) := []
  inner : List Answer := []
  unloaded : Bool := false
  /-- Whether the hooks of the script reach the engine, as they do in a session. -/
  engaged : Bool := false

namespace World

def note (w : World) (e : Entry) : World := { w with trace := e :: w.trace }

def setEvent (w : World) : World := { w with event := w.event.map fun _ => true }

def watch (w : World) : Bool := w.event.getD false

def now (w : World) : Float × World :=
  match w.clock with
  | [] => (0.0, w)
  | [t] => (t, w)
  | t :: rest => (t, { w with clock := rest })

def attempt (w : World) (m : Method) (value : α) : Reply World α :=
  match w.script.fault? m with
  | some f => ⟨.error f, w, false⟩
  | none => ⟨.ok value, w, false⟩

def clear (w : World) : Reply World Unit :=
  let r := (w.note .cleared).attempt .clear ()
  match r.outcome with
  | .ok () => { r with world := { r.world with taken := 0 } }
  | .error _ => r

def tokenize (text : String) (w : World) : Reply World (List Int) :=
  (w.note (.tokenized text)).attempt .tokenize (Script.tokens text)

def decode (tokens : List Int) (position : Nat) (w : World) : Reply World Bool :=
  let w := { w.note (.decoded tokens position) with decodes := w.decodes + 1 }
  w.attempt .decode (!w.script.failing.contains w.decodes)

def hooked (w : World) : List Hook :=
  (w.script.hooks.filter fun h => h.1 == w.taken).map Prod.snd

def sample (params : Sampling) (grammar : Option String) (schema : Option Fields) (w : World) :
    Reply World Int :=
  let w := { w with wish := some ⟨params, grammar, schema⟩ }
  match w.script.fault? .sample with
  | some f => ⟨.error f, w, false⟩
  | none =>
    let place := w.taken
    let w := { w with taken := place + 1 }
    let hooks := w.hooked
    let w := if Hook.setEvent ∈ hooks then w.setEvent else w
    let cancels := w.engaged && decide (Hook.cancel ∈ hooks)
    match w.script.tokenAt place with
    | .ok token => ⟨.ok token, w.note (.sampled token), cancels⟩
    | .error f => ⟨.error f, w, cancels⟩

def piece (token : Int) (w : World) : Reply World String :=
  match w.script.fault? .piece with
  | some f => ⟨.error f, w, false⟩
  | none => ⟨w.script.pieceOf token, w, false⟩

def layout (call : TemplateCall) (w : World) : Reply World (Option String) :=
  match w.script.template with
  | .absent => ⟨.ok none, w, false⟩
  | .declining => (w.note (.templated call)).attempt .layout none
  | .native => (w.note (.templated call)).attempt .layout (some (Script.layout call.messages))

end World

def backend : Backend World where
  ready w := w.script.ready
  endToken w := w.script.endToken
  info w := w.script.info
  now := World.now
  contextSize w := w.attempt .contextSize w.script.contextSize
  clear := World.clear
  tokenize := World.tokenize
  decode := World.decode
  sample := World.sample
  piece := World.piece
  layout := World.layout
  unload w := { w.note .unloaded with unloaded := true }

end Completions.Rehearsal
