import Completions.Engine.Complete

/-!
A run as a stream of events for a listener: pieces of the text as they are written, calls of tools,
and the end. When tools are offered the whole text has to be searched for calls first, so it is sent
in one piece. A listener may leave; then the run ends before its next token and no more is sent.
-/

namespace Completions

inductive Event where
  | delta (text : String)
  | toolCalls (calls : List Tool.Call)
  | final (finish : FinishReason) (usage : Usage) (c : Completion)
  | error (kind : ErrorKind) (message : String)

inductive Listener where
  | stays
  | takes (n : Nat)
  /-- Until the first token is sampled. -/
  | gone
  deriving DecidableEq, Repr

structure Outbox where
  /-- The last event is first. -/
  sent : List Event := []
  closed : Bool := false

namespace Outbox

def emit (l : Listener) (e : Event) (box : Outbox) : Outbox :=
  if box.closed then box
  else
    let sent := e :: box.sent
    ⟨sent, match l with
      | .takes n => n == sent.length
      | _ => false⟩

def events (box : Outbox) : List Event := box.sent.reverse

def emitAll (l : Listener) (es : List Event) (box : Outbox) : Outbox :=
  es.foldl (fun box e => box.emit l e) box

end Outbox

namespace Engine

variable {σ : Type}

/-- The text is inspected as a whole before any of it is sent. -/
def isBuffered (r : Request) : Bool := !r.offeredTools.isEmpty

/-- Fragments become events; the run goes on while the listener listens. -/
def emitting (l : Listener) : Sink (σ × Outbox) := fun text last s =>
  let box := if !last && text != "" then s.world.2.emit l (.delta text) else s.world.2
  .ok (!box.closed) { s with world := (s.world.1, box) }

def closing (buffered : Bool) : Result → List Event
  | .failed f => [.error f.kind.errorKind f.report]
  | .completed c =>
    (if c.toolCalls ≠ [] then [.toolCalls c.toolCalls]
      else if buffered = true ∧ c.content ≠ "" then [.delta c.content]
      else []) ++ [.final c.finish c.usage c]

/-- The engine with an outbox; a listener who is gone closes it when the first token is sampled. -/
def forListener (e : Engine σ) (l : Listener) : Engine (σ × Outbox) :=
  let e' := e.beside Outbox
  match l with
  | .gone =>
    let sample params grammar schema : Call (σ × Outbox) Int := fun w =>
      let r := e'.backend.sample params grammar schema w
      { r with world := (r.world.1, { r.world.2 with closed := true }) }
    { e' with controller := { e'.controller with backend := { e'.backend with sample } } }
  | _ => e'

inductive Service where
  | text
  | chat
  deriving DecidableEq, Repr

def eventsOf (e : Engine σ) (service : Service) (stamp : Stamp) (l : Listener) (r : Request)
    (s : Station σ) : List Event × Station σ :=
  let e' := e.forListener l
  let r := { r with stream := !isBuffered r }
  let sink := some (emitting l)
  let watch : σ × Outbox → Bool := fun w => w.2.closed
  let run := match service with
    | .text => e'.complete r sink watch
    | .chat => e'.chat stamp r sink watch
  match run ⟨s.gate, (s.world, {})⟩ with
  | .ok result s =>
    ((s.world.2.emitAll l (closing (isBuffered r) result)).events, ⟨s.gate, s.world.1⟩)
  | .error f s =>
    ((s.world.2.emit l (.error .general ("Generation failed: " ++ f.message))).events,
      ⟨s.gate, s.world.1⟩)

/-- The events a listener hears; nothing is run for one who does not listen at all. -/
def stream (e : Engine σ) (service : Service) (stamp : Stamp) (l : Listener) (r : Request)
    (s : Station σ) : List Event × Station σ :=
  if l = .takes 0 then ([], s) else e.eventsOf service stamp l r s

end Engine

end Completions
