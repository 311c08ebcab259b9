import Completions.Fault

/-!
Where runs take place. A station has a gate that lets in one run at a time, and a world: the state of
the backend and of whatever else the callers of the service keep. Backends see the world alone and
may ask that the run be cancelled; sinks are given the whole station, so that they may ask for
further runs.
-/

namespace Completions

structure Gate where
  running : Bool := false
  cancelled : Bool := false
  deriving DecidableEq, Repr

namespace Gate

def idle : Gate := {}

def entered : Gate := { running := true }

/-- Ask the run to end; without a run nothing is asked. -/
def cancel (g : Gate) : Gate := { g with cancelled := g.cancelled || g.running }

end Gate

structure Station (σ : Type) where
  gate : Gate := Gate.idle
  world : σ

structure Reply (σ α : Type) where
  outcome : Except Fault α
  world : σ
  /-- The call asks for the end of the run. -/
  cancels : Bool := false

abbrev Call (σ α : Type) := σ → Reply σ α

/-- What may fail and may change the station. -/
abbrev Act (σ α : Type) := EStateM Fault (Station σ) α

namespace Station

def cancel (s : Station σ) : Station σ := { s with gate := s.gate.cancel }

def enter (s : Station σ) : Station σ := { s with gate := Gate.entered }

def mapWorld (f : σ → σ) (s : Station σ) : Station σ := { s with world := f s.world }

def leave (s : Station σ) : Station σ := { s with gate := Gate.idle }

end Station

namespace Act

def ask (call : Call σ α) : Act σ α := fun s =>
  let r := call s.world
  let s' : Station σ := ⟨if r.cancels then s.gate.cancel else s.gate, r.world⟩
  match r.outcome with
  | .ok a => .ok a s'
  | .error f => .error f s'

def look (f : σ → α) : Act σ α := fun s => .ok (f s.world) s

def turn (f : σ → α × σ) : Act σ α := fun s => .ok (f s.world).1 { s with world := (f s.world).2 }

def refuse (f : Fault) : Act σ α := fun s => .error f s

def ofExcept : Except Fault α → Act σ α
  | .ok a => pure a
  | .error f => refuse f

/-- A failure becomes a value. -/
def settled (act : Act σ α) (s : Station σ) : Except Fault α × Station σ :=
  match act s with
  | .ok a s' => (.ok a, s')
  | .error f s' => (.error f, s')

end Act

end Completions
