import Completions.Proofs.Preparation

/-! What becomes of a failure. A run carries it in its result, whatever fails, and a service leaves
only one to its caller: that of a sink which is told of the end of a request that never got as far as
a run. Main statement: `failures_carried`. -/

namespace Completions

variable {σ : Type}

structure Account where
  success : Bool
  content : String
  tokens : List Int
  error : Option (ErrorKind × String)

namespace Account

/-- A failure has no text and no tokens, and it has a message. -/
structure Sound (a : Account) : Prop where
  empty : a.success = false → a.content = "" ∧ a.tokens = []
  explained : a.success = false → ∃ kind message, a.error = some (kind, message) ∧ message ≠ ""
  spotless : a.success = true → a.error = none

end Account

def Result.account : Result → Account
  | .failed f => ⟨false, "", [], some (f.kind.errorKind, f.report)⟩
  | .completed c => ⟨true, c.content, c.tokens, none⟩

theorem FaultKind.label_ne_empty (k : FaultKind) : k.label ≠ "" := by
  cases k with
  | other l =>
    by_cases empty : l = ""
    · simp [label, empty]
    · simp [label, empty]
  | _ => simp [label]

theorem Fault.report_ne_empty (f : Fault) : f.report ≠ "" := by
  by_cases empty : f.message = ""
  · rw [report, if_pos empty]
    exact f.kind.label_ne_empty
  · rw [report, if_neg empty]
    exact empty

theorem Result.account_sound (result : Result) : result.account.Sound := by
  cases result with
  | failed f =>
    have message := f.report_ne_empty
    exact ⟨fun _ => ⟨rfl, rfl⟩, fun _ => ⟨_, _, rfl, message⟩, fun success => by cases success⟩
  | completed c =>
    refine ⟨fun failure => ?_, fun failure => ?_, fun _ => rfl⟩
    · cases failure
    · cases failure

namespace Engine

/-- The request does not get as far as a run, and the sink fails when it is told so. -/
def Escapes (e : Engine σ) (service : Service) (r : Request) (sink : Option (Sink σ))
    (s : Station σ) (g : Fault) (t : Station σ) : Prop :=
  ∃ f u, e.prepare (e.withDefaults r) service s = .error f u ∧
    Controller.finishSink sink "" u = .error g t

variable {e : Engine σ} {service : Service} {r : Request} {sink : Option (Sink σ)} {s t : Station σ}

theorem Escapes.serve_eq {g : Fault} (escapes : e.Escapes service r sink s g t) (stamp : Stamp)
    (watch : σ → Bool) : e.serve service stamp r sink watch s = .error g t := by
  obtain ⟨f, u, unprepared, untold⟩ := escapes
  rw [serve_unprepared unprepared]
  exact reject_untold untold

theorem escapes_or_served (e : Engine σ) (service : Service) (stamp : Stamp) (r : Request)
    (sink : Option (Sink σ)) (watch : σ → Bool) (s : Station σ) :
    (∃ g t, e.Escapes service r sink s g t) ∨
      ∃ result t, e.serve service stamp r sink watch s = .ok result t := by
  cases prepared : e.prepare (e.withDefaults r) service s with
  | ok override u => exact .inr ⟨_, _, serve_prepared prepared stamp sink watch⟩
  | error f u =>
    cases told : Controller.finishSink sink "" u with
    | ok _ t =>
      have served := serve_unprepared prepared stamp sink watch
      exact .inr ⟨_, t, served.trans (reject_told told)⟩
    | error g t => exact .inl ⟨g, t, f, u, prepared, told⟩

/-- Whatever the backend and the sink do, a run comes to a result. So does a service, unless it has
to tell a sink of the end before there was a run, and the sink fails. -/
theorem failures_carried (e : Engine σ) (service : Service) (stamp : Stamp) (r : Request)
    (sink : Option (Sink σ)) (override : Option Prompt) (watch : σ → Bool) (s : Station σ) :
    (∃ result t, e.run r sink override watch s = .ok result t ∧ result.account.Sound) ∧
      (∀ g t, e.serve service stamp r sink watch s = .error g t ↔
        e.Escapes service r sink s g t) ∧
      ((∃ g t, e.Escapes service r sink s g t) ∨
        ∃ result t, e.serve service stamp r sink watch s = .ok result t ∧ result.account.Sound) := by
  have served := escapes_or_served e service stamp r sink watch s
  refine ⟨⟨_, _, rfl, Result.account_sound _⟩, fun g t => ⟨fun failed => ?_, ?_⟩, ?_⟩
  · rcases served with ⟨g', t', escapes⟩ | ⟨result, u, ok⟩
    · have same := (escapes.serve_eq stamp watch).symm.trans failed
      obtain ⟨rfl, rfl⟩ := EStateM.Result.error.inj same
      exact escapes
    · cases ok.symm.trans failed
  · exact fun escapes => escapes.serve_eq stamp watch
  · exact served.imp_right fun ⟨result, u, ok⟩ => ⟨result, u, ok, result.account_sound⟩

end Engine

def rehearsedEngine : Engine Rehearsal.World where
  controller := rehearsed
  config := {}

/-- A request without messages is refused by the chat service, and the sink that is told so fails. -/
theorem chat_escapes : rehearsedEngine.chat ⟨0, 0, ""⟩ { prompt := some (.text "x") }
    (some fun _ _ => Act.refuse ⟨.runtime, "boom"⟩) (fun _ => false) rehearsedStation =
      .error ⟨.runtime, "boom"⟩ rehearsedStation := rfl

end Completions
