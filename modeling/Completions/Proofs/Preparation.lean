import Completions.Proofs.ServiceOutcome

/-! A run of a service in two parts: a prompt is prepared, and then there is a run on it, or the word
of the end and no run. Main statements: `serve_eq`, and `serveJournal_course` for its journal. -/

namespace Completions.Engine

variable {σ : Type}

open Act

/-- What a service does before its run. Messages become the prompt of the run; without them the run
has that of its request. -/
def prepare (e : Engine σ) (r : Request) : Service → Act σ (Option Prompt)
  | .text =>
    if r.isChat = true ∧ r.prompt.isNone = true then
      Act.ofExcept ((e.transcript r).map fun p => some (.text p))
    else pure none
  | .chat => do
    let p ← e.chatPrompt r
    pure (some (.text p))

def conclude (e : Engine σ) (stamp : Stamp) (r : Request) : Service → Result → Result
  | .text, result => result
  | .chat, result => e.answer stamp r result

theorem conclude_failed (e : Engine σ) (stamp : Stamp) (r : Request) (service : Service)
    (f : Fault) : e.conclude stamp r service (.failed f) = .failed f := by
  cases service <;> rfl

variable {sink : Option (Sink σ)} {s t : Station σ}

theorem reject_told {f : Fault} (told : Controller.finishSink sink "" s = .ok () t) :
    reject sink f s = .ok (.failed f) t := bind_ok told

theorem reject_untold {f g : Fault} (untold : Controller.finishSink sink "" s = .error g t) :
    reject sink f s = .error g t := bind_error untold

theorem serve_eq (e : Engine σ) (service : Service) (stamp : Stamp) (r : Request)
    (sink : Option (Sink σ)) (watch : σ → Bool) (s : Station σ) :
    e.serve service stamp r sink watch s =
      match e.prepare (e.withDefaults r) service s with
      | .error f t => reject sink f t
      | .ok override t =>
        let run := e.controller.run (e.withDefaults r) sink override watch t
        .ok (e.conclude stamp (e.withDefaults r) service run.1) run.2 := by
  cases service with
  | text =>
    simp only [prepare, serve, complete]
    by_cases chat : (e.withDefaults r).isChat = true ∧ (e.withDefaults r).prompt.isNone = true
    · rw [if_pos chat, if_pos chat]
      cases e.transcript (e.withDefaults r) <;> rfl
    · rw [if_neg chat, if_neg chat]
      rfl
  | chat =>
    simp only [prepare, serve, chat]
    cases laid : e.chatPrompt (e.withDefaults r) s with
    | error f t => rw [bind_error laid]
    | ok p t =>
      rw [bind_ok laid]
      rfl

section Parts

variable {e : Engine σ} {service : Service} {r : Request}

theorem serve_prepared {override : Option Prompt}
    (prepared : e.prepare (e.withDefaults r) service s = .ok override t) (stamp : Stamp)
    (sink : Option (Sink σ)) (watch : σ → Bool) : e.serve service stamp r sink watch s =
      .ok (e.conclude stamp (e.withDefaults r) service
        (e.controller.run (e.withDefaults r) sink override watch t).1)
        (e.controller.run (e.withDefaults r) sink override watch t).2 := by
  rw [serve_eq, prepared]

theorem serve_unprepared {f : Fault}
    (unprepared : e.prepare (e.withDefaults r) service s = .error f t) (stamp : Stamp)
    (sink : Option (Sink σ)) (watch : σ → Bool) :
    e.serve service stamp r sink watch s = reject sink f t := by
  rw [serve_eq, unprepared]

end Parts

inductive Prepares (e : Engine σ) (r : Request) : Service → List Deed → Prop
  | text : Prepares e r .text []
  | refused (h : checkChat r ≠ .ok ()) : Prepares e r .chat []
  | laid (h : checkChat r = .ok ()) {deeds : List Deed} (laid : Laid e r deeds) :
    Prepares e r .chat deeds

theorem Prepares.laidOut {e : Engine σ} {r : Request} {service : Service} {deeds : List Deed}
    (h : Prepares e r service deeds) : LaidOut deeds := by
  cases h with
  | text | refused => exact laidOut_nil
  | laid _ laid => exact laid.laidOut

theorem prepare_does (e : Engine σ) (r : Request) (service : Service) :
    (e.recorded.prepare r service).Does fun ds _ => Prepares e r service ds := by
  cases service with
  | text =>
    refine (does_ite (fun _ => does_ofExcept _) fun _ => does_pure none).mono ?_
    rintro ds out (⟨-, rfl, -⟩ | ⟨-, rfl, -⟩)
    · exact .text
    · exact .text
  | chat =>
    refine ((chatPrompt_does e r).map fun p => some (Prompt.text p)).mono ?_
    rintro ds out ⟨_, ⟨ok, laid⟩ | ⟨failed, rfl⟩, -⟩
    · exact .laid ok laid
    · exact .refused failed

inductive Continues (e : Engine σ) (r : Request) (sink : Option (Sink σ)) (watch : σ → Bool) :
    EStateM.Result Fault (Station (σ × Journal σ)) (Option Prompt) → Journal σ → Prop
  | rejected (f : Fault) (t : Station (σ × Journal σ)) {ms : Journal σ}
    {outcome : Except Fault Unit} (told : Controller.Told sink "" (ms.map Note.deed) outcome) :
    Continues e r sink watch (.error f t) ms
  | ran (override : Option Prompt) (t : Station (σ × Journal σ)) {ms : Journal σ} {result : Result}
    (ran : Controller.Ran e.controller r override sink watch t ms result) :
    Continues e r sink watch (.ok override t) ms

/-- The journal of a service is that of its preparation, and then that of its run or of the word of
the end. -/
theorem serveJournal_course (e : Engine σ) (service : Service) (stamp : Stamp) (r : Request)
    (sink : Option (Sink σ)) (watch : σ → Bool) (s : Station σ) :
    ∃ ns ms, e.serveJournal service stamp r sink watch s = ns ++ ms ∧
      Prepares e (e.withDefaults r) service (ns.map Note.deed) ∧
      Continues e (e.withDefaults r) sink watch
        (e.recorded.prepare (e.withDefaults r) service s.withJournal) ms := by
  obtain ⟨ns, grows, prepares⟩ := prepare_does e (e.withDefaults r) service s.withJournal
  cases prepared : e.recorded.prepare (e.withDefaults r) service s.withJournal with
  | error f t =>
    obtain ⟨ms, grows', outcome, told, -⟩ := reject_does sink f t
    rw [settled, prepared] at grows
    refine ⟨ns, ms, ?_, prepares, .rejected f t told⟩
    rw [serveJournal, settled, serve_unprepared prepared]
    exact (grows.trans grows').journal
  | ok override t =>
    obtain ⟨ms, journal, ran⟩ :=
      Controller.run_course e.controller (e.withDefaults r) override sink watch t
    rw [settled, prepared] at grows
    refine ⟨ns, ms, ?_, prepares, .ran override t ran⟩
    rw [serveJournal, settled, serve_prepared prepared]
    exact journal.trans (congrArg (· ++ ms) grows.journal)

end Completions.Engine
