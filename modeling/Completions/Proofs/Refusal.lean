import Completions.Proofs.CarriedFailure
import Completions.Proofs.GateDiscipline
import Completions.Proofs.ModelNotReady
import Completions.Proofs.Overflow

/-! Requests that do not meet the conditions of what is asked of the engine. They are refused before
anything is done for them: the backend is not asked, no run begins, and the sink is told of the end
and of nothing else. Main statement: `invalid_refused`. -/

namespace Completions

namespace Request

def Usable : Json → Prop
  | .int n => 0 ≤ n
  | .float x => x.isNaN = false ∧ ¬x < 0
  | _ => False

/-- What every request has to meet. -/
structure Valid (r : Request) : Prop where
  oneSource : r.prompt.isSome = !r.messages.isSome
  someMessages : r.messages ≠ some []
  items : ∀ xs, r.prompt = some (.items xs) → ∀ x ∈ xs, (∃ n, x = .int n) ∨ ∃ t, x = .str t
  numbers : ∀ p ∈ r.sampling.numbers, Usable p.2
  seed : ∃ n, r.sampling.seed = .int n
  budget : ∃ n, r.maxNewTokens = .int n ∧ (n = -1 ∨ 0 < n)
  choice : ∃ c ∈ ["auto", "none", "required"], r.toolChoice = .str c

/-- What a conversation has to meet besides. -/
structure ChatValid (r : Request) : Prop extends Valid r where
  messages : r.messages ≠ none
  oneGrammar : r.grammar = none ∨ r.jsonSchema = none
  wholeCalls : r.offeredTools = [] ∨ r.stream = false
  required : r.toolChoice = .str "required" → r.tools ≠ []

def Meets (r : Request) : Engine.Service → Prop
  | .text => r.Valid
  | .chat => r.ChatValid

def Within (r : Request) : Prop := ∀ p ∈ r.sampling.numbers, ¬Beyond p.2

section Checks

variable {r : Request}

theorem isPromptItem_iff {x : Json} :
    isPromptItem x = true ↔ (∃ n, x = .int n) ∨ ∃ t, x = .str t := by
  cases x <;> simp [isPromptItem]

theorem checkSource_eq_ok_iff : r.checkSource = .ok () ↔ r.prompt.isSome = !r.messages.isSome ∧
    r.messages ≠ some [] ∧
    ∀ xs, r.prompt = some (.items xs) → ∀ x ∈ xs, (∃ n, x = .int n) ∨ ∃ t, x = .str t := by
  unfold checkSource
  cases prompt : r.prompt with
  | none =>
    rcases messages : r.messages with _ | _ | ⟨m, ms⟩ <;> simp
  | some p =>
    cases messages : r.messages with
    | some ms => simp
    | none =>
      cases p with
      | text t => simp [checkPrompt]
      | items xs => simp [checkPrompt, ← isPromptItem_iff]

theorem checkNumber_eq_ok_iff {name : String} {v : Json} (within : ¬Beyond v) :
    checkNumber name v = .ok () ↔ Usable v := by
  cases v with
  | int n =>
    have small : Number.tooLarge n = false := by
      by_contra large
      exact within ⟨n, rfl, Bool.not_eq_false _ ▸ large⟩
    simp [checkNumber, Usable, small]
  | float x => simp [checkNumber, Usable]
  | _ => simp [checkNumber, Usable]

theorem checkSampling_walk {s : Sampling} : checkSampling s = .ok () ↔
    (∀ p ∈ s.numbers, checkNumber p.1 p.2 = .ok ()) ∧ ∃ n, s.seed = .int n := by
  cases seed : s.seed <;>
    simp [checkSampling, Sampling.numbers, seed, check_bind_eq_ok_iff, pure, Except.pure]

theorem checkSampling_eq_ok_iff {s : Sampling} (within : ∀ p ∈ s.numbers, ¬Beyond p.2) :
    checkSampling s = .ok () ↔ (∀ p ∈ s.numbers, Usable p.2) ∧ ∃ n, s.seed = .int n := by
  rw [checkSampling_walk]
  refine and_congr_left fun _ => forall₂_congr fun p listed => ?_
  exact checkNumber_eq_ok_iff (within p listed)

theorem within_of_checked (passes : checkSampling r.sampling = .ok ()) : r.Within := by
  intro p listed beyond
  have passed := (checkSampling_walk.1 passes).1 p listed
  rw [checkNumber_overflows.2 beyond] at passed
  cases passed

theorem checkBudget_eq_ok_iff {v : Json} :
    checkBudget v = .ok () ↔ ∃ n, v = .int n ∧ (n = -1 ∨ 0 < n) := by
  cases v with
  | int n =>
    by_cases unbounded : n = -1
    · simp [checkBudget, unbounded]
    · by_cases positive : 0 < n
      · simp [checkBudget, unbounded, positive]
      · simp [checkBudget, unbounded, positive, Int.not_lt.1 positive]
  | _ => simp [checkBudget]

theorem checkToolChoice_eq_ok_iff {v : Json} :
    checkToolChoice v = .ok () ↔ ∃ c ∈ ["auto", "none", "required"], v = .str c := by
  cases v <;> simp [checkToolChoice, toolChoices, Json.isStr, or_iff_not_imp_left]

/-- The checks let pass exactly the requests that meet the conditions. -/
theorem validate_iff_valid (within : r.Within) : r.validate = .ok () ↔ r.Valid := by
  rw [validate_eq_ok_iff, checkSource_eq_ok_iff, checkSampling_eq_ok_iff within,
    checkBudget_eq_ok_iff, checkToolChoice_eq_ok_iff]
  constructor
  · rintro ⟨⟨one, some, items⟩, ⟨numbers, seed⟩, budget, choice⟩
    exact ⟨one, some, items, numbers, seed, budget, choice⟩
  · rintro ⟨one, some, items, numbers, seed, budget, choice⟩
    exact ⟨⟨one, some, items⟩, ⟨numbers, seed⟩, budget, choice⟩

theorem Within.breach (within : r.Within) {b : Breach} (breach : r.validate = .error b) :
    b.fault.kind = .invalidParam := by
  by_contra other
  obtain rfl := Breach.fault_kind.1 other
  obtain ⟨-, before, p, after, numbers, -, beyond⟩ := validate_overflows.1 breach
  refine within p ?_ beyond
  rw [numbers]
  exact List.mem_append_right before (List.mem_cons_self ..)

theorem exists_breach (within : r.Within) (invalid : ¬r.Valid) :
    ∃ b, r.validate = .error b ∧ b.fault.kind = .invalidParam := by
  cases checked : r.validate with
  | ok u => exact absurd ((validate_iff_valid within).1 checked) invalid
  | error b => exact ⟨b, rfl, within.breach checked⟩

end Checks

end Request

namespace Engine

open Request

variable {r : Request}

/-- One check: it fails with `f` where the condition is breached. -/
def against (breached : Bool) (f : Fault) : Except Fault Unit :=
  if breached then .error f else .ok ()

theorem against_eq_ok_iff {breached : Bool} {f : Fault} :
    against breached f = .ok () ↔ breached = false := by
  cases breached <;> simp [against]

theorem against_eq_error_iff {breached : Bool} {f g : Fault} :
    against breached f = .error g ↔ breached = true ∧ f = g := by
  cases breached <;> simp [against]

theorem checkChat_eq (r : Request) : checkChat r = (do
    against r.messages.isNone Cause.messagesRequired.fault
    r.validate.mapError Request.Breach.fault
    against (r.grammar.isSome && r.jsonSchema.isSome) Cause.grammarAndSchema.fault
    against (!r.offeredTools.isEmpty && r.stream) Cause.streamWithTools.fault
    against (r.toolChoice.isStr "required" && r.tools.isEmpty) Cause.noTools.fault) := by
  unfold checkChat
  cases r.messages.isNone with
  | true => rfl
  | false =>
    cases r.validate with
    | error b => rfl
    | ok u =>
      cases r.grammar.isSome && r.jsonSchema.isSome with
      | true => rfl
      | false => cases !r.offeredTools.isEmpty && r.stream <;> rfl

theorem checkChat_iff_valid (within : r.Within) : checkChat r = .ok () ↔ r.ChatValid := by
  have validated : r.validate.mapError Request.Breach.fault = .ok () ↔ r.Valid := by
    rw [← validate_iff_valid within]
    cases r.validate <;> simp [Except.mapError]
  have messages : r.messages.isNone = false ↔ r.messages ≠ none := by
    cases r.messages <;> simp
  have grammar : (r.grammar.isSome && r.jsonSchema.isSome) = false ↔
      r.grammar = none ∨ r.jsonSchema = none := by
    cases r.grammar <;> simp
  have calls : (!r.offeredTools.isEmpty && r.stream) = false ↔
      r.offeredTools = [] ∨ r.stream = false := by
    cases r.stream <;> simp
  have required : (r.toolChoice.isStr "required" && r.tools.isEmpty) = false ↔
      (r.toolChoice = .str "required" → r.tools ≠ []) := by
    cases r.toolChoice <;> simp [Json.isStr]
  simp only [checkChat_eq, check_bind_eq_ok_iff, against_eq_ok_iff, validated, messages, grammar,
    calls, required]
  constructor
  · rintro ⟨messages, valid, grammar, calls, required⟩
    exact ⟨valid, messages, grammar, calls, required⟩
  · rintro ⟨valid, messages, grammar, calls, required⟩
    exact ⟨messages, valid, grammar, calls, required⟩

theorem checkChat_kind (within : r.Within) {f : Fault} (refused : checkChat r = .error f) :
    f.kind = .invalidParam := by
  simp only [checkChat_eq, bind_eq_error_iff, against_eq_error_iff] at refused
  rcases refused with ⟨-, rfl⟩ | ⟨-, -, breach | ⟨-, -, h⟩⟩
  · rfl
  · cases checked : r.validate with
    | error b =>
      rw [checked] at breach
      obtain rfl := Except.error.inj breach
      exact within.breach checked
    | ok u =>
      rw [checked] at breach
      cases breach
  · rcases h with ⟨-, rfl⟩ | ⟨-, -, ⟨-, rfl⟩ | ⟨-, -, -, rfl⟩⟩
    · rfl
    · rfl
    · rfl

end Engine

open Act

variable {σ : Type}

/-- What a sink hears of a run that does not begin: the end, with no text. It is told at the station
`s` as the caller left it, and leaves the station `t`; without a sink nothing happens at all. -/
inductive LastWord (sink : Option (Sink σ)) (s : Station σ) : List Deed → Station σ → Prop
  | nobody (none : sink = none) : LastWord sink s [] s
  | heard {k : Sink σ} (only : sink = some k) {answer : Bool} {t : Station σ}
    (said : k "" true s = .ok answer t) : LastWord sink s [.tell "" true (.ok answer)] t

/-- A request refused with a failure, and what has been done for it. -/
structure Refused (sink : Option (Sink σ)) (s : Station σ) (f : Fault) (notes : Journal σ)
    (result : Result) (t : Station σ) : Prop where
  result : result = .failed f
  word : LastWord sink s (notes.map Note.deed) t
  still : Sink.Tidy sink → s.gate = .idle → t.gate = .idle

section Telling

variable {sink : Option (Sink σ)} {s t : Station σ}

structure Notified (sink : Option (Sink σ)) (s : Station σ) (notes : Journal σ) (t : Station σ) :
    Prop where
  plain : Controller.finishSink sink "" s = .ok () t
  recorded : Controller.finishSink (sink.map Sink.recorded) "" s.withJournal =
    .ok () ⟨t.gate, (t.world, notes)⟩
  word : LastWord sink s (notes.map Note.deed) t

theorem exists_notified (hears : ∀ k ∈ sink, ∃ answer t, k "" true s = .ok answer t) :
    ∃ notes t, Notified sink s notes t := by
  cases sink with
  | none => exact ⟨[], s, rfl, rfl, .nobody rfl⟩
  | some k =>
    obtain ⟨answer, t, said⟩ := hears k rfl
    have recorded : k.recorded "" true s.withJournal =
        .ok answer ⟨t.gate, (t.world, [⟨.tell "" true (.ok answer), t.world, t.gate.cancelled⟩])⟩ := by
      simp only [Sink.recorded, Station.withJournal, said]
      rfl
    exact ⟨_, t, bind_ok said, bind_ok recorded, .heard rfl said⟩

theorem Notified.still {notes : Journal σ} (heard : Notified sink s notes t) (tidy : Sink.Tidy sink)
    (idle : s.gate = .idle) : t.gate = .idle := by
  have kept := Controller.tidy_finishSink tidy "" s (idle ▸ Gate.sound_idle)
  rw [settled_ok heard.plain, idle] at kept
  exact kept.of_idle

end Telling

section Runs

variable {r : Request} {sink : Option (Sink σ)} {s t : Station σ} {notes : Journal σ} {f : Fault}

namespace Controller

theorem exists_refusal (within : r.Within) (invalid : ¬r.Valid) (override : Option Prompt) :
    ∃ f : Fault, f.kind = .invalidParam ∧
      ∀ (τ : Type) (c : Controller τ) (s : Station τ), c.receive r override s = .error f := by
  obtain ⟨b, checked, mistake⟩ := Request.exists_breach within invalid
  cases given : override.or r.prompt with
  | none =>
    refine ⟨Cause.noPrompt.fault, rfl, fun τ c s => ?_⟩
    rw [receive, given]
  | some prompt =>
    refine ⟨b.fault, mistake, fun τ c s => ?_⟩
    rw [receive, given, checked]
    rfl

theorem run_unreceived {c : Controller σ} {override : Option Prompt}
    (unreceived : c.receive r override s = .error f)
    (told : finishSink sink "" s = .ok () t) (watch : σ → Bool) :
    c.run r sink override watch s = (.failed f, t) := by
  rw [run, unreceived]
  dsimp only
  rw [failed, settled_ok told]

end Controller

namespace Engine

theorem exists_refusal {given : Request} {service : Service} (within : given.Within)
    (violates : ¬given.Meets service) : ∃ f : Fault, f.kind = .invalidParam ∧
      ∀ (τ : Type) (e : Engine τ) (stamp : Stamp) (r : Request) (sink : Option (Sink τ))
        (watch : τ → Bool) (s t : Station τ), e.withDefaults r = given →
        Controller.finishSink sink "" s = .ok () t →
        e.serve service stamp r sink watch s = .ok (.failed f) t := by
  -- The failure is fixed before the engine is: no backend has a say in it.
  cases service with
  | chat =>
    cases checked : checkChat given with
    | ok u => exact absurd ((checkChat_iff_valid within).1 checked) violates
    | error f =>
      refine ⟨f, checkChat_kind within checked, fun τ e stamp r sink watch s t defaults told => ?_⟩
      have unprepared : e.prepare (e.withDefaults r) .chat s = .error f s := by
        rw [defaults, prepare, chatPrompt, checked]
        rfl
      rw [serve_unprepared unprepared, reject_told told]
  | text =>
    by_cases chat : given.isChat = true ∧ given.prompt.isNone = true
    · obtain ⟨b, checked, mistake⟩ := Request.exists_breach within violates
      refine ⟨b.fault, mistake, fun τ e stamp r sink watch s t defaults told => ?_⟩
      have unprepared : e.prepare (e.withDefaults r) .text s = .error b.fault s := by
        rw [defaults, prepare, if_pos chat, transcript, checked]
        rfl
      rw [serve_unprepared unprepared, reject_told told]
    · obtain ⟨f, mistake, refuses⟩ := Controller.exists_refusal within violates none
      refine ⟨f, mistake, fun τ e stamp r sink watch s t defaults told => ?_⟩
      have prepared : e.prepare (e.withDefaults r) .text s = .ok none s := by
        rw [defaults, prepare, if_neg chat]
        rfl
      rw [serve_prepared prepared, defaults,
        Controller.run_unreceived (refuses τ e.controller s) told, conclude_failed]

end Engine

end Runs

/-- A request that does not meet the conditions of its entry is refused by a mistake in a parameter,
whichever and however many of them it fails: the same failure on every backend, which is not asked,
and to a sink that hears of the end alone. -/
theorem invalid_refused (stamp : Stamp) (r : Request) (sink : Option (Sink σ)) (watch : σ → Bool)
    (s : Station σ) (hears : ∀ k ∈ sink, ∃ answer t, k "" true s = .ok answer t) :
    (r.Within → ¬r.Valid → ∀ override, ∃ f : Fault, f.kind = .invalidParam ∧
      ∀ c : Controller σ, Refused sink s f (c.journal r sink override watch s)
        (c.run r sink override watch s).1 (c.run r sink override watch s).2) ∧
    ∀ (service : Engine.Service) (given : Request), given.Within → ¬given.Meets service →
      ∃ f : Fault, f.kind = .invalidParam ∧ ∀ e : Engine σ, e.withDefaults r = given →
        ∃ result t, e.serve service stamp r sink watch s = .ok result t ∧
          Refused sink s f (e.serveJournal service stamp r sink watch s) result t := by
  obtain ⟨notes, t, heard⟩ := exists_notified hears
  refine ⟨fun within invalid override => ?_, fun service given within violates => ?_⟩
  · obtain ⟨f, mistake, refuses⟩ := Controller.exists_refusal within invalid override
    refine ⟨f, mistake, fun c => ?_⟩
    have journal : c.journal r sink override watch s = notes := by
      rw [Controller.journal, Controller.run_unreceived (refuses _ c.recorded _) heard.recorded]
    rw [journal, Controller.run_unreceived (refuses σ c s) heard.plain watch]
    exact ⟨rfl, heard.word, heard.still⟩
  · obtain ⟨f, mistake, refuses⟩ := Engine.exists_refusal within violates
    refine ⟨f, mistake, fun e defaults => ⟨.failed f, t, ?_, ?_⟩⟩
    · exact refuses σ e stamp r sink watch s t defaults heard.plain
    · have journal : e.serveJournal service stamp r sink watch s = notes := by
        have served := refuses _ e.recorded stamp r (sink.map Sink.recorded) (fun w => watch w.1)
          s.withJournal _ defaults heard.recorded
        rw [Engine.serveJournal, settled_ok served]
      rw [journal]
      exact ⟨rfl, heard.word, heard.still⟩

def strayTalk : Request :=
  { rehearsedTalk with toolChoice := .str "some", tools := [{ name := "f" }], stream := true }

theorem strayTalk_within : strayTalk.Within :=
  Request.within_of_checked (Request.validate_eq_ok_iff.1 rehearsed_valid).2.1

theorem strayTalk_invalid : ¬strayTalk.Valid := by
  intro valid
  obtain ⟨c, known, same⟩ := valid.choice
  obtain rfl := Json.str.inj same
  exact absurd known (by decide)

theorem invalid_refused_rehearsed :
    (∃ answer t, Sink.attentive "" true rehearsedStation = .ok answer t) ∧ strayTalk.Within ∧
      ¬strayTalk.Valid ∧ ¬strayTalk.Meets .chat ∧
      (∃ f : Fault, f.kind = .invalidParam ∧
        (rehearsed.run strayTalk (some Sink.attentive) none (fun _ => false) rehearsedStation).1 =
          .failed f) ∧
      ∃ (f : Fault) (result : Result) (t : Station Rehearsal.World), f.kind = .invalidParam ∧
        rehearsedEngine.serve .chat ⟨0, 0, ""⟩ strayTalk (some Sink.attentive) (fun _ => false)
          rehearsedStation = .ok result t ∧
        Refused (some Sink.attentive) rehearsedStation f (rehearsedEngine.serveJournal .chat ⟨0, 0, ""⟩
          strayTalk (some Sink.attentive) (fun _ => false) rehearsedStation) result t := by
  have hears : ∃ answer t, Sink.attentive "" true rehearsedStation = .ok answer t := ⟨true, _, rfl⟩
  have stray : ¬strayTalk.Meets .chat := fun meets => strayTalk_invalid meets.toValid
  obtain ⟨runs, services⟩ := invalid_refused ⟨0, 0, ""⟩ strayTalk (some Sink.attentive) (fun _ => false)
    rehearsedStation (by rintro k ⟨⟩; exact hears)
  obtain ⟨f, mistake, refused⟩ := runs strayTalk_within strayTalk_invalid none
  obtain ⟨g, mistake', served⟩ := services .chat strayTalk strayTalk_within stray
  obtain ⟨result, t, answer, whole⟩ := served rehearsedEngine rfl
  exact ⟨hears, strayTalk_within, strayTalk_invalid, stray, ⟨f, mistake, (refused rehearsed).result⟩,
    g, result, t, mistake', answer, whole⟩

end Completions
