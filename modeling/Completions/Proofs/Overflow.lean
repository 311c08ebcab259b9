import Completions.Proofs.Outcome
import Completions.Rehearsal.Session
import Completions.Request.Reading
import Completions.Request.Validation

/-! Numbers beyond the doubles. Reading a request and checking it fail by a mistake in a parameter
and by nothing else, but for whole numbers that no double can hold. Main statement:
`only_overflow`. -/

namespace Completions

namespace Number

open Binary

theorem bounded_ofFloat {x : Float} {b : Binary} (finite : ofFloat? x = some b) :
    b.significand < twoTo 53 ∧ b.exponent ≤ 971 := by
  have twice : twoTo 53 = twoTo 52 + twoTo 52 := rfl
  have fraction : x.toBits.toNat % twoTo 52 < twoTo 52 := Nat.mod_lt _ (by decide)
  have field : x.toBits.toNat >>> 52 % 2048 < 2048 := Nat.mod_lt _ (by decide)
  unfold ofFloat? at finite
  dsimp only at finite
  split at finite
  · cases finite
  · split at finite
    · cases finite
      dsimp only
      omega
    · cases finite
      dsimp only
      omega

theorem twoTo_le {e k : Nat} (le : e ≤ k) : twoTo e ≤ twoTo k :=
  Nat.pow_le_pow_right Nat.zero_lt_two le

theorem scaled_lt {m e : Nat} (significand : m < twoTo 53) (exponent : e ≤ 971) :
    m * twoTo e < twoTo 1024 - twoTo 970 := by
  have greatest : (twoTo 53 - 1) * twoTo 971 < twoTo 1024 - twoTo 970 := by decide +kernel
  calc
    m * twoTo e ≤ (twoTo 53 - 1) * twoTo 971 :=
      Nat.mul_le_mul (Nat.le_sub_one_of_lt significand) (twoTo_le exponent)
    _ < twoTo 1024 - twoTo 970 := greatest

/-- The whole part of a double is not too large for a double. -/
theorem not_tooLarge_truncate {x : Float} {n : Int} (whole : truncate? x = some n) :
    tooLarge n = false := by
  obtain ⟨b, finite, rfl⟩ := Option.map_eq_some_iff.1 whole
  obtain ⟨significand, exponent⟩ := bounded_ofFloat finite
  have size : (if 0 ≤ b.exponent then b.significand * twoTo b.exponent.toNat
      else b.significand / twoTo (-b.exponent).toNat) < twoTo 1024 - twoTo 970 := by
    split
    · exact scaled_lt significand (by omega)
    · have whole := scaled_lt (e := 0) significand (by decide)
      have one : twoTo 0 = 1 := rfl
      rw [one, Nat.mul_one] at whole
      exact Nat.lt_of_le_of_lt (Nat.div_le_self _ _) whole
  generalize (if 0 ≤ b.exponent then b.significand * twoTo b.exponent.toNat
      else b.significand / twoTo (-b.exponent).toNat) = m at size ⊢
  have abs : (if b.negative then -(m : Int) else m).natAbs = m := by
    split <;> simp
  rw [tooLarge, abs]
  exact decide_eq_false (Nat.not_le_of_lt size)

end Number

/-- A whole number that no double can hold. -/
def Beyond (v : Json) : Prop := ∃ n, v = .int n ∧ Number.tooLarge n = true

/-- The numbers for the sampler, in the order in which they are checked. -/
def Sampling.numbers (s : Sampling) : List (String × Json) :=
  [("temperature", s.temperature), ("top_p", s.topP), ("top_k", s.topK), ("min_p", s.minP)]

namespace Request

theorem Flaw.fault_kind {f : Flaw} : f.fault.kind ≠ .invalidParam ↔ f = .topKTooLarge := by
  cases f <;> simp [Flaw.fault]

theorem Breach.fault_kind {b : Breach} : b.fault.kind ≠ .invalidParam ↔ b = .tooLarge := by
  cases b <;> simp [Breach.fault]

section Reading

-- Every reader but the one of the candidates refuses with a flaw of its own.

variable {stamp : Stamp} {body : Fields}

theorem readMessages_ne (raws : List Json) : readMessages stamp raws ≠ .error .topKTooLarge := by
  induction raws with
  | nil => simp [readMessages]
  | cons v rest ih =>
    unfold readMessages
    cases Chat.Message.ofJson stamp v with
    | error f => simp
    | ok m => simp [bind_eq_error_iff, ih, pure, Except.pure]

theorem messagesOf_ne (v : Json) : messagesOf stamp v ≠ .error .topKTooLarge := by
  unfold messagesOf
  split <;> simp [map_eq_error_iff, readMessages_ne]

theorem promptOf_ne (v : Json) : promptOf v ≠ .error .topKTooLarge := by
  unfold promptOf
  split <;> simp

theorem integerOf_ne {flaw : Flaw} (other : flaw ≠ .topKTooLarge) (default : Int) (v : Json) :
    integerOf flaw default v ≠ .error .topKTooLarge := by
  unfold integerOf
  split <;> simp [other]

theorem numberOf_ne (key : String) (default : Json) :
    numberOf body key default ≠ .error .topKTooLarge := by
  unfold numberOf
  split <;> simp

theorem stopOf_ne (v : Json) : stopOf v ≠ .error .topKTooLarge := by
  unfold stopOf
  split
  · split <;> simp
  · simp

theorem textOf_ne {flaw : Flaw} (other : flaw ≠ .topKTooLarge) (v : Json) :
    textOf flaw v ≠ .error .topKTooLarge := by
  unfold textOf
  split <;> simp [other]

theorem schemaOf_ne : schemaOf body ≠ .error .topKTooLarge := by
  unfold schemaOf
  split <;> simp

theorem readTools_ne (raws : List Json) : readTools raws ≠ .error .topKTooLarge := by
  induction raws with
  | nil => simp [readTools]
  | cons v rest ih =>
    unfold readTools
    cases Tool.Definition.ofJson v with
    | error f => simp
    | ok t => simp [bind_eq_error_iff, ih, pure, Except.pure]

theorem toolsOf_ne (v : Json) : toolsOf v ≠ .error .topKTooLarge := by
  unfold toolsOf
  split
  · split <;> simp [readTools_ne]
  · simp

theorem templateNameOf_ne : templateNameOf body ≠ .error .topKTooLarge := by
  unfold templateNameOf
  split <;> simp

theorem topKOf_overflows :
    topKOf body (.int 40) = .error .topKTooLarge ↔ Beyond (body.get "top_k") := by
  by_cases absent : body.get "top_k" = .null
  · simp [topKOf_absent absent, absent, Beyond]
  unfold topKOf numberOf
  cases value : body.get "top_k" with
  | null => contradiction
  | int n =>
    cases large : Number.tooLarge n <;> simp [Beyond, large, bind, Except.bind, pure, Except.pure]
  | float x =>
    cases whole : Number.truncate? x <;>
      simp [Beyond, whole, bind, Except.bind, pure, Except.pure]
  | _ => simp [Beyond, bind, Except.bind]

/-- What is read before the count of candidates is as it should be. -/
structure ReadsToTopK (stamp : Stamp) (body : Fields) : Prop where
  messages : ∃ ms, messagesOf stamp (body.get "messages") = .ok ms
  prompt : ∃ p, promptOf (body.get "prompt") = .ok p
  seed : ∃ n, integerOf .seed (-1) (body.get "seed") = .ok n
  temperature : ∃ x, numberOf body "temperature" ({} : Sampling).temperature = .ok x
  topP : ∃ x, numberOf body "top_p" ({} : Sampling).topP = .ok x

theorem samplingOf_overflows : samplingOf body = .error .topKTooLarge ↔
    (∃ n, integerOf .seed (-1) (body.get "seed") = .ok n) ∧
    (∃ x, numberOf body "temperature" ({} : Sampling).temperature = .ok x) ∧
    (∃ x, numberOf body "top_p" ({} : Sampling).topP = .ok x) ∧ Beyond (body.get "top_k") := by
  simp [samplingOf, bind_eq_error_iff, integerOf_ne, numberOf_ne, topKOf_overflows, pure,
    Except.pure]

theorem ofFields_overflows (streamDefault : Bool) :
    ofFields stamp streamDefault body = .error .topKTooLarge ↔
      ReadsToTopK stamp body ∧ Beyond (body.get "top_k") := by
  have order : ofFields stamp streamDefault body = .error .topKTooLarge ↔
      (∃ ms, messagesOf stamp (body.get "messages") = .ok ms) ∧
      (∃ p, promptOf (body.get "prompt") = .ok p) ∧ samplingOf body = .error .topKTooLarge := by
    simp [ofFields, bind_eq_error_iff, messagesOf_ne, promptOf_ne, integerOf_ne, stopOf_ne,
      textOf_ne, schemaOf_ne, toolsOf_ne, templateNameOf_ne, pure, Except.pure]
  rw [order, samplingOf_overflows]
  constructor
  · rintro ⟨messages, prompt, seed, temperature, topP, beyond⟩
    exact ⟨⟨messages, prompt, seed, temperature, topP⟩, beyond⟩
  · rintro ⟨⟨messages, prompt, seed, temperature, topP⟩, beyond⟩
    exact ⟨messages, prompt, seed, temperature, topP, beyond⟩

theorem topKOf_within {v : Json} (read : topKOf body (.int 40) = .ok v) : ¬ Beyond v := by
  rintro ⟨n, rfl, large⟩
  obtain ⟨x, -, cut⟩ := bind_eq_ok_iff.1 read
  -- A whole number is tested as it stands, a double is cut first and its cut is never tested.
  cases x with
  | int m =>
    dsimp only at cut
    split at cut
    · cases cut
    · next small =>
      cases cut
      exact small large
  | float x =>
    dsimp only at cut
    split at cut
    · next whole =>
      cases cut
      rw [Number.not_tooLarge_truncate whole] at large
      cases large
    · cases cut
  | _ => cases cut

theorem samplingOf_within {s : Sampling} (read : samplingOf body = .ok s) : ¬ Beyond s.topK := by
  simp only [samplingOf, bind_eq_ok_iff, pure, Except.pure, Except.ok.injEq] at read
  obtain ⟨_, -, _, -, _, -, k, counted, _, -, rfl⟩ := read
  exact topKOf_within counted

theorem ofFields_within {streamDefault : Bool} {r : Request}
    (read : ofFields stamp streamDefault body = .ok r) : ¬ Beyond r.sampling.topK := by
  simp only [ofFields, bind_eq_ok_iff, pure, Except.pure, Except.ok.injEq] at read
  obtain ⟨_, -, _, -, s, sampled, _, -, _, -, _, -, _, -, _, -, _, -, _, -, rfl⟩ := read
  exact samplingOf_within sampled

end Reading

section Checking

theorem checkNumber_overflows {name : String} {v : Json} :
    checkNumber name v = .error .tooLarge ↔ Beyond v := by
  cases v with
  | int n =>
    cases large : Number.tooLarge n
    · by_cases negative : n < 0 <;> simp [checkNumber, Beyond, large, negative]
    · simp [checkNumber, Beyond, large]
  | float x =>
    rw [checkNumber]
    split <;> simp [Beyond]
  | _ => simp [checkNumber, Beyond]

/-- One of the numbers is beyond the doubles, and those checked before it pass. -/
def FirstBeyond (s : Sampling) : Prop :=
  ∃ before p after, s.numbers = before ++ p :: after ∧
    (∀ q ∈ before, checkNumber q.1 q.2 = .ok ()) ∧ Beyond p.2

theorem checkSampling_overflows {s : Sampling} :
    checkSampling s = .error .tooLarge ↔ FirstBeyond s := by
  have walk : checkSampling s = .error .tooLarge ↔
      s.numbers.forM (fun p => checkNumber p.1 p.2) = .error .tooLarge := by
    cases seed : s.seed <;>
      simp [checkSampling, Sampling.numbers, seed, bind_eq_error_iff, pure, Except.pure]
  rw [walk, forM_eq_error_iff]
  simp only [checkNumber_overflows, FirstBeyond]

theorem validate_overflows {r : Request} :
    r.validate = .error .tooLarge ↔ r.checkSource = .ok () ∧ FirstBeyond r.sampling := by
  have prompt (p : Prompt) : checkPrompt p ≠ .error .tooLarge := by
    unfold checkPrompt
    split
    · simp
    · split <;> simp
  have source : r.checkSource ≠ .error .tooLarge := by
    unfold checkSource
    split <;> simp [prompt]
  have budget : checkBudget r.maxNewTokens ≠ .error .tooLarge := by
    unfold checkBudget
    split
    · split <;> simp
    · simp
  have choice : checkToolChoice r.toolChoice ≠ .error .tooLarge := by
    unfold checkToolChoice
    split <;> simp
  have passes : (∃ u, r.checkSource = .ok u) ↔ r.checkSource = .ok () :=
    ⟨fun ⟨_, ok⟩ => ok, fun ok => ⟨(), ok⟩⟩
  simp [validate, bind_eq_error_iff, source, budget, choice, checkSampling_overflows, passes]

end Checking

/-- For every value a body may hold, reading it gives a request or names a mistake in a parameter,
unless the count of candidates is a whole number beyond the doubles and nothing is wrong in what is
read before it. A request that was read passes its checks or is told of a mistake in a parameter,
unless one of the sampler's other numbers is beyond the doubles and all that is checked before it
passes. -/
theorem only_overflow (stamp : Stamp) (streamDefault : Bool) (v : Json) :
    ((∃ f, ofJson stamp streamDefault v = .error f ∧ f.fault.kind ≠ .invalidParam) ↔
      ∃ body : Fields, v = .obj body ∧ ReadsToTopK stamp body ∧ Beyond (body.get "top_k")) ∧
    ∀ r, ofJson stamp streamDefault v = .ok r → ¬ Beyond r.sampling.topK ∧
      ((∃ b, r.validate = .error b ∧ b.fault.kind ≠ .invalidParam) ↔
        r.checkSource = .ok () ∧ FirstBeyond r.sampling) := by
  constructor
  · simp only [Flaw.fault_kind, exists_eq_right]
    cases v with
    | obj body => simp [ofJson, ofFields_overflows]
    | _ => simp [ofJson]
  · intro r read
    have within : ¬ Beyond r.sampling.topK := by
      cases v with
      | obj body => exact ofFields_within read
      | _ => cases read
    refine ⟨within, ?_⟩
    simp only [Breach.fault_kind, exists_eq_right]
    exact validate_overflows

def longNumber (key : String) : Fields := [("prompt", .str "x"), (key, .int (Number.tenTo 400))]

theorem long_number_overflows :
    (∃ f, ofJson Rehearsal.stamp false (.obj (longNumber "top_k")) = .error f ∧
      f.fault = ⟨.overflow, "int too large to convert to float"⟩) ∧
    ∃ r b, ofJson Rehearsal.stamp false (.obj (longNumber "temperature")) = .ok r ∧
      r.validate = .error b ∧ b.fault = ⟨.overflow, "int too large to convert to float"⟩ := by
  have large : Number.tooLarge (Number.tenTo 400) = true := by decide +kernel
  constructor
  · have before : ReadsToTopK Rehearsal.stamp (longNumber "top_k") :=
      ⟨⟨_, rfl⟩, ⟨_, rfl⟩, ⟨_, rfl⟩, ⟨_, rfl⟩, ⟨_, rfl⟩⟩
    exact ⟨.topKTooLarge, (ofFields_overflows false).2 ⟨before, _, rfl, large⟩, rfl⟩
  · have sampled : samplingOf (longNumber "temperature") =
        .ok { temperature := .int (Number.tenTo 400) } := by
      rw [samplingOf, topKOf_absent rfl]
      rfl
    have read : ofJson Rehearsal.stamp false (.obj (longNumber "temperature")) = .ok
        { prompt := some (.text "x"), sampling := { temperature := .int (Number.tenTo 400) } } := by
      rw [ofJson, ofFields, sampled]
      rfl
    have first : FirstBeyond { temperature := .int (Number.tenTo 400) } :=
      ⟨[], _, _, rfl, by simp, _, rfl, large⟩
    exact ⟨_, .tooLarge, read, validate_overflows.2 ⟨rfl, first⟩, rfl⟩

end Request

end Completions
