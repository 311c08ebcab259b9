import Completions.Proofs.Occurrence
import Completions.Stop
import Mathlib.Data.List.Induction

/-! What the check of a text for stop words finds. Main statements: a search finds the least place
where a word stands, and of the words that stand there the first declared; a text that is settled,
with no stop word in it and none begun in the part handed over, can be checked at its end alone. -/

namespace Completions.Stop
open Text

/-- The text from place `p` on is a beginning of `word`, but not all of it. -/
def PendingAt (word text : List Char) (p : Nat) : Prop :=
  p < text.length ∧ text.drop p <+: word ∧ text.length - p < word.length

theorem pendingAt_drop_iff {word text : List Char} {k p : Nat} :
    PendingAt word (text.drop k) p ↔ PendingAt word text (k + p) := by
  rw [PendingAt, PendingAt, List.drop_drop, List.length_drop]
  refine and_congr (by omega) (and_congr_right fun _ => by omega)

instance (word text : List Char) : DecidablePred (PendingAt word text) := fun p =>
  decidable_of_iff (p < text.length ∧ (text.drop p).isPrefixOf word = true ∧
    text.length - p < word.length) (by rw [List.isPrefixOf_iff_prefix, PendingAt])

theorem borderAt_eq_some_iff {word text : List Char} {i p : Nat} :
    borderAt word i text = some p ↔
      ∃ q < text.length, p = i + q ∧ text.drop q <+: word ∧ ∀ r < q, ¬text.drop r <+: word := by
  induction text generalizing i with
  | nil => simp [borderAt]
  | cons c t ih =>
    have head : (c :: t).isPrefixOf word = true ↔ (c :: t) <+: word := List.isPrefixOf_iff_prefix
    by_cases here : (c :: t) <+: word
    · rw [borderAt, if_pos (head.2 here), Option.some.injEq]
      constructor
      · rintro rfl
        exact ⟨0, by simp, rfl, here, by simp⟩
      · rintro ⟨q, -, rfl, -, first⟩
        have : q = 0 := Nat.eq_zero_of_not_pos fun hq => first 0 hq here
        omega
    · rw [borderAt, if_neg fun h => here (head.1 h), ih]
      constructor
      · rintro ⟨q, hq, rfl, at_q, first⟩
        refine ⟨q + 1, by simpa using hq, by omega, at_q, ?_⟩
        rintro (_ | r) hr
        · exact here
        · exact first r (by omega)
      · rintro ⟨_ | q, hq, rfl, at_q, first⟩
        · exact absurd at_q here
        · exact ⟨q, by simpa using hq, by omega, at_q, fun r hr => first (r + 1) (by omega)⟩

theorem partialPlace_eq_some_iff {word text : List Char} {p : Nat} :
    partialPlace text word = some p ↔ IsLeast {p | PendingAt word text p} p := by
  simp only [partialPlace, borderAt_eq_some_iff, List.drop_drop, List.length_drop]
  constructor
  · rintro ⟨q, hq, rfl, at_q, first⟩
    refine ⟨⟨by omega, at_q, by omega⟩, ?_⟩
    rintro r ⟨hr, at_r, hl⟩
    by_contra before
    refine first (r - (text.length - (word.length - 1))) (by omega) ?_
    rwa [Nat.add_sub_cancel' (by omega)]
  · rintro ⟨⟨hp, at_p, hl⟩, least⟩
    refine ⟨p - (text.length - (word.length - 1)), by omega, by omega, ?_, ?_⟩
    · rwa [Nat.add_sub_cancel' (by omega)]
    · intro r hr at_r
      have := least ⟨by omega, at_r, by omega⟩
      omega

theorem partialPlace_leastOf (word text : List Char) :
    LeastOf (PendingAt word text) (partialPlace text word) :=
  leastOf_of_iff fun _ => partialPlace_eq_some_iff

theorem leastOf_sooner {P Q : Nat → Prop} {a b : Option Nat} (ha : LeastOf P a)
    (hb : LeastOf Q b) : LeastOf (fun p => P p ∨ Q p) (sooner a b) := by
  cases a with
  | none =>
    cases b with
    | none => exact fun p hp => hp.elim (ha p) (hb p)
    | some q =>
      have : sooner none (some q) = some q := rfl
      exact this ▸ hb.congr fun p => by simp [ha p]
  | some p =>
    cases b with
    | none =>
      have : sooner (some p) none = some p := rfl
      exact this ▸ ha.congr fun q => by simp [hb q]
    | some q =>
      have least : IsLeast {r | P r ∨ Q r} (min p q) := ha.union hb
      have he : sooner (some p) (some q) = some (min p q) := by
        rw [sooner, ← apply_ite some, min_comm, min_def_lt]
      rwa [he]

theorem leastOf_foldl {P : String → Nat → Prop} (place : String → Option Nat) {words : List String}
    (h : ∀ w ∈ words, LeastOf (P w) (place w)) :
    LeastOf (fun p => ∃ w ∈ words, P w p)
      (words.foldl (fun best w => sooner best (place w)) none) := by
  induction words using List.reverseRecOn with
  | nil => simp [LeastOf]
  | append_singleton words w ih =>
    rw [List.foldl_concat]
    refine (leastOf_sooner (ih fun v hv => h v (by simp [hv])) (h w (by simp))).congr fun p => ?_
    simp [or_and_right, exists_or]

theorem position_improve (text : List Char) (start : Nat) (best : Option Hit) (w : String) :
    (Hit.improve text start best w).map Hit.position =
      sooner (best.map Hit.position) (Text.findFrom w.toList start text) := by
  cases found : Text.findFrom w.toList start text with
  | none => cases best <;> simp [Hit.improve, found, sooner]
  | some p =>
    cases best with
    | none => simp [Hit.improve, found, Hit.earlier, sooner]
    | some hit =>
      simp only [Hit.improve, found, Hit.earlier, sooner, Option.map_some]
      split <;> rfl

theorem position_foldl_improve (text : List Char) (start : Nat) (words : List String) :
    (words.foldl (Hit.improve text start) none).map Hit.position =
      words.foldl (fun best w => sooner best (Text.findFrom w.toList start text)) none := by
  induction words using List.reverseRecOn with
  | nil => rfl
  | append_singleton words w ih => rw [List.foldl_concat, List.foldl_concat, position_improve, ih]

theorem word_foldl_improve {words : List String} (hw : ∀ w ∈ words, w.toList ≠ [])
    {text : List Char} {start : Nat} {hit : Hit}
    (h : words.foldl (Hit.improve text start) none = some hit) :
    words.find? (fun w => OccursAt w.toList text hit.position) = some hit.word := by
  induction words using List.reverseRecOn generalizing hit with
  | nil => cases h
  | append_singleton words w ih =>
    have hv : ∀ v ∈ words, v.toList ≠ [] := fun v hv => hw v (by simp [hv])
    have old := leastOf_foldl (fun v => Text.findFrom v.toList start text)
      fun v hm => findFrom_leastOf (hv v hm) start
    rw [← position_foldl_improve] at old
    have new := @findFrom_leastOf w.toList text (hw w (by simp)) start
    rw [List.foldl_concat] at h
    rw [List.find?_append]
    cases best : words.foldl (Hit.improve text start) none with
    | none =>
      rw [best] at h old
      cases found : Text.findFrom w.toList start text with
      | none => simp [Hit.improve, found] at h
      | some p =>
        rw [found] at new
        obtain rfl : ⟨p, w⟩ = hit := by simpa [Hit.improve, found, Hit.earlier] using h
        -- No earlier word stands anywhere from the start on.
        have none : words.find? (fun v => OccursAt v.toList text p) = none :=
          List.find?_eq_none.2 fun v hm => by
            simpa using fun at_p => old p ⟨v, hm, new.1.1, at_p⟩
        simp [none, new.1.2]
    | some b =>
      rw [best] at h old
      cases found : Text.findFrom w.toList start text with
      | none =>
        obtain rfl : b = hit := by simpa [Hit.improve, found] using h
        rw [ih hv best, Option.some_or]
      | some p =>
        rw [found] at new
        by_cases before : p < b.position
        · obtain rfl : ⟨p, w⟩ = hit := by simpa [Hit.improve, found, Hit.earlier, before] using h
          have none : words.find? (fun v => OccursAt v.toList text p) = none :=
            List.find?_eq_none.2 fun v hm => by
              simpa using fun at_p => Nat.not_le_of_lt before (old.2 ⟨v, hm, new.1.1, at_p⟩)
          simp [none, new.1.2]
        · obtain rfl : b = hit := by simpa [Hit.improve, found, Hit.earlier, before] using h
          rw [ih hv best, Option.some_or]

namespace Words

theorem toList_ne_nil {ws : Words} {w : String} (hw : w ∈ ws.list) : w.toList ≠ [] := by
  intro h
  rw [String.toList_eq_nil_iff] at h
  exact ws.nonempty (h ▸ hw)

theorem length_le_longest {ws : Words} {w : String} (hw : w ∈ ws.list) :
    w.toList.length ≤ ws.longest := by
  rw [String.length_toList, longest]
  generalize ws.list = words at hw
  induction words using List.reverseRecOn with
  | nil => cases hw
  | append_singleton words v ih =>
    rw [List.map_append, List.map_singleton, List.foldl_concat]
    rcases List.mem_append.1 hw with old | new
    · exact (ih old).trans (Nat.le_max_left _ _)
    · rw [List.mem_singleton.1 new]
      exact Nat.le_max_right _ _

def StandsAt (ws : Words) (text : List Char) (p : Nat) : Prop :=
  ∃ w ∈ ws.list, OccursAt w.toList text p

def firstAt (ws : Words) (text : List Char) (p : Nat) : Option String :=
  ws.list.find? fun w => OccursAt w.toList text p

def BeginsAt (ws : Words) (text : List Char) (p : Nat) : Prop :=
  ∃ w ∈ ws.list, PendingAt w.toList text p

variable {ws : Words} {text : List Char}

theorem findFrom_leastOf (start : Nat) : LeastOf (fun p => start ≤ p ∧ ws.StandsAt text p)
    ((ws.findFrom text start).map Hit.position) := by
  rw [findFrom, position_foldl_improve]
  refine (leastOf_foldl (fun w => Text.findFrom w.toList start text) fun w hw =>
    Text.findFrom_leastOf (toList_ne_nil hw) start).congr fun p => ?_
  simp only [StandsAt, and_left_comm, exists_and_left]

/-- The search finds the least place from `start` on where a stop word stands, and names the first
declared of those that stand there. -/
theorem findFrom_eq_some_iff {start : Nat} {hit : Hit} : ws.findFrom text start = some hit ↔
    IsLeast {p | start ≤ p ∧ ws.StandsAt text p} hit.position ∧
      ws.firstAt text hit.position = some hit.word := by
  have least := @findFrom_leastOf ws text start
  constructor
  · intro found
    rw [found] at least
    exact ⟨least, word_foldl_improve (fun w hw => toList_ne_nil hw) found⟩
  · rintro ⟨at_hit, first⟩
    obtain ⟨other, found, same⟩ := Option.map_eq_some_iff.1 (least.eq_some_iff.2 at_hit)
    have word : ws.firstAt text other.position = some other.word :=
      word_foldl_improve (fun w hw => toList_ne_nil hw) found
    rw [same, first, Option.some.injEq] at word
    rw [found]
    cases other
    cases hit
    simp_all

theorem findFrom_eq_none_iff {start : Nat} :
    ws.findFrom text start = none ↔ ∀ p, start ≤ p → ¬ws.StandsAt text p := by
  rw [← Option.map_eq_none_iff (f := Hit.position), (findFrom_leastOf start).eq_none_iff]
  simp

theorem pendingPlace_leastOf (ws : Words) (text : List Char) :
    LeastOf (ws.BeginsAt text) (ws.pendingPlace text) :=
  leastOf_foldl (fun w => partialPlace text w.toList) fun w _ => partialPlace_leastOf w.toList text

/-- Without stop words the search and the look at the end find nothing, so they need no case of their
own. -/
theorem check_eq (sent : Int) : ws.check text sent = match ws.findFrom text (ws.scanStart sent) with
    | some hit => .stop hit
    | none => match ws.pendingPlace text with
      | some p => .pending p
      | none => .clear := by
  by_cases empty : ws.list = []
  · simp [check, isEmpty, findFrom, pendingPlace, empty]
  · exact if_neg (by simpa [isEmpty] using empty)

theorem check_eq_stop_iff {sent : Int} {hit : Hit} :
    ws.check text sent = .stop hit ↔ ws.findFrom text (ws.scanStart sent) = some hit := by
  rw [check_eq]
  cases ws.findFrom text (ws.scanStart sent) with
  | none => cases ws.pendingPlace text <;> simp
  | some other => simp

theorem check_eq_clear_iff {sent : Int} : ws.check text sent = .clear ↔
    ws.findFrom text (ws.scanStart sent) = none ∧ ws.pendingPlace text = none := by
  rw [check_eq]
  cases ws.findFrom text (ws.scanStart sent) with
  | none => cases ws.pendingPlace text <;> simp
  | some other => simp

end Words

end Completions.Stop
