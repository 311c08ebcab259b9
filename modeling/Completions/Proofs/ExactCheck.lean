import Completions.Proofs.SettledText
import Mathlib.Order.MinMax

/-! What the check of a text for stop words answers, said of the words as they were declared, with
empty and repeated ones among them, and of the texts that could still follow. Main statement:
`check_exact`. -/

namespace Completions.Stop
open Text

/-- A text could go on with an occurrence of `word` that begins at place `p` of it and ends behind
it. -/
def ContinuesAt (word text : List Char) (p : Nat) : Prop :=
  p < text.length ∧ text.length < p + word.length ∧
    ∃ more, more ≠ [] ∧ OccursAt word (text ++ more) p

theorem drop_prefix_of_occursAt {word text more : List Char} {p : Nat} (inside : p ≤ text.length)
    (occurs : OccursAt word (text ++ more) p) (behind : text.length ≤ p + word.length) :
    text.drop p <+: word := by
  rw [OccursAt, List.drop_append_of_le_length inside] at occurs
  exact List.prefix_of_prefix_length_le (List.prefix_append _ _) occurs
    (by rw [List.length_drop]; omega)

theorem pendingAt_iff_continuesAt {word text : List Char} {p : Nat} :
    PendingAt word text p ↔ ContinuesAt word text p := by
  constructor
  · intro pending
    obtain ⟨inside, ⟨more, rest⟩, short⟩ := pending
    have size := congrArg List.length rest
    rw [List.length_append, List.length_drop] at size
    refine ⟨inside, by omega, more, ?_, ?_⟩
    · intro nothing
      rw [nothing, List.length_nil] at size
      omega
    · rw [OccursAt, List.drop_append_of_le_length (Nat.le_of_lt inside), rest]
  · intro continues
    obtain ⟨inside, behind, more, -, occurs⟩ := continues
    have inside' := Nat.le_of_lt inside
    exact ⟨inside, drop_prefix_of_occursAt inside' occurs (Nat.le_of_lt behind), by omega⟩

section Declared

variable {declared : List String}

theorem find?_distinct (P : String → Bool) (declared : List String) :
    (distinct declared).find? P = declared.find? fun w => w ≠ "" && P w := by
  have onto (kept : List String) : (declared.foldl keep kept).find? P =
      (kept.find? P).or (declared.find? fun w => w ≠ "" && P w) := by
    induction declared generalizing kept with
    | nil => rw [List.foldl_nil, List.find?_nil, Option.or_none]
    | cons w rest ih =>
      rw [List.foldl_cons, ih, List.find?_cons]
      unfold keep
      split
      · next old =>
        cases found : kept.find? P with
        | some v => rfl
        | none =>
          have passed : (w ≠ "" && P w) = false := by
            obtain rfl | known := old
            · rfl
            · simp [List.find?_eq_none.1 found w known]
          rw [passed, Option.none_or]
      · next new =>
        have named : w ≠ "" := fun empty => new (.inl empty)
        rw [List.find?_append, Option.or_assoc]
        cases holds : P w <;> simp [named, holds]
  exact onto []

theorem mem_distinct {w : String} : w ∈ distinct declared ↔ w ∈ declared ∧ w ≠ "" := by
  have found := congrArg Option.isSome (find?_distinct (· == w) declared)
  rw [Bool.eq_iff_iff, List.find?_isSome, List.find?_isSome] at found
  simpa [and_comm] using found

def longestOf (words : List String) : Nat := (words.map String.length).foldl max 0

theorem le_longestOf_iff {words : List String} {n : Nat} :
    n ≤ longestOf words ↔ n = 0 ∨ ∃ w ∈ words, n ≤ w.length := by
  unfold longestOf
  induction words using List.reverseRecOn with
  | nil => simp
  | append_singleton words v ih =>
    rw [List.map_append, List.map_singleton, List.foldl_concat, le_max_iff, ih, or_assoc]
    simp [or_and_right, exists_or]

theorem longest_ofList (declared : List String) :
    (Words.ofList declared).longest = longestOf declared := by
  refine eq_of_forall_le_iff fun n => ?_
  rw [show (Words.ofList declared).longest = longestOf (distinct declared) from rfl,
    le_longestOf_iff, le_longestOf_iff]
  refine or_congr_right' fun positive => ?_
  constructor
  · intro reached
    obtain ⟨w, hw, long⟩ := reached
    exact ⟨w, (mem_distinct.1 hw).1, long⟩
  · intro reached
    obtain ⟨w, hw, long⟩ := reached
    refine ⟨w, mem_distinct.2 ⟨hw, ?_⟩, long⟩
    intro empty
    rw [empty] at long
    exact positive (Nat.le_zero.1 long)

/-- Where the check begins to search a text of which the part up to `sent` was handed over: a word
that ends behind that part may begin one character less than the longest before its end. -/
def windowStart (declared : List String) (sent : Nat) : Nat := sent - (longestOf declared - 1)

theorem scanStart_ofList (declared : List String) (sent : Nat) :
    (Words.ofList declared).scanStart sent = windowStart declared sent := by
  rw [Words.scanStart, longest_ofList, windowStart]
  omega

def StandsAt (declared : List String) (text : List Char) (p : Nat) : Prop :=
  ∃ w ∈ declared, w ≠ "" ∧ OccursAt w.toList text p

def firstAt (declared : List String) (text : List Char) (p : Nat) : Option String :=
  declared.find? fun w => w ≠ "" && OccursAt w.toList text p

/-- Some continuation of the text would make a declared word begin at place `p` of it and end behind
it. -/
def BeginsAt (declared : List String) (text : List Char) (p : Nat) : Prop :=
  ∃ w ∈ declared, ContinuesAt w.toList text p

variable {text : List Char} {p : Nat}

theorem mem_ofList {w : String} : w ∈ (Words.ofList declared).list ↔ w ∈ declared ∧ w ≠ "" :=
  mem_distinct

theorem standsAt_ofList : (Words.ofList declared).StandsAt text p ↔ StandsAt declared text p := by
  simp only [Words.StandsAt, StandsAt, mem_ofList, and_assoc]

theorem firstAt_ofList (declared : List String) (text : List Char) (p : Nat) :
    (Words.ofList declared).firstAt text p = firstAt declared text p :=
  find?_distinct (fun w => OccursAt w.toList text p) declared

theorem beginsAt_ofList : (Words.ofList declared).BeginsAt text p ↔ BeginsAt declared text p := by
  simp only [Words.BeginsAt, BeginsAt, mem_ofList, pendingAt_iff_continuesAt]
  constructor
  · intro begins
    obtain ⟨w, hw, continues⟩ := begins
    exact ⟨w, hw.1, continues⟩
  · intro begins
    obtain ⟨w, hw, continues⟩ := begins
    refine ⟨w, ⟨hw, ?_⟩, continues⟩
    intro empty
    rw [empty] at continues
    exact Nat.lt_asymm continues.1 continues.2.1

end Declared

namespace Words

variable {ws : Words} {text : List Char} {sent : Int}

theorem check_eq_pending_iff {p : Nat} : ws.check text sent = .pending p ↔
    ws.findFrom text (ws.scanStart sent) = none ∧ ws.pendingPlace text = some p := by
  rw [check_eq]
  cases ws.findFrom text (ws.scanStart sent) with
  | none => cases ws.pendingPlace text <;> simp
  | some other => simp

/-- No word that has begun in a text with a clear end is found later, from no earlier a place. -/
theorem length_le_of_clear (clear : ws.check text sent = .clear) {more : List Char} {later : Int}
    (onward : sent ≤ later) {hit : Hit} (stop : ws.check (text ++ more) later = .stop hit) :
    text.length ≤ hit.position := by
  obtain ⟨absent, begun⟩ := check_eq_clear_iff.1 clear
  obtain ⟨⟨⟨start, w, hw, occurs⟩, -⟩, -⟩ := findFrom_eq_some_iff.1 (check_eq_stop_iff.1 stop)
  have window : ws.scanStart sent ≤ hit.position := by
    rw [scanStart] at start ⊢
    omega
  by_contra inside
  by_cases ends : hit.position + w.toList.length ≤ text.length
  · -- The word was there already.
    exact findFrom_eq_none_iff.1 absent _ window
      ⟨w, hw, occursAt_of_append (toList_ne_nil hw) occurs ends⟩
  · have middle := drop_prefix_of_occursAt (by omega) occurs (by omega)
    exact (pendingPlace_leastOf ws text).eq_none_iff.1 begun hit.position
      ⟨w, hw, by omega, middle, by omega⟩

end Words

structure Answers (declared : List String) (text : List Char) (start : Nat) (check : Check) :
    Prop where
  stop_iff : (∃ hit, check = .stop hit) ↔ ∃ p, start ≤ p ∧ StandsAt declared text p
  stop : ∀ hit, check = .stop hit ↔
    IsLeast {p | start ≤ p ∧ StandsAt declared text p} hit.position ∧
      firstAt declared text hit.position = some hit.word
  pending_iff : (∃ p, check = .pending p) ↔
    (¬∃ p, start ≤ p ∧ StandsAt declared text p) ∧ ∃ p, BeginsAt declared text p
  pending : ∀ p, check = .pending p ↔
    (¬∃ p, start ≤ p ∧ StandsAt declared text p) ∧ IsLeast {p | BeginsAt declared text p} p
  clear_iff : check = .clear ↔
    (¬∃ p, start ≤ p ∧ StandsAt declared text p) ∧ ¬∃ p, BeginsAt declared text p

/-- The answer names the first stop word of the window; without one it names the first place where
the text's end could still become one; and where it finds neither, the whole text may be handed over:
whatever follows, nothing is found later that begins in it. -/
theorem check_exact (declared : List String) (text : List Char) (sent : Nat) :
    Answers declared text (windowStart declared sent) ((Words.ofList declared).check text sent) ∧
      ((Words.ofList declared).check text sent = .clear →
        ∀ (more : List Char) (later : Nat) (hit : Hit), sent ≤ later →
          (Words.ofList declared).check (text ++ more) later = .stop hit →
            text.length ≤ hit.position) := by
  have found (hit : Hit) : (Words.ofList declared).check text sent = .stop hit ↔
      IsLeast {p | windowStart declared sent ≤ p ∧ StandsAt declared text p} hit.position ∧
        firstAt declared text hit.position = some hit.word := by
    rw [Words.check_eq_stop_iff, Words.findFrom_eq_some_iff, scanStart_ofList, firstAt_ofList]
    simp only [standsAt_ofList]
  have absent : (Words.ofList declared).findFrom text ((Words.ofList declared).scanStart sent) = none ↔
      ¬∃ p, windowStart declared sent ≤ p ∧ StandsAt declared text p := by
    rw [Words.findFrom_eq_none_iff, scanStart_ofList]
    simp only [standsAt_ofList, not_exists, not_and]
  have begun := (Words.pendingPlace_leastOf (Words.ofList declared) text).congr
    fun _ => beginsAt_ofList
  have pending (p : Nat) : (Words.ofList declared).check text sent = .pending p ↔
      (¬∃ p, windowStart declared sent ≤ p ∧ StandsAt declared text p) ∧
        IsLeast {p | BeginsAt declared text p} p := by
    rw [Words.check_eq_pending_iff, absent, begun.eq_some_iff]
  refine ⟨⟨?_, found, ?_, pending, ?_⟩, ?_⟩
  · rw [← not_iff_not, ← absent, Option.eq_none_iff_forall_ne_some]
    simp only [Words.check_eq_stop_iff, not_exists, ne_eq]
  · simp only [pending, exists_and_left]
    refine and_congr_right fun _ => ?_
    rw [← not_iff_not, not_exists, not_exists, ← begun.eq_none_iff,
      Option.eq_none_iff_forall_ne_some]
    simp only [ne_eq, begun.eq_some_iff]
  · rw [Words.check_eq_clear_iff, absent, begun.eq_none_iff, not_exists (p := BeginsAt declared text)]
  · intro clear more later hit onward stop
    exact Words.length_le_of_clear clear (Int.ofNat_le.2 onward) stop

/-- Of the words that stand at one place the first declared is named, whichever is longer, and neither
the empty word nor one that comes again counts. -/
example : (Words.ofList ["", "abc", "b", "ab", "abc"]).check "xabc".toList 0 = .stop ⟨1, "abc"⟩ := by
  decide

example : (Words.ofList ["ab", "bb"]).check "abxb".toList 3 = .pending 3 := by
  decide

end Completions.Stop
