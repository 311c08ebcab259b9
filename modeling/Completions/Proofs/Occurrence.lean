import Completions.Text.Search
import Mathlib.Data.List.Infix
import Mathlib.Order.Bounds.Basic
import Mathlib.Order.Nat

/-! Where a word stands in a text, apart from how it is searched for. Main statement: the search
from a place finds the least place at or after it where the word stands. -/

namespace Completions.Text

/-- The least place with a property, or none where no place has it. -/
def LeastOf (P : Nat → Prop) : Option Nat → Prop
  | none => ∀ p, ¬P p
  | some p => IsLeast {q | P q} p

theorem leastOf_of_iff {P : Nat → Prop} [DecidablePred P] {best : Option Nat}
    (h : ∀ p, best = some p ↔ IsLeast {q | P q} p) : LeastOf P best := by
  cases best with
  | none =>
    intro p hp
    cases (h _).2 (Nat.isLeast_find ⟨p, hp⟩)
  | some p => exact (h p).1 rfl

theorem LeastOf.eq_some_iff {P : Nat → Prop} {best : Option Nat} (h : LeastOf P best) {p : Nat} :
    best = some p ↔ IsLeast {q | P q} p := by
  cases best with
  | none => exact ⟨fun he => (by cases he), fun hp => absurd hp.1 (h p)⟩
  | some q => exact ⟨fun he => Option.some.inj he ▸ h, fun hp => congrArg some (IsLeast.unique h hp)⟩

theorem LeastOf.eq_none_iff {P : Nat → Prop} {best : Option Nat} (h : LeastOf P best) :
    best = none ↔ ∀ p, ¬P p := by
  cases best with
  | none => exact ⟨fun _ => h, fun _ => rfl⟩
  | some q => exact ⟨fun he => (by cases he), fun absent => absurd h.1 (absent q)⟩

theorem LeastOf.congr {P Q : Nat → Prop} {best : Option Nat} (h : LeastOf P best)
    (hPQ : ∀ p, P p ↔ Q p) : LeastOf Q best := by
  rwa [← show P = Q from funext fun p => propext (hPQ p)]

theorem isLeast_add_iff {P : Nat → Prop} {k q : Nat} :
    IsLeast {p | P (k + p)} q ↔ IsLeast {p | k ≤ p ∧ P p} (k + q) := by
  constructor
  · rintro ⟨hq, least⟩
    refine ⟨⟨by omega, hq⟩, ?_⟩
    rintro r ⟨hr, hP⟩
    obtain ⟨d, rfl⟩ := Nat.exists_eq_add_of_le hr
    exact Nat.add_le_add_left (least hP) k
  · rintro ⟨⟨-, hq⟩, least⟩
    exact ⟨hq, fun r hr => Nat.le_of_add_le_add_left (least ⟨by omega, hr⟩)⟩

/-- The characters from place `p` on begin with `word`. -/
def OccursAt (word text : List Char) (p : Nat) : Prop := word <+: text.drop p

instance (word text : List Char) (p : Nat) : Decidable (OccursAt word text p) :=
  decidable_of_iff (word.isPrefixOf (text.drop p) = true) List.isPrefixOf_iff_prefix

theorem OccursAt.add_length_le {word text : List Char} {p : Nat} (h : OccursAt word text p)
    (hw : word ≠ []) : p + word.length ≤ text.length := by
  have hl : word.length ≤ (text.drop p).length := List.IsPrefix.length_le h
  have hpos : 0 < word.length := List.length_pos_iff.2 hw
  rw [List.length_drop] at hl
  omega

theorem infix_iff_occursAt {word text : List Char} : word <:+: text ↔ ∃ p, OccursAt word text p := by
  constructor
  · rintro ⟨a, b, rfl⟩
    refine ⟨a.length, b, ?_⟩
    rw [List.append_assoc, List.drop_left]
  · rintro ⟨p, b, hb⟩
    exact ⟨text.take p, b, by rw [List.append_assoc, hb, List.take_append_drop]⟩

theorem occursAt_drop_iff {word text : List Char} {k p : Nat} :
    OccursAt word (text.drop k) p ↔ OccursAt word text (k + p) := by
  rw [OccursAt, OccursAt, List.drop_drop]

theorem occursAt_take_iff {word text : List Char} {n p : Nat} (hw : word ≠ []) :
    OccursAt word (text.take n) p ↔ OccursAt word text p ∧ p + word.length ≤ n := by
  have hpos : 0 < word.length := List.length_pos_iff.2 hw
  rw [OccursAt, OccursAt, List.drop_take, List.prefix_take_iff]
  exact and_congr_right fun _ => by omega

theorem occursAt_of_append {word old piece : List Char} {p : Nat} (hw : word ≠ [])
    (h : OccursAt word (old ++ piece) p) (hp : p + word.length ≤ old.length) :
    OccursAt word old p := by
  have := (occursAt_take_iff (n := old.length) hw).2 ⟨h, hp⟩
  rwa [List.take_left] at this

theorem not_occursAt_nil {word : List Char} (hw : word ≠ []) (p : Nat) : ¬OccursAt word [] p := by
  rw [OccursAt, List.drop_nil, List.prefix_nil]
  exact hw

/-- A word without the character between two texts stands in one of them. -/
theorem infix_append_cons_iff {word a b : List Char} {c : Char} (absent : c ∉ word) :
    word <:+: a ++ c :: b ↔ word <:+: a ∨ word <:+: b := by
  constructor
  · rintro ⟨x, y, split⟩
    rcases List.append_eq_append_iff.1 split with ⟨d, rfl, -⟩ | ⟨d, upTo, behind⟩
    · exact .inl ⟨x, d, rfl⟩
    · cases d with
      | nil => exact .inl ⟨x, [], by simpa using upTo⟩
      | cons e d =>
        obtain ⟨rfl, rfl⟩ := List.cons.inj behind
        -- The character is one of what stands before the word, or of the word.
        rcases List.append_eq_append_iff.1 upTo with ⟨f, -, inside⟩ | ⟨f, -, rest⟩
        · exact absurd (by simp [inside]) absent
        · cases f with
          | nil => exact absurd (show c ∈ [] ++ word from rest ▸ List.mem_cons_self ..) absent
          | cons g f =>
            obtain ⟨-, rfl⟩ := List.cons.inj rest
            exact .inr ⟨f, y, rfl⟩
  · rintro (inside | inside)
    · exact inside.trans ⟨[], c :: b, rfl⟩
    · exact inside.trans ⟨a ++ [c], [], by simp⟩

theorem isLeast_behind {word a b : List Char} {c : Char} (absent : c ∉ word)
    (fresh : ¬word <:+: a) (begins : word <+: b) :
    IsLeast {p | OccursAt word (a ++ c :: b) p} (a.length + 1) := by
  have nonempty : word ≠ [] := fun h => fresh (h ▸ List.nil_infix)
  constructor
  · have rest : (a ++ c :: b).drop (a.length + 1) = b := by simp
    show word <+: (a ++ c :: b).drop (a.length + 1)
    rwa [rest]
  · intro p occurs
    by_contra earlier
    by_cases within : p + word.length ≤ a.length
    · exact fresh (infix_iff_occursAt.2 ⟨p, occursAt_of_append nonempty occurs within⟩)
    · -- The word would go over the character.
      have place : a.length - p < word.length := by omega
      have reached := List.prefix_iff_getElem?.1 occurs _ place
      rw [List.getElem?_drop, show p + (a.length - p) = a.length by omega,
        List.getElem?_append_right (Nat.le_refl _), Nat.sub_self] at reached
      exact absent (Option.some.inj reached ▸ List.getElem_mem place)

theorem findWithin_eq_some_iff {word text : List Char} {i places p : Nat} :
    findWithin word i places text = some p ↔
      ∃ q < places, p = i + q ∧ OccursAt word text q ∧ ∀ r < q, ¬OccursAt word text r := by
  induction places generalizing i text with
  | zero => simp [findWithin]
  | succ places ih =>
    have head : word.isPrefixOf text = true ↔ OccursAt word text 0 :=
      List.isPrefixOf_iff_prefix
    by_cases here : OccursAt word text 0
    · rw [findWithin, if_pos (head.2 here), Option.some.injEq]
      constructor
      · rintro rfl
        exact ⟨0, by omega, rfl, here, by simp⟩
      · rintro ⟨q, -, rfl, -, first⟩
        have : q = 0 := Nat.eq_zero_of_not_pos fun hq => first 0 hq here
        omega
    · have next (q : Nat) : OccursAt word text.tail q ↔ OccursAt word text (q + 1) := by
        rw [OccursAt, OccursAt, List.drop_tail]
      rw [findWithin, if_neg fun h => here (head.1 h), ih]
      simp only [next]
      constructor
      · rintro ⟨q, hq, rfl, at_q, first⟩
        refine ⟨q + 1, by omega, by omega, at_q, ?_⟩
        rintro (_ | r) hr
        · exact here
        · exact first r (by omega)
      · rintro ⟨_ | q, hq, rfl, at_q, first⟩
        · exact absurd at_q here
        · exact ⟨q, by omega, by omega, at_q, fun r hr => first (r + 1) (by omega)⟩

theorem find_eq_some_iff {word text : List Char} {p : Nat} (hw : word ≠ []) :
    find word text = some p ↔ IsLeast {p | OccursAt word text p} p := by
  rw [find, findAt, findWithin_eq_some_iff]
  constructor
  · rintro ⟨q, -, rfl, at_q, first⟩
    rw [Nat.zero_add]
    exact ⟨at_q, fun r hr => Nat.le_of_not_lt fun h => first r h hr⟩
  · rintro ⟨at_p, first⟩
    have hl := OccursAt.add_length_le at_p hw
    exact ⟨p, by omega, by omega, at_p, fun r hr at_r => Nat.not_le_of_lt hr (first at_r)⟩

theorem find_eq_none_iff {word text : List Char} (hw : word ≠ []) :
    find word text = none ↔ ¬word <:+: text := by
  have found : LeastOf (OccursAt word text) (find word text) :=
    leastOf_of_iff fun _ => find_eq_some_iff hw
  rw [found.eq_none_iff, infix_iff_occursAt, not_exists]

theorem occurs_iff {word text : List Char} (hw : word ≠ []) :
    occurs word text = true ↔ word <:+: text := by
  rw [occurs, Option.isSome_iff_ne_none, Ne, find_eq_none_iff hw, not_not]

/-- The search from a place finds the least place from there on where the word stands. -/
theorem findFrom_eq_some_iff {word text : List Char} {start p : Nat} (hw : word ≠ []) :
    findFrom word start text = some p ↔ IsLeast {p | start ≤ p ∧ OccursAt word text p} p := by
  by_cases inside : start ≤ text.length
  · rw [findFrom, if_pos inside, findAt_eq_map_find]
    simp only [Option.map_eq_some_iff, find_eq_some_iff hw, occursAt_drop_iff, isLeast_add_iff]
    constructor
    · rintro ⟨q, least, rfl⟩
      rwa [Nat.add_comm]
    · intro least
      obtain ⟨q, rfl⟩ := Nat.exists_eq_add_of_le least.1.1
      exact ⟨q, least, Nat.add_comm q start⟩
  · rw [findFrom, if_neg inside]
    refine ⟨fun he => (by cases he), ?_⟩
    rintro ⟨⟨hp, at_p⟩, -⟩
    have := OccursAt.add_length_le at_p hw
    omega

theorem findFrom_leastOf {word text : List Char} (hw : word ≠ []) (start : Nat) :
    LeastOf (fun p => start ≤ p ∧ OccursAt word text p) (findFrom word start text) :=
  leastOf_of_iff fun _ => findFrom_eq_some_iff hw

end Completions.Text
