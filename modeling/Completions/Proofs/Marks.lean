import Completions.Proofs.Occurrence

/-! Marks: words whose first character does not come again in them. Two places of a mark do not
overlap, so texts without the mark that are put around it can be told apart from it. -/

namespace Completions.Text

variable {c : Char} {w a b d x y : List Char}

theorem mark_apart (once : c ∉ w) (both : c :: w ++ x = d ++ (c :: w ++ y)) :
    d = [] ∨ ∃ e, d = c :: w ++ e ∧ x = e ++ (c :: w ++ y) := by
  cases d with
  | nil => exact .inl rfl
  | cons _ d =>
    obtain ⟨rfl, tails⟩ := List.cons.inj both
    obtain ⟨e, rfl, rest⟩ | ⟨e, inside, rest⟩ := List.append_eq_append_iff.1 tails
    · exact .inr ⟨e, rfl, rest⟩
    · cases e with
      | nil =>
        rw [List.append_nil] at inside
        exact .inr ⟨[], by rw [inside, List.append_nil], rest.symm⟩
      | cons _ e =>
        -- The second mark would begin within the first one.
        obtain ⟨rfl, -⟩ := List.cons.inj rest
        exact absurd (by simp [inside]) once

theorem eq_nil_of_mark (once : c ∉ w) (fresh : ¬c :: w <:+: d)
    (both : c :: w ++ x = d ++ (c :: w ++ y)) : d = [] := by
  obtain start | ⟨e, rfl, -⟩ := mark_apart once both
  · exact start
  · exact absurd ⟨[], e, rfl⟩ fresh

/-- Up to its first mark a text can be read in one way only. -/
theorem append_mark_inj (once : c ∉ w) (left : ¬c :: w <:+: a) (right : ¬c :: w <:+: b) :
    a ++ (c :: w ++ x) = b ++ (c :: w ++ y) ↔ a = b ∧ x = y := by
  constructor
  · intro same
    have shared : a = b := by
      obtain ⟨d, rfl, both⟩ | ⟨d, rfl, both⟩ := List.append_eq_append_iff.1 same
      · have fresh : ¬c :: w <:+: d := fun inside =>
          right (inside.trans (List.suffix_append a d).isInfix)
        rw [eq_nil_of_mark once fresh both, List.append_nil]
      · have fresh : ¬c :: w <:+: d := fun inside =>
          left (inside.trans (List.suffix_append b d).isInfix)
        rw [eq_nil_of_mark once fresh both, List.append_nil]
    subst shared
    exact ⟨rfl, List.append_cancel_left (List.append_cancel_left same)⟩
  · rintro ⟨rfl, rfl⟩
    rfl

theorem existsUnique_occursAt_mark (once : c ∉ w) (before : ¬c :: w <:+: a)
    (behind : ¬c :: w <:+: b) : ∃! p, OccursAt (c :: w) (a ++ (c :: w ++ b)) p := by
  refine ⟨a.length, ⟨b, (List.drop_left).symm⟩, fun p occurs => ?_⟩
  obtain ⟨y, rest⟩ := occurs
  have whole : a ++ (c :: w ++ b) = (a ++ (c :: w ++ b)).take p ++ (c :: w ++ y) := by
    rw [rest, List.take_append_drop]
  have place : p = ((a ++ (c :: w ++ b)).take p).length := by
    have holds := congrArg List.length rest
    simp only [List.length_append, List.length_cons, List.length_drop, List.length_take] at holds ⊢
    omega
  generalize (a ++ (c :: w ++ b)).take p = front at whole place
  obtain ⟨d, rfl, both⟩ | ⟨d, rfl, both⟩ := List.append_eq_append_iff.1 whole
  · obtain rfl | ⟨e, -, later⟩ := mark_apart once both
    · simpa using place
    · exact absurd ⟨e, y, by rw [later, List.append_assoc]⟩ behind
  · have fresh : ¬c :: w <:+: d := fun inside =>
      before (inside.trans (List.suffix_append front d).isInfix)
    obtain rfl := eq_nil_of_mark once fresh both
    simpa using place

/-- A text that begins with none of the later characters of a word does not finish the word. -/
theorem infix_append_of_head (apart : ∀ e ∈ b.head?, e ∉ w) :
    c :: w <:+: a ++ b ↔ c :: w <:+: a ∨ c :: w <:+: b := by
  rw [List.infix_append_iff_ne_nil]
  refine or_congr_right (or_iff_left ?_)
  rintro ⟨l, r, begun, more, split, -, rest⟩
  obtain ⟨_, l, rfl⟩ := List.exists_cons_of_ne_nil begun
  obtain ⟨e, r, rfl⟩ := List.exists_cons_of_ne_nil more
  obtain ⟨-, rfl⟩ := List.cons.inj split
  obtain ⟨t, rfl⟩ := rest
  exact apart e rfl (by simp)

end Completions.Text
