import Completions.Text.Blank
import Mathlib.Data.List.Infix

/-! Trimmed texts. What trimming leaves is a part of the text, and it does not go into a part that
neither begins nor ends with a blank. -/

namespace Completions

namespace Text

variable {a b t : List Char}

theorem isSuffix_trimStart (t : List Char) : trimStart t <:+ t := List.dropWhile_suffix _

theorem isPrefix_trimEnd (t : List Char) : trimEnd t <+: t := by
  rw [trimEnd, ← List.reverse_suffix, List.reverse_reverse]
  exact List.dropWhile_suffix _

theorem isInfix_trim (t : List Char) : trim t <:+: t :=
  (isPrefix_trimEnd _).isInfix.trans (isSuffix_trimStart t).isInfix

theorem trimStart_append_of_blank (blank : trimStart a = []) :
    trimStart (a ++ b) = trimStart b := by
  rw [trimStart] at blank
  simp [trimStart, List.dropWhile_append, blank]

theorem trimStart_append_of_printed (printed : trimStart a ≠ []) :
    trimStart (a ++ b) = trimStart a ++ b := by
  rw [trimStart] at printed
  simp [trimStart, List.dropWhile_append, printed]

theorem trimStart_append (begins : ∃ c ∈ b.head?, isBlank c = false) :
    trimStart (a ++ b) = trimStart a ++ b := by
  by_cases blank : trimStart a = []
  · obtain ⟨c, first, printed⟩ := begins
    obtain ⟨b, rfl⟩ := List.head?_eq_some_iff.1 first
    rw [trimStart_append_of_blank blank, blank]
    simp [trimStart, printed]
  · exact trimStart_append_of_printed blank

theorem trimEnd_append (ends : ∃ c ∈ b.getLast?, isBlank c = false) :
    trimEnd (a ++ b) = a ++ b := by
  obtain ⟨c, last, printed⟩ := ends
  obtain ⟨b, rfl⟩ := List.getLast?_eq_some_iff.1 last
  have stays : ((a ++ (b ++ [c])).reverse).dropWhile isBlank = (a ++ (b ++ [c])).reverse := by
    simp [printed]
  rw [trimEnd, stays, List.reverse_reverse]

/-- Trimming reaches into no text that begins and ends with a character that is not blank. -/
structure Edged (t : List Char) : Prop where
  begins : ∃ c ∈ t.head?, isBlank c = false
  ends : ∃ c ∈ t.getLast?, isBlank c = false

theorem Edged.ne_nil (edged : Edged t) : t ≠ [] := by
  obtain ⟨c, among, -⟩ := edged.begins
  rintro rfl
  cases among

theorem Edged.trim_append (edged : Edged b) (a : List Char) : trim (a ++ b) = trimStart a ++ b := by
  rw [trim, trimStart_append edged.begins, trimEnd_append edged.ends]

theorem trimEnd_cons (c : Char) (t : List Char) :
    trimEnd (c :: t) = if trimEnd t = [] ∧ isBlank c = true then [] else c :: trimEnd t := by
  rw [trimEnd, List.reverse_cons, List.dropWhile_append]
  by_cases none : t.reverse.dropWhile isBlank = []
  · by_cases blank : isBlank c = true
    · simp [trimEnd, none, blank]
    · simp [trimEnd, none, blank]
  · simp [trimEnd, none]

theorem trimStart_trimEnd (t : List Char) : trimStart (trimEnd t) = trim t := by
  induction t with
  | nil => rfl
  | cons c t ih =>
    by_cases blank : isBlank c = true
    · have rest : trim (c :: t) = trim t := by simp [trim, trimStart, blank]
      rw [rest, trimEnd_cons]
      by_cases none : trimEnd t = []
      · rw [if_pos ⟨none, blank⟩, ← ih, none]
      · rw [if_neg fun h => none h.1, ← ih]
        simp [trimStart, blank]
    · have whole : trim (c :: t) = trimEnd (c :: t) := by simp [trim, trimStart, blank]
      rw [whole, trimEnd_cons, if_neg fun h => blank h.2]
      simp [trimStart, blank]

end Text

theorem toList_stripped (s : String) : (stripped s).toList = Text.trim s.toList :=
  String.toList_ofList

theorem toList_strippedEnd (s : String) : (strippedEnd s).toList = Text.trimEnd s.toList :=
  String.toList_ofList

theorem isInfix_stripped (s : String) : (stripped s).toList <:+: s.toList := by
  rw [toList_stripped]
  exact Text.isInfix_trim _

end Completions
