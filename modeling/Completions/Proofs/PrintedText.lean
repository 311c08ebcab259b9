import Completions.Json.Writer
import Mathlib.Data.List.Basic

/-! The text of a JSON value has no control character: strings have theirs escaped, and nothing else
has any. Main statement: `printed_write`. -/

namespace Completions

/-- No character is a control, so the text is one line. -/
def Printed (cs : List Char) : Prop := ∀ c ∈ cs, 0x20 ≤ c.toNat

instance (cs : List Char) : Decidable (Printed cs) :=
  decidable_of_iff (cs.all fun c => decide (0x20 ≤ c.toNat)) (by simp [Printed])

section Texts

variable {cs ds : List Char}

@[simp] theorem printed_nil : Printed [] := List.forall_mem_nil _

@[simp] theorem printed_cons {c : Char} : Printed (c :: cs) ↔ 0x20 ≤ c.toNat ∧ Printed cs :=
  List.forall_mem_cons

@[simp] theorem printed_append : Printed (cs ++ ds) ↔ Printed cs ∧ Printed ds :=
  List.forall_mem_append

theorem Printed.of_subset (printed : Printed ds) (within : cs ⊆ ds) : Printed cs :=
  fun c hc => printed c (within hc)

theorem Printed.take (printed : Printed cs) (n : Nat) : Printed (cs.take n) :=
  printed.of_subset (List.take_subset n cs)

theorem Printed.drop (printed : Printed cs) (n : Nat) : Printed (cs.drop n) :=
  printed.of_subset (List.drop_subset n cs)

@[simp] theorem printed_zeros (n : Nat) : Printed (List.replicate n '0') := fun c hc => by
  rw [List.eq_of_mem_replicate hc]
  decide

theorem printed_digitChar : ∀ d : Fin 16, 0x20 ≤ (Nat.digitChar d).toNat := by
  decide

theorem printed_toDigits {base : Nat} (several : 1 < base) (letters : base ≤ 16) (n : Nat) :
    Printed (Nat.toDigits base n) := by
  induction n using Nat.strongRecOn with
  | ind n ih =>
    by_cases small : n < base
    · rw [Nat.toDigits_of_lt_base small]
      simpa using printed_digitChar ⟨n, by omega⟩
    · have smaller : n / base < n := Nat.div_lt_self (by omega) several
      have digit : n % base < base := Nat.mod_lt n (by omega)
      rw [Nat.toDigits_of_base_le several (Nat.le_of_not_lt small), printed_append]
      exact ⟨ih _ smaller, by simpa using printed_digitChar ⟨n % base, by omega⟩⟩

end Texts

namespace Number

@[simp] theorem printed_decimalDigits (n : Nat) : Printed (decimalDigits n) :=
  printed_toDigits (by decide) (by decide) n

theorem printed_intDigits (n : Int) : Printed (intDigits n) := by
  unfold intDigits
  split_ifs <;> simp

theorem printed_positional {ds : List Char} (digits : Printed ds) (point : Int) :
    Printed (positional ds point) := by
  have padded (n : Nat) : Printed (ds ++ List.replicate n '0') := by simpa using digits
  unfold positional
  split_ifs
  · simpa using digits
  · dsimp only
    split_ifs
    · simpa using (padded _).take _
    · simpa using ⟨(padded _).take _, (padded _).drop _⟩

theorem printed_scientific (style : FloatStyle) {ds : List Char} (digits : Printed ds) (point : Int) :
    Printed (scientific style ds point) := by
  unfold scientific
  have front := digits.take 1
  have later := digits.drop 1
  dsimp only
  generalize ds.take 1 = first at front
  generalize ds.drop 1 = fraction at later
  split_ifs <;> simp [front, later]

theorem printed_spell (x : Float) : Printed (spell Json.floatStyle x) := by
  unfold spell
  split
  · split_ifs <;> decide
  · dsimp only
    split_ifs
    all_goals simp [printed_positional, printed_scientific]

end Number

namespace Json

theorem printed_escapeChar (c : Char) : Printed (escapeChar c) := by
  have digits : Printed (Nat.toDigits 16 c.toNat) := printed_toDigits (by decide) (by decide) _
  unfold escapeChar
  split_ifs with _ _ _ _ _ _ _ control
  any_goals decide
  · simpa [hexDigits] using digits
  · simpa using control

theorem printed_writeString (s : List Char) : Printed (writeString s) := by
  have body : Printed (s.flatMap escapeChar) := fun c hc => by
    obtain ⟨d, -, here⟩ := List.mem_flatMap.1 hc
    exact printed_escapeChar d c here
  simpa [writeString] using body

mutual

theorem printed_write : ∀ v : Json, Printed v.write
  | .null => by decide
  | .bool true => by decide
  | .bool false => by decide
  | .int n => Number.printed_intDigits n
  | .float x => Number.printed_spell x
  | .str s => printed_writeString s.toList
  | .arr items => by simpa [write] using printed_writeItems items
  | .obj fields => by simpa [write] using printed_writeFields fields

theorem printed_writeItems : ∀ vs : List Json, Printed (writeItems vs)
  | [] => printed_nil
  | [v] => printed_write v
  | v :: w :: rest => by simpa [writeItems] using ⟨printed_write v, printed_writeItems (w :: rest)⟩

theorem printed_writeFields : ∀ fields : List (String × Json), Printed (writeFields fields)
  | [] => printed_nil
  | [(k, v)] => by simpa [writeFields] using ⟨printed_writeString k.toList, printed_write v⟩
  | (k, v) :: f :: rest => by
    simpa [writeFields] using
      ⟨printed_writeString k.toList, printed_write v, printed_writeFields (f :: rest)⟩

end

end Json

end Completions
