import Completions.Json.Reader
import Completions.Json.Writer
import Completions.Proofs.LeadingDigit
import Mathlib.Data.List.Basic

/-! What is written for a number is read as a number: a whole number of any size as itself, and a
double as some double. Main statements: `value_intDigits` and `value_spell`. -/

namespace Completions.Json

variable {rest : List Char}

def Carries (c : Char) : Prop := c.isDigit = true ∨ c = '.' ∨ c = 'e' ∨ c = 'E'

instance (c : Char) : Decidable (Carries c) :=
  inferInstanceAs (Decidable (c.isDigit = true ∨ c = '.' ∨ c = 'e' ∨ c = 'E'))

/-- A text before which a number ends. -/
def Ends (rest : List Char) : Prop := ∀ c ∈ rest.head?, ¬Carries c

theorem ends_nil : Ends [] := nofun

theorem ends_of_not_carries {c : Char} (other : ¬Carries c) (cs : List Char) : Ends (c :: cs) := by
  intro d front
  rwa [← Option.some.inj front]

def Stops (rest : List Char) : Prop := ∀ c ∈ rest.head?, ¬c.isDigit = true

theorem Ends.stops (ends : Ends rest) : Stops rest := fun c front digit => ends c front (.inl digit)

theorem stops_cons {c : Char} (other : ¬c.isDigit = true) (cs : List Char) : Stops (c :: cs) := by
  intro d front
  rwa [← Option.some.inj front]

theorem ne_of_isDigit {c d : Char} (digit : c.isDigit = true) (other : d.isDigit = false) : c ≠ d := by
  intro same
  rw [same, other] at digit
  cases digit

section Digits

structure Digits (ds : List Char) : Prop where
  nonempty : ds ≠ []
  digit : ∀ c ∈ ds, c.isDigit = true

theorem digits_toDigits (n : Nat) : Digits (Nat.toDigits 10 n) :=
  ⟨Nat.toDigits_ne_nil, fun _ hc => Nat.isDigit_of_mem_toDigits (by decide) (by decide) hc⟩

theorem digit_zeros {c : Char} {n : Nat} (zero : c ∈ List.replicate n '0') : c.isDigit = true := by
  rw [List.eq_of_mem_replicate zero]
  rfl

theorem Digits.pad {ds : List Char} (digits : Digits ds) (n : Nat) :
    Digits (List.replicate n '0' ++ ds) := by
  refine ⟨List.append_ne_nil_of_right_ne_nil _ digits.nonempty, fun c hc => ?_⟩
  obtain zero | digit := List.mem_append.1 hc
  · exact digit_zeros zero
  · exact digits.digit c digit

theorem Digits.split {ds : List Char} (digits : Digits ds) :
    ∃ d cs, ds = d :: cs ∧ d.isDigit = true ∧ ∀ c ∈ cs, c.isDigit = true := by
  obtain ⟨d, cs, rfl⟩ := List.exists_cons_of_ne_nil digits.nonempty
  exact ⟨d, cs, rfl, List.forall_mem_cons.1 digits.digit⟩

theorem toDigits_head {n : Nat} (positive : 0 < n) : (Nat.toDigits 10 n).head? ≠ some '0' := by
  induction n using Nat.strongRecOn with
  | ind n ih =>
    by_cases small : n < 10
    · rw [Nat.toDigits_of_lt_base small, List.head?_cons]
      intro zero
      have : n = 0 := Nat.digitChar_eq_zero.1 (Option.some.inj zero)
      omega
    · have more : 0 < n / 10 := Nat.div_pos (Nat.le_of_not_lt small) (by decide)
      rw [Nat.toDigits_of_base_le (by decide) (Nat.le_of_not_lt small),
        List.head?_append_of_ne_nil _ Nat.toDigits_ne_nil]
      exact ih (n / 10) (by omega) more

theorem digitsFront_append {ds : List Char} (digits : ∀ c ∈ ds, c.isDigit = true)
    (stops : Stops rest) : digitsFront (ds ++ rest) = (ds, rest) := by
  have ended : rest.takeWhile Char.isDigit = [] ∧ rest.dropWhile Char.isDigit = rest := by
    cases rest with
    | nil => exact ⟨rfl, rfl⟩
    | cons c cs =>
      have other := stops c rfl
      exact ⟨List.takeWhile_cons_of_neg other, List.dropWhile_cons_of_neg other⟩
  rw [digitsFront, List.takeWhile_append_of_pos digits, List.dropWhile_append_of_pos digits, ended.1,
    ended.2, List.append_nil]

/-- The whole part of a number: a zero alone, or digits with no zero in front. -/
inductive Whole : List Char → Prop
  | zero : Whole ['0']
  | digits {d : Char} {ds : List Char} (notZero : d ≠ '0') (digits : ∀ c ∈ d :: ds, c.isDigit = true) :
    Whole (d :: ds)

theorem whole_toDigits (n : Nat) : Whole (Nat.toDigits 10 n) := by
  obtain rfl | positive := Nat.eq_zero_or_pos n
  · exact .zero
  · have front := toDigits_head positive
    have all := (digits_toDigits n).digit
    obtain ⟨d, ds, shape, -⟩ := (digits_toDigits n).split
    rw [shape] at front all ⊢
    exact .digits (fun zero => front (congrArg some zero)) all

theorem whole_digit {d : Char} (digit : d.isDigit = true) : Whole [d] := by
  by_cases zero : d = '0'
  · rw [zero]
    exact .zero
  · exact .digits zero (by simpa using digit)

theorem Whole.front {w : List Char} (whole : Whole w) :
    ∃ d ds, w = d :: ds ∧ d.isDigit = true := by
  cases whole with
  | zero => exact ⟨'0', [], rfl, rfl⟩
  | digits _ digits => exact ⟨_, _, rfl, digits _ (List.mem_cons_self ..)⟩

theorem wholePart?_whole {w : List Char} (whole : Whole w) (stops : Stops rest) :
    wholePart? (w ++ rest) = some (w, rest) := by
  cases whole with
  | zero => rfl
  | digits notZero digits =>
    have read := digitsFront_append digits stops
    rw [List.cons_append] at read ⊢
    rw [wholePart?, if_pos (digits _ (List.mem_cons_self ..)), read]
    exact notZero

end Digits

section Parts

variable {w f es : List Char} {s : Char}

theorem fractionPart_ends (ends : Ends rest) : fractionPart rest = ([], rest) := by
  unfold fractionPart
  split
  · exact absurd (.inr (.inl rfl)) (ends '.' rfl)
  · rfl

theorem fractionPart_point (digits : Digits f) (stops : Stops rest) :
    fractionPart ('.' :: (f ++ rest)) = (f, rest) := by
  have nonempty := digits.nonempty
  rw [fractionPart, digitsFront_append digits.digit stops]
  cases f with
  | nil => exact absurd rfl nonempty
  | cons d ds => rfl

theorem exponentPart_ends (ends : Ends rest) : exponentPart rest = (none, rest) := by
  unfold exponentPart
  split
  · next c cs =>
    rw [if_neg fun mark => ends c rfl (.inr (.inr mark))]
  · rfl

theorem exponentPart_mark (sign : s = '+' ∨ s = '-') (digits : Digits es) (stops : Stops rest) :
    exponentPart ('e' :: s :: (es ++ rest)) =
      (some (if s = '-' then -(Nat.ofDigitChars 10 es 0 : Int) else Nat.ofDigitChars 10 es 0),
        rest) := by
  have read := digitsFront_append digits.digit stops
  obtain ⟨d, ds, rfl, -⟩ := digits.split
  obtain rfl | rfl := sign
  · rw [exponentPart, if_pos (.inl rfl)]
    simp only [exponentSign, read]
    rfl
  · rw [exponentPart, if_pos (.inl rfl)]
    simp only [exponentSign, read]

theorem unsigned?_toDigits (negative : Bool) (n : Nat) (ends : Ends rest) :
    unsigned? negative (Nat.toDigits 10 n ++ rest) =
      some (.int (if negative then -(n : Int) else n), rest) := by
  simp [unsigned?, wholePart?_whole (whole_toDigits n) ends.stops, fractionPart_ends ends,
    exponentPart_ends ends, Nat.ofDigitChars_ten_toDigits]

/-- The text of a number without a sign that is read as a double. -/
structure Double (cs : List Char) : Prop where
  front : ∃ d ds, cs = d :: ds ∧ d.isDigit = true
  reads : ∀ negative, ∃ x, ∀ rest, Ends rest → unsigned? negative (cs ++ rest) = some (.float x, rest)

theorem Whole.front_append (whole : Whole w) (cs : List Char) :
    ∃ d ds, w ++ cs = d :: ds ∧ d.isDigit = true := by
  obtain ⟨d, ds, rfl, digit⟩ := whole.front
  exact ⟨d, _, rfl, digit⟩

theorem double_point (whole : Whole w) (digits : Digits f) : Double (w ++ '.' :: f) where
  front := whole.front_append _
  reads negative := by
    refine ⟨Number.ofDecimal negative (Nat.ofDigitChars 10 (w ++ f) 0) (-f.length),
      fun rest ends => ?_⟩
    have stops : Stops ('.' :: (f ++ rest)) := stops_cons (by decide) _
    simp [unsigned?, wholePart?_whole whole stops, fractionPart_point digits ends.stops,
      exponentPart_ends ends, digits.nonempty]

theorem double_exponent (whole : Whole w) (sign : s = '+' ∨ s = '-') (digits : Digits es) :
    Double (w ++ 'e' :: s :: es) where
  front := whole.front_append _
  reads negative := by
    refine ⟨Number.ofDecimal negative (Nat.ofDigitChars 10 w 0)
      (if s = '-' then -(Nat.ofDigitChars 10 es 0 : Int) else Nat.ofDigitChars 10 es 0),
      fun rest ends => ?_⟩
    have stops : Stops ('e' :: s :: (es ++ rest)) := stops_cons (by decide) _
    have fraction : fractionPart ('e' :: s :: (es ++ rest)) = ([], 'e' :: s :: (es ++ rest)) := rfl
    simp [unsigned?, wholePart?_whole whole stops, fraction,
      exponentPart_mark sign digits ends.stops]

theorem double_point_exponent (whole : Whole w) (fraction : Digits f) (sign : s = '+' ∨ s = '-')
    (digits : Digits es) : Double (w ++ '.' :: (f ++ 'e' :: s :: es)) where
  front := whole.front_append _
  reads negative := by
    refine ⟨Number.ofDecimal negative (Nat.ofDigitChars 10 (w ++ f) 0)
      ((if s = '-' then -(Nat.ofDigitChars 10 es 0 : Int) else Nat.ofDigitChars 10 es 0) - f.length),
      fun rest ends => ?_⟩
    have stops : Stops ('.' :: (f ++ 'e' :: s :: (es ++ rest))) := stops_cons (by decide) _
    have stops' : Stops ('e' :: s :: (es ++ rest)) := stops_cons (by decide) _
    simp [unsigned?, wholePart?_whole whole stops, fractionPart_point fraction stops',
      exponentPart_mark sign digits ends.stops]

end Parts

section Spelling

open Number

theorem double_positional {n : Nat} (positive : 0 < n) (point : Int) :
    Double (positional (decimalDigits n) point) := by
  have digits := digits_toDigits n
  unfold positional
  split_ifs with below
  · exact double_point .zero (digits.pad _)
  · obtain ⟨d, ds, shape, digit, others⟩ := digits.split
    have notZero : d ≠ '0' := by
      intro zero
      exact toDigits_head positive (by rw [shape, zero]; rfl)
    have padded (c : Char) (hc : c ∈ d :: (ds ++ List.replicate
        (point.toNat + 1 - (d :: ds).length) '0')) : c.isDigit = true := by
      obtain rfl | later := List.mem_cons.1 hc
      · exact digit
      · exact (List.mem_append.1 later).elim (others c) digit_zeros
    rw [decimalDigits, shape]
    dsimp only
    rw [List.cons_append, List.take_succ_cons, List.drop_succ_cons]
    refine double_point (.digits notZero fun c hc => ?_) ?_
    · exact padded c (List.mem_of_mem_take (i := point.toNat + 1) hc)
    · split_ifs with whole
      · exact ⟨by simp, by simp⟩
      · refine ⟨by simpa using whole, fun c hc => ?_⟩
        exact padded c (.tail _ (List.mem_of_mem_drop hc))

theorem double_scientific (style : FloatStyle) (n : Nat) (point : Int) :
    Double (scientific style (decimalDigits n) point) := by
  have sign : (if point < 0 then '-' else '+') = '+' ∨ (if point < 0 then '-' else '+') = '-' := by
    split_ifs
    · exact .inr rfl
    · exact .inl rfl
  obtain ⟨d, ds, shape, digit, others⟩ := (digits_toDigits n).split
  have exponent := (digits_toDigits point.natAbs).pad
    (style.exponentDigits - (decimalDigits point.natAbs).length)
  unfold scientific
  rw [decimalDigits, shape]
  cases ds with
  | nil => simpa [decimalDigits] using double_exponent (whole_digit digit) sign exponent
  | cons e ds =>
    have fraction : Digits (e :: ds) := ⟨by simp, others⟩
    simpa [decimalDigits] using double_point_exponent (whole_digit digit) fraction sign exponent

end Spelling

section Values

variable {fuel : Nat}

/-- A character with which a value begins, and that no reader skips or takes for an end. -/
structure Begins (c : Char) : Prop where
  notSpace : isSpace c = false
  notBracket : c ≠ ']'
  notMark : c ≠ '\uFEFF'

instance (c : Char) : Decidable (Begins c) :=
  decidable_of_iff (isSpace c = false ∧ c ≠ ']' ∧ c ≠ '\uFEFF')
    ⟨fun ⟨space, bracket, mark⟩ => ⟨space, bracket, mark⟩,
      fun begins => ⟨begins.notSpace, begins.notBracket, begins.notMark⟩⟩

theorem begins_digit {c : Char} (digit : c.isDigit = true) : Begins c where
  notSpace := by
    simp [isSpace, ne_of_isDigit digit (d := ' ') rfl, ne_of_isDigit digit (d := '\t') rfl,
      ne_of_isDigit digit (d := '\n') rfl, ne_of_isDigit digit (d := '\r') rfl]
  notBracket := ne_of_isDigit digit rfl
  notMark := ne_of_isDigit digit rfl

theorem word?_digit {cs : List Char} {d : Char} (front : d ∈ cs.take 2) (digit : d.isDigit = true) :
    word? cs = none := by
  have letters : ∀ w ∈ words.map Prod.fst, 2 ≤ w.toList.length ∧
      w.toList.all (fun c => !c.isDigit) = true := by
    decide
  refine List.findSome?_eq_none_iff.2 fun w known => if_neg fun begins => ?_
  obtain ⟨long, noDigit⟩ := letters w.1 (List.mem_map_of_mem known)
  obtain ⟨left, rfl⟩ := List.isPrefixOf_iff_prefix.1 begins
  rw [List.take_append_of_le_length long] at front
  have other := List.all_eq_true.1 noDigit d (List.mem_of_mem_take front)
  rw [digit] at other
  cases other

theorem value_leaf {c : Char} {cs : List Char} {v : Json}
    (other : c ≠ '"' ∧ c ≠ '[' ∧ c ≠ '\x7b')
    (read : (word? (c :: cs)).or (number? (c :: cs)) = some (v, rest)) :
    value (fuel + 1) (c :: cs) = .ok (v, rest) := by
  rw [value, if_neg other.1, if_neg other.2.1, if_neg other.2.2, read]

def signed (negative : Bool) (cs : List Char) : List Char := (if negative then ['-'] else []) ++ cs

theorem value_signed {d : Char} {ds : List Char} {v : Json} (negative : Bool)
    (digit : d.isDigit = true) (read : unsigned? negative (d :: ds) = some (v, rest)) :
    value (fuel + 1) (signed negative (d :: ds)) = .ok (v, rest) := by
  cases negative with
  | true =>
    have noWord : word? ('-' :: d :: ds) = none := word?_digit (d := d) (by simp) digit
    have number : number? ('-' :: d :: ds) = some (v, rest) := read
    have shape : signed true (d :: ds) = '-' :: d :: ds := rfl
    rw [shape]
    exact value_leaf (by decide) (by rw [noWord, Option.none_or, number])
  | false =>
    have noWord : word? (d :: ds) = none := word?_digit (d := d) (by simp) digit
    have number : number? (d :: ds) = some (v, rest) := by
      rw [number?]
      · exact read
      · exact fun cs same => ne_of_isDigit digit rfl (List.cons.inj same).1
    refine value_leaf ⟨ne_of_isDigit digit rfl, ne_of_isDigit digit rfl, ne_of_isDigit digit rfl⟩ ?_
    rw [noWord, Option.none_or, number]

theorem signed_begins {d : Char} (negative : Bool) (digit : d.isDigit = true) (ds : List Char) :
    ∃ c cs, signed negative (d :: ds) = c :: cs ∧ Begins c := by
  cases negative with
  | true => exact ⟨'-', _, rfl, by decide⟩
  | false => exact ⟨d, ds, rfl, begins_digit digit⟩

theorem intDigits_eq (n : Int) :
    Number.intDigits n = signed (decide (n < 0)) (Nat.toDigits 10 n.natAbs) := by
  by_cases negative : n < 0 <;> simp [Number.intDigits, signed, negative, Number.decimalDigits]

theorem value_intDigits (n : Int) (ends : Ends rest) :
    value (fuel + 1) (Number.intDigits n ++ rest) = .ok (.int n, rest) := by
  have read := unsigned?_toDigits (decide (n < 0)) n.natAbs ends
  have same : (if decide (n < 0) = true then -(n.natAbs : Int) else n.natAbs) = n := by
    simp only [decide_eq_true_eq]
    split_ifs <;> omega
  obtain ⟨d, ds, shape, digit, -⟩ := (digits_toDigits n.natAbs).split
  rw [same, shape, List.cons_append] at read
  rw [intDigits_eq, shape, signed, List.append_assoc]
  exact value_signed _ digit read

theorem intDigits_begins (n : Int) : ∃ c cs, Number.intDigits n = c :: cs ∧ Begins c := by
  obtain ⟨d, ds, shape, digit, -⟩ := (digits_toDigits n.natAbs).split
  rw [intDigits_eq, shape]
  exact signed_begins _ digit ds

/-- What is written for a double: a word for what is no number or infinite, or a number. -/
inductive Spelled : List Char → Prop
  | word {w : String} (known : w ∈ ["NaN", "Infinity", "-Infinity"]) : Spelled w.toList
  | number (negative : Bool) {cs : List Char} (double : Double cs) : Spelled (signed negative cs)

theorem spelled_spell (x : Float) : Spelled (Number.spell floatStyle x) := by
  unfold Number.spell
  split
  · split_ifs
    · exact .word (by decide)
    · exact .word (by decide)
    · exact .word (by decide)
  · next b _ =>
    dsimp only
    by_cases zero : b.significand = 0
    · rw [if_pos zero]
      exact .number b.negative (double_point .zero ⟨by simp, by simp⟩)
    · rw [if_neg zero]
      refine .number b.negative ?_
      split_ifs
      · exact double_positional (Number.shortest_pos (Nat.pos_of_ne_zero zero)) _
      · exact double_scientific _ _ _

theorem Spelled.begins {cs : List Char} (spelled : Spelled cs) :
    ∃ c ds, cs = c :: ds ∧ Begins c := by
  cases spelled with
  | word known =>
    simp only [List.mem_cons, List.not_mem_nil, or_false] at known
    obtain rfl | rfl | rfl := known
    · exact ⟨'N', _, rfl, by decide⟩
    · exact ⟨'I', _, rfl, by decide⟩
    · exact ⟨'-', _, rfl, by decide⟩
  | number negative double =>
    obtain ⟨d, ds, rfl, digit⟩ := double.front
    exact signed_begins negative digit ds

theorem Spelled.value {cs : List Char} (spelled : Spelled cs) :
    ∃ x, ∀ fuel rest, Ends rest → Json.value (fuel + 1) (cs ++ rest) = .ok (.float x, rest) := by
  cases spelled with
  | word known =>
    simp only [List.mem_cons, List.not_mem_nil, or_false] at known
    obtain rfl | rfl | rfl := known
    · exact ⟨_, fun fuel rest _ => value_leaf (by decide) rfl⟩
    · exact ⟨_, fun fuel rest _ => value_leaf (by decide) rfl⟩
    · exact ⟨_, fun fuel rest _ => value_leaf (by decide) rfl⟩
  | number negative double =>
    obtain ⟨d, ds, rfl, digit⟩ := double.front
    obtain ⟨x, reads⟩ := double.reads negative
    refine ⟨x, fun fuel rest ends => ?_⟩
    rw [signed, List.append_assoc]
    exact value_signed negative digit (reads rest ends)

/-- The double that is read where this one was written. -/
def respelled (x : Float) : Float :=
  match value 1 (Number.spell floatStyle x) with
  | .ok (.float y, _) => y
  | _ => x

theorem value_spell (x : Float) (ends : Ends rest) :
    value (fuel + 1) (Number.spell floatStyle x ++ rest) = .ok (.float (respelled x), rest) := by
  obtain ⟨y, reads⟩ := (spelled_spell x).value
  have alone := reads 0 [] ends_nil
  rw [List.append_nil] at alone
  rw [respelled, alone]
  exact reads fuel rest ends

end Values

end Completions.Json
