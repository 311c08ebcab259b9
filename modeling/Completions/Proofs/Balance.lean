import Completions.Json.Reader
import Completions.Proofs.Outcome
import Completions.Tool.Mention
import Mathlib.Data.List.TakeWhile

/-! Texts whose braces are closed again and whose strings are whole. The reader of braces goes over
such a text as a whole, and what the reader of JSON takes for one value is such a text. Main
statement: `objectAt?_of_read`. -/

namespace Completions

/-- What stands after the quote that begins a string, up to the quote that ends it. -/
inductive Quoted : List Char → Prop
  | close : Quoted ['"']
  | char {c : Char} {cs : List Char} (notQuote : c ≠ '"') (notSlash : c ≠ '\\') (rest : Quoted cs) :
    Quoted (c :: cs)
  | escape (c : Char) {cs : List Char} (rest : Quoted cs) : Quoted ('\\' :: c :: cs)

structure Bare (c : Char) : Prop where
  notQuote : c ≠ '"'
  notOpen : c ≠ '\x7b'
  notClose : c ≠ '\x7d'

instance (c : Char) : Decidable (Bare c) :=
  decidable_of_iff (c ≠ '"' ∧ c ≠ '\x7b' ∧ c ≠ '\x7d')
    ⟨fun ⟨quote, opening, closing⟩ => ⟨quote, opening, closing⟩,
      fun bare => ⟨bare.notQuote, bare.notOpen, bare.notClose⟩⟩

inductive Balanced : List Char → Prop
  | nil : Balanced []
  | bare {c : Char} {cs : List Char} (bare : Bare c) (rest : Balanced cs) : Balanced (c :: cs)
  | quoted {s cs : List Char} (s_quoted : Quoted s) (rest : Balanced cs) : Balanced ('"' :: (s ++ cs))
  | nested {cs ds : List Char} (inner : Balanced cs) (rest : Balanced ds) :
    Balanced ('\x7b' :: (cs ++ '\x7d' :: ds))

theorem Balanced.append {cs ds : List Char} (first : Balanced cs) (second : Balanced ds) :
    Balanced (cs ++ ds) := by
  induction first with
  | nil => exact second
  | bare bare _ ih => exact .bare bare ih
  | quoted s_quoted _ ih =>
    rw [List.cons_append, List.append_assoc]
    exact .quoted s_quoted ih
  | nested inner _ _ ih =>
    rw [List.cons_append, List.append_assoc, List.cons_append]
    exact .nested inner ih

theorem balanced_of_bare {cs : List Char} (bare : ∀ c ∈ cs, Bare c) : Balanced cs := by
  induction cs with
  | nil => exact .nil
  | cons c cs ih =>
    have ⟨first, rest⟩ := List.forall_mem_cons.1 bare
    exact .bare first (ih rest)

namespace Tool

theorem closing_quoted {s : List Char} (quoted : Quoted s) (depth : Nat) (rest : List Char) :
    closing depth .inside (s ++ rest) = (closing depth .outside rest).map (s ++ ·) := by
  induction quoted with
  | close => simp [closing]
  | char notQuote notSlash _ ih => simp [closing, notQuote, notSlash, ih, Function.comp_def]
  | escape c _ ih => simp [closing, ih, Function.comp_def]

theorem closing_bare {c : Char} (bare : Bare c) (depth : Nat) (rest : List Char) :
    closing depth .outside (c :: rest) = (closing depth .outside rest).map (c :: ·) := by
  simp [closing, bare.notQuote, bare.notOpen, bare.notClose]

theorem closing_balanced {cs : List Char} (balanced : Balanced cs) {depth : Nat} (inside : 0 < depth)
    (rest : List Char) :
    closing depth .outside (cs ++ rest) = (closing depth .outside rest).map (cs ++ ·) := by
  induction balanced generalizing depth rest with
  | nil => simp
  | bare bare _ ih =>
    rw [List.cons_append, closing_bare bare, ih inside, Option.map_map]
    rfl
  | @quoted s cs s_quoted _ ih =>
    have opening : closing depth .outside ('"' :: (s ++ (cs ++ rest))) =
        (closing depth .inside (s ++ (cs ++ rest))).map ('"' :: ·) := by
      simp [closing]
    rw [List.cons_append, List.append_assoc, opening, closing_quoted s_quoted, ih inside,
      Option.map_map, Option.map_map]
    simp [Function.comp_def]
  | @nested cs ds _ _ ih ihRest =>
    have opening : closing depth .outside ('\x7b' :: (cs ++ ('\x7d' :: (ds ++ rest)))) =
        (closing (depth + 1) .outside (cs ++ ('\x7d' :: (ds ++ rest)))).map ('\x7b' :: ·) := by
      simp [closing]
    have ending : closing (depth + 1) .outside ('\x7d' :: (ds ++ rest)) =
        (closing depth .outside (ds ++ rest)).map ('\x7d' :: ·) := by
      simp [closing, Nat.ne_of_gt inside]
    rw [List.cons_append, List.append_assoc, List.cons_append, opening, ih (Nat.succ_pos depth),
      ending, ihRest inside]
    simp [Function.comp_def]

/-- The reader of braces stops at the brace that closes a balanced text. -/
theorem object?_balanced {cs : List Char} (balanced : Balanced cs) (rest : List Char) :
    object? ('\x7b' :: (cs ++ '\x7d' :: rest)) = some ('\x7b' :: (cs ++ ['\x7d'])) := by
  rw [object?, if_pos rfl, closing_balanced balanced Nat.one_pos]
  simp [closing]

end Tool

namespace Json

/-- What lies between two places of a text, the second given by what is left there. -/
def Crosses (between : List Char → Prop) (cs rest : List Char) : Prop :=
  ∃ s, cs = s ++ rest ∧ between s

def AllBare (s : List Char) : Prop := ∀ c ∈ s, Bare c

def Enclosed (s : List Char) : Prop := ∃ inner, s = inner ++ ['\x7d'] ∧ Balanced inner

section Crossing

variable {P Q R : List Char → Prop} {cs ds rest : List Char} {c : Char}

theorem Crosses.mono (crosses : Crosses P cs rest) (weaker : ∀ s, P s → Q s) :
    Crosses Q cs rest := by
  obtain ⟨s, rfl, h⟩ := crosses
  exact ⟨s, rfl, weaker s h⟩

theorem Crosses.trans (first : Crosses P cs ds) (second : Crosses Q ds rest)
    (together : ∀ s t, P s → Q t → R (s ++ t)) : Crosses R cs rest := by
  obtain ⟨s, rfl, h⟩ := first
  obtain ⟨t, rfl, h'⟩ := second
  exact ⟨s ++ t, (List.append_assoc ..).symm, together s t h h'⟩

theorem crosses_bare_nil : Crosses AllBare cs cs := ⟨[], rfl, List.forall_mem_nil _⟩

theorem Crosses.cons_bare (bare : Bare c) (crosses : Crosses AllBare cs rest) :
    Crosses AllBare (c :: cs) rest := by
  obtain ⟨s, rfl, h⟩ := crosses
  exact ⟨c :: s, rfl, List.forall_mem_cons.2 ⟨bare, h⟩⟩

theorem Crosses.trans_bare (first : Crosses AllBare cs ds) (second : Crosses AllBare ds rest) :
    Crosses AllBare cs rest :=
  first.trans second fun _ _ h h' => List.forall_mem_append.2 ⟨h, h'⟩

theorem Crosses.trans_balanced (first : Crosses Balanced cs ds) (second : Crosses Balanced ds rest) :
    Crosses Balanced cs rest :=
  first.trans second fun _ _ => Balanced.append

theorem Crosses.balanced (crosses : Crosses AllBare cs rest) : Crosses Balanced cs rest :=
  crosses.mono fun _ => balanced_of_bare

theorem Crosses.quoted (crosses : Crosses Quoted cs rest) : Crosses Balanced ('"' :: cs) rest := by
  obtain ⟨s, rfl, h⟩ := crosses
  exact ⟨'"' :: s, rfl, by simpa using Balanced.quoted h .nil⟩

theorem Crosses.nested (crosses : Crosses Enclosed cs rest) : Crosses Balanced ('\x7b' :: cs) rest := by
  obtain ⟨_, rfl, inner, rfl, balanced⟩ := crosses
  exact ⟨'\x7b' :: (inner ++ ['\x7d']), rfl, .nested balanced .nil⟩

theorem Crosses.enclosed (first : Crosses Balanced cs ds) (second : Crosses Enclosed ds rest) :
    Crosses Enclosed cs rest := by
  refine first.trans second ?_
  rintro s _ h ⟨inner, rfl, balanced⟩
  exact ⟨s ++ inner, (List.append_assoc ..).symm, h.append balanced⟩

theorem Crosses.closed (crosses : Crosses Balanced cs ('\x7d' :: rest)) : Crosses Enclosed cs rest := by
  obtain ⟨s, rfl, h⟩ := crosses
  exact ⟨s ++ ['\x7d'], by simp, s, rfl, h⟩

theorem crosses_dropWhile {p : Char → Bool} (bare : ∀ c, p c = true → Bare c) (cs : List Char) :
    Crosses AllBare cs (cs.dropWhile p) :=
  ⟨cs.takeWhile p, List.takeWhile_append_dropWhile.symm,
    fun c hc => bare c (List.mem_takeWhile_imp hc)⟩

end Crossing

section Leaves

variable {cs rest : List Char}

theorem crosses_skip (cs : List Char) : Crosses AllBare cs (skip cs) := by
  refine crosses_dropWhile (fun c space => ?_) cs
  simp only [isSpace, Bool.or_eq_true, beq_iff_eq] at space
  rcases space with ((rfl | rfl) | rfl) | rfl <;> decide

theorem crosses_digits (cs : List Char) : Crosses AllBare cs (digitsFront cs).2 := by
  refine crosses_dropWhile (fun c digit => ⟨?_, ?_, ?_⟩) cs <;> rintro rfl <;> cases digit

theorem crosses_whole {ds : List Char} (h : wholePart? cs = some (ds, rest)) :
    Crosses AllBare cs rest := by
  unfold wholePart? at h
  split at h
  · cases h
    exact crosses_bare_nil.cons_bare (by decide)
  · split at h
    · obtain ⟨-, rfl⟩ := Prod.mk.inj (Option.some.inj h)
      exact crosses_digits _
    · cases h
  · cases h

theorem crosses_fraction (cs : List Char) : Crosses AllBare cs (fractionPart cs).2 := by
  unfold fractionPart
  split
  · next rest =>
    have digits := crosses_digits rest
    split
    · exact crosses_bare_nil
    · next ds left read =>
      rw [read] at digits
      exact digits.cons_bare (by decide)
  · exact crosses_bare_nil

theorem crosses_sign (cs : List Char) : Crosses AllBare cs (exponentSign cs).2 := by
  unfold exponentSign
  split
  · exact crosses_bare_nil.cons_bare (by decide)
  · exact crosses_bare_nil.cons_bare (by decide)
  · exact crosses_bare_nil

theorem crosses_exponent (cs : List Char) : Crosses AllBare cs (exponentPart cs).2 := by
  unfold exponentPart
  split
  · next c rest =>
    split
    · next mark =>
      have sign := crosses_sign rest
      have digits := crosses_digits (exponentSign rest).2
      have bare : Bare c := by rcases mark with rfl | rfl <;> decide
      dsimp only
      split
      · exact crosses_bare_nil
      · next ds left read =>
        rw [read] at digits
        exact (sign.trans_bare digits).cons_bare bare
    · exact crosses_bare_nil
  · exact crosses_bare_nil

theorem crosses_unsigned {negative : Bool} {v : Json} (h : unsigned? negative cs = some (v, rest)) :
    Crosses AllBare cs rest := by
  simp only [unsigned?, Option.bind_eq_bind, Option.bind_eq_some_iff] at h
  obtain ⟨⟨whole, afterWhole⟩, read, h⟩ := h
  have crosses := ((crosses_whole read).trans_bare (crosses_fraction afterWhole)).trans_bare
    (crosses_exponent (fractionPart afterWhole).2)
  dsimp only at h
  split at h
  · obtain ⟨-, rfl⟩ := Prod.mk.inj (Option.some.inj h)
    exact crosses
  · obtain ⟨-, rfl⟩ := Prod.mk.inj (Option.some.inj h)
    exact crosses

theorem crosses_number {v : Json} (h : number? cs = some (v, rest)) : Crosses AllBare cs rest := by
  unfold number? at h
  split at h
  · exact (crosses_unsigned h).cons_bare (by decide)
  · exact crosses_unsigned h

theorem crosses_word {v : Json} (h : word? cs = some (v, rest)) : Crosses AllBare cs rest := by
  have bare : ∀ w ∈ words.map Prod.fst, w.toList.all (fun c => decide (Bare c)) = true := by decide
  obtain ⟨⟨w, v'⟩, listed, h⟩ := List.exists_of_findSome?_eq_some h
  dsimp only at h
  split at h
  · next begins =>
    obtain ⟨-, rfl⟩ := Prod.mk.inj (Option.some.inj h)
    obtain ⟨left, rfl⟩ := List.isPrefixOf_iff_prefix.1 begins
    rw [List.drop_left]
    have all := List.all_eq_true.1 (bare w (List.mem_map_of_mem listed))
    exact ⟨w.toList, rfl, fun c hc => of_decide_eq_true (all c hc)⟩
  · cases h

theorem hexFour_split {n : Nat} (h : hexFour? cs = some n) :
    ∃ ds left, cs = ds ++ left ∧ ds.length = 4 ∧ ∀ s, Quoted s → Quoted (ds ++ s) := by
  unfold hexFour? at h
  split at h
  · next a b c d e left =>
    simp only [Option.bind_eq_bind, Option.bind_eq_some_iff] at h
    obtain ⟨_, ha, _, hb, _, hc, _, hd, -⟩ := h
    have digit {x : Char} {m : Nat} (hx : hexValue? x = some m) {s : List Char} (rest : Quoted s) :
        Quoted (x :: s) := by
      refine .char ?_ ?_ rest <;> rintro rfl <;> cases hx
    exact ⟨[a, b, c, d], e :: left, rfl, rfl, fun s h => digit ha (digit hb (digit hc (digit hd h)))⟩
  · cases h

theorem escape_split {d : Char} {size : Nat} (h : escape cs = .ok (d, size)) :
    ∃ a b, cs = a ++ b ∧ a.length = size ∧ ∀ s, Quoted s → Quoted ('\\' :: (a ++ s)) := by
  have one (c : Char) (left : List Char) : ∃ a b, c :: left = a ++ b ∧ a.length = 1 ∧
      ∀ s, Quoted s → Quoted ('\\' :: (a ++ s)) :=
    ⟨[c], left, rfl, rfl, fun s h => .escape c h⟩
  unfold escape at h
  split at h
  · next hex =>
    split at h
    · cases h
    · next high read =>
      obtain ⟨ds, left, rfl, four, quoted⟩ := hexFour_split read
      -- A high half that no low half follows is read alone, and so is any other unit.
      have five : ∃ a b, 'u' :: (ds ++ left) = a ++ b ∧ a.length = 5 ∧
          ∀ s, Quoted s → Quoted ('\\' :: (a ++ s)) :=
        ⟨'u' :: ds, left, rfl, by rw [List.length_cons, four], fun s h => .escape 'u' (quoted s h)⟩
      split at h
      · next second _ pair =>
        rw [← four, List.drop_left] at pair
        split at h
        · obtain ⟨-, rfl⟩ := Prod.mk.inj (Except.ok.inj h)
          exact five
        · split at h
          · cases h
          · next low read' =>
            obtain ⟨es, left', rfl, four', quoted'⟩ := hexFour_split read'
            split at h
            · obtain ⟨-, rfl⟩ := Prod.mk.inj (Except.ok.inj h)
              refine ⟨'u' :: (ds ++ '\\' :: 'u' :: es), left', ?_, ?_, fun s h => ?_⟩
              · simp [pair]
              · simp [four, four']
              · have second : Quoted ('\\' :: 'u' :: (es ++ s)) := .escape 'u' (quoted' s h)
                simpa using Quoted.escape 'u' (quoted _ second)
            · obtain ⟨-, rfl⟩ := Prod.mk.inj (Except.ok.inj h)
              exact five
      · obtain ⟨-, rfl⟩ := Prod.mk.inj (Except.ok.inj h)
        exact five
  all_goals
    cases h
    try exact one _ _

theorem stringBody_crosses {opened s : List Char} {taken : Nat}
    (h : stringBody opened taken cs = .ok (s, rest)) :
    ∃ a b, cs = a ++ b ∧ a.length = taken ∧ Crosses Quoted b rest := by
  -- `taken` counts what is left of an escape; it is crossed where the escape begins, in the fifth case.
  induction taken, cs using stringBody.induct generalizing s with
  | case1 => cases h
  | case2 taken c left ih =>
    obtain ⟨a, b, rfl, size, crosses⟩ := ih h
    exact ⟨c :: a, b, rfl, by rw [List.length_cons, size], crosses⟩
  | case3 left =>
    obtain ⟨-, rfl⟩ := Prod.mk.inj (Except.ok.inj h)
    exact ⟨[], _, rfl, rfl, ['"'], rfl, .close⟩
  | case4 left none _ =>
    simp [stringBody, none] at h
  | case5 left some _ ih =>
    simp only [stringBody, some, Char.reduceEq, Bool.false_eq_true, if_false, if_true,
      bind_eq_ok_iff] at h
    obtain ⟨⟨d, size⟩, escaped, ⟨s', rest'⟩, read, h⟩ := h
    obtain ⟨-, rfl⟩ := Prod.mk.inj (Except.ok.inj h)
    obtain ⟨a, b, rfl, length, quoted⟩ := escape_split escaped
    obtain ⟨a', b', same, length', t, rfl, crosses⟩ := ih size read
    obtain ⟨rfl, rfl⟩ := List.append_inj same (length.trans length'.symm)
    exact ⟨[], _, rfl, rfl, '\\' :: (a ++ t), by simp, quoted t crosses⟩
  | case6 c left notQuote notSlash control =>
    simp [stringBody, notQuote, notSlash, control] at h
  | case7 c left notQuote notSlash printed ih =>
    simp only [stringBody, notQuote, notSlash, printed, if_false, bind_eq_ok_iff] at h
    obtain ⟨⟨s', rest'⟩, read, h⟩ := h
    obtain ⟨-, rfl⟩ := Prod.mk.inj (Except.ok.inj h)
    obtain ⟨a, b, rfl, length, t, rfl, crosses⟩ := ih read
    obtain rfl := List.length_eq_zero_iff.1 length
    exact ⟨[], _, rfl, rfl, c :: t, rfl, .char notQuote notSlash crosses⟩

theorem string_crosses {s : String} (h : string cs = .ok (s, rest)) : Crosses Quoted cs rest := by
  simp only [string, bind_eq_ok_iff] at h
  obtain ⟨⟨s', rest'⟩, read, h⟩ := h
  obtain ⟨-, rfl⟩ := Prod.mk.inj (Except.ok.inj h)
  obtain ⟨a, b, rfl, length, crosses⟩ := stringBody_crosses read
  rwa [List.length_eq_zero_iff.1 length]

theorem name_crosses {k : String} (h : name cs = .ok (k, rest)) : Crosses Balanced cs rest := by
  unfold name at h
  split at h
  · cases h
  · next c left =>
    split at h
    · next quote =>
      subst quote
      obtain ⟨⟨k', afterName⟩, read, h⟩ := bind_eq_ok_iff.1 h
      have crosses := (string_crosses read).quoted.trans_balanced (crosses_skip afterName).balanced
      dsimp only at h
      split at h
      · cases h
      · next d afterColon skipped =>
        rw [skipped] at crosses
        split at h
        · next colon =>
          subst colon
          obtain ⟨-, rfl⟩ := Prod.mk.inj (Except.ok.inj h)
          have bare : Bare ':' := by decide
          exact crosses.trans_balanced ((crosses_skip afterColon).cons_bare bare).balanced
        · cases h
    · cases h

end Leaves

/-- What is read with some fuel for the values inside it. -/
structure Spans (fuel : Nat) : Prop where
  value : ∀ {cs rest v}, Json.value fuel cs = .ok (v, rest) → Crosses Balanced cs rest
  items : ∀ {cs rest vs}, Json.items fuel cs = .ok (vs, rest) → Crosses Balanced cs rest
  pairs : ∀ {cs rest kvs}, Json.pairs fuel cs = .ok (kvs, rest) → Crosses Enclosed cs rest

section Nested

variable {fuel : Nat} {cs rest : List Char}

theorem items_crosses (spans : Spans fuel) {vs : List Json} (h : items (fuel + 1) cs = .ok (vs, rest)) :
    Crosses Balanced cs rest := by
  rw [items] at h
  obtain ⟨⟨v, afterValue⟩, read, h⟩ := bind_eq_ok_iff.1 h
  have crosses := (spans.value read).trans_balanced (crosses_skip afterValue).balanced
  dsimp only at h
  split at h
  · cases h
  · next c left skipped =>
    rw [skipped] at crosses
    split at h
    · next closing =>
      subst closing
      obtain ⟨-, rfl⟩ := Prod.mk.inj (Except.ok.inj h)
      exact crosses.trans_balanced (crosses_bare_nil.cons_bare (by decide)).balanced
    · split at h
      · next comma =>
        subst comma
        obtain ⟨⟨vs', afterItems⟩, more, h⟩ := bind_eq_ok_iff.1 h
        obtain ⟨-, rfl⟩ := Prod.mk.inj (Except.ok.inj h)
        have bare : Bare ',' := by decide
        exact (crosses.trans_balanced ((crosses_skip left).cons_bare bare).balanced).trans_balanced
          (spans.items more)
      · cases h

theorem pairs_crosses (spans : Spans fuel) {kvs : List (String × Json)}
    (h : pairs (fuel + 1) cs = .ok (kvs, rest)) : Crosses Enclosed cs rest := by
  rw [pairs] at h
  obtain ⟨⟨k, afterName⟩, named, h⟩ := bind_eq_ok_iff.1 h
  obtain ⟨⟨v, afterValue⟩, read, h⟩ := bind_eq_ok_iff.1 h
  have crosses := ((name_crosses named).trans_balanced (spans.value read)).trans_balanced
    (crosses_skip afterValue).balanced
  dsimp only at h
  split at h
  · cases h
  · next c left skipped =>
    rw [skipped] at crosses
    split at h
    · next closing =>
      subst closing
      obtain ⟨-, rfl⟩ := Prod.mk.inj (Except.ok.inj h)
      exact crosses.closed
    · split at h
      · next comma =>
        subst comma
        obtain ⟨⟨kvs', afterPairs⟩, more, h⟩ := bind_eq_ok_iff.1 h
        obtain ⟨-, rfl⟩ := Prod.mk.inj (Except.ok.inj h)
        have bare : Bare ',' := by decide
        exact (crosses.trans_balanced ((crosses_skip left).cons_bare bare).balanced).enclosed
          (spans.pairs more)
      · cases h

theorem object_crosses (spans : Spans fuel) {v : Json}
    (h : value (fuel + 1) ('\x7b' :: cs) = .ok (v, rest)) : Crosses Enclosed cs rest := by
  have skipped := (crosses_skip cs).balanced
  simp only [value, Char.reduceEq, if_false, if_true] at h
  split at h
  · next empty =>
    obtain ⟨-, rfl⟩ := Prod.mk.inj (Except.ok.inj h)
    obtain ⟨left, closing⟩ := List.head?_eq_some_iff.1 empty
    rw [closing] at skipped ⊢
    exact skipped.closed
  · obtain ⟨⟨kvs, afterPairs⟩, read, h⟩ := bind_eq_ok_iff.1 h
    obtain ⟨-, rfl⟩ := Prod.mk.inj (Except.ok.inj h)
    exact skipped.enclosed (spans.pairs read)

theorem array_crosses (spans : Spans fuel) {v : Json}
    (h : value (fuel + 1) ('[' :: cs) = .ok (v, rest)) : Crosses Balanced cs rest := by
  have skipped := (crosses_skip cs).balanced
  simp only [value, Char.reduceEq, if_false, if_true] at h
  split at h
  · next empty =>
    obtain ⟨-, rfl⟩ := Prod.mk.inj (Except.ok.inj h)
    obtain ⟨left, closing⟩ := List.head?_eq_some_iff.1 empty
    rw [closing] at skipped ⊢
    exact skipped.trans_balanced (crosses_bare_nil.cons_bare (by decide)).balanced
  · obtain ⟨⟨vs, afterItems⟩, read, h⟩ := bind_eq_ok_iff.1 h
    obtain ⟨-, rfl⟩ := Prod.mk.inj (Except.ok.inj h)
    exact skipped.trans_balanced (spans.items read)

theorem value_crosses (spans : Spans fuel) {v : Json} (h : value (fuel + 1) cs = .ok (v, rest)) :
    Crosses Balanced cs rest := by
  cases cs with
  | nil => cases h
  | cons c cs =>
    by_cases quote : c = '"'
    · subst quote
      simp only [value, if_true] at h
      obtain ⟨⟨s, left⟩, read, h⟩ := bind_eq_ok_iff.1 h
      obtain ⟨-, rfl⟩ := Prod.mk.inj (Except.ok.inj h)
      exact (string_crosses read).quoted
    by_cases bracket : c = '['
    · subst bracket
      have bare : Bare '[' := by decide
      exact (crosses_bare_nil.cons_bare bare).balanced.trans_balanced (array_crosses spans h)
    by_cases brace : c = '\x7b'
    · subst brace
      exact (object_crosses spans h).nested
    simp only [value, quote, bracket, brace, if_false] at h
    split at h
    · next read =>
      obtain rfl := Except.ok.inj h
      rcases Option.or_eq_some_iff.1 read with word | ⟨-, number⟩
      · exact (crosses_word word).balanced
      · exact (crosses_number number).balanced
    · cases h

theorem spans_all (fuel : Nat) : Spans fuel := by
  induction fuel with
  | zero => exact ⟨fun h => (by cases h), fun h => (by cases h), fun h => (by cases h)⟩
  | succ fuel ih => exact ⟨value_crosses ih, items_crosses ih, pairs_crosses ih⟩

end Nested

theorem read?_eq_some {cs : List Char} {v : Json} (h : read? cs = some v) :
    ∃ rest, value (enough (skip cs)) (skip cs) = .ok (v, rest) ∧ skip rest = [] := by
  unfold read? at h
  cases outcome : read cs with
  | error m =>
    rw [outcome] at h
    cases h
  | ok v' =>
    rw [outcome] at h
    obtain rfl := Option.some.inj h
    rw [read] at outcome
    split at outcome
    · cases outcome
    · obtain ⟨⟨v, rest⟩, read, checked⟩ := bind_eq_ok_iff.1 outcome
      dsimp only at checked
      split at checked
      · next nothing =>
        obtain rfl := Except.ok.inj checked
        exact ⟨rest, read, nothing⟩
      · cases checked

theorem enclosed_of_read? {s : List Char} {v : Json} (opens : s.head? = some '\x7b')
    (closes : s.getLast? = some '\x7d') (h : read? s = some v) :
    ∃ inner, s = '\x7b' :: (inner ++ ['\x7d']) ∧ Balanced inner := by
  obtain ⟨cs, rfl⟩ := List.head?_eq_some_iff.1 opens
  obtain ⟨rest, read, nothing⟩ := read?_eq_some h
  have start : skip ('\x7b' :: cs) = '\x7b' :: cs := rfl
  rw [start] at read
  obtain ⟨_, rfl, inner, rfl, balanced⟩ := object_crosses (spans_all _) read
  refine ⟨inner, ?_, balanced⟩
  -- What is left is all space, and the last character of the text is none.
  cases last : rest.getLast? with
  | none => rw [List.getLast?_eq_none_iff.1 last, List.append_nil]
  | some c =>
    have space := List.dropWhile_eq_nil_iff.1 nothing c (List.mem_of_getLast? last)
    rw [← List.cons_append, List.getLast?_append, last] at closes
    obtain rfl := Option.some.inj closes
    cases space

end Json

namespace Tool

theorem object?_of_read {s : List Char} {v : Json} (opens : s.head? = some '\x7b')
    (closes : s.getLast? = some '\x7d') (read : Json.read? s = some v) (after : List Char) :
    object? (s ++ after) = some s := by
  obtain ⟨inner, rfl, balanced⟩ := Json.enclosed_of_read? opens closes read
  simpa using object?_balanced balanced after

/-- The reader of braces takes exactly the text of an object, wherever in a text it stands. -/
theorem objectAt?_of_read (before s after : List Char) {fields : Fields}
    (opens : s.head? = some '\x7b') (closes : s.getLast? = some '\x7d')
    (read : Json.read? s = some (.obj fields)) :
    objectAt? (before ++ s ++ after) before.length = some s := by
  obtain ⟨inner, rfl, balanced⟩ := Json.enclosed_of_read? opens closes read
  have start : ¬(before.length : Int) < 0 := Int.not_lt.2 (Int.natCast_nonneg _)
  rw [objectAt?, if_neg start, Int.toNat_natCast, List.append_assoc, List.drop_left]
  simpa using object?_balanced balanced after

def quotingObject : List Char :=
  ['{', '"', 'a', '"', ':', '[', '"', '\\', '"', '}', '"', ',', '{', '}', ']', '}']

theorem objectAt?_of_read_quoting :
    Json.read? quotingObject = some (.obj [("a", .arr [.str "\"\x7d", .obj []])]) ∧
      objectAt? (['}', '"', '{'] ++ quotingObject ++ ['}', '"']) 3 = some quotingObject := by
  have read : Json.read? quotingObject = some (.obj [("a", .arr [.str "\"\x7d", .obj []])]) := rfl
  exact ⟨read, objectAt?_of_read ['}', '"', '{'] quotingObject ['}', '"'] rfl rfl read⟩

end Tool

end Completions
