import Completions.Proofs.NumberText
import Completions.Proofs.Outcome
import Mathlib.Data.List.Nodup

/-! What is written for a JSON value is read as that value: strings with their escapes, whole numbers
of any size, lists, and objects with their fields in order; doubles are read as doubles. Main
statements: `read?_write`, for a value without doubles, and `read?_write_keyed`. -/

namespace Completions

namespace Fields

theorem put_absent {fs : Fields} {key : String} (absent : key ∉ fs.map Prod.fst) (v : Json) :
    fs.put key v = fs ++ [(key, v)] := by
  induction fs with
  | nil => rfl
  | cons f rest ih =>
    obtain ⟨other, later⟩ := not_or.1 (List.mem_cons.not.1 absent)
    rw [put, if_neg (Ne.symm other), ih later, List.cons_append]

theorem ofPairs_distinct {pairs : List (String × Json)} (distinct : (pairs.map Prod.fst).Nodup) :
    ofPairs pairs = pairs := by
  have onto (fs : Fields) (apart : ((fs ++ pairs).map Prod.fst).Nodup) :
      pairs.foldl (fun fs p => fs.put p.1 p.2) fs = fs ++ pairs := by
    clear distinct
    induction pairs generalizing fs with
    | nil => rw [List.foldl_nil, List.append_nil]
    | cons p pairs ih =>
      have absent : p.1 ∉ fs.map Prod.fst := by
        rw [List.map_append, List.map_cons] at apart
        intro known
        exact (List.nodup_append.1 apart).2.2 _ known _ (List.mem_cons_self ..) rfl
      have moved : fs ++ p :: pairs = fs ++ [p] ++ pairs := by simp
      rw [moved] at apart ⊢
      rw [List.foldl_cons, put_absent absent, ih _ apart]
  exact onto [] distinct

end Fields

namespace Json

section Strings

variable {opened rest left s : List Char}

theorem stringBody_taken (opened after rest : List Char) :
    stringBody opened after.length (after ++ rest) = stringBody opened 0 rest := by
  induction after with
  | nil => rfl
  | cons c after ih => simpa [stringBody] using ih

theorem stringBody_escape {e d : Char} (after : List Char)
    (escaped : escape (e :: (after ++ rest)) = .ok (d, after.length + 1))
    (read : stringBody opened 0 rest = .ok (s, left)) :
    stringBody opened 0 ('\\' :: e :: (after ++ rest)) = .ok (d :: s, left) := by
  have taken : stringBody opened (after.length + 1) (e :: (after ++ rest)) = .ok (s, left) :=
    (stringBody_taken opened (e :: after) rest).trans read
  rw [stringBody, if_neg (by decide), if_pos rfl, if_neg (by simp), escaped]
  simp only [bind, Except.bind, taken]
  rfl

theorem hexDigits_control : ∀ n : Fin 32,
    hexDigits n 4 = ['0', '0', Nat.digitChar (n / 16), Nat.digitChar (n % 16)] := by
  decide

theorem hexValue?_digitChar : ∀ d : Fin 16, hexValue? (Nat.digitChar d) = some d.val := by
  decide

theorem hexFour?_control {n : Nat} (control : n < 32) (c : Char) (rest : List Char) :
    hexFour? (hexDigits n 4 ++ c :: rest) = some n := by
  have digits := hexDigits_control ⟨n, control⟩
  have zero : hexValue? '0' = some 0 := rfl
  have high := hexValue?_digitChar ⟨n / 16, by omega⟩
  have low := hexValue?_digitChar ⟨n % 16, by omega⟩
  dsimp only at digits high low
  rw [digits]
  simp only [List.cons_append, List.nil_append, hexFour?, zero, high, low, Option.bind_eq_bind,
    Option.bind_some, Option.pure_def, Option.some.injEq]
  omega

theorem escape_control {c : Char} (control : c.toNat < 32) (d : Char) (rest : List Char) :
    escape ('u' :: (hexDigits c.toNat 4 ++ d :: rest)) = .ok (c, 5) := by
  have notHigh : Text.isHighSurrogate c.toNat = false := by
    simp only [Text.isHighSurrogate, Bool.and_eq_false_iff, decide_eq_false_iff_not]
    omega
  have notLow : Text.isLowSurrogate c.toNat = false := by
    simp only [Text.isLowSurrogate, Bool.and_eq_false_iff, decide_eq_false_iff_not]
    omega
  have char : unitChar c.toNat = c := by
    simp [unitChar, notHigh, notLow]
  simp only [escape, hexFour?_control control, notHigh, char]

theorem stringBody_escapeChar (c : Char) (read : stringBody opened 0 rest = .ok (s, left)) :
    stringBody opened 0 (escapeChar c ++ rest) = .ok (c :: s, left) := by
  have short {e : Char} (escaped : escape (e :: rest) = .ok (c, 1)) :
      stringBody opened 0 ('\\' :: e :: rest) = .ok (c :: s, left) :=
    stringBody_escape [] escaped read
  unfold escapeChar
  split_ifs with quote slash newline ret tab back form control
  · exact short (by rw [quote]; rfl)
  · exact short (by rw [slash]; rfl)
  · exact short (by rw [newline]; rfl)
  · exact short (by rw [ret]; rfl)
  · exact short (by rw [tab]; rfl)
  · exact short (by rw [back]; rfl)
  · exact short (by rw [form]; rfl)
  · cases rest with
    | nil => cases read
    | cons d rest =>
      have four : (hexDigits c.toNat 4).length = 4 := by
        rw [hexDigits_control ⟨c.toNat, control⟩]
        rfl
      refine stringBody_escape (hexDigits c.toNat 4) ?_ read
      rw [four]
      exact escape_control control d rest
  · have printed : ¬c.toNat < 32 := control
    simp only [List.cons_append, List.nil_append, stringBody, quote, slash, printed, if_false, read,
      bind, Except.bind]
    rfl

/-- A written string is read up to its own closing quote. -/
theorem stringBody_write (opened s rest : List Char) :
    stringBody opened 0 (s.flatMap escapeChar ++ '"' :: rest) = .ok (s, rest) := by
  induction s with
  | nil => simp [stringBody]
  | cons c s ih =>
    rw [List.flatMap_cons, List.append_assoc]
    exact stringBody_escapeChar c ih

theorem string_write (s : String) (rest : List Char) :
    string (s.toList.flatMap escapeChar ++ '"' :: rest) = .ok (s, rest) := by
  simp only [string, stringBody_write, bind, Except.bind, String.ofList_toList]
  rfl

end Strings

/-- A value without doubles whose objects have no key twice. -/
inductive Plain : Json → Prop
  | null : Plain .null
  | bool (b : Bool) : Plain (.bool b)
  | int (n : Int) : Plain (.int n)
  | str (s : String) : Plain (.str s)
  | arr {items : List Json} (plain : ∀ v ∈ items, Plain v) : Plain (.arr items)
  | obj {fields : Fields} (distinct : (fields.map Prod.fst).Nodup)
    (plain : ∀ f ∈ fields, Plain f.2) : Plain (.obj fields)

inductive Keyed : Json → Prop
  | null : Keyed .null
  | bool (b : Bool) : Keyed (.bool b)
  | int (n : Int) : Keyed (.int n)
  | float (x : Float) : Keyed (.float x)
  | str (s : String) : Keyed (.str s)
  | arr {items : List Json} (keyed : ∀ v ∈ items, Keyed v) : Keyed (.arr items)
  | obj {fields : Fields} (distinct : (fields.map Prod.fst).Nodup)
    (keyed : ∀ f ∈ fields, Keyed f.2) : Keyed (.obj fields)

theorem Plain.keyed {v : Json} (plain : Plain v) : Keyed v := by
  induction plain with
  | null => exact .null
  | bool b => exact .bool b
  | int n => exact .int n
  | str s => exact .str s
  | arr _ ih => exact .arr ih
  | obj distinct _ ih => exact .obj distinct ih

mutual

/-- The value that is read where this one was written: its doubles are those of their texts. -/
def reread : Json → Json
  | .float x => .float (respelled x)
  | .arr items => .arr (rereadItems items)
  | .obj fields => .obj (rereadFields fields)
  | v => v

def rereadItems : List Json → List Json
  | [] => []
  | v :: rest => v.reread :: rereadItems rest

def rereadFields : List (String × Json) → List (String × Json)
  | [] => []
  | (k, v) :: rest => (k, v.reread) :: rereadFields rest

end

theorem keys_rereadFields (fields : Fields) :
    (rereadFields fields).map Prod.fst = fields.map Prod.fst := by
  induction fields with
  | nil => rfl
  | cons f fields ih => rw [rereadFields, List.map_cons, List.map_cons, ih]

theorem rereadItems_same {vs : List Json} (same : ∀ v ∈ vs, v.reread = v) : rereadItems vs = vs := by
  induction vs with
  | nil => rfl
  | cons v vs ih =>
    obtain ⟨first, later⟩ := List.forall_mem_cons.1 same
    rw [rereadItems, first, ih later]

theorem rereadFields_same {fields : Fields} (same : ∀ f ∈ fields, f.2.reread = f.2) :
    rereadFields fields = fields := by
  induction fields with
  | nil => rfl
  | cons f fields ih =>
    obtain ⟨first, later⟩ := List.forall_mem_cons.1 same
    rw [rereadFields, first, ih later]

theorem rereadFields_append (fields more : Fields) :
    rereadFields (fields ++ more) = rereadFields fields ++ rereadFields more := by
  induction fields with
  | nil => rfl
  | cons f fields ih => rw [List.cons_append, rereadFields, ih, rereadFields, List.cons_append]

theorem Plain.reread {v : Json} (plain : Plain v) : v.reread = v := by
  induction plain with
  | null | bool | int | str => rfl
  | arr _ ih => rw [Json.reread, rereadItems_same ih]
  | obj _ _ ih => rw [Json.reread, rereadFields_same ih]

section Values

theorem write_begins {v : Json} (keyed : Keyed v) : ∃ c cs, v.write = c :: cs ∧ Begins c := by
  cases keyed with
  | null => exact ⟨'n', _, rfl, by decide⟩
  | bool b => cases b with
    | true => exact ⟨'t', _, rfl, by decide⟩
    | false => exact ⟨'f', _, rfl, by decide⟩
  | int n => exact intDigits_begins n
  | float x => exact (spelled_spell x).begins
  | str s => exact ⟨'"', _, rfl, by decide⟩
  | arr _ => exact ⟨'[', _, rfl, by decide⟩
  | obj _ _ => exact ⟨'\x7b', _, rfl, by decide⟩

theorem skip_begins {c : Char} (begins : Begins c) (cs : List Char) : skip (c :: cs) = c :: cs :=
  List.dropWhile_cons_of_neg (by rw [begins.notSpace]; exact Bool.false_ne_true)

theorem skip_blank (cs : List Char) : skip (' ' :: cs) = skip cs := rfl

variable {fuel : Nat} {rest : List Char}

/-- The reader takes what is written for a value, and leaves the rest. -/
def Reread (v : Json) : Prop :=
  ∀ fuel rest, 2 * v.write.length ≤ fuel → Ends rest →
    value fuel (v.write ++ rest) = .ok (v.reread, rest)

section Items

variable {cs ds : List Char} {v : Json} {vs : List Json}

theorem items_last (read : value fuel cs = .ok (v, ']' :: rest)) :
    items (fuel + 1) cs = .ok ([v], rest) := by
  rw [items, read]
  rfl

theorem items_more (read : value fuel cs = .ok (v, ',' :: ' ' :: ds)) (start : skip ds = ds)
    (later : items fuel ds = .ok (vs, rest)) : items (fuel + 1) cs = .ok (v :: vs, rest) := by
  have comma : skip (',' :: ' ' :: ds) = ',' :: ' ' :: ds := rfl
  rw [items, read]
  simp only [bind, Except.bind, comma, Char.reduceEq, if_false, if_true, skip_blank, start, later]
  rfl

theorem skip_write (keyed : Keyed v) (cs : List Char) : skip (v.write ++ cs) = v.write ++ cs := by
  obtain ⟨c, ds, shape, begins⟩ := write_begins keyed
  rw [shape]
  exact skip_begins begins _

theorem writeItems_begins (nonempty : vs ≠ []) (keyed : ∀ v ∈ vs, Keyed v) :
    ∃ c cs, writeItems vs = c :: cs ∧ Begins c := by
  match vs, nonempty with
  | [v], _ => exact write_begins (keyed v (List.mem_singleton_self v))
  | v :: w :: vs, _ =>
    obtain ⟨c, cs, shape, begins⟩ := write_begins (keyed v (List.mem_cons_self ..))
    exact ⟨c, _, by rw [writeItems, shape]; rfl, begins⟩

theorem skip_writeItems (nonempty : vs ≠ []) (keyed : ∀ v ∈ vs, Keyed v) (cs : List Char) :
    skip (writeItems vs ++ cs) = writeItems vs ++ cs := by
  obtain ⟨c, ds, shape, begins⟩ := writeItems_begins nonempty keyed
  rw [shape]
  exact skip_begins begins _

theorem items_write (nonempty : vs ≠ []) (keyed : ∀ v ∈ vs, Keyed v) (reread : ∀ v ∈ vs, Reread v)
    (enough : 2 * (writeItems vs).length + 1 ≤ fuel) :
    items fuel (writeItems vs ++ ']' :: rest) = .ok (rereadItems vs, rest) := by
  induction vs generalizing fuel with
  | nil => exact absurd rfl nonempty
  | cons v vs ih =>
    obtain ⟨fuel, rfl⟩ := Nat.exists_eq_add_one.2 (Nat.lt_of_lt_of_le (Nat.succ_pos _) enough)
    have first := reread v (List.mem_cons_self ..) fuel
    cases vs with
    | nil =>
      rw [writeItems] at enough ⊢
      exact items_last (first _ (by omega) (ends_of_not_carries (by decide) rest))
    | cons w vs =>
      have more : w :: vs ≠ [] := by simp
      have later (u : Json) (hu : u ∈ w :: vs) : u ∈ v :: w :: vs := .tail v hu
      rw [writeItems, List.length_append, List.length_cons, List.length_cons] at enough
      rw [writeItems, List.append_assoc]
      refine items_more (first _ (by omega) (ends_of_not_carries (by decide) _))
        (skip_writeItems more (fun u hu => keyed u (later u hu)) _) ?_
      exact ih more (fun u hu => keyed u (later u hu)) (fun u hu => reread u (later u hu)) (by omega)

end Items

section Pairs

variable {cs ds left : List Char} {k : String} {v : Json} {kvs : List (String × Json)}

theorem name_write (k : String) (cs : List Char) :
    name (writeString k.toList ++ ':' :: ' ' :: cs) = .ok (k, skip cs) := by
  have colon : skip (':' :: ' ' :: cs) = ':' :: ' ' :: cs := rfl
  have quoted : writeString k.toList ++ ':' :: ' ' :: cs =
      '"' :: (k.toList.flatMap escapeChar ++ '"' :: ':' :: ' ' :: cs) := by
    simp [writeString]
  rw [quoted, name, if_pos rfl]
  simp only [bind, Except.bind, string_write, colon, if_true, skip_blank]
  rfl

theorem pairs_last (named : name cs = .ok (k, left))
    (read : value fuel left = .ok (v, '\x7d' :: rest)) : pairs (fuel + 1) cs = .ok ([(k, v)], rest) := by
  rw [pairs, named]
  simp only [bind, Except.bind, read]
  rfl

theorem pairs_more (named : name cs = .ok (k, left))
    (read : value fuel left = .ok (v, ',' :: ' ' :: '"' :: ds))
    (later : pairs fuel ('"' :: ds) = .ok (kvs, rest)) :
    pairs (fuel + 1) cs = .ok ((k, v) :: kvs, rest) := by
  have comma : skip (',' :: ' ' :: '"' :: ds) = ',' :: ' ' :: '"' :: ds := rfl
  have quote : skip (' ' :: '"' :: ds) = '"' :: ds := rfl
  rw [pairs, named]
  simp only [bind, Except.bind, read, comma, Char.reduceEq, if_false, if_true, quote, later]
  rfl

theorem writeFields_quote (nonempty : kvs ≠ []) :
    ∃ cs, ∀ after, writeFields kvs ++ after = '"' :: (cs ++ after) := by
  match kvs, nonempty with
  | [(k, v)], _ => exact ⟨_, fun after => rfl⟩
  | (k, v) :: f :: kvs, _ => exact ⟨_, fun after => rfl⟩

theorem pairs_write (nonempty : kvs ≠ []) (keyed : ∀ f ∈ kvs, Keyed f.2)
    (reread : ∀ f ∈ kvs, Reread f.2) (enough : 2 * (writeFields kvs).length + 1 ≤ fuel) :
    pairs fuel (writeFields kvs ++ '\x7d' :: rest) = .ok (rereadFields kvs, rest) := by
  induction kvs generalizing fuel with
  | nil => exact absurd rfl nonempty
  | cons f kvs ih =>
    obtain ⟨k, v⟩ := f
    obtain ⟨fuel, rfl⟩ := Nat.exists_eq_add_one.2 (Nat.lt_of_lt_of_le (Nat.succ_pos _) enough)
    have first : Reread v := reread (k, v) (List.mem_cons_self ..)
    have named (after : List Char) :
        name (writeString k.toList ++ ':' :: ' ' :: (v.write ++ after)) = .ok (k, v.write ++ after) := by
      rw [name_write, skip_write (keyed (k, v) (List.mem_cons_self ..))]
    cases kvs with
    | nil =>
      simp only [writeFields, List.length_append, List.length_cons] at enough
      rw [writeFields, List.append_assoc]
      exact pairs_last (named _) (first _ _ (by omega) (ends_of_not_carries (by decide) rest))
    | cons g kvs =>
      have more : g :: kvs ≠ [] := by simp
      have later (f : String × Json) (hf : f ∈ g :: kvs) : f ∈ (k, v) :: g :: kvs := .tail _ hf
      simp only [writeFields, List.length_append, List.length_cons] at enough
      obtain ⟨cs, shape⟩ := writeFields_quote more
      have read : pairs fuel (writeFields (g :: kvs) ++ '\x7d' :: rest) =
          .ok (rereadFields (g :: kvs), rest) :=
        ih more (fun f hf => keyed f (later f hf)) (fun f hf => reread f (later f hf)) (by omega)
      rw [shape] at read
      have split : writeFields ((k, v) :: g :: kvs) ++ '\x7d' :: rest = writeString k.toList ++
          ':' :: ' ' :: (v.write ++ ',' :: ' ' :: (writeFields (g :: kvs) ++ '\x7d' :: rest)) := by
        simp [writeFields]
      rw [split, shape]
      exact pairs_more (named _) (first _ _ (by omega) (ends_of_not_carries (by decide) _)) read

end Pairs

theorem value_string (s : String) :
    value (fuel + 1) (writeString s.toList ++ rest) = .ok (.str s, rest) := by
  have quoted : writeString s.toList ++ rest = '"' :: (s.toList.flatMap escapeChar ++ '"' :: rest) := by
    simp [writeString]
  rw [quoted, value, if_pos rfl, string_write]
  rfl

theorem value_array {vs : List Json} (keyed : ∀ v ∈ vs, Keyed v) (reread : ∀ v ∈ vs, Reread v)
    (enough : 2 * (writeItems vs).length + 1 ≤ fuel) :
    value (fuel + 1) ('[' :: (writeItems vs ++ ']' :: rest)) = .ok (.arr (rereadItems vs), rest) := by
  by_cases nonempty : vs = []
  · subst nonempty
    rfl
  · obtain ⟨c, cs, shape, begins⟩ := writeItems_begins nonempty keyed
    have inner : (skip (writeItems vs ++ ']' :: rest)).head? ≠ some ']' := by
      rw [skip_writeItems nonempty keyed, shape]
      exact fun h => begins.notBracket (Option.some.inj h)
    rw [value, if_neg (by decide), if_pos rfl, if_neg inner, skip_writeItems nonempty keyed,
      items_write nonempty keyed reread enough]
    rfl

theorem value_object {fields : Fields} (distinct : (fields.map Prod.fst).Nodup)
    (keyed : ∀ f ∈ fields, Keyed f.2) (reread : ∀ f ∈ fields, Reread f.2)
    (enough : 2 * (writeFields fields).length + 1 ≤ fuel) :
    value (fuel + 1) ('\x7b' :: (writeFields fields ++ '\x7d' :: rest)) =
      .ok (.obj (rereadFields fields), rest) := by
  by_cases nonempty : fields = []
  · subst nonempty
    rfl
  · obtain ⟨cs, shape⟩ := writeFields_quote nonempty
    have start : skip (writeFields fields ++ '\x7d' :: rest) = writeFields fields ++ '\x7d' :: rest := by
      rw [shape]
      rfl
    have inner : (skip (writeFields fields ++ '\x7d' :: rest)).head? ≠ some '\x7d' := by
      rw [start, shape]
      simp
    rw [value, if_neg (by decide), if_neg (by decide), if_pos rfl, if_neg inner, start,
      pairs_write nonempty keyed reread enough]
    rw [← keys_rereadFields] at distinct
    simp only [bind, Except.bind, pure, Except.pure, Fields.ofPairs_distinct distinct]

theorem Reread.of_succ {v : Json} (keyed : Keyed v)
    (read : ∀ fuel rest, 2 * v.write.length ≤ fuel + 1 → Ends rest →
      value (fuel + 1) (v.write ++ rest) = .ok (v.reread, rest)) : Reread v := by
  intro fuel rest enough ends
  obtain ⟨c, cs, shape, -⟩ := write_begins keyed
  cases fuel with
  | zero =>
    rw [shape] at enough
    cases enough
  | succ fuel => exact read fuel rest enough ends

theorem reread_of_keyed {v : Json} (keyed : Keyed v) : Reread v := by
  induction keyed with
  | null => exact .of_succ .null fun _ _ _ _ => value_leaf (by decide) rfl
  | bool b =>
    refine .of_succ (.bool b) fun _ _ _ _ => ?_
    cases b with
    | true => exact value_leaf (by decide) rfl
    | false => exact value_leaf (by decide) rfl
  | int n => exact .of_succ (.int n) fun _ _ _ ends => value_intDigits n ends
  | float x => exact .of_succ (.float x) fun _ _ _ ends => value_spell x ends
  | str s => exact .of_succ (.str s) fun _ _ _ _ => value_string s
  | @arr vs keyed ih =>
    refine .of_succ (.arr keyed) fun fuel rest enough _ => ?_
    rw [write, List.length_cons, List.length_append, List.length_singleton] at enough
    rw [write, List.cons_append, List.append_assoc]
    exact value_array keyed ih (by omega)
  | @obj fields distinct keyed ih =>
    refine .of_succ (.obj distinct keyed) fun fuel rest enough _ => ?_
    rw [write, List.length_cons, List.length_append, List.length_singleton] at enough
    rw [write, List.cons_append, List.append_assoc]
    exact value_object distinct keyed ih (by omega)

/-- What is written for a value is read as that value, but for its doubles. -/
theorem read?_write_keyed {v : Json} (keyed : Keyed v) : read? v.write = some v.reread := by
  obtain ⟨c, cs, shape, begins⟩ := write_begins keyed
  have start : skip v.write = v.write := by
    rw [shape, skip_begins begins]
  have noMark : v.write.head? ≠ some '\uFEFF' := by
    rw [shape]
    exact fun h => begins.notMark (Option.some.inj h)
  have taken := reread_of_keyed keyed (enough v.write) [] (Nat.le_succ _) ends_nil
  rw [List.append_nil] at taken
  rw [read?, read, if_neg noMark, start]
  simp only [bind, Except.bind, taken]
  rfl

theorem read?_write {v : Json} (plain : Plain v) : read? v.write = some v := by
  rw [read?_write_keyed plain.keyed, plain.reread]

end Values

end Json

end Completions
