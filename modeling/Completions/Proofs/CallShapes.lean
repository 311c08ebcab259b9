import Completions.Proofs.CallEnvelope
import Completions.Proofs.SingleCall

/-!
A call by itself and a list of that one call. Both readers find the name; they take the same
arguments from it unless those are a text of blanks, which only one of them replaces.

Main statement: `shapes_agree_iff`.
-/

namespace Completions

namespace Json

structure Literal (c : Char) : Prop where
  notQuote : c ≠ '"'
  notSlash : c ≠ '\\'
  notControl : ¬c.toNat < 0x20

theorem escapeChar_literal {c : Char} (literal : Literal c) : escapeChar c = [c] := by
  have printed {d : Char} (control : d.toNat < 0x20) : c ≠ d := by
    rintro rfl
    exact literal.notControl control
  unfold escapeChar
  rw [if_neg literal.notQuote, if_neg literal.notSlash, if_neg (printed (by decide)),
    if_neg (printed (by decide)), if_neg (printed (by decide)), if_neg (printed (by decide)),
    if_neg (printed (by decide)), if_neg literal.notControl]

theorem writeString_literal {s : List Char} (literal : ∀ c ∈ s, Literal c) :
    writeString s = '"' :: (s ++ ['"']) := by
  have same : s.flatMap escapeChar = s := by
    induction s with
    | nil => rfl
    | cons c s ih =>
      have ⟨first, rest⟩ := List.forall_mem_cons.1 literal
      rw [List.flatMap_cons, escapeChar_literal first, ih rest, List.singleton_append]
  rw [writeString, same, List.cons_append]

section Blank

variable {c d : Char} {cs : List Char}

theorem ne_of_isBlank (blank : Text.isBlank c = true) (other : Text.isBlank d = false) : c ≠ d := by
  rintro rfl
  rw [blank] at other
  cases other

theorem word?_blank (blank : Text.isBlank c = true) : word? (c :: cs) = none := by
  have letters : ∀ w ∈ words.map Prod.fst,
      w.toList.head?.any (fun d => !Text.isBlank d) = true := by decide
  refine List.findSome?_eq_none_iff.2 fun w known => if_neg fun begins => ?_
  have letter := letters w.1 (List.mem_map_of_mem known)
  cases spelled : w.1.toList with
  | nil => rw [spelled] at letter; cases letter
  | cons d ds =>
    rw [spelled] at letter begins
    obtain ⟨rfl, -⟩ := List.cons_prefix_cons.1 (List.isPrefixOf_iff_prefix.1 begins)
    rw [List.head?_cons, Option.any_some, blank] at letter
    cases letter

theorem not_isDigit_of_isBlank (blank : Text.isBlank c = true) : c.isDigit = false := by
  by_contra digit
  have digit := (Bool.not_eq_false _).mp digit
  have bounds : 48 ≤ c.toNat ∧ c.toNat ≤ 57 := by
    simpa [Char.isDigit, UInt32.le_iff_toNat_le] using digit
  simp only [Text.isBlank, Text.blanks, Text.Range.holds, List.any_cons, List.any_nil,
    Bool.or_eq_true, Bool.and_eq_true, decide_eq_true_eq, Bool.false_eq_true, or_false] at blank
  omega

theorem number?_blank (blank : Text.isBlank c = true) : number? (c :: cs) = none := by
  have minus : c ≠ '-' := ne_of_isBlank blank (by decide)
  have whole : wholePart? (c :: cs) = none := by
    unfold wholePart?
    split
    · next zero => exact absurd (List.cons.inj zero).1 (ne_of_isBlank blank (by decide))
    · next d ds same =>
      obtain ⟨rfl, -⟩ := List.cons.inj same
      rw [not_isDigit_of_isBlank blank, if_neg Bool.false_ne_true]
    · rfl
  simp [number?, minus, unsigned?, whole]

/-- A text of blanks is no value. The reader skips fewer kinds of blanks than there are, so it
may stop at one, which begins nothing. -/
theorem read?_blank (blank : Text.allBlank cs = true) : read? cs = none := by
  cases outcome : read? cs with
  | none => rfl
  | some v =>
    obtain ⟨rest, taken, -⟩ := read?_eq_some outcome
    cases start : skip cs with
    | nil => rw [start] at taken; cases taken
    | cons c left =>
      have inside : c ∈ cs := List.dropWhile_subset _ (start ▸ List.mem_cons_self ..)
      have blank := List.all_eq_true.1 blank c inside
      have other {d : Char} (printed : Text.isBlank d = false) : c ≠ d :=
        ne_of_isBlank blank printed
      rw [start, enough, value, if_neg (other (by decide)), if_neg (other (by decide)),
        if_neg (other (by decide)), word?_blank blank, number?_blank blank] at taken
      cases taken

end Blank

end Json

namespace Tool

section Shapes

variable {name : String} {arguments : Option Json}

def functionOf (name : String) (arguments : Option Json) : Json :=
  .obj (("name", .str name) :: arguments.toList.map fun v => ("arguments", v))

def aloneOf (name : String) (arguments : Option Json) : Json :=
  .obj [("function", functionOf name arguments)]

def entryOf (name : String) (arguments : Option Json) : Json :=
  .obj [("type", .str "function"), ("function", functionOf name arguments)]

def listOf (name : String) (arguments : Option Json) : Json :=
  .obj [("tool_calls", .arr [entryOf name arguments])]

/-- Arguments as a call may have them: none, null, a text, or an object without doubles. -/
inductive Argued : Option Json → Prop
  | absent : Argued none
  | null : Argued (some .null)
  | text (v : String) : Argued (some (.str v))
  | object {fields : Fields} (plain : Json.Plain (.obj fields)) : Argued (some (.obj fields))

def BlankText (arguments : Option Json) : Prop :=
  ∃ v : String, arguments = some (.str v) ∧ Text.allBlank v.toList = true

theorem functionOf_plain (argued : Argued arguments) : (functionOf name arguments).Plain := by
  have named : Json.Plain (.str name) := .str name
  have pair {v : Json} (plain : v.Plain) : (functionOf name (some v)).Plain := by
    have distinct : ["name", "arguments"].Nodup := by decide
    exact .obj distinct (List.forall_mem_cons.2 ⟨named, List.forall_mem_singleton.2 plain⟩)
  cases argued with
  | absent => exact .obj (List.nodup_singleton _) (List.forall_mem_singleton.2 named)
  | null => exact pair .null
  | text v => exact pair (.str v)
  | object plain => exact pair plain

theorem entryOf_plain (argued : Argued arguments) : (entryOf name arguments).Plain := by
  have distinct : ["type", "function"].Nodup := by decide
  exact .obj distinct
    (List.forall_mem_cons.2 ⟨.str _, List.forall_mem_singleton.2 (functionOf_plain argued)⟩)

def callOf (stamp : Stamp) (name : String) (arguments : Option Json) : Call :=
  { id := stamp.callId name, name, arguments := Call.argumentsOf (arguments.getD .null) }

theorem ofJson_entryOf (stamp : Stamp) (nonempty : name ≠ "") (arguments : Option Json) :
    Call.ofJson stamp (entryOf name arguments) = .ok (callOf stamp name arguments) := by
  cases arguments <;>
    simp [Call.ofJson, entryOf, functionOf, callOf, Fields.get, Fields.get?, List.lookup_cons,
      Json.isStr, textOf?, nonempty]

theorem listed_listOf (stamp : Stamp) (nonempty : name ≠ "") (argued : Argued arguments) :
    listed stamp (listOf name arguments).write = [callOf stamp name arguments] := by
  have fresh : ¬callsMark <:+: [] := by decide
  have plain : ∀ raw ∈ [entryOf name arguments], raw.Plain :=
    List.forall_mem_singleton.2 (entryOf_plain argued)
  have found := listed_innermost stamp (envelopeOf_innermost fresh plain [])
  rw [List.nil_append, List.append_nil] at found
  refine found.trans ?_
  rw [List.filterMap_cons, ofJson_entryOf stamp nonempty]
  rfl

theorem marks_absent : ¬nameMark <:+: [] ∧ ¬argumentsMark <:+: [] := by decide

section Alone

variable (literal : ∀ c ∈ name.toList, Json.Literal c)
include literal

theorem aloneOf_write_none :
    (aloneOf name none).write = callFront name.toList ++ ['\x7d', '\x7d'] := by
  have function : Json.writeString "function".toList = functionMark := by decide
  have key : Json.writeString "name".toList = nameMark := by decide
  simp only [aloneOf, functionOf, Option.toList, List.map, Json.write, Json.writeFields, function,
    key, callFront, Json.writeString_literal literal, List.append_assoc, List.cons_append,
    List.nil_append]

theorem aloneOf_write_some (v : Json) :
    (aloneOf name (some v)).write = callText name.toList v.write := by
  have function : Json.writeString "function".toList = functionMark := by decide
  have key : Json.writeString "name".toList = nameMark := by decide
  have argumentsKey : Json.writeString "arguments".toList = argumentsMark := by decide
  simp only [aloneOf, functionOf, Option.toList, List.map, Json.write, Json.writeFields, function,
    key, argumentsKey, callText, callFront, Json.writeString_literal literal, List.append_assoc,
    List.cons_append, List.nil_append]

theorem literal_unquoted : '"' ∉ name.toList := fun quote => (literal _ quote).notQuote rfl

theorem single?_aloneOf_none (stamp : Stamp) (other : name ≠ "arguments") :
    single? stamp (aloneOf name none).write = some (callOf stamp name none) := by
  have others : name.toList ≠ "arguments".toList := fun same => other (String.toList_inj.1 same)
  have unquoted := literal_unquoted literal
  have keyless : ¬argumentsMark <:+: [] ++ (callFront name.toList ++ ['\x7d', '\x7d']) :=
    arguments_fresh marks_absent.2 unquoted others (by decide)
  have found := single?_front stamp marks_absent.1 unquoted ['\x7d', '\x7d']
  rw [argumentsIn_absent keyless] at found
  rw [aloneOf_write_none literal]
  exact found

theorem single?_aloneOf_some (stamp : Stamp) (other : name ≠ "arguments") {v : Json} {s : List Char}
    (read : argumentsAfter (':' :: ' ' :: (v.write ++ ['\x7d', '\x7d'])) = s) :
    single? stamp (aloneOf name (some v)).write =
      some { id := stamp.callId name, name, arguments := String.ofList s } := by
  have found := single?_callText stamp (literal_unquoted literal) other marks_absent.1
    marks_absent.2 v.write []
  rw [List.append_nil, List.nil_append, read] at found
  rw [aloneOf_write_some literal, found]

theorem single?_aloneOf_blank (stamp : Stamp) (other : name ≠ "arguments")
    (blank : BlankText arguments) :
    single? stamp (aloneOf name arguments).write = some (callOf stamp name none) := by
  obtain ⟨v, rfl, blank⟩ := blank
  exact single?_aloneOf_some literal stamp other ((argumentsAfter_string v _).trans (if_pos blank))

theorem single?_aloneOf (stamp : Stamp) (other : name ≠ "arguments") (argued : Argued arguments)
    (written : ¬BlankText arguments) :
    single? stamp (aloneOf name arguments).write = some (callOf stamp name arguments) := by
  cases argued with
  | absent => exact single?_aloneOf_none literal stamp other
  | null => exact single?_aloneOf_some literal stamp other (s := noArguments) rfl
  | text v =>
    have kept : ¬Text.allBlank v.toList = true := fun blank => written ⟨v, rfl, blank⟩
    rw [single?_aloneOf_some literal stamp other ((argumentsAfter_string v _).trans (if_neg kept)),
      String.ofList_toList]
    rfl
  | @object fields plain =>
    have opens : (Json.obj fields).write.head? = some '\x7b' := rfl
    have closes : (Json.obj fields).write.getLast? = some '\x7d' := by
      rw [Json.write, ← List.cons_append, List.getLast?_concat]
    have block := object?_of_read opens closes (Json.read?_write plain) ['\x7d', '\x7d']
    exact single?_aloneOf_some literal stamp other (argumentsAfter_object block)

end Alone

theorem parsedArguments_read? (c : Call) :
    c.parsedArguments.toOption = Json.read? c.arguments.toList := by
  unfold Call.parsedArguments Json.read?
  cases Json.read c.arguments.toList <;> rfl

theorem parsedArguments_differ (stamp stamp' : Stamp) (blank : BlankText arguments) :
    (callOf stamp name arguments).parsedArguments ≠ (callOf stamp' name none).parsedArguments := by
  obtain ⟨v, rfl, blank⟩ := blank
  intro same
  have read := congrArg Except.toOption same
  rw [parsedArguments_read?, parsedArguments_read?] at read
  have nothing : Json.read? (callOf stamp name (some (.str v))).arguments.toList = none :=
    Json.read?_blank blank
  have empty : Json.read? (callOf stamp' name none).arguments.toList = some (.obj []) := by
    have plain : Json.Plain (.obj []) := .obj List.nodup_nil (List.forall_mem_nil _)
    have written : "\x7b\x7d".toList = (Json.obj []).write := by decide
    exact (congrArg Json.read? written).trans (Json.read?_write plain)
  rw [nothing, empty] at read
  cases read

/-- The two shapes are read as one call exactly when its arguments are not a text of blanks. -/
theorem shapes_agree_iff (stamp stamp' : Stamp) (nonempty : name ≠ "")
    (literal : ∀ c ∈ name.toList, Json.Literal c) (other : name ≠ "arguments")
    (argued : Argued arguments) :
    ∃ inList alone,
      listed stamp (listOf name arguments).write = [inList] ∧
      single? stamp' (aloneOf name arguments).write = some alone ∧
      inList.name = name ∧ alone.name = name ∧
      (inList.parsedArguments = alone.parsedArguments ↔ ¬BlankText arguments) := by
  by_cases blank : BlankText arguments
  · refine ⟨_, _, listed_listOf stamp nonempty argued,
      single?_aloneOf_blank literal stamp' other blank, rfl, rfl, fun same => ?_, absurd blank⟩
    exact absurd same (parsedArguments_differ stamp stamp' blank)
  · exact ⟨_, _, listed_listOf stamp nonempty argued,
      single?_aloneOf literal stamp' other argued blank, rfl, rfl, fun _ => blank, fun _ => rfl⟩

end Shapes

theorem shapes_agree_iff_filled :
    let arguments : Option Json := some (.obj [("x", .int 1)])
    "f" ≠ "" ∧ (∀ c ∈ "f".toList, Json.Literal c) ∧ "f" ≠ "arguments" ∧ Argued arguments ∧
      ∃ inList alone,
        listed ⟨0, 0, ""⟩ (listOf "f" arguments).write = [inList] ∧
        single? ⟨0, 1, ""⟩ (aloneOf "f" arguments).write = some alone ∧
        inList.name = "f" ∧ alone.name = "f" ∧ inList.parsedArguments = alone.parsedArguments := by
  intro arguments
  have nonempty : "f" ≠ "" := by decide
  have literal : ∀ c ∈ "f".toList, Json.Literal c :=
    List.forall_mem_singleton.2 ⟨by decide, by decide, by decide⟩
  have other : "f" ≠ "arguments" := by decide
  have argued : Argued arguments :=
    .object (.obj (List.nodup_singleton _) (List.forall_mem_singleton.2 (.int 1)))
  have written : ¬BlankText arguments := fun ⟨_, text, _⟩ => nomatch Option.some.inj text
  obtain ⟨inList, alone, first, second, listName, aloneName, agree⟩ :=
    shapes_agree_iff ⟨0, 0, ""⟩ ⟨0, 1, ""⟩ nonempty literal other argued
  exact ⟨nonempty, literal, other, argued, inList, alone, first, second, listName, aloneName,
    agree.2 written⟩

theorem shapes_differ_empty :
    let arguments : Option Json := some (.str "")
    "f" ≠ "" ∧ (∀ c ∈ "f".toList, Json.Literal c) ∧ "f" ≠ "arguments" ∧ Argued arguments ∧
      ∃ inList alone,
        listed ⟨0, 0, ""⟩ (listOf "f" arguments).write = [inList] ∧
        single? ⟨0, 0, ""⟩ (aloneOf "f" arguments).write = some alone ∧
        inList.parsedArguments =
          .error ⟨.malformedJson, "Expecting value: line 1 column 1 (char 0)"⟩ ∧
        alone.parsedArguments = .ok (.obj []) := by
  intro arguments
  have nonempty : "f" ≠ "" := by decide
  have literal : ∀ c ∈ "f".toList, Json.Literal c :=
    List.forall_mem_singleton.2 ⟨by decide, by decide, by decide⟩
  have other : "f" ≠ "arguments" := by decide
  have blank : BlankText arguments := ⟨"", rfl, rfl⟩
  have nothing : Json.read [] = .error ⟨.expectingValue, 0⟩ := rfl
  have place : Json.Misread.message ⟨.expectingValue, 0⟩ [] =
      "Expecting value: line 1 column 1 (char 0)" := by decide +kernel
  have raised : (callOf ⟨0, 0, ""⟩ "f" arguments).parsedArguments =
      .error ⟨.malformedJson, Json.Misread.message ⟨.expectingValue, 0⟩ []⟩ := by
    unfold Call.parsedArguments
    rw [show (callOf ⟨0, 0, ""⟩ "f" arguments).arguments.toList = [] from rfl, nothing]
  rw [place] at raised
  exact ⟨nonempty, literal, other, .text "", _, _, listed_listOf _ nonempty (.text ""),
    single?_aloneOf_blank literal _ other blank, raised, rfl⟩

end Tool

end Completions
