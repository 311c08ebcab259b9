import Completions.Proofs.Balance
import Completions.Proofs.JsonText
import Completions.Proofs.Occurrence
import Completions.Tool.Mention

/-! A single call in the form in which models are told to make it. Its name and its arguments are
looked for apart, each behind the first mention of its key, and the arguments may mention both keys
again. Main statement: `single?_instructed`. -/

namespace Completions.Tool

section Keys

variable {text before after name word tail : List Char} {c : Char} {p : Nat}

theorem upToQuote?_append (unquoted : '"' ∉ name) (after : List Char) :
    upToQuote? (name ++ '"' :: after) = some name := by
  have inside : ∀ c ∈ name, (c != '"') = true := by
    intro c hc
    have other : c ≠ '"' := fun quote => unquoted (quote ▸ hc)
    simpa using other
  rw [upToQuote?, if_pos (by simp), List.takeWhile_append_of_pos inside]
  simp

theorem quotedAfterColon?_append (unquoted : '"' ∉ name) (after : List Char) :
    quotedAfterColon? (':' :: ' ' :: '"' :: (name ++ '"' :: after)) = some name :=
  upToQuote?_append unquoted after

theorem eq_of_infix_quoted (unquoted : '"' ∉ name) (noQuote : '"' ∉ tail) (plain : '"' ∉ word)
    (mentions : '"' :: (word ++ ['"']) <:+: '"' :: (name ++ '"' :: tail)) : word = name := by
  obtain ⟨x, y, split⟩ := mentions
  cases x with
  | nil =>
    have same : word ++ '"' :: y = name ++ '"' :: tail := by simpa using split
    have read := congrArg upToQuote? same
    rw [upToQuote?_append plain, upToQuote?_append unquoted] at read
    exact Option.some.inj read
  | cons d x =>
    -- Two quotes are left for the word, but the text has one.
    obtain ⟨-, rest⟩ := List.cons.inj split
    have quotes := congrArg (List.count '"') rest
    simp [List.count_eq_zero_of_not_mem unquoted, List.count_eq_zero_of_not_mem noQuote] at quotes
    omega

theorem drop_behind (a w b : List Char) (c : Char) :
    (a ++ c :: (w ++ b)).drop (a.length + 1 + w.length) = b := by
  rw [← List.drop_drop, List.append_cons, List.drop_left' (by simp), List.drop_left]

theorem nameIn?_first (first : IsLeast {p | Text.OccursAt nameMark text p} p)
    (read : quotedAfterColon? (text.drop (p + nameMark.length)) = some name) :
    nameIn? text = some name := by
  induction text generalizing p with
  | nil => exact absurd first.1 (Text.not_occursAt_nil (by decide) p)
  | cons c text ih =>
    have here : nameMark.isPrefixOf (c :: text) = true ↔ p = 0 := by
      rw [List.isPrefixOf_iff_prefix]
      exact ⟨fun h => Nat.le_zero.1 (first.2 h), fun h => by subst h; exact first.1⟩
    cases p with
    | zero =>
      rw [Nat.zero_add] at read
      rw [nameIn?, if_pos (here.2 rfl), read]
      rfl
    | succ p =>
      have later : IsLeast {p | Text.OccursAt nameMark text p} p :=
        ⟨first.1, fun q hq => Nat.le_of_succ_le_succ (first.2 (show q + 1 ∈ _ from hq))⟩
      rw [Nat.succ_add, List.drop_succ_cons] at read
      rw [nameIn?, if_neg fun h => absurd (here.1 h) (Nat.succ_ne_zero p), ih later read]
      rfl

theorem nameIn?_behind (absent : c ∉ nameMark) (fresh : ¬nameMark <:+: before)
    (read : quotedAfterColon? after = some name) :
    nameIn? (before ++ c :: (nameMark ++ after)) = some name := by
  refine nameIn?_first (Text.isLeast_behind absent fresh (List.prefix_append ..)) ?_
  rwa [drop_behind]

/-- What is read for arguments behind their key: a text or, where none follows, an object. -/
def argumentsAfter (after : List Char) : List Char :=
  (stringArguments? after).getD (objectArguments after)

theorem argumentsIn_behind (absent : c ∉ argumentsMark) (fresh : ¬argumentsMark <:+: before)
    (after : List Char) :
    argumentsIn (before ++ c :: (argumentsMark ++ after)) = argumentsAfter after := by
  have first := Text.isLeast_behind absent fresh (List.prefix_append argumentsMark after)
  rw [argumentsIn, (Text.find_eq_some_iff (by decide)).2 first]
  simp only [drop_behind, argumentsAfter]

theorem argumentsIn_absent (absent : ¬argumentsMark <:+: text) : argumentsIn text = noArguments := by
  rw [argumentsIn, (Text.find_eq_none_iff (by decide)).2 absent]

theorem argumentsAfter_object {cs s : List Char} (block : object? ('\x7b' :: cs) = some s) :
    argumentsAfter (':' :: ' ' :: '\x7b' :: cs) = s := by
  have object : argumentsAfter (':' :: ' ' :: '\x7b' :: cs) =
      (object? ('\x7b' :: cs)).getD noArguments := rfl
  rw [object, block, Option.getD_some]

theorem stringArguments?_of_string {cs : List Char} {v : String} {rest : List Char}
    (read : Json.string cs = .ok (v, rest)) : stringArguments? (':' :: ' ' :: '"' :: cs) =
      some (if Text.allBlank v.toList then noArguments else v.toList) := by
  have colon : Text.find [':'] (':' :: ' ' :: '"' :: cs) = some 0 := rfl
  have nothing : Text.allBlank [] = true := rfl
  have start : Text.trimStart (' ' :: '"' :: cs) = '"' :: cs := rfl
  simp only [stringArguments?, colon, List.take_zero, nothing, if_true, List.drop_succ_cons,
    List.drop_zero, start, read]

theorem argumentsAfter_string (v : String) (rest : List Char) :
    argumentsAfter (':' :: ' ' :: ((Json.str v).write ++ rest)) =
      if Text.allBlank v.toList then noArguments else v.toList := by
  have quoted : (Json.str v).write ++ rest =
      '"' :: (v.toList.flatMap Json.escapeChar ++ '"' :: rest) := by
    simp [Json.write, Json.writeString]
  rw [argumentsAfter, quoted, stringArguments?_of_string (Json.string_write v rest),
    Option.getD_some]

end Keys

section Form

variable {name before : List Char}

def callFront (name : List Char) : List Char :=
  '\x7b' :: (functionMark ++ [':', ' ']) ++
    '\x7b' :: (nameMark ++ ':' :: ' ' :: '"' :: (name ++ ['"']))

/-- A call as models are told to make it. -/
def callText (name arguments : List Char) : List Char :=
  callFront name ++
    ',' :: ' ' :: (argumentsMark ++ ':' :: ' ' :: (arguments ++ ['\x7d', '\x7d']))

example : callText ['f'] ['1'] =
    "\x7b\"function\": \x7b\"name\": \"f\", \"arguments\": 1\x7d\x7d".toList := by
  decide +kernel

theorem nameIn?_front (fresh : ¬nameMark <:+: before) (unquoted : '"' ∉ name)
    (after : List Char) : nameIn? (before ++ (callFront name ++ after)) = some name := by
  have shape : before ++ (callFront name ++ after) =
      before ++ '\x7b' :: (functionMark ++ [':', ' ']) ++
        '\x7b' :: (nameMark ++ ':' :: ' ' :: '"' :: (name ++ '"' :: after)) := by
    simp [callFront]
  rw [shape]
  refine nameIn?_behind (by decide) ?_ (quotedAfterColon?_append unquoted after)
  rw [Text.infix_append_cons_iff (by decide)]
  exact not_or.2 ⟨fresh, by decide⟩

theorem arguments_fresh (fresh : ¬argumentsMark <:+: before) (unquoted : '"' ∉ name)
    (other : name ≠ "arguments".toList) {tail : List Char} (noQuote : '"' ∉ tail) :
    ¬argumentsMark <:+: before ++ (callFront name ++ tail) := by
  have mark : argumentsMark = '"' :: ("arguments".toList ++ ['"']) := by decide
  have named : ¬argumentsMark <:+: '"' :: (name ++ '"' :: tail) := fun mentions =>
    other (eq_of_infix_quoted unquoted noQuote (by decide) (mark ▸ mentions)).symm
  have key : ¬argumentsMark <:+: nameMark ++ [':'] ++ ' ' :: '"' :: (name ++ '"' :: tail) := by
    rw [Text.infix_append_cons_iff (by decide)]
    exact not_or.2 ⟨by decide, named⟩
  have call : ¬argumentsMark <:+: functionMark ++ [':', ' '] ++
      '\x7b' :: (nameMark ++ [':'] ++ ' ' :: '"' :: (name ++ '"' :: tail)) := by
    rw [Text.infix_append_cons_iff (by decide)]
    exact not_or.2 ⟨by decide, key⟩
  have shape : before ++ (callFront name ++ tail) =
      before ++ '\x7b' :: (functionMark ++ [':', ' '] ++
        '\x7b' :: (nameMark ++ [':'] ++ ' ' :: '"' :: (name ++ '"' :: tail))) := by
    simp [callFront]
  rw [shape, Text.infix_append_cons_iff (by decide)]
  exact not_or.2 ⟨fresh, call⟩

theorem single?_front (stamp : Stamp) {name : String} (fresh : ¬nameMark <:+: before)
    (unquoted : '"' ∉ name.toList) (after : List Char) :
    single? stamp (before ++ (callFront name.toList ++ after)) =
      some { id := stamp.callId name, name
             arguments :=
               String.ofList (argumentsIn (before ++ (callFront name.toList ++ after))) } := by
  have mentions {word : List Char} (within : word <:+: callFront name.toList) (nonempty : word ≠ []) :
      Text.occurs word (before ++ (callFront name.toList ++ after)) = true :=
    (Text.occurs_iff nonempty).2 (within.trans ⟨before, after, List.append_assoc ..⟩)
  have function : functionMark <:+: callFront name.toList :=
    ⟨['\x7b'], [':', ' '] ++ '\x7b' :: (nameMark ++ ':' :: ' ' :: '"' :: (name.toList ++ ['"'])), by
      simp [callFront]⟩
  have key : nameMark <:+: callFront name.toList :=
    ⟨'\x7b' :: (functionMark ++ [':', ' ', '\x7b']), ':' :: ' ' :: '"' :: (name.toList ++ ['"']), by
      simp [callFront]⟩
  rw [single?, mentions function (by decide), mentions key (by decide), Bool.and_true, if_pos rfl,
    nameIn?_front fresh unquoted, Option.map_some, String.ofList_toList]

theorem single?_callText (stamp : Stamp) {name : String} (unquoted : '"' ∉ name.toList)
    (other : name ≠ "arguments") (noName : ¬nameMark <:+: before)
    (noArguments : ¬argumentsMark <:+: before) (arguments after : List Char) :
    single? stamp (before ++ callText name.toList arguments ++ after) =
      some { id := stamp.callId name, name
             arguments := String.ofList
               (argumentsAfter (':' :: ' ' :: (arguments ++ '\x7d' :: '\x7d' :: after))) } := by
  have others : name.toList ≠ "arguments".toList := fun same => other (String.toList_inj.1 same)
  have named : before ++ callText name.toList arguments ++ after =
      before ++ (callFront name.toList ++ ',' :: ' ' ::
        (argumentsMark ++ ':' :: ' ' :: (arguments ++ '\x7d' :: '\x7d' :: after))) := by
    simp [callText]
  have keyed : before ++ (callFront name.toList ++ ',' :: ' ' ::
        (argumentsMark ++ ':' :: ' ' :: (arguments ++ '\x7d' :: '\x7d' :: after))) =
      before ++ (callFront name.toList ++ [',']) ++ ' ' ::
        (argumentsMark ++ ':' :: ' ' :: (arguments ++ '\x7d' :: '\x7d' :: after)) := by
    simp
  have untilKey : ¬argumentsMark <:+: before ++ (callFront name.toList ++ [',']) :=
    arguments_fresh noArguments unquoted others (by decide)
  rw [named, single?_front stamp noName unquoted, keyed, argumentsIn_behind (by decide) untilKey]

theorem single?_callText_object (stamp : Stamp) {name : String} (unquoted : '"' ∉ name.toList)
    (other : name ≠ "arguments") (noName : ¬nameMark <:+: before)
    (noArguments : ¬argumentsMark <:+: before) {s : List Char} {v : Json}
    (opens : s.head? = some '\x7b') (closes : s.getLast? = some '\x7d')
    (read : Json.read? s = some v) (after : List Char) :
    single? stamp (before ++ callText name.toList s ++ after) =
      some { id := stamp.callId name, name, arguments := String.ofList s } := by
  have block := object?_of_read opens closes read ('\x7d' :: '\x7d' :: after)
  obtain ⟨cs, rfl⟩ := List.head?_eq_some_iff.1 opens
  rw [single?_callText stamp unquoted other noName noArguments]
  exact congrArg (fun arguments => some (Call.mk _ _ (String.ofList arguments) _))
    (argumentsAfter_object block)

theorem single?_callText_string (stamp : Stamp) {name : String} (unquoted : '"' ∉ name.toList)
    (other : name ≠ "arguments") (noName : ¬nameMark <:+: before)
    (noArguments : ¬argumentsMark <:+: before) (v : String) (after : List Char) :
    single? stamp (before ++ callText name.toList (Json.str v).write ++ after) =
      some { id := stamp.callId name, name
             arguments := if Text.allBlank v.toList then "\x7b\x7d" else v } := by
  rw [single?_callText stamp unquoted other noName noArguments, argumentsAfter_string]
  split
  · rfl
  · rw [String.ofList_toList]

end Form

/-- A call in the form is found as it was written, whatever stands around it, where neither key is
mentioned before: an object is taken over letter by letter, and a string is read. The name needs no
more than to have no quote and not to be the key of the arguments. -/
theorem single?_instructed (stamp : Stamp) {name : String} (unquoted : '"' ∉ name.toList)
    (other : name ≠ "arguments") {before : List Char} (noName : ¬nameMark <:+: before)
    (noArguments : ¬argumentsMark <:+: before) (after : List Char) :
    (∀ s fields, s.head? = some '\x7b' → s.getLast? = some '\x7d' →
      Json.read? s = some (.obj fields) →
      single? stamp (before ++ callText name.toList s ++ after) =
        some { id := stamp.callId name, name, arguments := String.ofList s }) ∧
    ∀ v : String, single? stamp (before ++ callText name.toList (Json.str v).write ++ after) =
      some { id := stamp.callId name, name
             arguments := if Text.allBlank v.toList then "\x7b\x7d" else v } :=
  ⟨fun _ _ opens closes read =>
      single?_callText_object stamp unquoted other noName noArguments opens closes read after,
    fun v => single?_callText_string stamp unquoted other noName noArguments v after⟩

theorem single?_instructed_mentioning :
    let before := ['\x7b', '"', ' ']
    let s := '\x7b' :: (nameMark ++ ':' :: (argumentsMark ++ ['\x7d']))
    ('"' ∉ "f".toList ∧ "f" ≠ "arguments" ∧ ¬nameMark <:+: before ∧ ¬argumentsMark <:+: before) ∧
      single? ⟨0, 0, ""⟩ (before ++ callText "f".toList s ++ ['"']) =
        some { id := "call_f_0", name := "f", arguments := String.ofList s } ∧
      single? ⟨0, 0, ""⟩ (before ++ callText "f".toList (Json.str " ").write ++ ['"']) =
        some { id := "call_f_0", name := "f" } := by
  intro before s
  have unquoted : '"' ∉ "f".toList := by decide
  have other : "f" ≠ "arguments" := by decide
  have noName : ¬nameMark <:+: before := by decide
  have noArguments : ¬argumentsMark <:+: before := by decide
  have found := single?_instructed ⟨0, 0, ""⟩ unquoted other noName noArguments ['"']
  exact ⟨⟨unquoted, other, noName, noArguments⟩,
    found.1 s [("name", .str "arguments")] rfl rfl rfl, found.2 " "⟩

end Completions.Tool
