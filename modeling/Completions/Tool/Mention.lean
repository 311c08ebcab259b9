import Completions.Json.Reader
import Completions.Text.Blank
import Completions.Text.Search
import Completions.Tool.Basic

/-!
Calls mentioned in what a model wrote: a single call embedded in prose, or an object that lists
calls. The text as a whole need not be JSON. An object is found by its braces alone: quotes begin and end
strings, a backslash in a string takes the next character with it, and braces in strings do not count.
-/

namespace Completions.Tool

/-- Where a reader of braces stands: outside strings, inside one, or after a backslash in one. -/
inductive Mode where
  | outside
  | inside
  | escaped
  deriving DecidableEq, Repr

/-- The text up to the brace that closes the `depth` braces that are open. -/
def closing (depth : Nat) (mode : Mode) : List Char → Option (List Char)
  | [] => none
  | c :: rest =>
    match mode with
    | .escaped => (closing depth .inside rest).map (c :: ·)
    | .inside =>
      if c = '\\' then (closing depth .escaped rest).map (c :: ·)
      else if c = '"' then (closing depth .outside rest).map (c :: ·)
      else (closing depth .inside rest).map (c :: ·)
    | .outside =>
      if c = '"' then (closing depth .inside rest).map (c :: ·)
      else if c = '\x7b' then (closing (depth + 1) .outside rest).map (c :: ·)
      else if c = '\x7d' then
        if depth ≤ 1 then some [c] else (closing (depth - 1) .outside rest).map (c :: ·)
      else (closing depth .outside rest).map (c :: ·)

def object? : List Char → Option (List Char)
  | [] => none
  | c :: rest => if c = '\x7b' then (closing 1 .outside rest).map (c :: ·) else none

def objectAt? (text : List Char) (start : Int) : Option (List Char) :=
  if start < 0 then none else object? (text.drop start.toNat)

def functionMark : List Char := "\"function\"".toList
def nameMark : List Char := "\"name\"".toList
def argumentsMark : List Char := "\"arguments\"".toList
def callsMark : List Char := "\"tool_calls\"".toList

def upToQuote? (cs : List Char) : Option (List Char) :=
  if '"' ∈ cs then some (cs.takeWhile (· != '"')) else none

def quotedAfterColon? (cs : List Char) : Option (List Char) :=
  match Text.trimStart cs with
  | [] => none
  | c :: rest =>
    if c = ':' then
      match Text.trimStart rest with
      | [] => none
      | d :: rest => if d = '"' then upToQuote? rest else none
    else none

def nameIn? : List Char → Option (List Char)
  | [] => none
  | c :: rest =>
    let here :=
      if nameMark.isPrefixOf (c :: rest) then
        quotedAfterColon? ((c :: rest).drop nameMark.length)
      else none
    here.or (nameIn? rest)

def noArguments : List Char := ['\x7b', '\x7d']

/-- Arguments written as a JSON string, when that is what follows the mark: outer none means
something else follows. -/
def stringArguments? (after : List Char) : Option (List Char) :=
  match Text.find [':'] after with
  | none => none
  | some colon =>
    if Text.allBlank (after.take colon) then
      match Text.trimStart (after.drop (colon + 1)) with
      | [] => none
      | c :: rest =>
        if c = '"' then
          match Json.string rest with
          | .ok (s, _) => some (if Text.allBlank s.toList then noArguments else s.toList)
          | .error _ => some noArguments
        else none
    else none

def objectArguments (after : List Char) : List Char :=
  match Text.find ['\x7b'] after with
  | none => noArguments
  | some brace => (object? (after.drop brace)).getD noArguments

def argumentsIn (text : List Char) : List Char :=
  match Text.find argumentsMark text with
  | none => noArguments
  | some mark =>
    let after := text.drop (mark + argumentsMark.length)
    (stringArguments? after).getD (objectArguments after)

def single? (stamp : Stamp) (text : List Char) : Option Call :=
  if Text.occurs functionMark text && Text.occurs nameMark text then
    (nameIn? text).map fun name =>
      let name := String.ofList name
      { id := stamp.callId name, name, arguments := String.ofList (argumentsIn text) }
  else none

def Call.parsedArguments (c : Call) : Except Fault Json :=
  match Json.read c.arguments.toList with
  | .ok v => .ok v
  | .error m => .error ⟨.malformedJson, m.message c.arguments.toList⟩

/-- The list of calls of the object that begins at place `start`, if it reaches past `mark`. -/
def listAt? (text : List Char) (mark start : Nat) : Option (List Json) := do
  let block ← object? (text.drop start)
  if mark < start + block.length then
    match Json.read? block with
    | some (.obj fields) =>
      match Fields.get fields "tool_calls" with
      | .arr raws => some raws
      | _ => none
    | _ => none
  else none

/-- The list of calls around the first calls mark: of the objects that hold it the innermost that
has such a list. -/
def list? (text : List Char) : Option (List Json) := do
  let mark ← Text.find callsMark text
  (Text.places '\x7b' (text.take mark)).reverse.findSome? (listAt? text mark)

/-- The calls of the list a text holds, without those that cannot be read. -/
def listed (stamp : Stamp) (text : List Char) : List Call :=
  ((list? text).getD []).filterMap fun raw => (Call.ofJson stamp raw).toOption

end Completions.Tool
