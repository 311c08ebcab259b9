import Completions.Json.Basic
import Completions.Number.Binary
import Completions.Text.Encoding

/-!
Reading JSON text. A value is read off the front of a text, together with what is left of it. A
fault tells how many characters were left where it was found, which gives its place once the whole
text is known. Beside the standard's values there are the words NaN, Infinity and -Infinity.
-/

namespace Completions.Json

inductive Flaw where
  | byteOrderMark
  | expectingValue
  | expectingName
  | expectingColon
  | expectingComma
  | unterminatedString
  | controlCharacter
  | invalidEscape
  | invalidUnicodeEscape
  | extraData
  /-- The text nests deeper than was provided for; a text's own length is always enough. -/
  | tooDeep
  deriving DecidableEq, Repr

def Flaw.message : Flaw → String
  | .byteOrderMark => "Unexpected UTF-8 BOM (decode using utf-8-sig)"
  | .expectingValue => "Expecting value"
  | .expectingName => "Expecting property name enclosed in double quotes"
  | .expectingColon => "Expecting ':' delimiter"
  | .expectingComma => "Expecting ',' delimiter"
  | .unterminatedString => "Unterminated string starting at"
  | .controlCharacter => "Invalid control character at"
  | .invalidEscape => "Invalid \\escape"
  | .invalidUnicodeEscape => "Invalid \\uXXXX escape"
  | .extraData => "Extra data"
  | .tooDeep => "Nested too deeply"

/-- A flaw, found where `left` characters of the text were left. -/
structure Misread where
  flaw : Flaw
  left : Nat
  deriving DecidableEq, Repr

def isSpace (c : Char) : Bool := c == ' ' || c == '\t' || c == '\n' || c == '\r'

def skip (cs : List Char) : List Char := cs.dropWhile isSpace

def hexValue? (c : Char) : Option Nat :=
  if '0' ≤ c ∧ c ≤ '9' then some (c.toNat - '0'.toNat)
  else if 'a' ≤ c ∧ c ≤ 'f' then some (c.toNat - 'a'.toNat + 10)
  else if 'A' ≤ c ∧ c ≤ 'F' then some (c.toNat - 'A'.toNat + 10)
  else none

def hexFour? : List Char → Option Nat
  | a :: b :: c :: d :: _ :: _ => do
    let a ← hexValue? a
    let b ← hexValue? b
    let c ← hexValue? c
    let d ← hexValue? d
    pure (((a * 16 + b) * 16 + c) * 16 + d)
  | _ => none

/-- Code point `n`; half of a pair is no character and becomes the replacement character. -/
def unitChar (n : Nat) : Char :=
  if Text.isHighSurrogate n ∨ Text.isLowSurrogate n then '\uFFFD' else Char.ofNat n

/-- What an escape stands for and how many characters it takes after its backslash. A high
surrogate takes a low one that follows with it. -/
def escape (after : List Char) : Except Misread (Char × Nat) :=
  match after with
  | 'u' :: hex =>
    match hexFour? hex with
    | none => .error ⟨.invalidUnicodeEscape, after.length⟩
    | some high =>
      match Text.isHighSurrogate high, hex.drop 4 with
      | true, '\\' :: 'u' :: second =>
        if (second.drop 4).isEmpty then .ok (unitChar high, 5)
        else match hexFour? second with
          | none => .error ⟨.invalidUnicodeEscape, second.length + 1⟩
          | some low =>
            if Text.isLowSurrogate low then .ok (Text.pairChar high low, 11)
            else .ok (unitChar high, 5)
      | _, _ => .ok (unitChar high, 5)
  | '"' :: _ => .ok ('"', 1)
  | '\\' :: _ => .ok ('\\', 1)
  | '/' :: _ => .ok ('/', 1)
  | 'b' :: _ => .ok ('\x08', 1)
  | 'f' :: _ => .ok ('\x0c', 1)
  | 'n' :: _ => .ok ('\n', 1)
  | 'r' :: _ => .ok ('\r', 1)
  | 't' :: _ => .ok ('\t', 1)
  | _ => .error ⟨.invalidEscape, after.length + 1⟩

/-- The characters up to the closing quote. `opened` is the text after the opening quote; `taken` more
characters belong to an escape that has been read. -/
def stringBody (opened : List Char) : (taken : Nat) → List Char → Except Misread (List Char × List Char)
  | _, [] => .error ⟨.unterminatedString, opened.length + 1⟩
  | taken + 1, _ :: rest => stringBody opened taken rest
  | 0, c :: rest =>
    if c = '"' then .ok ([], rest)
    else if c = '\\' then
      if rest.isEmpty then .error ⟨.unterminatedString, opened.length + 1⟩
      else do
        let (d, size) ← escape rest
        let (s, rest) ← stringBody opened size rest
        pure (d :: s, rest)
    else if c.toNat < 0x20 then .error ⟨.controlCharacter, rest.length + 1⟩
    else do
      let (s, rest) ← stringBody opened 0 rest
      pure (c :: s, rest)

def string (rest : List Char) : Except Misread (String × List Char) := do
  let (s, rest) ← stringBody rest 0 rest
  pure (String.ofList s, rest)

def digitsFront (cs : List Char) : List Char × List Char :=
  (cs.takeWhile Char.isDigit, cs.dropWhile Char.isDigit)

def wholePart? : List Char → Option (List Char × List Char)
  | '0' :: rest => some (['0'], rest)
  | c :: rest => if c.isDigit then some (digitsFront (c :: rest)) else none
  | [] => none

def fractionPart (cs : List Char) : List Char × List Char :=
  match cs with
  | '.' :: rest =>
    match digitsFront rest with
    | ([], _) => ([], cs)
    | (ds, rest) => (ds, rest)
  | _ => ([], cs)

def exponentSign : List Char → Bool × List Char
  | '-' :: rest => (true, rest)
  | '+' :: rest => (false, rest)
  | cs => (false, cs)

def exponentPart (cs : List Char) : Option Int × List Char :=
  match cs with
  | c :: rest =>
    if c = 'e' ∨ c = 'E' then
      let (negative, rest) := exponentSign rest
      match digitsFront rest with
      | ([], _) => (none, cs)
      | (ds, rest) =>
        let n : Int := Nat.ofDigitChars 10 ds 0
        (some (if negative then -n else n), rest)
    else (none, cs)
  | [] => (none, cs)

/-- A number with a fraction or an exponent is a double, any other a whole number. -/
def unsigned? (negative : Bool) (cs : List Char) : Option (Json × List Char) := do
  let (whole, rest) ← wholePart? cs
  let (fraction, rest) := fractionPart rest
  let (exponent, rest) := exponentPart rest
  let digits := Nat.ofDigitChars 10 (whole ++ fraction) 0
  if fraction.isEmpty ∧ exponent.isNone then
    pure (.int (if negative then -(digits : Int) else digits), rest)
  else
    pure (.float (Number.ofDecimal negative digits (exponent.getD 0 - fraction.length)), rest)

def number? : List Char → Option (Json × List Char)
  | '-' :: rest => unsigned? true rest
  | cs => unsigned? false cs

def words : List (String × Json) :=
  [("null", .null), ("true", .bool true), ("false", .bool false),
   ("NaN", .float (0.0 / 0.0)), ("Infinity", .float (1.0 / 0.0)),
   ("-Infinity", .float (-1.0 / 0.0))]

def word? (cs : List Char) : Option (Json × List Char) :=
  words.findSome? fun (w, v) =>
    if w.toList.isPrefixOf cs then some (v, cs.drop w.toList.length) else none

def name (cs : List Char) : Except Misread (String × List Char) :=
  match cs with
  | [] => .error ⟨.expectingName, 0⟩
  | c :: rest =>
    if c = '"' then do
      let (k, rest) ← string rest
      match skip rest with
      | [] => .error ⟨.expectingColon, 0⟩
      | d :: rest =>
        if d = ':' then pure (k, skip rest) else .error ⟨.expectingColon, rest.length + 1⟩
    else .error ⟨.expectingName, rest.length + 1⟩

mutual

/-- One value; `fuel` bounds how often the reader turns to an inner one. -/
def value (fuel : Nat) (cs : List Char) : Except Misread (Json × List Char) :=
  match fuel, cs with
  | 0, cs => .error ⟨.tooDeep, cs.length⟩
  | _ + 1, [] => .error ⟨.expectingValue, 0⟩
  | fuel + 1, c :: rest =>
    if c = '"' then do
      let (s, rest) ← string rest
      pure (.str s, rest)
    else if c = '[' then
      if (skip rest).head? = some ']' then .ok (.arr [], (skip rest).tail)
      else do
        let (vs, rest) ← items fuel (skip rest)
        pure (.arr vs, rest)
    else if c = '{' then
      if (skip rest).head? = some '}' then .ok (.obj [], (skip rest).tail)
      else do
        let (kvs, rest) ← pairs fuel (skip rest)
        pure (.obj (Fields.ofPairs kvs), rest)
    else match (word? (c :: rest)).or (number? (c :: rest)) with
      | some r => .ok r
      | none => .error ⟨.expectingValue, rest.length + 1⟩

def items (fuel : Nat) (cs : List Char) : Except Misread (List Json × List Char) :=
  match fuel with
  | 0 => .error ⟨.tooDeep, cs.length⟩
  | fuel + 1 => do
    let (v, rest) ← value fuel cs
    match skip rest with
    | [] => .error ⟨.expectingComma, 0⟩
    | c :: rest =>
      if c = ']' then pure ([v], rest)
      else if c = ',' then do
        let (vs, rest) ← items fuel (skip rest)
        pure (v :: vs, rest)
      else .error ⟨.expectingComma, rest.length + 1⟩

def pairs (fuel : Nat) (cs : List Char) : Except Misread (List (String × Json) × List Char) :=
  match fuel with
  | 0 => .error ⟨.tooDeep, cs.length⟩
  | fuel + 1 => do
    let (k, rest) ← name cs
    let (v, rest) ← value fuel rest
    match skip rest with
    | [] => .error ⟨.expectingComma, 0⟩
    | c :: rest =>
      if c = '}' then pure ([(k, v)], rest)
      else if c = ',' then do
        let (kvs, rest) ← pairs fuel (skip rest)
        pure ((k, v) :: kvs, rest)
      else .error ⟨.expectingComma, rest.length + 1⟩

end

/-- Each inner value lies at least one character further on than the turn that reads it. -/
def enough (cs : List Char) : Nat := 2 * cs.length + 1

def read (cs : List Char) : Except Misread Json := do
  if cs.head? = some '\uFEFF' then .error ⟨.byteOrderMark, cs.length⟩
  let start := skip cs
  let (v, rest) ← value (enough start) start
  match skip rest with
  | [] => pure v
  | rest => .error ⟨.extraData, rest.length⟩

def read? (cs : List Char) : Option Json := (read cs).toOption

/-- The place of a misreading in its text: line and column count from one, characters from zero. -/
def Misread.message (m : Misread) (cs : List Char) : String :=
  let before := cs.take (cs.length - m.left)
  let line := before.count '\n' + 1
  let column := (before.reverse.takeWhile (· != '\n')).length + 1
  s!"{m.flaw.message}: line {line} column {column} (char {before.length})"

end Completions.Json
