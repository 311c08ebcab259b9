import Completions.Json.Basic
import Completions.Number.Spelling

/-!
The text of a JSON value: fields in their order, a space after each comma and colon, and every
character but quotes, backslashes and controls as it is.
-/

namespace Completions.Json

def floatStyle : Number.FloatStyle := ⟨"NaN", "Infinity", "-Infinity", -4, 15, 2⟩

def hexDigits (n places : Nat) : List Char :=
  let ds := Nat.toDigits 16 n
  List.replicate (places - ds.length) '0' ++ ds

def escapeChar (c : Char) : List Char :=
  if c = '"' then ['\\', '"']
  else if c = '\\' then ['\\', '\\']
  else if c = '\n' then ['\\', 'n']
  else if c = '\r' then ['\\', 'r']
  else if c = '\t' then ['\\', 't']
  else if c = '\x08' then ['\\', 'b']
  else if c = '\x0c' then ['\\', 'f']
  else if c.toNat < 0x20 then '\\' :: 'u' :: hexDigits c.toNat 4
  else [c]

def writeString (s : List Char) : List Char :=
  '"' :: s.flatMap escapeChar ++ ['"']

mutual

def write : Json → List Char
  | .null => ['n', 'u', 'l', 'l']
  | .bool true => ['t', 'r', 'u', 'e']
  | .bool false => ['f', 'a', 'l', 's', 'e']
  | .int n => Number.intDigits n
  | .float x => Number.spell floatStyle x
  | .str s => writeString s.toList
  | .arr items => '[' :: (writeItems items ++ [']'])
  | .obj fields => '{' :: (writeFields fields ++ ['}'])

def writeItems : List Json → List Char
  | [] => []
  | [v] => write v
  | v :: w :: rest => write v ++ ',' :: ' ' :: writeItems (w :: rest)

def writeFields : List (String × Json) → List Char
  | [] => []
  | [(k, v)] => writeString k.toList ++ ':' :: ' ' :: write v
  | (k, v) :: f :: rest =>
    writeString k.toList ++ ':' :: ' ' :: write v ++ ',' :: ' ' :: writeFields (f :: rest)

end

def text (v : Json) : String := String.ofList v.write

end Completions.Json
