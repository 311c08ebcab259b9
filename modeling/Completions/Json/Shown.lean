import Completions.Json.Basic
import Completions.Number.Spelling
import Completions.Text.Quoted

/-!
A JSON value as messages show it. Texts are quoted, except when the whole value is a text and is
named rather than shown.
-/

namespace Completions.Json

def shownFloat : Number.FloatStyle := ⟨"nan", "inf", "-inf", -4, 15, 2⟩

mutual

def display : Json → List Char
  | .null => "None".toList
  | .bool true => "True".toList
  | .bool false => "False".toList
  | .int n => Number.intDigits n
  | .float x => Number.spell shownFloat x
  | .str s => Text.quote s.toList
  | .arr items => '[' :: (displayItems items ++ [']'])
  | .obj fields => '{' :: (displayFields fields ++ ['}'])

def displayItems : List Json → List Char
  | [] => []
  | [v] => display v
  | v :: w :: rest => display v ++ ',' :: ' ' :: displayItems (w :: rest)

def displayFields : List (String × Json) → List Char
  | [] => []
  | [(k, v)] => Text.quote k.toList ++ ':' :: ' ' :: display v
  | (k, v) :: f :: rest =>
    Text.quote k.toList ++ ':' :: ' ' :: display v ++ ',' :: ' ' :: displayFields (f :: rest)

end

def shown (v : Json) : String := String.ofList v.display

def named : Json → String
  | .str s => s
  | v => v.shown

end Completions.Json
