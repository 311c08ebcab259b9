import Completions.Fault
import Completions.Json.Shown
import Completions.Number.Binary
import Completions.Text.Integer

/-!
A JSON value taken as a whole number: a double loses its fraction, true counts as one, and a text
may spell a number.
-/

namespace Completions.Json

inductive NotInteger where
  | undefined
  | infinite
  | text (s : String)
  | kind (name : String)
  deriving DecidableEq, Repr

namespace NotInteger

def message : NotInteger → String
  | .undefined => "cannot convert float NaN to integer"
  | .infinite => "cannot convert float infinity to integer"
  | .text s => "invalid literal for int() with base 10: " ++ quoted s
  | .kind name =>
    "int() argument must be a string, a bytes-like object or a real number, not '" ++ name ++ "'"

def fault (w : NotInteger) : Fault :=
  match w with
  | .undefined => ⟨.value, w.message⟩
  | .infinite => ⟨.overflow, w.message⟩
  | .text _ => ⟨.value, w.message⟩
  | .kind _ => ⟨.type, w.message⟩

end NotInteger

def toInteger : Json → Except NotInteger Int
  | .null => .error (.kind "NoneType")
  | .bool b => .ok (if b then 1 else 0)
  | .int n => .ok n
  | .float x =>
    match Number.truncate? x with
    | some n => .ok n
    | none => .error (if x.isNaN then .undefined else .infinite)
  | .str s =>
    match Text.integer? s.toList with
    | some n => .ok n
    | none => .error (.text s)
  | .arr _ => .error (.kind "list")
  | .obj _ => .error (.kind "dict")

end Completions.Json
