import Completions.Number.Shortest

/-!
How a double is written: its shortest decimal, positional within a range of sizes and with an
exponent outside it.
-/

namespace Completions.Number

structure FloatStyle where
  nan : String
  infinity : String
  negativeInfinity : String
  /-- The least and the greatest exponent of the first digit that are written positionally. -/
  positionalFrom : Int
  positionalTo : Int
  exponentDigits : Nat
  deriving Repr

def decimalDigits (n : Nat) : List Char := Nat.toDigits 10 n

def intDigits (n : Int) : List Char :=
  if n < 0 then '-' :: decimalDigits n.natAbs else decimalDigits n.natAbs

/-- Digits with a point after the one whose place is `point`, counted from the first; a number
without a fraction gets `.0`. -/
def positional (ds : List Char) (point : Int) : List Char :=
  if point < 0 then
    ['0', '.'] ++ List.replicate (-point - 1).toNat '0' ++ ds
  else
    let whole := point.toNat + 1
    let padded := ds ++ List.replicate (whole - ds.length) '0'
    let fraction := padded.drop whole
    padded.take whole ++ '.' :: (if fraction.isEmpty then ['0'] else fraction)

def scientific (style : FloatStyle) (ds : List Char) (point : Int) : List Char :=
  let fraction := ds.drop 1
  let size := decimalDigits point.natAbs
  ds.take 1 ++ (if fraction.isEmpty then [] else '.' :: fraction) ++
    ['e', if point < 0 then '-' else '+'] ++
    List.replicate (style.exponentDigits - size.length) '0' ++ size

def spell (style : FloatStyle) (x : Float) : List Char :=
  match Binary.ofFloat? x with
  | none =>
    if x.isNaN then style.nan.toList
    else if x < 0 then style.negativeInfinity.toList
    else style.infinity.toList
  | some b =>
    let sign := if b.negative then ['-'] else []
    if b.significand = 0 then sign ++ ['0', '.', '0']
    else
      let d := shortest b
      let ds := decimalDigits d.digits
      let point := d.exponent + (ds.length : Int) - 1
      sign ++ if style.positionalFrom ≤ point ∧ point ≤ style.positionalTo
        then positional ds point else scientific style ds point

def fixed (places : Nat) (negative : Bool) (num den : Nat) : List Char :=
  let ds := decimalDigits (Binary.roundDiv (num * tenTo places) den)
  let ds := List.replicate (places + 1 - ds.length) '0' ++ ds
  (if negative then ['-'] else []) ++ ds.take (ds.length - places) ++
    (if places = 0 then [] else '.' :: ds.drop (ds.length - places))

def spellFixed (style : FloatStyle) (places : Nat) (x : Float) : List Char :=
  match Binary.ofFloat? x with
  | none => spell style x
  | some b => fixed places b.negative (b.significand * twoTo b.exponent.toNat) (twoTo (-b.exponent).toNat)

end Completions.Number
