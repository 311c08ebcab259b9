/-!
Doubles as whole numbers: the exact value of a double, and the double nearest to a fraction. All
arithmetic here is on whole numbers, so nothing is rounded but by `Binary.nearest`.
-/

namespace Completions.Number

def twoTo (e : Nat) : Nat := Nat.pow 2 e

def tenTo (e : Nat) : Nat := Nat.pow 10 e

/-- The value `significand · 2 ^ exponent`, below zero when `negative`. -/
structure Binary where
  negative : Bool
  significand : Nat
  exponent : Int
  deriving DecidableEq, Repr

namespace Binary

def ofFloat? (x : Float) : Option Binary :=
  let bits := x.toBits.toNat
  let negative := bits >>> 63 == 1
  let field := (bits >>> 52) % 2048
  let fraction := bits % twoTo 52
  if field = 2047 then none
  else if field = 0 then some ⟨negative, fraction, -1074⟩
  else some ⟨negative, fraction + twoTo 52, (field : Int) - 1075⟩

/-- Round a quotient to the nearest whole number, a half to the even one. -/
def roundDiv (num den : Nat) : Nat :=
  let q := num / den
  let twice := 2 * (num % den)
  if twice < den then q
  else if den < twice then q + 1
  else q + q % 2

/-- `num / den` counted in units of `2 ^ e`. -/
def scaled (num den : Nat) (e : Int) : Nat × Nat :=
  if 0 ≤ e then (num, den * twoTo e.toNat) else (num * twoTo (-e).toNat, den)

/-- The unit in which a fraction has 53 binary digits, or the smallest unit there is. -/
def unitOf (num den : Nat) : Int :=
  let guess := (num.log2 : Int) - (den.log2 : Int) - 52
  let (n, d) := scaled num den guess
  let e :=
    if n / d < twoTo 52 then guess - 1
    else if twoTo 53 ≤ n / d then guess + 1
    else guess
  max e (-1074)

/-- The bits of the double nearest to `num / den`, without the sign; a half goes to the even
neighbour and what is too large to infinity. -/
def nearestBits (num den : Nat) : Nat :=
  if num = 0 then 0
  else
    let e := unitOf num den
    let (n, d) := scaled num den e
    let m := roundDiv n d
    let (m, e) := if m = twoTo 53 then (twoTo 52, e + 1) else (m, e)
    if m < twoTo 52 then m
    else if 971 < e then 2047 * twoTo 52
    else (e + 1075).toNat * twoTo 52 + (m - twoTo 52)

def nearest (negative : Bool) (num den : Nat) : Float :=
  Float.ofBits (UInt64.ofNat (nearestBits num den + if negative then twoTo 63 else 0))

end Binary

/-- The double nearest to `m · 10 ^ e`. Powers far outside the range of doubles are not computed. -/
def ofDecimal (negative : Bool) (m : Nat) (e : Int) : Float :=
  let size : Int := (Nat.toDigits 10 m).length + e
  if m = 0 ∨ size < -330 then Binary.nearest negative 0 1
  else if 320 < size then Binary.nearest negative (twoTo 1024) 1
  else if 0 ≤ e then Binary.nearest negative (m * tenTo e.toNat) 1
  else Binary.nearest negative m (tenTo (-e).toNat)

def ofInt (n : Int) : Float := Binary.nearest (decide (n < 0)) n.natAbs 1

def tooLarge (n : Int) : Bool := decide (twoTo 1024 - twoTo 970 ≤ n.natAbs)

def truncate? (x : Float) : Option Int :=
  (Binary.ofFloat? x).map fun b =>
    let size : Nat := if 0 ≤ b.exponent then b.significand * twoTo b.exponent.toNat
      else b.significand / twoTo (-b.exponent).toNat
    if b.negative then -(size : Int) else size

end Completions.Number
