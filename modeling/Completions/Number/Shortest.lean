import Completions.Number.Binary

/-!
The shortest decimal that reads back. Every real number in a certain interval around a double is
rounded to it. Of the decimals in the interval those with the fewest digits are sought, and of
these the one nearest to the double; an exact tie goes to the even digit.
-/

namespace Completions.Number

structure Decimal where
  digits : Nat
  exponent : Int
  deriving DecidableEq, Repr

/-- A double with the interval that is rounded to it, all three over the denominator `unit`. -/
structure Interval where
  low : Nat
  value : Nat
  high : Nat
  unit : Nat
  closed : Bool
  deriving DecidableEq, Repr

namespace Interval

/-- The neighbour below the least significand of a binade is half as far away as the one above. -/
def ofBinary (b : Binary) : Interval :=
  let below := if b.significand = twoTo 52 ∧ -1074 < b.exponent then 1 else 2
  let shift := b.exponent - 2
  let num := if 0 ≤ shift then twoTo shift.toNat else 1
  let unit := if 0 ≤ shift then 1 else twoTo (-shift).toNat
  { low := (4 * b.significand - below) * num
    value := 4 * b.significand * num
    high := (4 * b.significand + 2) * num
    unit
    closed := b.significand % 2 == 0 }

def leading (i : Interval) : Int :=
  if i.unit ≤ i.value then (Nat.toDigits 10 (i.value / i.unit)).length - 1
  else -((Nat.toDigits 10 ((i.unit + i.value - 1) / i.value - 1)).length : Int)

/-- `x / i.unit` counted in units of `10 ^ k`, as a fraction. -/
def onGrid (i : Interval) (x : Nat) (k : Int) : Nat × Nat :=
  if 0 ≤ k then (x, i.unit * tenTo k.toNat) else (x * tenTo (-k).toNat, i.unit)

def contains (i : Interval) (d : Nat) (k : Int) : Bool :=
  let (low, den) := i.onGrid i.low k
  let (high, _) := i.onGrid i.high k
  if i.closed then decide (low ≤ d * den) && decide (d * den ≤ high)
  else decide (low < d * den) && decide (d * den < high)

/-- The nearer of the value's two neighbours on the grid of step `10 ^ k`, of those two that read
back. -/
def onStep? (i : Interval) (k : Int) : Option Decimal :=
  let (num, den) := i.onGrid i.value k
  let d := num / den
  match i.contains d k, i.contains (d + 1) k with
  | false, false => none
  | true, false => some ⟨d, k⟩
  | false, true => some ⟨d + 1, k⟩
  | true, true => some ⟨Binary.roundDiv num den, k⟩

def search (i : Interval) (k : Int) : Nat → Decimal
  | 0 => ⟨(i.onGrid i.value k).1 / (i.onGrid i.value k).2, k⟩
  | count + 1 => (i.onStep? k).getD (i.search (k - 1) count)

end Interval

def Decimal.normal (d : Decimal) : Nat → Decimal
  | 0 => d
  | fuel + 1 =>
    if d.digits ≠ 0 ∧ d.digits % 10 = 0 then Decimal.normal ⟨d.digits / 10, d.exponent + 1⟩ fuel
    else d

/-- The shortest decimal of a value above zero: seventeen digits always suffice. -/
def shortest (b : Binary) : Decimal :=
  let i := Interval.ofBinary b
  (i.search i.leading 17).normal 20

end Completions.Number
