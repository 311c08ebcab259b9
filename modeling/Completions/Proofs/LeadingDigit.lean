import Completions.Number.Shortest
import Mathlib.Data.Nat.Digits.Defs

/-! The shortest decimal of a double other than zero is not zero: no grid is searched that is coarser
than the double itself. Main statement: `shortest_pos`. -/

namespace Completions.Number

theorem twoTo_pos (e : Nat) : 0 < twoTo e := Nat.two_pow_pos e

theorem tenTo_pos (e : Nat) : 0 < tenTo e := Nat.pow_pos (by decide)

theorem tenTo_succ (e : Nat) : tenTo (e + 1) = 10 * tenTo e := Nat.pow_succ'

theorem tenTo_pred_length_le {n : Nat} (positive : 0 < n) :
    tenTo ((Nat.toDigits 10 n).length - 1) ≤ n := by
  by_contra small
  have fewer : 0 < (Nat.toDigits 10 n).length - 1 := by
    apply Nat.pos_of_ne_zero
    intro none
    rw [none] at small
    exact small positive
  have := (Nat.length_toDigits_le_iff (by decide) fewer).2 (Nat.lt_of_not_le small)
  omega

theorem lt_tenTo_length (n : Nat) : n < tenTo (Nat.toDigits 10 n).length :=
  (Nat.length_toDigits_le_iff (by decide) Nat.length_toDigits_pos).1 (Nat.le_refl _)

theorem le_roundDiv (num den : Nat) : num / den ≤ Binary.roundDiv num den := by
  unfold Binary.roundDiv
  dsimp only
  split_ifs <;> omega

namespace Interval

variable {i : Interval} {k : Int}

/-- The value is at least one step of the grid. -/
def Reaches (i : Interval) (k : Int) : Prop := 0 < (i.onGrid i.value k).1 / (i.onGrid i.value k).2

theorem reaches_natCast {n : Nat} (unit : 0 < i.unit) :
    i.Reaches n ↔ i.unit * tenTo n ≤ i.value := by
  have grid : i.onGrid i.value n = (i.value, i.unit * tenTo n) := by simp [onGrid]
  rw [Reaches, grid, Nat.div_pos_iff]
  have := Nat.mul_pos unit (tenTo_pos n)
  omega

theorem reaches_neg {n : Nat} (unit : 0 < i.unit) :
    i.Reaches (-(n : Int)) ↔ i.unit ≤ i.value * tenTo n := by
  cases n with
  | zero =>
    have whole := reaches_natCast (i := i) (n := 0) unit
    simpa [tenTo] using whole
  | succ n =>
    have grid : i.onGrid i.value (-((n + 1 : Nat) : Int)) = (i.value * tenTo (n + 1), i.unit) := by
      rw [onGrid, if_neg (by omega)]
      congr
    rw [Reaches, grid, Nat.div_pos_iff]
    omega

theorem Reaches.finer (unit : 0 < i.unit) (reaches : i.Reaches k) : i.Reaches (k - 1) := by
  obtain ⟨n, rfl | rfl⟩ := Int.eq_nat_or_neg k
  · rw [reaches_natCast unit] at reaches
    cases n with
    | zero =>
      have next : ((0 : Nat) : Int) - 1 = -((1 : Nat) : Int) := by omega
      rw [next, reaches_neg unit]
      have : tenTo 0 = 1 := rfl
      have : tenTo 1 = 10 := rfl
      simp only [*] at reaches ⊢
      omega
    | succ n =>
      have next : ((n + 1 : Nat) : Int) - 1 = (n : Int) := by omega
      rw [next, reaches_natCast unit]
      refine Nat.le_trans (Nat.mul_le_mul_left _ ?_) reaches
      rw [tenTo_succ]
      omega
  · rw [reaches_neg unit] at reaches
    have next : -(n : Int) - 1 = -((n + 1 : Nat) : Int) := by omega
    rw [next, reaches_neg unit]
    refine Nat.le_trans reaches (Nat.mul_le_mul_left _ ?_)
    rw [tenTo_succ]
    omega

theorem reaches_leading (unit : 0 < i.unit) (value : 0 < i.value) : i.Reaches i.leading := by
  unfold leading
  split_ifs with whole
  · have quotient := Nat.div_pos whole unit
    have place : ((Nat.toDigits 10 (i.value / i.unit)).length : Int) - 1 =
        (((Nat.toDigits 10 (i.value / i.unit)).length - 1 : Nat) : Int) := by
      have := Nat.length_toDigits_pos (b := 10) (n := i.value / i.unit)
      omega
    rw [place, reaches_natCast unit, Nat.mul_comm, ← Nat.le_div_iff_mul_le unit]
    exact tenTo_pred_length_le quotient
  · rw [reaches_neg unit]
    have above := lt_tenTo_length ((i.unit + i.value - 1) / i.value - 1)
    have ceiling : (i.unit + i.value - 1) / i.value ≤
        tenTo (Nat.toDigits 10 ((i.unit + i.value - 1) / i.value - 1)).length := by omega
    generalize tenTo _ = size at ceiling
    have := Nat.lt_mul_of_div_lt (Nat.lt_succ_of_le ceiling) value
    rw [Nat.succ_mul] at this
    rw [Nat.mul_comm]
    omega

theorem onStep?_pos {d : Decimal} (reaches : i.Reaches k) (found : i.onStep? k = some d) :
    0 < d.digits := by
  have floor : 0 < (i.onGrid i.value k).1 / (i.onGrid i.value k).2 := reaches
  unfold onStep? at found
  dsimp only at found
  split at found
  · cases found
  · cases found
    exact floor
  · cases found
    exact Nat.succ_pos _
  · cases found
    exact Nat.lt_of_lt_of_le floor (le_roundDiv _ _)

theorem search_pos (unit : 0 < i.unit) (reaches : i.Reaches k) (count : Nat) :
    0 < (i.search k count).digits := by
  induction count generalizing k with
  | zero => exact reaches
  | succ count ih =>
    rw [search]
    cases found : i.onStep? k with
    | none => exact ih (reaches.finer unit)
    | some d => exact onStep?_pos reaches found

end Interval

theorem Decimal.normal_pos {d : Decimal} (positive : 0 < d.digits) (fuel : Nat) :
    0 < (d.normal fuel).digits := by
  induction fuel generalizing d with
  | zero => exact positive
  | succ fuel ih =>
    rw [Decimal.normal]
    split_ifs with zero
    · exact ih (by dsimp only; omega)
    · exact positive

theorem shortest_pos {b : Binary} (positive : 0 < b.significand) : 0 < (shortest b).digits := by
  have unit : 0 < (Interval.ofBinary b).unit := by
    unfold Interval.ofBinary
    dsimp only
    split
    · exact Nat.one_pos
    · exact twoTo_pos _
  have value : 0 < (Interval.ofBinary b).value := by
    unfold Interval.ofBinary
    dsimp only
    refine Nat.mul_pos (by omega) ?_
    split
    · exact twoTo_pos _
    · exact Nat.one_pos
  exact Decimal.normal_pos (Interval.search_pos unit (Interval.reaches_leading unit value) 17) 20

end Completions.Number
