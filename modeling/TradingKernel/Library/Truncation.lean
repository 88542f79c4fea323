import Mathlib.Algebra.Order.Field.Basic
import Mathlib.Data.Nat.Cast.Order.Field
import Mathlib.Tactic.Linarith
import Mathlib.Tactic.Ring

/-!
Keeping a proportional share of an amount with integer division. When `whole`
units carry an amount and `part` of them stay, the share that stays with them
is rounded down; the rules below say what repeated rounding can and cannot do.
-/

namespace TradingKernel.Library

/-- What `part` of `whole` units keep of an amount, rounded down. -/
def share (amount part whole : Nat) : Nat := amount * part / whole

section Share
variable {amount part middle whole : Nat}

/-- The amount per unit is not changed by giving units away. -/
theorem share_div (some : 0 < part) : share amount part whole / part = amount / whole := by
  rw [share, Nat.div_div_eq_div_mul, Nat.mul_div_mul_right _ _ some]

theorem le_share (filled : 0 < whole) {low : Nat} (bound : low * whole ≤ amount) :
    low * part ≤ share amount part whole := by
  rw [share, Nat.le_div_iff_mul_le filled]
  calc
    low * part * whole = low * whole * part := Nat.mul_right_comm low part whole
    _ ≤ amount * part := Nat.mul_le_mul_right part bound

theorem share_le {high : Nat} (bound : amount ≤ high * whole) :
    share amount part whole ≤ high * part := by
  apply Nat.div_le_of_le_mul
  calc
    amount * part ≤ high * whole * part := Nat.mul_le_mul_right part bound
    _ = whole * (high * part) := by rw [Nat.mul_comm high whole, Nat.mul_assoc]

theorem share_share_le (amount part whole : Nat) (between : 0 < middle) :
    share (share amount middle whole) part middle ≤ share amount part whole := by
  rcases Nat.eq_zero_or_pos whole with rfl | filled
  · simp [share]
  · rw [share, share, share, Nat.le_div_iff_mul_le filled]
    apply Nat.le_of_mul_le_mul_right _ between
    have outer := Nat.div_mul_le_self (amount * middle / whole * part) middle
    have inner := Nat.div_mul_le_self (amount * middle) whole
    calc
      amount * middle / whole * part / middle * whole * middle =
          amount * middle / whole * part / middle * middle * whole := Nat.mul_right_comm _ _ _
      _ ≤ amount * middle / whole * part * whole := Nat.mul_le_mul_right whole outer
      _ = amount * middle / whole * whole * part := Nat.mul_right_comm _ _ _
      _ ≤ amount * middle * part := Nat.mul_le_mul_right part inner
      _ = amount * part * middle := Nat.mul_right_comm _ _ _

/-- A second rounding costs at most one. -/
theorem share_le_share_share (amount whole : Nat) (fewer : part ≤ middle) :
    share amount part whole ≤ share (share amount middle whole) part middle + 1 := by
  rcases Nat.eq_zero_or_pos middle with rfl | between
  · simp [share, Nat.le_zero.1 fewer]
  rcases Nat.eq_zero_or_pos whole with rfl | filled
  · simp [share]
  · apply Nat.le_of_lt_succ
    rw [share, Nat.div_lt_iff_lt_mul filled]
    apply Nat.lt_of_mul_lt_mul_right (a := middle)
    have outer : share amount middle whole * part <
        (share (share amount middle whole) part middle + 1) * middle :=
      Nat.lt_mul_of_div_lt (Nat.lt_succ_self _) between
    have inner : amount * middle < (share amount middle whole + 1) * whole :=
      Nat.lt_mul_of_div_lt (Nat.lt_succ_self _) filled
    generalize share (share amount middle whole) part middle = twice at outer ⊢
    generalize share amount middle whole = once at outer inner
    calc
      amount * part * middle = amount * middle * part := Nat.mul_right_comm _ _ _
      _ ≤ (once + 1) * whole * part := Nat.mul_le_mul_right part inner.le
      _ = (once * part + part) * whole := by ring
      _ < ((twice + 1) * middle + middle) * whole := by
        apply Nat.mul_lt_mul_of_pos_right _ filled
        omega
      _ = (twice + 1).succ * whole * middle := by
        rw [Nat.succ_eq_add_one]
        ring

end Share

/-- Truncation toward zero keeps the side and rounds the magnitude down. -/
theorem tdiv_share {sign : Int} (unit : sign = 1 ∨ sign = -1) (amount part whole : Nat) :
    (sign * amount * part).tdiv whole = sign * share amount part whole := by
  have rounded : ((amount : Int) * part).tdiv whole = share amount part whole := by
    rw [← Nat.cast_mul]
    exact Int.ofNat_tdiv _ _
  rcases unit with rfl | rfl
  · rw [one_mul, one_mul, rounded]
  · rw [neg_one_mul, neg_one_mul, neg_mul, Int.neg_tdiv, rounded]

theorem tdiv_le_per_unit {high amount part whole : Int} (filled : 0 < whole) (nonneg : 0 ≤ part)
    (above : amount ≤ high * whole) : (amount * part).tdiv whole ≤ high * part := by
  have scaled : amount * part ≤ high * part * whole := by
    calc
      amount * part ≤ high * whole * part := Int.mul_le_mul_of_nonneg_right above nonneg
      _ = high * part * whole := by ring
  calc
    (amount * part).tdiv whole ≤ (high * part * whole).tdiv whole := Int.tdiv_le_tdiv filled scaled
    _ = high * part := Int.mul_tdiv_cancel _ filled.ne'

theorem abs_tdiv_le_per_unit {high amount part whole : Int} (filled : 0 < whole)
    (nonneg : 0 ≤ part) (within : |amount| ≤ high * whole) :
    |(amount * part).tdiv whole| ≤ high * part := by
  obtain ⟨low, up⟩ := abs_le.1 within
  have below := tdiv_le_per_unit filled nonneg (show -amount ≤ high * whole by linarith)
  rw [neg_mul, Int.neg_tdiv] at below
  exact abs_le.2 ⟨by linarith, tdiv_le_per_unit filled nonneg up⟩

/-- The units that leave take no more than their bound per unit with them. -/
theorem sub_per_unit_le_tdiv {high amount part whole : Int} (filled : 0 < whole)
    (fewer : part ≤ whole) (above : amount ≤ high * whole) :
    amount - high * (whole - part) ≤ (amount * part).tdiv whole := by
  apply Int.le_tdiv_of_mul_le filled
  have leaving := Int.mul_le_mul_of_nonneg_right above (Int.sub_nonneg.2 fewer)
  calc
    (amount - high * (whole - part)) * whole =
        amount * part + (amount * (whole - part) - high * whole * (whole - part)) := by ring
    _ ≤ amount * part := by omega

section Drift
variable {K : Type*} [Field K] [LinearOrder K] [IsStrictOrderedRing K]

/-- One more rounding widens the gap to the exact amount by less than one. -/
theorem share_drift {exact slack : K} {amount part whole : Nat} (filled : 0 < whole)
    (fewer : part ≤ whole) (below : (amount : K) ≤ exact) (gap : exact - amount ≤ slack) :
    (share amount part whole : K) ≤ exact * part / whole ∧
      exact * part / whole - share amount part whole < slack + 1 := by
  have positive : (0 : K) < whole := Nat.cast_pos.2 filled
  have ratio : (part : K) / whole ≤ 1 := (div_le_one positive).2 (Nat.cast_le.2 fewer)
  have ratioNonneg : (0 : K) ≤ part / whole := div_nonneg part.cast_nonneg whole.cast_nonneg
  have lower : (share amount part whole : K) ≤ amount * (part / whole) := by
    rw [← mul_div_assoc, ← Nat.cast_mul]
    exact Nat.cast_div_le
  have upper : (amount : K) * (part / whole) < share amount part whole + 1 := by
    rw [← mul_div_assoc, div_lt_iff₀ positive]
    exact_mod_cast Nat.lt_mul_of_div_lt (Nat.lt_succ_self (amount * part / whole)) filled
  have scaled : (exact - amount) * (part / whole) ≤ slack :=
    (mul_le_of_le_one_right (sub_nonneg.2 below) ratio).trans gap
  have nonneg : 0 ≤ (exact - amount) * ((part : K) / whole) :=
    mul_nonneg (sub_nonneg.2 below) ratioNonneg
  rw [sub_mul] at scaled nonneg
  rw [mul_div_assoc]
  constructor
  · linarith
  · linarith

end Drift

end TradingKernel.Library
