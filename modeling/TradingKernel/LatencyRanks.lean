import Mathlib.Algebra.Order.Floor.Div
import Mathlib.GroupTheory.GroupAction.Ring
import Mathlib.Tactic.Ring

/-!
Ranks of the latency summary. The rank of a percentile and the size of the tail
are ceilings of a share of the sample count; splitting the count into quotient
and remainder keeps every intermediate within 64 bits.
-/

namespace TradingKernel.LatencyStats

/-- The ceiling of `n * share / whole`, without the full product. -/
def splitCeiling (n share whole : UInt64) : UInt64 :=
  (n / whole) * share + (((n % whole) * share + (whole - 1)) / whole)

def percentileIndexPermille (n permille : UInt64) : UInt64 :=
  if n = 0 then 0
  else
    let rank := splitCeiling n permille 1000
    if rank = 0 then 0 else rank - 1

def tailCountForTopPercent (n percent : UInt64) : UInt64 :=
  if n = 0 then 0
  else
    let tailCount := splitCeiling n percent 100
    if tailCount = 0 then 1 else tailCount

/-- What the split ceiling calculates, each value with the exact one. -/
def splitCeilingSteps (n share whole : UInt64) : List (UInt64 × Nat) :=
  let quotient := n.toNat / whole.toNat
  let remainder := n.toNat % whole.toNat
  [(n / whole, quotient),
    (n / whole * share, quotient * share.toNat),
    (n % whole, remainder),
    (n % whole * share, remainder * share.toNat),
    (whole - 1, whole.toNat - 1),
    (n % whole * share + (whole - 1), remainder * share.toNat + (whole.toNat - 1)),
    ((n % whole * share + (whole - 1)) / whole,
      (remainder * share.toNat + (whole.toNat - 1)) / whole.toNat),
    (splitCeiling n share whole,
      quotient * share.toNat + (remainder * share.toNat + (whole.toNat - 1)) / whole.toNat)]

/-- No value differs from the exact one. -/
def Unwrapped (steps : List (UInt64 × Nat)) : Prop := ∀ step ∈ steps, step.1.toNat = step.2

/-- Over exact numbers the split makes no difference. -/
theorem split_ceilDiv (n share : Nat) {whole : Nat} (positive : 0 < whole) :
    n / whole * share + (n % whole * share + (whole - 1)) / whole = (n * share) ⌈/⌉ whole := by
  have product : n * share = n % whole * share + whole * (n / whole * share) := by
    calc
      n * share = (n % whole + whole * (n / whole)) * share := by rw [Nat.mod_add_div]
      _ = n % whole * share + whole * (n / whole * share) := by ring
  calc
    _ = (n % whole * share + (whole - 1) + whole * (n / whole * share)) / whole := by
      rw [Nat.add_mul_div_left _ _ positive, Nat.add_comm]
    _ = (n * share + whole - 1) / whole := by
      congr 1
      omega
    _ = (n * share) ⌈/⌉ whole := rfl

theorem ceilDiv_le_count (n : Nat) {share whole : Nat} (positive : 0 < whole)
    (part : share ≤ whole) : (n * share) ⌈/⌉ whole ≤ n := by
  rw [ceilDiv_le_iff_le_mul positive, Nat.mul_comm]
  exact Nat.mul_le_mul_right n part

theorem ceilDiv_pos {n share whole : Nat} (positive : 0 < whole) (some : 1 ≤ n)
    (asked : 1 ≤ share) : 1 ≤ (n * share) ⌈/⌉ whole := by
  by_contra none
  have zero : (n * share) ⌈/⌉ whole ≤ 0 := by omega
  rw [ceilDiv_le_iff_le_mul positive, Nat.mul_zero] at zero
  have product : 0 < n * share := Nat.mul_pos some asked
  omega

theorem splitCeiling_unwrapped (n : UInt64) {share whole : UInt64} (positive : 0 < whole.toNat)
    (small : whole.toNat ≤ 1000) (part : share.toNat ≤ whole.toNat) :
    Unwrapped (splitCeilingSteps n share whole) := by
  have width : n.toNat < 2 ^ 64 := n.toNat_lt
  have quotient : n.toNat / whole.toNat * share.toNat ≤ n.toNat := by
    calc
      _ ≤ n.toNat / whole.toNat * whole.toNat := Nat.mul_le_mul_left _ part
      _ ≤ n.toNat := Nat.div_mul_le_self _ _
  have remainder : n.toNat % whole.toNat * share.toNat ≤ 1000 * 1000 := by
    have below := Nat.mod_lt n.toNat positive
    exact Nat.mul_le_mul (by omega) (by omega)
  have total := split_ceilDiv n.toNat share.toNat positive
  have bounded := ceilDiv_le_count n.toNat positive part
  have one : (1 : UInt64) ≤ whole := UInt64.le_iff_toNat_le.2 positive
  have less : (whole - 1).toNat = whole.toNat - 1 := UInt64.toNat_sub_of_le whole 1 one
  have whole_product : (n / whole * share).toNat = n.toNat / whole.toNat * share.toNat := by
    rw [UInt64.toNat_mul, UInt64.toNat_div, Nat.mod_eq_of_lt (by omega)]
  have rest_product : (n % whole * share).toNat = n.toNat % whole.toNat * share.toNat := by
    rw [UInt64.toNat_mul, UInt64.toNat_mod, Nat.mod_eq_of_lt (by omega)]
  have rest : (n % whole * share + (whole - 1)).toNat =
      n.toNat % whole.toNat * share.toNat + (whole.toNat - 1) := by
    rw [UInt64.toNat_add, rest_product, less, Nat.mod_eq_of_lt (by omega)]
  have rounded : ((n % whole * share + (whole - 1)) / whole).toNat =
      (n.toNat % whole.toNat * share.toNat + (whole.toNat - 1)) / whole.toNat := by
    rw [UInt64.toNat_div, rest]
  have ceiling : (splitCeiling n share whole).toNat = n.toNat / whole.toNat * share.toNat +
      (n.toNat % whole.toNat * share.toNat + (whole.toNat - 1)) / whole.toNat := by
    rw [splitCeiling, UInt64.toNat_add, whole_product, rounded, Nat.mod_eq_of_lt (by omega)]
  simp only [Unwrapped, splitCeilingSteps, List.forall_mem_cons, List.not_mem_nil,
    false_imp_iff, implies_true, and_true]
  exact ⟨UInt64.toNat_div n whole, whole_product, UInt64.toNat_mod n whole, rest_product, less,
    rest, rounded, ceiling⟩

theorem splitCeiling_toNat (n : UInt64) {share whole : UInt64} (positive : 0 < whole.toNat)
    (small : whole.toNat ≤ 1000) (part : share.toNat ≤ whole.toNat) :
    (splitCeiling n share whole).toNat = (n.toNat * share.toNat) ⌈/⌉ whole.toNat := by
  rw [← split_ceilDiv n.toNat share.toNat positive]
  have last : (splitCeiling n share whole, n.toNat / whole.toNat * share.toNat +
      (n.toNat % whole.toNat * share.toNat + (whole.toNat - 1)) / whole.toNat) ∈
      splitCeilingSteps n share whole := by
    simp [splitCeilingSteps]
  exact splitCeiling_unwrapped n positive small part _ last

section Share
variable (n : UInt64)

theorem percentileIndex_rank (some : 1 ≤ n.toNat) {permille : UInt64}
    (positive : 1 ≤ permille.toNat) (part : permille.toNat ≤ 1000) :
    (percentileIndexPermille n permille).toNat + 1 = (n.toNat * permille.toNat) ⌈/⌉ 1000 := by
  have rank : (splitCeiling n permille 1000).toNat = (n.toNat * permille.toNat) ⌈/⌉ 1000 :=
    splitCeiling_toNat n (by decide) (by decide) part
  have ranked : 1 ≤ (n.toNat * permille.toNat) ⌈/⌉ 1000 := ceilDiv_pos (by decide) some positive
  have counted : ¬n = 0 := by
    rintro rfl
    cases some
  have nonzero : ¬splitCeiling n permille 1000 = 0 := by
    intro zero
    rw [zero] at rank
    exact absurd rank (show ¬0 = _ by omega)
  have one : (1 : UInt64) ≤ splitCeiling n permille 1000 := by
    rw [UInt64.le_iff_toNat_le, rank]
    exact ranked
  simp only [percentileIndexPermille, if_neg counted, if_neg nonzero]
  rw [UInt64.toNat_sub_of_le _ _ one, rank]
  exact Nat.sub_add_cancel ranked

theorem tailCount_share (some : 1 ≤ n.toNat) {percent : UInt64}
    (positive : 1 ≤ percent.toNat) (part : percent.toNat ≤ 100) :
    (tailCountForTopPercent n percent).toNat = (n.toNat * percent.toNat) ⌈/⌉ 100 := by
  have count : (splitCeiling n percent 100).toNat = (n.toNat * percent.toNat) ⌈/⌉ 100 :=
    splitCeiling_toNat n (by decide) (by decide) part
  have counted : 1 ≤ (n.toNat * percent.toNat) ⌈/⌉ 100 := ceilDiv_pos (by decide) some positive
  have sampled : ¬n = 0 := by
    rintro rfl
    cases some
  have nonzero : ¬splitCeiling n percent 100 = 0 := by
    intro zero
    rw [zero] at count
    exact absurd count (show ¬0 = _ by omega)
  simp only [tailCountForTopPercent, if_neg sampled, if_neg nonzero, count]

end Share

/-- The two differently scaled ceilings are ordered: the last percent of the
samples starts at or after the rank of the 99th percentile. -/
theorem ceilDiv_ordered (n : Nat) : (n * 990) ⌈/⌉ 1000 + (n * 1) ⌈/⌉ 100 ≤ n + 1 := by
  rw [Nat.ceilDiv_eq_add_pred_div, Nat.ceilDiv_eq_add_pred_div]
  omega

theorem tail_after_p99 (n : UInt64) (some : 1 ≤ n.toNat) :
    (percentileIndexPermille n 990).toNat + (tailCountForTopPercent n 1).toNat ≤ n.toNat := by
  have index : (percentileIndexPermille n 990).toNat + 1 = (n.toNat * 990) ⌈/⌉ 1000 :=
    percentileIndex_rank n some (by decide) (by decide)
  have count : (tailCountForTopPercent n 1).toNat = (n.toNat * 1) ⌈/⌉ 100 :=
    tailCount_share n some (by decide) (by decide)
  have ordered := ceilDiv_ordered n.toNat
  omega

/-- Split-rank arithmetic is exact: no intermediate wraps, index and tail are
given by the exact ceilings and lie within the samples, and the tail starts no
earlier than the 99th percentile. -/
theorem split_ranks_exact (n permille percent : UInt64) (some : 1 ≤ n)
    (ranked : 1 ≤ permille ∧ permille ≤ 1000) (tailed : 1 ≤ percent ∧ percent ≤ 100) :
    Unwrapped (splitCeilingSteps n permille 1000) ∧ Unwrapped (splitCeilingSteps n percent 100) ∧
      ((percentileIndexPermille n permille).toNat : Int) =
        ((n.toNat * permille.toNat) ⌈/⌉ 1000 : Nat) - 1 ∧
      (tailCountForTopPercent n percent).toNat = (n.toNat * percent.toNat) ⌈/⌉ 100 ∧
      percentileIndexPermille n permille < n ∧
      1 ≤ tailCountForTopPercent n percent ∧ tailCountForTopPercent n percent ≤ n ∧
      percentileIndexPermille n 990 ≤ n - tailCountForTopPercent n 1 := by
  have positive : 1 ≤ n.toNat := UInt64.le_iff_toNat_le.1 some
  have part : permille.toNat ≤ 1000 := UInt64.le_iff_toNat_le.1 ranked.2
  have partToo : percent.toNat ≤ 100 := UInt64.le_iff_toNat_le.1 tailed.2
  have askedToo : 1 ≤ percent.toNat := UInt64.le_iff_toNat_le.1 tailed.1
  have index := percentileIndex_rank n positive (UInt64.le_iff_toNat_le.1 ranked.1) part
  have rank := ceilDiv_le_count n.toNat (show 0 < 1000 by decide) part
  have count := tailCount_share n positive askedToo partToo
  have counted := ceilDiv_le_count n.toNat (show 0 < 100 by decide) partToo
  have nonempty : 1 ≤ (n.toNat * percent.toNat) ⌈/⌉ 100 :=
    ceilDiv_pos (by decide) positive askedToo
  have last := tail_after_p99 n positive
  refine ⟨splitCeiling_unwrapped n (by decide) (by decide) part,
    splitCeiling_unwrapped n (by decide) (by decide) partToo, by omega, count, ?_, ?_, ?_, ?_⟩
  · exact UInt64.lt_iff_toNat_lt.2 (by omega)
  · exact UInt64.le_iff_toNat_le.2 (by rw [count]; exact nonempty)
  · exact UInt64.le_iff_toNat_le.2 (by omega)
  · have fits : tailCountForTopPercent n 1 ≤ n := UInt64.le_iff_toNat_le.2 (by omega)
    rw [UInt64.le_iff_toNat_le, UInt64.toNat_sub_of_le _ _ fits]
    omega

/-- At the largest count the unsplit product would not fit. -/
theorem split_ranks_exact_max :
    (1 ≤ (18446744073709551615 : UInt64) ∧ ((1 : UInt64) ≤ 999 ∧ (999 : UInt64) ≤ 1000) ∧
      ((1 : UInt64) ≤ 1 ∧ (1 : UInt64) ≤ 100)) ∧
      percentileIndexPermille 18446744073709551615 999 < 18446744073709551615 :=
  ⟨by decide,
    (split_ranks_exact 18446744073709551615 999 1 (by decide) (by decide) (by decide)).2.2.2.2.1⟩

end TradingKernel.LatencyStats
