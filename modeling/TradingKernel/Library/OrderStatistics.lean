import Mathlib.Algebra.Order.Floor.Div
import Mathlib.Algebra.Order.BigOperators.Group.List
import Mathlib.Data.List.Sort
import Mathlib.Order.Bounds.Basic

/-!
Order statistics of finite samples. The nearest rank of a share of the samples
is the least of them that is not exceeded by that share; in sorted samples it
stands at the index below the share's ceiling.
-/

namespace TradingKernel.Library.OrderStatistics

section Ranks
variable {α : Type*} [LinearOrder α]

/-- The least sample that at least `share / whole` of the samples do not exceed. -/
def NearestRank (samples : List α) (share whole : Nat) (rank : α) : Prop :=
  IsLeast {sample | sample ∈ samples ∧
    share * samples.length ≤ whole * samples.countP (· ≤ sample)} rank

/-- Both parts of a split of the samples, with the greatest ones in the second. -/
def Greatest (samples tail : List α) : Prop :=
  ∃ rest, samples.Perm (rest ++ tail) ∧ ∀ low ∈ rest, ∀ high ∈ tail, low ≤ high

theorem sort_eq_of_perm {first second : List α} (perm : first.Perm second) :
    first.insertionSort (· ≤ ·) = second.insertionSort (· ≤ ·) := by
  have sorted : (first.insertionSort (· ≤ ·)).Perm first := List.perm_insertionSort _ first
  have sortedToo : (second.insertionSort (· ≤ ·)).Perm second := List.perm_insertionSort _ second
  exact List.Perm.eq_of_pairwise (fun _ _ _ _ => le_antisymm) (List.pairwise_insertionSort _ first)
    (List.pairwise_insertionSort _ second) (sorted.trans (perm.trans sortedToo.symm))

theorem nearestRank_of_perm {samples sorted : List α} (perm : sorted.Perm samples)
    {share whole : Nat} {rank : α} :
    NearestRank sorted share whole rank ↔ NearestRank samples share whole rank := by
  unfold NearestRank
  simp only [perm.mem_iff, perm.length_eq, perm.countP_eq]

theorem Greatest.of_perm {samples sorted tail : List α} (greatest : Greatest sorted tail)
    (perm : sorted.Perm samples) : Greatest samples tail := by
  obtain ⟨rest, split, order⟩ := greatest
  exact ⟨rest, perm.symm.trans split, order⟩

theorem Greatest.mem {samples tail : List α} (greatest : Greatest samples tail) {sample : α}
    (member : sample ∈ tail) : sample ∈ samples := by
  obtain ⟨rest, split, _⟩ := greatest
  exact split.mem_iff.2 (List.mem_append_right rest member)

/-- Nearest ranks are ordered as their shares are. -/
theorem NearestRank.mono {samples : List α} {share greater whole : Nat} {rank upper : α}
    (ranked : NearestRank samples share whole rank)
    (rankedToo : NearestRank samples greater whole upper) (order : share ≤ greater) :
    rank ≤ upper := by
  obtain ⟨⟨member, enough⟩, _⟩ := rankedToo
  apply ranked.2
  exact ⟨member, (Nat.mul_le_mul_right samples.length order).trans enough⟩

/-- Samples above the share all lie at or above its nearest rank. -/
theorem NearestRank.le_of_greatest {samples tail : List α} {share whole : Nat} {rank sample : α}
    (ranked : NearestRank samples share whole rank) (greatest : Greatest samples tail)
    (enough : share * samples.length ≤ whole * (samples.length - tail.length + 1))
    (member : sample ∈ tail) : rank ≤ sample := by
  have inSamples := greatest.mem member
  obtain ⟨rest, split, order⟩ := greatest
  have lengths : samples.length = rest.length + tail.length := by
    rw [split.length_eq, List.length_append]
  have below : rest.countP (· ≤ sample) = rest.length := by
    rw [List.countP_eq_length]
    intro low inRest
    exact decide_eq_true (order low inRest sample member)
  have itself : 0 < tail.countP (· ≤ sample) :=
    List.countP_pos_iff.2 ⟨sample, member, decide_eq_true le_rfl⟩
  have counted : samples.length - tail.length + 1 ≤ samples.countP (· ≤ sample) := by
    rw [split.countP_eq, List.countP_append, below]
    omega
  apply ranked.2
  exact ⟨inSamples, enough.trans (Nat.mul_le_mul_left whole counted)⟩

section Sorted
variable {sorted : List α} (ascending : sorted.Pairwise (· ≤ ·))
include ascending

theorem sorted_le {first second : Nat} (order : first ≤ second) (inside : second < sorted.length) :
    sorted[first] ≤ sorted[second] := by
  rcases Nat.eq_or_lt_of_le order with rfl | before
  · exact le_rfl
  · exact List.pairwise_iff_getElem.1 ascending first second _ inside before

theorem isLeast_sorted (some : 0 < sorted.length) :
    IsLeast {sample | sample ∈ sorted} sorted[0] := by
  refine ⟨List.getElem_mem some, ?_⟩
  intro sample member
  obtain ⟨index, inside, rfl⟩ := List.getElem_of_mem member
  exact sorted_le ascending (Nat.zero_le index) inside

theorem isGreatest_sorted (some : sorted.length - 1 < sorted.length) :
    IsGreatest {sample | sample ∈ sorted} sorted[sorted.length - 1] := by
  refine ⟨List.getElem_mem some, ?_⟩
  intro sample member
  obtain ⟨index, inside, rfl⟩ := List.getElem_of_mem member
  exact sorted_le ascending (by omega) some

/-- In sorted samples a value bounds as many of them as indices do not exceed it. -/
theorem lt_countP_iff (bound : α) {index : Nat} (inside : index < sorted.length) :
    index < sorted.countP (· ≤ bound) ↔ sorted[index] ≤ bound := by
  induction sorted generalizing index with
  | nil => cases inside
  | cons head rest ih =>
    obtain ⟨above, later⟩ := List.pairwise_cons.1 ascending
    by_cases small : head ≤ bound
    · rw [List.countP_cons_of_pos (by simpa using small)]
      cases index with
      | zero => simpa using small
      | succ index =>
        rw [Nat.succ_lt_succ_iff, ih later (Nat.lt_of_succ_lt_succ inside)]
        rfl
    · have none : (head :: rest).countP (· ≤ bound) = 0 := by
        rw [List.countP_eq_zero]
        intro sample member
        have lower : head ≤ sample := by
          rcases List.mem_cons.1 member with rfl | inRest
          · exact le_rfl
          · exact above sample inRest
        simpa using fun exceeds => small (lower.trans exceeds)
      have lower : head ≤ (head :: rest)[index] :=
        sorted_le ascending (Nat.zero_le index) inside
      rw [none]
      constructor
      · exact fun absurdity => absurd absurdity (Nat.not_lt_zero index)
      · exact fun exceeds => absurd (lower.trans exceeds) small

/-- The nearest rank of sorted samples stands just below the ceiling of the share. -/
theorem nearestRank_sorted {share whole index : Nat} (positive : 0 < whole)
    (rank : index + 1 = (sorted.length * share) ⌈/⌉ whole) (inside : index < sorted.length) :
    NearestRank sorted share whole sorted[index] := by
  constructor
  · refine ⟨List.getElem_mem inside, ?_⟩
    have counted : index + 1 ≤ sorted.countP (· ≤ sorted[index]) :=
      (lt_countP_iff ascending _ inside).2 le_rfl
    rw [rank, ceilDiv_le_iff_le_mul positive, Nat.mul_comm _ share] at counted
    exact counted
  · rintro sample ⟨_, enough⟩
    apply (lt_countP_iff ascending sample inside).1
    rw [Nat.mul_comm, ← ceilDiv_le_iff_le_mul positive, ← rank] at enough
    exact enough

theorem greatest_drop (start : Nat) : Greatest sorted (sorted.drop start) := by
  refine ⟨sorted.take start, ?_, ?_⟩
  · rw [List.take_append_drop]
  · have split := ascending
    rw [← List.take_append_drop start sorted, List.pairwise_append] at split
    exact split.2.2

end Sorted

end Ranks

/-- A truncated mean lies between any bounds of its samples. -/
theorem mean_between {samples : List Int} (some : samples ≠ []) {low high : Int}
    (above : ∀ sample ∈ samples, low ≤ sample) (below : ∀ sample ∈ samples, sample ≤ high) :
    low ≤ samples.sum.tdiv samples.length ∧ samples.sum.tdiv samples.length ≤ high := by
  have positive : 0 < (samples.length : Int) := by
    exact_mod_cast List.length_pos_iff.2 some
  have least := List.card_nsmul_le_sum samples low above
  have greatest := List.sum_le_card_nsmul samples high below
  rw [nsmul_eq_mul, mul_comm] at least greatest
  constructor
  · calc
      low = (low * samples.length).tdiv samples.length :=
        (Int.mul_tdiv_cancel low positive.ne').symm
      _ ≤ samples.sum.tdiv samples.length := Int.tdiv_le_tdiv positive least
  · calc
      samples.sum.tdiv samples.length ≤ (high * samples.length).tdiv samples.length :=
        Int.tdiv_le_tdiv positive greatest
      _ = high := Int.mul_tdiv_cancel high positive.ne'

end TradingKernel.Library.OrderStatistics
