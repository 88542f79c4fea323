import TradingKernel.LatencyRanks
import TradingKernel.LatencyStats
import TradingKernel.Library.OrderStatistics

/-!
The summary of a collector. It sorts the retained samples and reads its
percentiles at nearest ranks; the tail mean averages the slowest percent.
-/

namespace TradingKernel.LatencyStats
open Library.OrderStatistics

structure LatencySummary where
  count : Nat
  minNs : Int
  meanNs : Int
  p50Ns : Int
  p99Ns : Int
  p999Ns : Int
  hasP99 : Bool
  hasP999 : Bool
  tailMean99Ns : Int
  hasTailMean99 : Bool
  maxNs : Int
  deriving DecidableEq, Repr

def p99MinSamples : Nat := 100

def p999MinSamples : Nat := 1000

/-- The samples recorded so far. -/
def retained (stats : LatencyStats) : List Int := stats.samples.take stats.sampleCount

/-- A percentile of the sorted samples, zero unless there are enough of them. -/
def percentile (enough : Bool) (sorted : List Int) (index : UInt64) : Option Int :=
  if enough then sorted[index.toNat]? else some 0

/-- A read outside the sorted samples has no result. The loop over the tail
stops at their end by itself. -/
def summarize (stats : LatencyStats) : Option LatencySummary :=
  if stats.sampleCount = 0 then some ⟨0, 0, 0, 0, 0, 0, false, false, 0, false, 0⟩
  else do
    let sorted := (retained stats).insertionSort (· ≤ ·)
    let size := UInt64.ofNat sorted.length
    let totalNs := sorted.sum
    let hasP99 := decide (sorted.length ≥ p99MinSamples)
    let hasP999 := decide (sorted.length ≥ p999MinSamples)
    let tailCount := if hasP99 then tailCountForTopPercent size 1 else 0
    let tailStart := size - tailCount
    let tailTotalNs := (sorted.drop tailStart.toNat).sum
    let minNs ← sorted.head?
    let p50Ns ← sorted[(percentileIndexPermille size 500).toNat]?
    let p99Ns ← percentile hasP99 sorted (percentileIndexPermille size 990)
    let p999Ns ← percentile hasP999 sorted (percentileIndexPermille size 999)
    let maxNs ← sorted.getLast?
    some
      { count := sorted.length
        minNs
        meanNs := totalNs.tdiv sorted.length
        p50Ns
        p99Ns
        p999Ns
        hasP99
        hasP999
        tailMean99Ns := if hasP99 then tailTotalNs.tdiv tailCount.toNat else 0
        hasTailMean99 := hasP99
        maxNs }

/-- The collector after recording a list of latencies. -/
def recordAll (stats : LatencyStats) (latencies : List Int) : LatencyStats :=
  latencies.foldl (fun stats latencyNs => (record stats latencyNs).2) stats

/-- The nearest-rank summary of a list of samples. -/
structure Describes (summary : LatencySummary) (samples : List Int) : Prop where
  count : summary.count = samples.length
  minNs : IsLeast {sample | sample ∈ samples} summary.minNs
  maxNs : IsGreatest {sample | sample ∈ samples} summary.maxNs
  meanNs : summary.meanNs = samples.sum.tdiv samples.length
  p50Ns : NearestRank samples 500 1000 summary.p50Ns
  hasP99 : summary.hasP99 = true ↔ 100 ≤ samples.length
  p99Ns : summary.hasP99 = true → NearestRank samples 990 1000 summary.p99Ns
  hasP999 : summary.hasP999 = true ↔ 1000 ≤ samples.length
  p999Ns : summary.hasP999 = true → NearestRank samples 999 1000 summary.p999Ns
  hasTailMean99 : summary.hasTailMean99 = summary.hasP99
  tailMean99Ns : summary.hasTailMean99 = true → ∃ tail, Greatest samples tail ∧
    tail.length = samples.length ⌈/⌉ 100 ∧ summary.tailMean99Ns = tail.sum.tdiv tail.length

/-- How the reported figures compare with each other. -/
structure Ordered (summary : LatencySummary) : Prop where
  p50 : summary.minNs ≤ summary.p50Ns ∧ summary.p50Ns ≤ summary.maxNs
  mean : summary.minNs ≤ summary.meanNs ∧ summary.meanNs ≤ summary.maxNs
  p999 : summary.hasP999 = true → summary.p99Ns ≤ summary.p999Ns
  tail : summary.hasTailMean99 = true →
    summary.p99Ns ≤ summary.tailMean99Ns ∧ summary.tailMean99Ns ≤ summary.maxNs

theorem retained_record {stats : LatencyStats} (latencyNs : Int)
    (room : stats.sampleCount < stats.samples.length) :
    retained (record stats latencyNs).2 = retained stats ++ [latencyNs] := by
  have vacant : ¬stats.sampleCount = stats.samples.length := by omega
  simp only [retained, record, if_neg vacant]
  rw [List.take_add_one, List.take_set, List.set_eq_of_length_le (by simp),
    List.getElem?_set_self room]
  rfl

theorem retained_record_full {stats : LatencyStats} (latencyNs : Int)
    (full : stats.sampleCount = stats.samples.length) :
    retained (record stats latencyNs).2 = retained stats ∧
      (record stats latencyNs).2.sampleCount = stats.sampleCount := by
  simp only [record, if_pos full, and_true]
  rfl

/-- A collector keeps what it is given until it is full, and nothing after that. -/
theorem retained_recordAll {stats : LatencyStats} (wellFormed : WellFormed stats)
    (latencies : List Int) :
    retained (recordAll stats latencies) =
      retained stats ++ latencies.take (stats.samples.length - stats.sampleCount) := by
  induction latencies generalizing stats with
  | nil => simp [recordAll]
  | cons latencyNs rest ih =>
    have next := ih (record_wellFormed wellFormed latencyNs)
    rw [capacity_record] at next
    rw [recordAll, List.foldl_cons, ← recordAll, next]
    by_cases room : stats.sampleCount < stats.samples.length
    · have left : stats.samples.length - stats.sampleCount =
          stats.samples.length - (stats.sampleCount + 1) + 1 := by omega
      have counted : (record stats latencyNs).2.sampleCount = stats.sampleCount + 1 := by
        simp [record, show ¬stats.sampleCount = stats.samples.length by omega]
      rw [retained_record latencyNs room, counted, left, List.take_succ_cons, List.append_assoc]
      rfl
    · have full : stats.sampleCount = stats.samples.length := by
        have fits := wellFormed.fits
        omega
      obtain ⟨same, count⟩ := retained_record_full latencyNs full
      simp [same, count, full]

theorem recordAll_counts {stats : LatencyStats} (wellFormed : WellFormed stats)
    (latencies : List Int) :
    WellFormed (recordAll stats latencies) ∧
      (recordAll stats latencies).samples.length = stats.samples.length ∧
      recorded (recordAll stats latencies) = recorded stats + latencies.length := by
  induction latencies generalizing stats with
  | nil => exact ⟨wellFormed, rfl, rfl⟩
  | cons latencyNs rest ih =>
    obtain ⟨kept, capacity, total⟩ := ih (record_wellFormed wellFormed latencyNs)
    rw [recordAll, List.foldl_cons, ← recordAll]
    refine ⟨kept, capacity.trans (capacity_record stats latencyNs), ?_⟩
    rw [total, recorded_record, List.length_cons]
    omega

/-- An accepted initialization allocates a capacity that fits the size type. -/
theorem initializeStats_eq {maxSize : Nat} {name : String} {tickCount maxPerTick : Nat}
    {stats : LatencyStats} (ok : initializeStats maxSize name tickCount maxPerTick = .ok stats) :
    stats = allocate tickCount maxPerTick ∧ tickCount * maxPerTick ≤ sizeMax := by
  unfold initializeStats at ok
  split_ifs at ok with overflowing large
  obtain ⟨positive, quotient⟩ := not_or.1 overflowing
  refine ⟨(Except.ok.inj ok).symm, ?_⟩
  exact (Nat.le_div_iff_mul_le (Nat.pos_of_ne_zero positive)).1 (by omega)

section Sorted
variable {sorted : List Int} (some : sorted ≠ []) (fits : sorted.length ≤ sizeMax)
include some fits

theorem size_toNat : (UInt64.ofNat sorted.length).toNat = sorted.length ∧ 1 ≤ sorted.length := by
  have positive : 0 < sorted.length := List.length_pos_iff.2 some
  have width : sorted.length < 2 ^ 64 := by
    unfold sizeMax at fits
    omega
  exact ⟨UInt64.toNat_ofNat_of_lt' width, positive⟩

theorem percentile_rank {permille : UInt64} (positive : 1 ≤ permille.toNat)
    (part : permille.toNat ≤ 1000) :
    let index := (percentileIndexPermille (UInt64.ofNat sorted.length) permille).toNat
    index + 1 = (sorted.length * permille.toNat) ⌈/⌉ 1000 ∧ index < sorted.length := by
  obtain ⟨size, counted⟩ := size_toNat some fits
  have rank := percentileIndex_rank (UInt64.ofNat sorted.length) (size.symm ▸ counted) positive part
  have below := ceilDiv_le_count sorted.length (show 0 < 1000 by decide) part
  rw [size] at rank
  refine ⟨rank, ?_⟩
  omega

theorem tail_count : let size := UInt64.ofNat sorted.length
    (tailCountForTopPercent size 1).toNat = sorted.length ⌈/⌉ 100 ∧
      (size - tailCountForTopPercent size 1).toNat = sorted.length - sorted.length ⌈/⌉ 100 ∧
      sorted.length ⌈/⌉ 100 ≤ sorted.length := by
  obtain ⟨size, counted⟩ := size_toNat some fits
  have positive : 1 ≤ (UInt64.ofNat sorted.length).toNat := size.symm ▸ counted
  have one : (1 : UInt64).toNat = 1 := rfl
  have count := tailCount_share (UInt64.ofNat sorted.length) positive one.ge (by decide)
  have short := ceilDiv_le_count sorted.length (show 0 < 100 by decide) (show 1 ≤ 100 by decide)
  rw [one, Nat.mul_one, size] at count
  rw [Nat.mul_one] at short
  have fitsToo : tailCountForTopPercent (UInt64.ofNat sorted.length) 1 ≤
      UInt64.ofNat sorted.length := UInt64.le_iff_toNat_le.2 (by omega)
  refine ⟨count, ?_, short⟩
  rw [UInt64.toNat_sub_of_le _ _ fitsToo, size, count]

end Sorted

theorem percentile_eq (enough : Bool) {sorted : List Int} {index : UInt64}
    (inside : index.toNat < sorted.length) :
    percentile enough sorted index = .some (if enough then sorted[index.toNat] else 0) := by
  cases enough with
  | false => rfl
  | true => exact List.getElem?_eq_getElem inside

theorem Describes.of_perm {summary : LatencySummary} {sorted samples : List Int}
    (describes : Describes summary sorted) (perm : sorted.Perm samples) :
    Describes summary samples := by
  obtain ⟨count, minNs, maxNs, meanNs, p50Ns, hasP99, p99Ns, hasP999, p999Ns, hasTail, tail⟩ :=
    describes
  simp only [perm.mem_iff, perm.length_eq, perm.sum_eq, nearestRank_of_perm perm] at *
  refine ⟨count, minNs, maxNs, meanNs, p50Ns, hasP99, p99Ns, hasP999, p999Ns, hasTail, ?_⟩
  intro has
  obtain ⟨slowest, greatest, length, mean⟩ := tail has
  exact ⟨slowest, greatest.of_perm perm, length, mean⟩

/-- A nearest-rank summary of some samples is ordered. -/
theorem Describes.ordered {summary : LatencySummary} {samples : List Int}
    (describes : Describes summary samples) (some : samples ≠ []) : Ordered summary := by
  have above : ∀ sample ∈ samples, summary.minNs ≤ sample :=
    fun sample member => describes.minNs.2 member
  have below : ∀ sample ∈ samples, sample ≤ summary.maxNs :=
    fun sample member => describes.maxNs.2 member
  have middle : summary.p50Ns ∈ samples := describes.p50Ns.1.1
  refine ⟨⟨above _ middle, below _ middle⟩, ?_, ?_, ?_⟩
  · rw [describes.meanNs]
    exact mean_between some above below
  · intro has
    have many := describes.hasP999.1 has
    have ranked := describes.p99Ns (describes.hasP99.2 (by omega))
    exact ranked.mono (describes.p999Ns has) (by decide)
  · intro has
    have ranked := describes.p99Ns (describes.hasTailMean99 ▸ has)
    obtain ⟨tail, greatest, length, mean⟩ := describes.tailMean99Ns has
    have positive : 0 < samples.length := List.length_pos_iff.2 some
    rw [Nat.ceilDiv_eq_add_pred_div] at length
    have tailSome : tail ≠ [] := by
      rintro rfl
      simp only [List.length_nil] at length
      omega
    rw [mean]
    apply mean_between tailSome
    · intro sample member
      exact ranked.le_of_greatest greatest (by omega) member
    · exact fun sample member => below sample (greatest.mem member)

/-- Everything the summary reads lies inside the samples, and what it reports is
their nearest-rank summary. -/
theorem summarize_describes {stats : LatencyStats} (some : stats.sampleCount ≠ 0)
    (inside : stats.sampleCount ≤ stats.samples.length) (fits : stats.sampleCount ≤ sizeMax) :
    ∃ summary, summarize stats = .some summary ∧ Describes summary (retained stats) := by
  have perm : ((retained stats).insertionSort (· ≤ ·)).Perm (retained stats) :=
    List.perm_insertionSort _ _
  have ascending : ((retained stats).insertionSort (· ≤ ·)).Pairwise (· ≤ ·) :=
    List.pairwise_insertionSort _ _
  have length : (retained stats).length = stats.sampleCount := by simp [retained, inside]
  unfold summarize
  rw [if_neg some]
  generalize (retained stats).insertionSort (· ≤ ·) = sorted at perm ascending
  have count : sorted.length = stats.sampleCount := perm.length_eq.trans length
  have nonempty : sorted ≠ [] := by
    rintro rfl
    exact some count.symm
  have sized : sorted.length ≤ sizeMax := count.symm ▸ fits
  have half : 1 ≤ (500 : UInt64).toNat ∧ (500 : UInt64).toNat ≤ 1000 := by decide
  have most : 1 ≤ (990 : UInt64).toNat ∧ (990 : UInt64).toNat ≤ 1000 := by decide
  have nearly : 1 ≤ (999 : UInt64).toNat ∧ (999 : UInt64).toNat ≤ 1000 := by decide
  obtain ⟨rank50, in50⟩ := percentile_rank nonempty sized half.1 half.2
  obtain ⟨rank99, in99⟩ := percentile_rank nonempty sized most.1 most.2
  obtain ⟨rank999, in999⟩ := percentile_rank nonempty sized nearly.1 nearly.2
  obtain ⟨tailCount, tailStart, short⟩ := tail_count nonempty sized
  have first : 0 < sorted.length := List.length_pos_iff.2 nonempty
  have last : sorted.length - 1 < sorted.length := Nat.sub_lt first Nat.one_pos
  have least := isLeast_sorted ascending first
  have greatest := isGreatest_sorted ascending last
  simp only [List.head?_eq_getElem?, List.getLast?_eq_getElem?, List.getElem?_eq_getElem first,
    List.getElem?_eq_getElem in50, percentile_eq _ in99, percentile_eq _ in999,
    List.getElem?_eq_getElem last, Option.bind_eq_bind, Option.bind_some]
  have slowest : (sorted.drop (sorted.length - sorted.length ⌈/⌉ 100)).length =
      sorted.length ⌈/⌉ 100 := by
    rw [List.length_drop]
    omega
  refine ⟨_, rfl, Describes.of_perm ?_ perm⟩
  refine ⟨rfl, least, greatest, rfl, nearestRank_sorted ascending (by decide) rank50 in50,
    decide_eq_true_iff, ?_, decide_eq_true_iff, ?_, rfl, ?_⟩
  · intro has
    rw [if_pos has]
    exact nearestRank_sorted ascending (by decide) rank99 in99
  · intro has
    rw [if_pos has]
    exact nearestRank_sorted ascending (by decide) rank999 in999
  · intro has
    refine ⟨_, greatest_drop ascending _, slowest, ?_⟩
    simp only [if_pos has, tailCount, tailStart, slowest]

/-- Only the multiset of the retained samples matters. -/
theorem summarize_perm {first second : LatencyStats}
    (perm : (retained first).Perm (retained second)) (some : retained second ≠ []) :
    summarize first = summarize second := by
  have counted : ∀ {stats : LatencyStats}, retained stats ≠ [] → ¬stats.sampleCount = 0 := by
    intro stats some zero
    apply some
    rw [retained, zero, List.take_zero]
  have someToo : retained first ≠ [] := by
    rintro empty
    exact some (List.nil_perm.1 (empty ▸ perm))
  simp only [summarize, if_neg (counted some), if_neg (counted someToo), sort_eq_of_perm perm]

/-- A collector retains the first samples up to its capacity and counts the
rest. Its summary is the nearest-rank summary of the retained samples: every
read is inside them, the figures are ordered, and the order of recording does
not matter. -/
theorem summary_nearest_rank {maxSize : Nat} {name : String} {tickCount maxPerTick : Nat}
    {stats : LatencyStats} (ok : initializeStats maxSize name tickCount maxPerTick = .ok stats)
    (latencies : List Int) :
    let capacity := stats.samples.length
    let final := recordAll stats latencies
    let n := min latencies.length capacity
    capacity = tickCount * maxPerTick ∧
      retained final = latencies.take n ∧ final.overflowCount = latencies.length - n ∧
      (1 ≤ n → ∃ summary, summarize final = some summary ∧ Describes summary (retained final) ∧
        Ordered summary ∧
        ∀ other, (retained other).Perm (retained final) → summarize other = some summary) := by
  intro capacity final n
  obtain ⟨rfl, sized⟩ := initializeStats_eq ok
  have start : WellFormed (allocate tickCount maxPerTick) :=
    allocate_wellFormed tickCount maxPerTick
  obtain ⟨wellFormed, same, total⟩ := recordAll_counts start latencies
  have allocated : capacity = tickCount * maxPerTick := capacity_allocate tickCount maxPerTick
  have kept : retained final = latencies.take n := by
    rw [retained_recordAll start latencies]
    simp [retained, allocate, n, allocated, List.take_eq_take_iff, Nat.min_comm]
  have lost : final.overflowCount = latencies.length - n := by
    rw [wellFormed.overflow, total, same, recorded_allocate]
    omega
  refine ⟨allocated, kept, lost, ?_⟩
  intro nonempty
  have count : final.sampleCount = n := by
    have all : final.sampleCount + final.overflowCount = latencies.length := by
      rw [recorded_allocate, Nat.zero_add] at total
      exact total
    omega
  have some : retained final ≠ [] := by
    rw [kept, ← List.length_pos_iff, List.length_take]
    omega
  obtain ⟨summary, read, describes⟩ := summarize_describes
    (show final.sampleCount ≠ 0 by omega) wellFormed.fits
    (show final.sampleCount ≤ sizeMax by omega)
  refine ⟨summary, read, describes, describes.ordered some, ?_⟩
  intro other perm
  rw [summarize_perm perm some, read]

/-- Three samples into a collector of two. -/
theorem summary_nearest_rank_two :
    initializeStats 10 "oms" 2 1 = .ok (allocate 2 1) ∧
      ∃ summary, summarize (recordAll (allocate 2 1) [5, -3, 7]) = some summary ∧
        Describes summary (retained (recordAll (allocate 2 1) [5, -3, 7])) := by
  have ok : initializeStats 10 "oms" 2 1 = .ok (allocate 2 1) := by
    rfl
  obtain ⟨_, _, _, described⟩ := summary_nearest_rank ok [5, -3, 7]
  obtain ⟨summary, read, describes, _⟩ := described (by decide)
  exact ⟨ok, summary, read, describes⟩

end TradingKernel.LatencyStats
