import Mathlib.Algebra.Group.Nat.Defs
import Mathlib.Tactic.SplitIfs
import TradingKernel.Types

/-!
Fixed-capacity latency collectors. The storage is allocated once; a sample
that finds it full is dropped and counted.
-/

namespace TradingKernel

structure LatencyStats where
  samples : List Int
  sampleCount : Nat
  overflowCount : Nat
  maxPerTick : Nat
  deriving DecidableEq, Repr

namespace LatencyStats

/-- A collector of `tickCount * maxPerTick` zeroed samples. -/
def allocate (tickCount maxPerTick : Nat) : LatencyStats :=
  ⟨List.replicate (tickCount * maxPerTick) 0, 0, 0, maxPerTick⟩

/-- Largest value of the source's `size_t`. -/
def sizeMax : Nat := 2 ^ 64 - 1

def capacityError (name : String) (tickCount maxPerTick : Nat) : String :=
  "latency collector capacity invalid: collector=" ++ name ++
    " tick_count=" ++ toString tickCount ++ " max_per_tick=" ++ toString maxPerTick

/-- `maxSize` is the implementation limit of the sample vector. -/
def initializeStats (maxSize : Nat) (name : String) (tickCount maxPerTick : Nat) :
    Except String LatencyStats :=
  if maxPerTick = 0 ∨ tickCount > sizeMax / maxPerTick then
    .error (capacityError name tickCount maxPerTick)
  else if tickCount * maxPerTick > maxSize then .error (capacityError name tickCount maxPerTick)
  else .ok (allocate tickCount maxPerTick)

def record (stats : LatencyStats) (latencyNs : Int) : Bool × LatencyStats :=
  if stats.sampleCount = stats.samples.length then
    (false, { stats with overflowCount := stats.overflowCount + 1 })
  else
    (true, { stats with
      samples := stats.samples.set stats.sampleCount latencyNs
      sampleCount := stats.sampleCount + 1 })

/-- How often a collector was asked to record. -/
def recorded (stats : LatencyStats) : Nat := stats.sampleCount + stats.overflowCount

/-- A collector only overflows once its storage is full. -/
structure WellFormed (stats : LatencyStats) : Prop where
  fits : stats.sampleCount ≤ stats.samples.length
  full : stats.overflowCount ≠ 0 → stats.sampleCount = stats.samples.length

/-- The whole request is representable, so initialization succeeds. -/
theorem initializeStats_ok {maxSize : Nat} (name : String) {tickCount maxPerTick : Nat}
    (positive : 0 < maxPerTick) (fits : tickCount * maxPerTick ≤ maxSize)
    (limit : maxSize ≤ sizeMax) :
    initializeStats maxSize name tickCount maxPerTick = .ok (allocate tickCount maxPerTick) := by
  have quotient : tickCount ≤ sizeMax / maxPerTick :=
    (Nat.le_div_iff_mul_le positive).2 (Nat.le_trans fits limit)
  have checked : ¬(maxPerTick = 0 ∨ tickCount > sizeMax / maxPerTick) := by omega
  simp [initializeStats, checked, show ¬tickCount * maxPerTick > maxSize by omega]

@[simp] theorem recorded_allocate (tickCount maxPerTick : Nat) :
    recorded (allocate tickCount maxPerTick) = 0 := rfl

@[simp] theorem capacity_allocate (tickCount maxPerTick : Nat) :
    (allocate tickCount maxPerTick).samples.length = tickCount * maxPerTick := by
  simp [allocate]

theorem allocate_wellFormed (tickCount maxPerTick : Nat) :
    WellFormed (allocate tickCount maxPerTick) := by
  constructor <;> simp [allocate]

@[simp] theorem recorded_record (stats : LatencyStats) (latencyNs : Int) :
    recorded (record stats latencyNs).2 = recorded stats + 1 := by
  unfold record recorded
  split_ifs <;> simp only <;> omega

@[simp] theorem capacity_record (stats : LatencyStats) (latencyNs : Int) :
    (record stats latencyNs).2.samples.length = stats.samples.length := by
  unfold record
  split_ifs
  · rfl
  · exact List.length_set

theorem record_wellFormed {stats : LatencyStats} (wellFormed : WellFormed stats)
    (latencyNs : Int) : WellFormed (record stats latencyNs).2 := by
  obtain ⟨fits, full⟩ := wellFormed
  unfold record
  split_ifs with filled
  · exact ⟨fits, fun _ => filled⟩
  · constructor
    · simp only [List.length_set]
      omega
    · intro dropped
      exact absurd (full dropped) filled

/-- What is lost is exactly what was recorded beyond the capacity. -/
theorem WellFormed.overflow {stats : LatencyStats} (wellFormed : WellFormed stats) :
    stats.overflowCount = recorded stats - stats.samples.length := by
  obtain ⟨fits, full⟩ := wellFormed
  unfold recorded
  by_cases none : stats.overflowCount = 0
  · omega
  · have := full none
    omega

end LatencyStats

end TradingKernel
