import Mathlib.Data.Finset.Max
import Mathlib.Data.Rat.Cast.Order
import TradingKernel.AccountingEngine
import TradingKernel.Library.Truncation

/-!
How far the integer open cost drifts from the exact average cost. A position is
followed as a side with a magnitude, so that long and short ones are one case,
and every partial close takes the truncated share of its cost.
-/

namespace TradingKernel.CostBasis
open Library AccountingEngine

/-- The average-cost basis of the open position in exact arithmetic, with what
has happened since the position was last flat or last flipped: the number of
partial closes and the prices of the fills that increased it. -/
structure Basis where
  netQty : Int
  exact : ℚ
  partialCloses : Nat
  entries : List Price

def Basis.flat : Basis := ⟨0, 0, 0, []⟩

def Basis.applyFill (basis : Basis) (fill : Fill) : Basis :=
  if fill.quantity ≤ 0 then basis
  else
    let signedFillQty := signedQty fill
    let residualQty := basis.netQty + signedFillQty
    if basis.netQty = 0 ∨ (basis.netQty > 0 ↔ signedFillQty > 0) then
      ⟨residualQty, basis.exact + signedFillQty * fill.price, basis.partialCloses,
        basis.entries ++ [fill.price]⟩
    else if residualQty = 0 then .flat
    else if residualQty > 0 ↔ basis.netQty > 0 then
      ⟨residualQty, basis.exact * |residualQty| / |basis.netQty|, basis.partialCloses + 1,
        basis.entries⟩
    else ⟨residualQty, residualQty * fill.price, 0, [fill.price]⟩

def Basis.step (basis : Basis) : Call → Basis
  | .applyFill fill => basis.applyFill fill
  | .markToMarket _ => basis

def basisOf (calls : List Call) : Basis := calls.foldl Basis.step .flat

structure Holds (engine : Engine) (sign : Int) (qty cost : Nat) : Prop where
  netQty : engine.positionState.netQty = sign * qty
  openCost : engine.openCost = sign * cost

/-- The exact basis holds the same units at a cost of `exact`. -/
structure HoldsExactly (basis : Basis) (sign : Int) (qty : Nat) (exact : ℚ) : Prop where
  netQty : basis.netQty = sign * qty
  exact : basis.exact = sign * exact

/-- How the magnitudes of a position are related: what separates the integer
cost from the exact one, and the entry prices that bound it. -/
structure Drift (partialCloses : Nat) (entries : List Price) (qty cost : Nat) (exact : ℚ) :
    Prop where
  flat : qty = 0 → cost = 0 ∧ exact = 0 ∧ partialCloses = 0 ∧ entries = []
  below : (cost : ℚ) ≤ exact
  gap : exact - cost ≤ partialCloses
  strict : 0 < partialCloses → exact - cost < partialCloses
  entered : 0 < qty → entries ≠ []
  positive : ∀ price ∈ entries, 0 < price
  low : ∀ low : Nat, (∀ price ∈ entries, low ≤ price) → low * qty ≤ cost
  high : ∀ high : Nat, (∀ price ∈ entries, price ≤ high) → cost ≤ high * qty

theorem drift_flat : Drift 0 [] 0 0 0 := by
  constructor <;> simp

theorem Drift.increase {partialCloses : Nat} {entries : List Price} {qty cost : Nat} {exact : ℚ}
    (drift : Drift partialCloses entries qty cost exact) {filled price : Nat} (some : 0 < filled)
    (positive : 0 < price) :
    Drift partialCloses (entries ++ [(price : Int)]) (qty + filled) (cost + filled * price)
      (exact + filled * price) := by
  have same : exact + filled * price - ((cost + filled * price : Nat) : ℚ) = exact - cost := by
    push_cast
    ring
  constructor
  · intro none
    omega
  · have below := drift.below
    push_cast
    linarith
  · rw [same]
    exact drift.gap
  · rw [same]
    exact drift.strict
  · simp
  · intro entry member
    rcases List.mem_append.1 member with earlier | last
    · exact drift.positive entry earlier
    · rw [List.mem_singleton.1 last]
      exact Int.natCast_pos.2 positive
  · intro low bound
    obtain ⟨earlier, last⟩ := List.forall_mem_append.1 bound
    have under : low ≤ price := Int.ofNat_le.1 (last price (List.mem_singleton_self _))
    rw [Nat.mul_add, Nat.mul_comm low filled]
    exact Nat.add_le_add (drift.low low earlier) (Nat.mul_le_mul_left filled under)
  · intro high bound
    obtain ⟨earlier, last⟩ := List.forall_mem_append.1 bound
    have above : price ≤ high := Int.ofNat_le.1 (last price (List.mem_singleton_self _))
    rw [Nat.mul_add, Nat.mul_comm high filled]
    exact Nat.add_le_add (drift.high high earlier) (Nat.mul_le_mul_left filled above)

/-- A partial close rounds once more and keeps the entry prices' bounds. -/
theorem Drift.reduce {partialCloses : Nat} {entries : List Price} {qty cost : Nat} {exact : ℚ}
    (drift : Drift partialCloses entries qty cost exact) {left : Nat} (some : 0 < left)
    (fewer : left < qty) :
    Drift (partialCloses + 1) entries left (share cost left qty) (exact * left / qty) := by
  have filled : 0 < qty := Nat.zero_lt_of_lt fewer
  obtain ⟨below, strict⟩ := share_drift filled fewer.le drift.below drift.gap
  constructor
  · intro none
    omega
  · exact below
  · push_cast
    exact strict.le
  · intro _
    push_cast
    exact strict
  · exact fun _ => drift.entered filled
  · exact drift.positive
  · exact fun low bound => le_share filled (drift.low low bound)
  · exact fun high bound => share_le (drift.high high bound)

theorem drift_flipped {left price : Nat} (some : 0 < left) (positive : 0 < price) :
    Drift 0 [(price : Int)] left (left * price) (left * price) := by
  have opened := drift_flat.increase some positive
  simpa using opened

/-- The invariant of a run: one position, held at both costs. -/
def Tracks (basis : Basis) (engine : Engine) : Prop :=
  ∃ sign qty cost exact, (sign = 1 ∨ sign = -1) ∧ Holds engine sign qty cost ∧
    HoldsExactly basis sign qty exact ∧ Drift basis.partialCloses basis.entries qty cost exact

section Fill
variable {engine : Engine} {basis : Basis} {sign : Int} {qty cost filled price : Nat} {exact : ℚ}
  {fill : Fill} (holds : Holds engine sign qty cost)
  (exactly : HoldsExactly basis sign qty exact)
  (quantity : fill.quantity = filled) (some : 0 < filled)
include holds exactly quantity some

/-- A fill on the side of the position, or on none, adds its notional. -/
theorem fill_increases (drift : Drift basis.partialCloses basis.entries qty cost exact)
    (priced : fill.price = price) (positive : 0 < price)
    (side : qty = 0 ∨ sideSign fill.side = sign) :
    Tracks (basis.applyFill fill) (applyFill engine fill).2 := by
  have accepted : 0 < fill.quantity := by omega
  have signed : signedQty fill = sideSign fill.side * filled := by rw [signedQty, quantity]
  have sides := sideSign_cases fill.side
  have held : engine.positionState.netQty = sideSign fill.side * qty ∧
      engine.openCost = sideSign fill.side * cost ∧ basis.netQty = sideSign fill.side * qty ∧
      basis.exact = sideSign fill.side * exact := by
    rcases side with none | same
    · obtain ⟨cost0, exact0, _⟩ := drift.flat none
      rw [holds.netQty, holds.openCost, exactly.netQty, exactly.exact, none, cost0, exact0]
      simp
    · rw [holds.netQty, holds.openCost, exactly.netQty, exactly.exact, same]
      simp
  obtain ⟨netQty, openCost, exactQty, exactCost⟩ := held
  have joins : sideSign fill.side * qty = 0 ∨
      (sideSign fill.side * qty > 0 ↔ sideSign fill.side * filled > 0) := by
    rcases sides with sign | sign <;> rw [sign] <;> omega
  have rest : sideSign fill.side * qty + sideSign fill.side * filled ≠ 0 := by
    rcases sides with sign | sign <;> rw [sign] <;> omega
  have joined : basis.applyFill fill =
      ⟨sideSign fill.side * qty + sideSign fill.side * filled,
        sideSign fill.side * exact + (sideSign fill.side * filled : Int) * (price : Int),
        basis.partialCloses, basis.entries ++ [(price : Int)]⟩ := by
    simp only [Basis.applyFill, if_neg (show ¬fill.quantity ≤ 0 by omega), exactQty, signed,
      if_pos joins, exactCost, priced]
  rw [joined]
  refine ⟨sideSign fill.side, qty + filled, cost + filled * price, exact + filled * price,
    sides, ⟨?_, ?_⟩, ⟨?_, ?_⟩, drift.increase some positive⟩
  · rw [applyFill_netQty engine fill accepted, netQty, signed]
    push_cast
    ring
  · rw [applyFill_openCost engine fill accepted, netQty, signed, if_neg rest, nextOpenCost,
      if_pos joins, openCost, priced]
    push_cast
    ring
  · push_cast
    ring
  · push_cast
    ring

/-- A smaller fill on the other side keeps the truncated share of the cost. -/
theorem fill_reduces (drift : Drift basis.partialCloses basis.entries qty cost exact)
    (unit : sign = 1 ∨ sign = -1) (opposite : sideSign fill.side = -sign)
    (fewer : filled < qty) : Tracks (basis.applyFill fill) (applyFill engine fill).2 := by
  have accepted : 0 < fill.quantity := by omega
  have signed : signedQty fill = -sign * filled := by rw [signedQty, quantity, opposite]
  obtain ⟨left, rfl⟩ := Nat.exists_eq_add_of_lt fewer
  have residual : sign * ((filled + left + 1 : Nat) : Int) + -sign * filled =
      sign * ((left + 1 : Nat) : Int) := by
    push_cast
    ring
  have leaves : ¬(sign * ((filled + left + 1 : Nat) : Int) = 0 ∨
      (sign * ((filled + left + 1 : Nat) : Int) > 0 ↔ -sign * (filled : Int) > 0)) := by
    rcases unit with rfl | rfl <;> omega
  have rest : sign * ((left + 1 : Nat) : Int) ≠ 0 := by
    rcases unit with rfl | rfl <;> omega
  have stays : sign * ((left + 1 : Nat) : Int) > 0 ↔
      sign * ((filled + left + 1 : Nat) : Int) > 0 := by
    rcases unit with rfl | rfl <;> omega
  have magnitude : ∀ units : Nat, |sign * (units : Int)| = units ∧
      absQty (sign * (units : Int)) = units := by
    intro units
    rcases unit with rfl | rfl <;> simp [absQty_eq]
  have reduced : basis.applyFill fill =
      ⟨sign * ((left + 1 : Nat) : Int),
        sign * exact * ((left + 1 : Nat) : Int) / ((filled + left + 1 : Nat) : Int),
        basis.partialCloses + 1, basis.entries⟩ := by
    simp only [Basis.applyFill, if_neg (show ¬fill.quantity ≤ 0 by omega), exactly.netQty, signed,
      residual, if_neg leaves, if_neg rest, if_pos stays, (magnitude _).1, exactly.exact]
  rw [reduced]
  refine ⟨sign, left + 1, share cost (left + 1) (filled + left + 1),
    exact * (left + 1 : Nat) / (filled + left + 1 : Nat), unit, ⟨?_, ?_⟩, ⟨rfl, ?_⟩,
    drift.reduce (Nat.succ_pos left) (by omega)⟩
  · rw [applyFill_netQty engine fill accepted, holds.netQty, signed, residual]
  · rw [applyFill_openCost engine fill accepted, holds.netQty, signed, residual, if_neg rest,
      nextOpenCost, residual, if_neg leaves, if_neg rest, if_pos stays, (magnitude _).2,
      (magnitude _).2, holds.openCost]
    exact tdiv_share unit _ _ _
  · push_cast
    ring

/-- A fill of the same size on the other side leaves nothing. -/
theorem fill_closes (unit : sign = 1 ∨ sign = -1) (opposite : sideSign fill.side = -sign)
    (all : filled = qty) : Tracks (basis.applyFill fill) (applyFill engine fill).2 := by
  subst all
  have accepted : 0 < fill.quantity := by omega
  have signed : signedQty fill = -sign * filled := by rw [signedQty, quantity, opposite]
  have residual : sign * (filled : Int) + -sign * filled = 0 := by ring
  have leaves : ¬(sign * (filled : Int) = 0 ∨
      (sign * (filled : Int) > 0 ↔ -sign * (filled : Int) > 0)) := by
    rcases unit with rfl | rfl <;> omega
  have closed : basis.applyFill fill = .flat := by
    simp only [Basis.applyFill, if_neg (show ¬fill.quantity ≤ 0 by omega), exactly.netQty, signed,
      residual, if_neg leaves, if_true]
  rw [closed]
  refine ⟨1, 0, 0, 0, .inl rfl, ⟨?_, ?_⟩, ⟨by simp [Basis.flat], by simp [Basis.flat]⟩,
    drift_flat⟩
  · rw [applyFill_netQty engine fill accepted, holds.netQty, signed, residual]
    rfl
  · rw [applyFill_openCost engine fill accepted, holds.netQty, signed, residual]
    rfl

/-- A larger fill on the other side opens what is left of it at its own price. -/
theorem fill_flips (priced : fill.price = price) (positive : 0 < price)
    (unit : sign = 1 ∨ sign = -1) (opposite : sideSign fill.side = -sign)
    (held : 0 < qty) (more : qty < filled) :
    Tracks (basis.applyFill fill) (applyFill engine fill).2 := by
  have accepted : 0 < fill.quantity := by omega
  have signed : signedQty fill = -sign * filled := by rw [signedQty, quantity, opposite]
  obtain ⟨left, rfl⟩ := Nat.exists_eq_add_of_lt more
  have residual : sign * (qty : Int) + -sign * ((qty + left + 1 : Nat) : Int) =
      -sign * ((left + 1 : Nat) : Int) := by
    push_cast
    ring
  have leaves : ¬(sign * (qty : Int) = 0 ∨
      (sign * (qty : Int) > 0 ↔ -sign * ((qty + left + 1 : Nat) : Int) > 0)) := by
    rcases unit with rfl | rfl <;> omega
  have rest : -sign * ((left + 1 : Nat) : Int) ≠ 0 := by
    rcases unit with rfl | rfl <;> omega
  have turns : ¬(-sign * ((left + 1 : Nat) : Int) > 0 ↔ sign * (qty : Int) > 0) := by
    rcases unit with rfl | rfl <;> omega
  have flipped : basis.applyFill fill =
      ⟨-sign * ((left + 1 : Nat) : Int), (-sign * ((left + 1 : Nat) : Int) : Int) * fill.price, 0,
        [fill.price]⟩ := by
    simp only [Basis.applyFill, if_neg (show ¬fill.quantity ≤ 0 by omega), exactly.netQty, signed,
      residual, if_neg leaves, if_neg rest, if_neg turns]
  rw [flipped]
  refine ⟨-sign, left + 1, (left + 1) * price, (left + 1 : Nat) * price, ?_, ⟨?_, ?_⟩, ⟨?_, ?_⟩, ?_⟩
  · rcases unit with rfl | rfl <;> simp
  · rw [applyFill_netQty engine fill accepted, holds.netQty, signed, residual]
  · rw [applyFill_openCost engine fill accepted, holds.netQty, signed, residual, if_neg rest,
      nextOpenCost, residual, if_neg leaves, if_neg rest, if_neg turns, priced]
    push_cast
    ring
  · rfl
  · simp only [priced]
    push_cast
    ring
  · rw [priced]
    exact drift_flipped (Nat.succ_pos left) positive

end Fill

theorem fresh_tracks : Tracks .flat fresh :=
  ⟨1, 0, 0, 0, .inl rfl, ⟨rfl, rfl⟩, ⟨rfl, by simp [Basis.flat]⟩, drift_flat⟩

/-- The fill of a call, if it is one, has a positive price. -/
def PositivePrice : Call → Prop
  | .applyFill fill => 0 < fill.price
  | .markToMarket _ => True

instance (call : Call) : Decidable (PositivePrice call) :=
  match call with
  | .applyFill fill => inferInstanceAs (Decidable (0 < fill.price))
  | .markToMarket _ => inferInstanceAs (Decidable True)

theorem step_tracks {basis : Basis} {engine : Engine} (tracks : Tracks basis engine) (call : Call)
    (priced : PositivePrice call) : Tracks (basis.step call) (machine.step engine call).2 := by
  obtain ⟨sign, qty, cost, exact, unit, holds, exactly, drift⟩ := tracks
  cases call with
  | markToMarket midPrice =>
    refine ⟨sign, qty, cost, exact, unit, ⟨?_, ?_⟩, exactly, drift⟩
    · exact (markToMarket_netQty engine midPrice).trans holds.netQty
    · simp only [machine, markToMarket, refreshDerived_openCost, holds.netQty, holds.openCost]
      split_ifs with none
      · have empty : qty = 0 := by rcases unit with rfl | rfl <;> omega
        rw [(drift.flat empty).1]
        simp
      · rfl
  | applyFill fill =>
    by_cases accepted : 0 < fill.quantity
    · obtain ⟨filled, quantity⟩ := Int.eq_ofNat_of_zero_le accepted.le
      have worth : 0 < fill.price := priced
      obtain ⟨price, cents⟩ := Int.eq_ofNat_of_zero_le worth.le
      have some : 0 < filled := by omega
      have positive : 0 < price := Int.natCast_pos.1 (cents ▸ worth)
      by_cases side : qty = 0 ∨ sideSign fill.side = sign
      · exact fill_increases holds exactly quantity some drift cents positive side
      · obtain ⟨held, other⟩ := not_or.1 side
        have opposite : sideSign fill.side = -sign := by
          rcases sideSign_cases fill.side with up | down <;> omega
        rcases Nat.lt_trichotomy filled qty with fewer | all | more
        · exact fill_reduces holds exactly quantity some drift unit opposite fewer
        · exact fill_closes holds exactly quantity some unit opposite all
        · exact fill_flips holds exactly quantity some cents positive unit opposite
            (Nat.pos_of_ne_zero held) more
    · have refused : (applyFill engine fill).2 = engine := by
        apply applyFill_refused
        simpa using mt (applyFill_accepted engine fill).1 accepted
      simp only [machine, Basis.step, Basis.applyFill, refused,
        if_pos (show fill.quantity ≤ 0 by omega)]
      exact ⟨sign, qty, cost, exact, unit, holds, exactly, drift⟩

theorem run_tracks {calls : List Call} (priced : ∀ call ∈ calls, PositivePrice call) :
    Tracks (basisOf calls) (machine.run fresh calls) := by
  have general : ∀ (calls : List Call) (basis : Basis) (engine : Engine), Tracks basis engine →
      (∀ call ∈ calls, PositivePrice call) →
        Tracks (calls.foldl Basis.step basis) (machine.run engine calls) := by
    intro calls
    induction calls with
    | nil => exact fun _ _ tracks _ => tracks
    | cons call rest ih =>
      intro basis engine tracks priced
      obtain ⟨first, later⟩ := List.forall_mem_cons.1 priced
      exact ih _ _ (step_tracks tracks _ first) later
  exact general calls .flat fresh fresh_tracks priced

/-- Along every run of positively priced fills, the engine's open cost has the
side of the position, is exact until the first partial close, and lags behind
the exact basis by less than the number of partial closes afterwards. -/
theorem run_drift (calls : List Call) (priced : ∀ call ∈ calls, PositivePrice call) :
    let engine := machine.run fresh calls
    let basis := basisOf calls
    let openCost := engine.pnlState.realizedPnl - engine.pnlState.cash
    basis.netQty = engine.positionState.netQty ∧
      openCost.sign = engine.positionState.netQty.sign ∧
      (basis.partialCloses = 0 → (openCost : ℚ) = basis.exact) ∧
      (0 < basis.partialCloses →
        0 ≤ |basis.exact| - |(openCost : ℚ)| ∧
          |basis.exact| - |(openCost : ℚ)| < basis.partialCloses) := by
  intro engine basis openCost
  obtain ⟨sign, qty, cost, exact, unit, holds, exactly, drift⟩ := run_tracks priced
  have refreshed : Refreshed engine := run_refreshed fresh_refreshed calls
  have same : openCost = sign * cost := by
    rw [← holds.openCost]
    simp only [openCost, refreshed.realized]
    ring
  have units : qty ≤ cost := by
    simpa using drift.low 1 (fun price member => drift.positive price member)
  have empty : qty = 0 → cost = 0 := fun none => (drift.flat none).1
  have above : 0 ≤ exact := (Nat.cast_nonneg cost).trans drift.below
  have magnitude : |basis.exact| = exact ∧ |(openCost : ℚ)| = cost := by
    rw [exactly.exact, same]
    rcases unit with rfl | rfl <;> simp [abs_of_nonneg above]
  refine ⟨exactly.netQty.trans holds.netQty.symm, ?_, ?_, ?_⟩
  · rw [same, holds.netQty, Int.sign_mul, Int.sign_mul]
    rcases Nat.eq_zero_or_pos qty with none | some
    · rw [none, empty none]
    · rw [Int.sign_natCast_of_ne_zero (by omega), Int.sign_natCast_of_ne_zero (by omega)]
  · intro none
    have gap := drift.gap
    rw [none, Nat.cast_zero, sub_nonpos] at gap
    rw [exactly.exact, same, le_antisymm gap drift.below]
    push_cast
    rfl
  · intro some
    rw [magnitude.1, magnitude.2]
    exact ⟨sub_nonneg.2 drift.below, drift.strict some⟩

/-- Two truncated closes of five units at 56 leave a basis of 11 where 11.2 is exact. -/
def closingCalls : List Call :=
  [.applyFill ⟨1, 10, 3, .buy⟩, .applyFill ⟨2, 13, 2, .buy⟩, .markToMarket 12,
    .applyFill ⟨3, 12, 2, .sell⟩, .applyFill ⟨4, 12, 2, .sell⟩]

theorem run_drift_twoCloses :
    let engine := machine.run fresh closingCalls
    let basis := basisOf closingCalls
    let openCost := engine.pnlState.realizedPnl - engine.pnlState.cash
    basis.netQty = engine.positionState.netQty ∧
      openCost.sign = engine.positionState.netQty.sign ∧
      (basis.partialCloses = 0 → (openCost : ℚ) = basis.exact) ∧
      (0 < basis.partialCloses →
        0 ≤ |basis.exact| - |(openCost : ℚ)| ∧
          |basis.exact| - |(openCost : ℚ)| < basis.partialCloses) :=
  run_drift closingCalls (by decide)

theorem exists_price_range {entries : List Price} (some : entries ≠ []) :
    ∃ low ∈ entries, ∃ high ∈ entries, ∀ price ∈ entries, low ≤ price ∧ price ≤ high := by
  have nonempty := (List.toFinset_nonempty_iff entries).2 some
  obtain ⟨low, lowMember, least⟩ := entries.toFinset.exists_min_image id nonempty
  obtain ⟨high, highMember, most⟩ := entries.toFinset.exists_max_image id nonempty
  refine ⟨low, List.mem_toFinset.1 lowMember, high, List.mem_toFinset.1 highMember, ?_⟩
  intro price member
  exact ⟨least price (List.mem_toFinset.2 member), most price (List.mem_toFinset.2 member)⟩

/-- Along every run of positively priced fills, the average price of an open
position lies between the lowest and the highest price at which it was entered. -/
theorem run_average_in_range (calls : List Call)
    (priced : ∀ call ∈ calls, PositivePrice call)
    (opened : (machine.run fresh calls).positionState.netQty ≠ 0) :
    ∃ low ∈ (basisOf calls).entries, ∃ high ∈ (basisOf calls).entries,
      (∀ price ∈ (basisOf calls).entries, low ≤ price ∧ price ≤ high) ∧
        low ≤ (machine.run fresh calls).positionState.avgPrice ∧
        (machine.run fresh calls).positionState.avgPrice ≤ high := by
  obtain ⟨sign, qty, cost, exact, unit, holds, exactly, drift⟩ := run_tracks priced
  have refreshed : Refreshed (machine.run fresh calls) := run_refreshed fresh_refreshed calls
  have held : 0 < qty := by
    apply Nat.pos_of_ne_zero
    rintro rfl
    exact opened (by simpa using holds.netQty)
  have average : (machine.run fresh calls).positionState.avgPrice = (cost / qty : Nat) := by
    rw [refreshed.average opened, holds.netQty, holds.openCost]
    rcases unit with rfl | rfl <;> simp
  obtain ⟨low, lowMember, high, highMember, between⟩ := exists_price_range (drift.entered held)
  obtain ⟨lowNat, rfl⟩ := Int.eq_ofNat_of_zero_le (drift.positive low lowMember).le
  obtain ⟨highNat, rfl⟩ := Int.eq_ofNat_of_zero_le (drift.positive high highMember).le
  have above := drift.low lowNat (fun price member => (between price member).1)
  have below := drift.high highNat (fun price member => (between price member).2)
  refine ⟨lowNat, lowMember, highNat, highMember, between, ?_, ?_⟩
  · rw [average, Int.ofNat_le, Nat.le_div_iff_mul_le held]
    exact above
  · rw [average, Int.ofNat_le]
    exact Nat.div_le_of_le_mul (by rwa [Nat.mul_comm] at below)

theorem run_average_in_range_twoCloses :
    ∃ low ∈ (basisOf closingCalls).entries, ∃ high ∈ (basisOf closingCalls).entries,
      (∀ price ∈ (basisOf closingCalls).entries, low ≤ price ∧ price ≤ high) ∧
        low ≤ (machine.run fresh closingCalls).positionState.avgPrice ∧
        (machine.run fresh closingCalls).positionState.avgPrice ≤ high :=
  run_average_in_range closingCalls (by decide) (by decide)

end TradingKernel.CostBasis
