import TradingKernel.AccountingEngine

/-!
Longs and shorts are treated alike. Flipping the side of every fill mirrors the
engine: position, cash, cost and profit change their signs, while the average
price, the mark and every reply stay. Each division truncates toward zero and
each sign test has a negative twin, so no branch favours one side.
-/

namespace TradingKernel.AccountingEngine
open Library

def oppositeSide : Side → Side
  | .buy => .sell
  | .sell => .buy

def flipFill (fill : Fill) : Fill := { fill with side := oppositeSide fill.side }

def flipCall : Call → Call
  | .applyFill fill => .applyFill (flipFill fill)
  | .markToMarket midPrice => .markToMarket midPrice

/-- The engine that holds the opposite position. -/
def mirror (engine : Engine) : Engine where
  positionState :=
    { netQty := -engine.positionState.netQty
      avgPrice := engine.positionState.avgPrice }
  pnlState :=
    { realizedPnl := -engine.pnlState.realizedPnl
      unrealizedPnl := -engine.pnlState.unrealizedPnl
      cash := -engine.pnlState.cash }
  openCost := -engine.openCost
  markPrice := engine.markPrice

theorem mirror_fresh : mirror fresh = fresh := rfl

theorem absQty_neg (qty : Int) : absQty (-qty) = absQty qty := by
  rw [absQty_eq, absQty_eq, Int.natAbs_neg]

theorem signedQty_flipFill (fill : Fill) : signedQty (flipFill fill) = -signedQty fill := by
  unfold signedQty flipFill
  cases fill.side with
  | buy => simp [oppositeSide, sideSign]
  | sell => simp [oppositeSide, sideSign]

theorem refreshDerived_mirror (engine : Engine) :
    refreshDerived (mirror engine) = mirror (refreshDerived engine) := by
  by_cases flat : engine.positionState.netQty = 0
  · simp [refreshDerived, mirror, flat]
  · have opened : ¬-engine.positionState.netQty = 0 := by omega
    simp only [refreshDerived, mirror, if_neg flat, if_neg opened, absQty_neg, neg_mul]
    congr 2 <;> ring

/-- Every branch of the cost update is odd in the position, its cost and the fill. -/
theorem nextOpenCost_neg (openCost currentQty price : Int) {signedFillQty : Int}
    (traded : signedFillQty ≠ 0) :
    nextOpenCost (-openCost) (-currentQty) (-signedFillQty) price =
      -nextOpenCost openCost currentQty signedFillQty price := by
  have opening : (-currentQty = 0 ∨ (-currentQty > 0 ↔ -signedFillQty > 0)) ↔
      (currentQty = 0 ∨ (currentQty > 0 ↔ signedFillQty > 0)) := by omega
  have residual : -currentQty + -signedFillQty = -(currentQty + signedFillQty) := by ring
  have closing : -(currentQty + signedFillQty) = 0 ↔ currentQty + signedFillQty = 0 := neg_eq_zero
  simp only [nextOpenCost, residual, absQty_neg]
  rw [if_congr opening rfl rfl, if_congr closing rfl rfl]
  by_cases opens : currentQty = 0 ∨ (currentQty > 0 ↔ signedFillQty > 0)
  · rw [if_pos opens, if_pos opens]
    ring
  · rw [if_neg opens, if_neg opens]
    by_cases closes : currentQty + signedFillQty = 0
    · rw [if_pos closes, if_pos closes, neg_zero]
    · rw [if_neg closes, if_neg closes]
      -- Neither quantity is zero here, so both sign tests flip together.
      have keeping : (-(currentQty + signedFillQty) > 0 ↔ -currentQty > 0) ↔
          (currentQty + signedFillQty > 0 ↔ currentQty > 0) := by omega
      rw [if_congr keeping rfl rfl]
      by_cases keeps : currentQty + signedFillQty > 0 ↔ currentQty > 0
      · rw [if_pos keeps, if_pos keeps, neg_mul, Int.neg_tdiv]
      · rw [if_neg keeps, if_neg keeps, neg_mul]

/-- A flipped fill on the mirrored engine is answered alike and leaves it mirrored. -/
theorem applyFill_mirror (engine : Engine) (fill : Fill) :
    applyFill (mirror engine) (flipFill fill) =
      ((applyFill engine fill).1, mirror (applyFill engine fill).2) := by
  by_cases refused : fill.quantity ≤ 0
  · have refusedToo : (flipFill fill).quantity ≤ 0 := refused
    rw [applyFill, applyFill, if_pos refused, if_pos refusedToo]
  · have acceptedToo : ¬(flipFill fill).quantity ≤ 0 := refused
    have traded : signedQty fill ≠ 0 := signedQty_ne_zero (by omega)
    have cost := nextOpenCost_neg engine.openCost engine.positionState.netQty fill.price traded
    rw [applyFill, applyFill, if_neg refused, if_neg acceptedToo]
    simp only [← refreshDerived_mirror, signedQty_flipFill]
    congr 2
    simp only [mirror, Engine.mk.injEq, PositionState.mk.injEq, PnlState.mk.injEq, true_and,
      and_true]
    refine ⟨by ring, ?_, cost⟩
    change _ - -signedQty fill * fill.price = -(_ - signedQty fill * fill.price)
    ring

theorem markToMarket_mirror (engine : Engine) (midPrice : Price) :
    markToMarket (mirror engine) midPrice = mirror (markToMarket engine midPrice) :=
  refreshDerived_mirror { engine with markPrice := midPrice }

theorem step_mirror (engine : Engine) (call : Call) :
    machine.step (mirror engine) (flipCall call) =
      ((machine.step engine call).1, mirror (machine.step engine call).2) := by
  cases call with
  | applyFill fill =>
    simp only [machine, flipCall]
    rw [applyFill_mirror]
  | markToMarket midPrice =>
    simp only [machine, flipCall]
    rw [markToMarket_mirror]

theorem run_mirror (engine : Engine) (calls : List Call) :
    machine.run (mirror engine) (calls.map flipCall) = mirror (machine.run engine calls) := by
  induction calls generalizing engine with
  | nil => rfl
  | cons call rest ih => rw [List.map_cons, Machine.run_cons, step_mirror, Machine.run_cons, ih]

theorem history_mirror (engine : Engine) (calls : List Call) :
    (machine.history (mirror engine) (calls.map flipCall)).map Prod.snd =
      (machine.history engine calls).map Prod.snd := by
  induction calls generalizing engine with
  | nil => rfl
  | cons call rest ih =>
    simp only [List.map_cons, Machine.history_cons]
    rw [step_mirror, ih]

/-- Long/short symmetry. After every step of every call sequence the run with
flipped sides has received the same replies and holds the negated position with
the same average price, the negated cash and the negated profits. -/
theorem long_short_symmetry (calls : List Call) (steps : Nat) :
    let before := calls.take steps
    let beforeFlipped := (calls.map flipCall).take steps
    let engine := machine.run fresh before
    let flipped := machine.run fresh beforeFlipped
    (machine.history fresh beforeFlipped).map Prod.snd =
        (machine.history fresh before).map Prod.snd ∧
      flipped.positionState.avgPrice = engine.positionState.avgPrice ∧
      flipped.positionState.netQty = -engine.positionState.netQty ∧
      flipped.pnlState.cash = -engine.pnlState.cash ∧
      flipped.pnlState.realizedPnl = -engine.pnlState.realizedPnl ∧
      flipped.pnlState.unrealizedPnl = -engine.pnlState.unrealizedPnl := by
  intro before beforeFlipped engine flipped
  have sameSteps : beforeFlipped = before.map flipCall := List.map_take.symm
  have replies := history_mirror fresh before
  have mirrored := run_mirror fresh before
  rw [mirror_fresh, ← sameSteps] at replies mirrored
  refine ⟨replies, ?_⟩
  change flipped = mirror engine at mirrored
  rw [mirrored]
  exact ⟨rfl, rfl, rfl, rfl, rfl⟩

end TradingKernel.AccountingEngine
