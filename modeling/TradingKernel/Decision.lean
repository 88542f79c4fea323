import Mathlib.Tactic.SplitIfs
import TradingKernel.Types

/-!
The two pure decisions of a tick: what the strategy wants to do, and whether
the risk engine lets it. Risk looks at the filled position only.
-/

namespace TradingKernel.Decision

structure Strategy where
  buyBelow : Price
  sellAbove : Price
  orderQty : Int
  deriving DecidableEq, Repr

def Strategy.onTick (strategy : Strategy) (tick : MarketTick) : StrategyDecision :=
  if tick.askPrice ≤ strategy.buyBelow then ⟨true, ⟨.buy, strategy.orderQty, 0⟩⟩
  else if tick.bidPrice ≥ strategy.sellAbove then ⟨true, ⟨.sell, strategy.orderQty, 0⟩⟩
  else ⟨false, ⟨.buy, 0, 0⟩⟩

structure RiskEngine where
  maxAbsPosition : Int
  deriving DecidableEq, Repr

def RiskEngine.evaluate (risk : RiskEngine) (position : PositionState) (request : OrderRequest) :
    OrderDecision :=
  if request.quantity ≤ 0 then ⟨false, .invalidQuantity⟩
  else
    let projected := position.netQty + sideSign request.side * request.quantity
    if projected ≤ risk.maxAbsPosition ∧ projected ≥ -risk.maxAbsPosition then ⟨true, .none⟩
    else ⟨false, .maxPosition⟩

/-- Every order the strategy asks for has its one configured size. -/
theorem Strategy.onTick_quantity {strategy : Strategy} {tick : MarketTick}
    (signal : (strategy.onTick tick).hasOrder = true) :
    (strategy.onTick tick).order.quantity = strategy.orderQty := by
  unfold Strategy.onTick at signal ⊢
  split_ifs at signal ⊢
  · rfl
  · rfl

/-- Risk accepts exactly the positive orders whose full fill stays in the limit. -/
theorem RiskEngine.evaluate_accepted (risk : RiskEngine) (position : PositionState)
    (request : OrderRequest) :
    (risk.evaluate position request).accepted = true ↔
      0 < request.quantity ∧
        -risk.maxAbsPosition ≤ position.netQty + sideSign request.side * request.quantity ∧
        position.netQty + sideSign request.side * request.quantity ≤ risk.maxAbsPosition := by
  unfold RiskEngine.evaluate
  split_ifs with quantity
  · simp only [false_iff]
    omega
  · dsimp only
    split_ifs with bounded
    · simp only [true_iff]
      exact ⟨by omega, bounded.2, bounded.1⟩
    · simp only [false_iff]
      rintro ⟨_, low, high⟩
      exact bounded ⟨high, low⟩

end TradingKernel.Decision
