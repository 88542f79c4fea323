import Mathlib.Order.Lattice
import TradingKernel.Types

/-!
The execution model behind the mock venue: aggressive orders trade at once
against the displayed opposite quantity, a passive order rests behind the
quantity displayed on its own side and is filled or canceled by later ticks.
-/

namespace TradingKernel.ExecutionSimulator

structure ExecutionReport where
  accepted : Bool
  hasFill : Bool
  wasPartial : Bool
  cancelAcked : Bool
  staleQuote : Bool
  adverseSelection : Bool
  fill : Fill
  leavesQty : Int
  deriving DecidableEq, Repr

structure ExecutionStats where
  aggressiveFillCount : Int
  passiveFillCount : Int
  partialFillCount : Int
  cancelRequestCount : Int
  cancelAckCount : Int
  staleFillCount : Int
  adverseFillCount : Int
  deriving DecidableEq, Repr

structure RestingOrder where
  active : Bool
  side : Side
  price : Price
  leavesQty : Int
  queueAheadQty : Int
  submitTsNs : TimestampNs
  cancelPending : Bool
  cancelEffectiveTsNs : TimestampNs
  deriving DecidableEq, Repr

structure Simulator where
  cancelLatencyNs : TimestampNs
  staleAfterNs : TimestampNs
  adverseMoveThreshold : Price
  restingOrder : RestingOrder
  stats : ExecutionStats
  deriving DecidableEq, Repr

/-- A simulator with the given latencies and threshold and no resting order. -/
def create (cancelLatencyNs staleAfterNs : TimestampNs) (adverseMoveThreshold : Price) :
    Simulator where
  cancelLatencyNs := cancelLatencyNs
  staleAfterNs := staleAfterNs
  adverseMoveThreshold := adverseMoveThreshold
  restingOrder := ⟨false, .buy, 0, 0, 0, 0, false, 0⟩
  stats := ⟨0, 0, 0, 0, 0, 0, 0⟩

/-- A default-constructed simulator. -/
def fresh : Simulator := create 1000 1000 PRICE_SCALE

/-- A report that only says whether the request was accepted and what is left. -/
def ExecutionReport.quiet (accepted : Bool) (leavesQty : Int) : ExecutionReport :=
  ⟨accepted, false, false, false, false, false, Fill.empty, leavesQty⟩

def aggressiveFill (sim : Simulator) (tick : MarketTick) (request : OrderRequest) :
    ExecutionReport × Simulator :=
  let availableQty := tick.oppositeQty request.side
  let fillQty := if availableQty < request.quantity then availableQty else request.quantity
  if fillQty ≤ 0 then (.quiet true request.quantity, sim)
  else
    let wasPartial : Bool := fillQty < request.quantity
    let stats := if wasPartial then
        { sim.stats with partialFillCount := sim.stats.partialFillCount + 1 }
      else sim.stats
    (⟨true, true, wasPartial, false, false, false,
        ⟨tick.receiveTsNs, tick.touchPrice request.side, fillQty, request.side⟩,
        request.quantity - fillQty⟩,
      { sim with stats := { stats with aggressiveFillCount := stats.aggressiveFillCount + 1 } })

def submitOrder (sim : Simulator) (tick : MarketTick) (request : OrderRequest)
    (style : ExecutionStyle) : ExecutionReport × Simulator :=
  if request.quantity ≤ 0 then (.quiet false 0, sim)
  else if style = .aggressive then aggressiveFill sim tick request
  else if sim.restingOrder.active then (.quiet false sim.restingOrder.leavesQty, sim)
  else
    (.quiet true request.quantity,
      { sim with restingOrder := ⟨true, request.side, request.limitPrice, request.quantity,
          tick.ownQty request.side, tick.receiveTsNs, false, 0⟩ })

def isMarketable (sim : Simulator) (tick : MarketTick) : Bool :=
  if !sim.restingOrder.active then false
  else match sim.restingOrder.side with
    | .buy => tick.askPrice ≤ sim.restingOrder.price
    | .sell => tick.bidPrice ≥ sim.restingOrder.price

def visibleOppositeQty (sim : Simulator) (tick : MarketTick) : Int :=
  tick.oppositeQty sim.restingOrder.side

def detectAdverseSelection (sim : Simulator) (tick : MarketTick) : Bool :=
  let midPrice := tick.mid
  match sim.restingOrder.side with
  | .buy => midPrice + sim.adverseMoveThreshold ≤ sim.restingOrder.price
  | .sell => midPrice - sim.adverseMoveThreshold ≥ sim.restingOrder.price

/-- Displayed liquidity first consumes the queue ahead of the resting order. -/
def queueConsumed (sim : Simulator) (tick : MarketTick) : Int :=
  let availableQty := visibleOppositeQty sim tick
  if sim.restingOrder.queueAheadQty > 0 then
    if sim.restingOrder.queueAheadQty < availableQty then sim.restingOrder.queueAheadQty
    else availableQty
  else 0

def passiveFillFromMarket (sim : Simulator) (tick : MarketTick) : ExecutionReport × Simulator :=
  if !isMarketable sim tick then (.quiet true sim.restingOrder.leavesQty, sim)
  else
    let consumed := queueConsumed sim tick
    let availableQty := visibleOppositeQty sim tick - consumed
    let resting := { sim.restingOrder with
      queueAheadQty := sim.restingOrder.queueAheadQty - consumed }
    if availableQty ≤ 0 then
      (.quiet true resting.leavesQty, { sim with restingOrder := resting })
    else
      let fillQty := if resting.leavesQty < availableQty then resting.leavesQty else availableQty
      let wasPartial : Bool := fillQty < resting.leavesQty
      let leavesQty := resting.leavesQty - fillQty
      let staleQuote : Bool := tick.receiveTsNs - resting.submitTsNs > sim.staleAfterNs
      let adverseSelection := detectAdverseSelection sim tick
      let stats := { sim.stats with
        partialFillCount := sim.stats.partialFillCount + (if wasPartial then 1 else 0)
        staleFillCount := sim.stats.staleFillCount + (if staleQuote then 1 else 0)
        adverseFillCount := sim.stats.adverseFillCount + (if adverseSelection then 1 else 0)
        passiveFillCount := sim.stats.passiveFillCount + 1 }
      let resting := { resting with leavesQty := leavesQty }
      let resting := if leavesQty = 0 then { resting with active := false, cancelPending := false }
        else resting
      (⟨true, true, wasPartial, false, staleQuote, adverseSelection,
          ⟨tick.receiveTsNs, resting.price, fillQty, resting.side⟩, leavesQty⟩,
        { sim with restingOrder := resting, stats := stats })

def onTick (sim : Simulator) (tick : MarketTick) : ExecutionReport × Simulator :=
  if !sim.restingOrder.active then (.quiet true 0, sim)
  else
    let (fillReport, sim) := passiveFillFromMarket sim tick
    if fillReport.hasFill then (fillReport, sim)
    else if sim.restingOrder.active && sim.restingOrder.cancelPending &&
        tick.receiveTsNs ≥ sim.restingOrder.cancelEffectiveTsNs then
      ({ ExecutionReport.quiet true 0 with cancelAcked := true },
        { sim with
          restingOrder := { sim.restingOrder with active := false, cancelPending := false }
          stats := { sim.stats with cancelAckCount := sim.stats.cancelAckCount + 1 } })
    else (.quiet true (if sim.restingOrder.active then sim.restingOrder.leavesQty else 0), sim)

def requestCancel (sim : Simulator) (tsNs : TimestampNs) : Bool × Simulator :=
  if !sim.restingOrder.active || sim.restingOrder.cancelPending then (false, sim)
  else
    (true, { sim with
      restingOrder := { sim.restingOrder with
        cancelPending := true
        cancelEffectiveTsNs := tsNs + sim.cancelLatencyNs }
      stats := { sim.stats with cancelRequestCount := sim.stats.cancelRequestCount + 1 } })

/-- The displayed liquidity a tick leaves for the resting order itself. -/
def reachableQty (sim : Simulator) (tick : MarketTick) : Int :=
  if isMarketable sim tick then visibleOppositeQty sim tick - queueConsumed sim tick else 0

def queueAfter (sim : Simulator) (tick : MarketTick) : Int :=
  if isMarketable sim tick then sim.restingOrder.queueAheadQty - queueConsumed sim tick
  else sim.restingOrder.queueAheadQty

/-- The quantity a tick with reachable liquidity fills. -/
def passiveFillQty (sim : Simulator) (tick : MarketTick) : Int :=
  min sim.restingOrder.leavesQty (reachableQty sim tick)

def CancelDue (sim : Simulator) (tick : MarketTick) : Prop :=
  sim.restingOrder.cancelPending = true ∧ sim.restingOrder.cancelEffectiveTsNs ≤ tick.receiveTsNs

instance (sim : Simulator) (tick : MarketTick) : Decidable (CancelDue sim tick) :=
  inferInstanceAs (Decidable (_ ∧ _))

/-- The resting order after `qty` of it has been filled. -/
def RestingOrder.afterFill (resting : RestingOrder) (queueAheadQty qty : Int) : RestingOrder :=
  { resting with
    queueAheadQty := queueAheadQty
    leavesQty := resting.leavesQty - qty
    active := resting.active && decide (resting.leavesQty - qty ≠ 0)
    cancelPending := resting.cancelPending && decide (resting.leavesQty - qty ≠ 0) }

/-- The report and state of a tick that fills the resting order. -/
structure Fills (sim : Simulator) (tick : MarketTick) (report : ExecutionReport)
    (next : Simulator) : Prop where
  hasFill : report.hasFill = true
  notAcked : report.cancelAcked = false
  fill : report.fill = ⟨tick.receiveTsNs, sim.restingOrder.price, passiveFillQty sim tick,
    sim.restingOrder.side⟩
  leaves : report.leavesQty = sim.restingOrder.leavesQty - passiveFillQty sim tick
  resting : next.restingOrder =
    sim.restingOrder.afterFill (queueAfter sim tick) (passiveFillQty sim tick)
  cancelLatency : next.cancelLatencyNs = sim.cancelLatencyNs
  fillCount : next.stats.aggressiveFillCount + next.stats.passiveFillCount =
    sim.stats.aggressiveFillCount + sim.stats.passiveFillCount + 1

/-- The simulator after a tick that only moved the queue. -/
def afterQueue (sim : Simulator) (tick : MarketTick) : Simulator :=
  { sim with restingOrder := { sim.restingOrder with queueAheadQty := queueAfter sim tick } }

/-- The simulator after acknowledging a cancel on a tick. -/
def afterCancelAck (sim : Simulator) (tick : MarketTick) : Simulator :=
  { sim with
    restingOrder := { sim.restingOrder with
      queueAheadQty := queueAfter sim tick
      active := false
      cancelPending := false }
    stats := { sim.stats with cancelAckCount := sim.stats.cancelAckCount + 1 } }

/-- Everything a tick can do to an active resting order: fills take priority
over an effective cancel. -/
inductive Rests (sim : Simulator) (tick : MarketTick) : ExecutionReport → Simulator → Prop where
  | fills {report next} : 0 < reachableQty sim tick → Fills sim tick report next →
      Rests sim tick report next
  | cancelAcked : reachableQty sim tick ≤ 0 → CancelDue sim tick →
      Rests sim tick { ExecutionReport.quiet true 0 with cancelAcked := true }
        (afterCancelAck sim tick)
  | waits : reachableQty sim tick ≤ 0 → ¬CancelDue sim tick →
      Rests sim tick (.quiet true sim.restingOrder.leavesQty) (afterQueue sim tick)

theorem min_eq_if (leaves available : Int) :
    (if leaves < available then leaves else available) = min leaves available := by
  split_ifs <;> omega

/-- The quantity an aggressive request trades on a tick. -/
def aggressiveFillQty (tick : MarketTick) (request : OrderRequest) : Int :=
  min (tick.oppositeQty request.side) request.quantity

/-- The report and state of an aggressive request that trades. -/
structure Trades (sim : Simulator) (tick : MarketTick) (request : OrderRequest)
    (report : ExecutionReport) (next : Simulator) : Prop where
  hasFill : report.hasFill = true
  notAcked : report.cancelAcked = false
  fill : report.fill = ⟨tick.receiveTsNs, tick.touchPrice request.side,
    aggressiveFillQty tick request, request.side⟩
  leaves : report.leavesQty = request.quantity - aggressiveFillQty tick request
  resting : next.restingOrder = sim.restingOrder
  cancelLatency : next.cancelLatencyNs = sim.cancelLatencyNs
  fillCount : next.stats.aggressiveFillCount + next.stats.passiveFillCount =
    sim.stats.aggressiveFillCount + sim.stats.passiveFillCount + 1

theorem aggressiveFill_trades (sim : Simulator) {tick : MarketTick} {request : OrderRequest}
    (reach : 0 < aggressiveFillQty tick request) :
    Trades sim tick request (aggressiveFill sim tick request).1
      (aggressiveFill sim tick request).2 := by
  have some : ¬min (tick.oppositeQty request.side) request.quantity ≤ 0 := by
    simpa [aggressiveFillQty] using reach
  simp only [aggressiveFill, min_eq_if, if_neg some]
  constructor
  · rfl
  · rfl
  · rfl
  · rfl
  · rfl
  · rfl
  · split_ifs <;> simp only <;> omega

theorem aggressiveFill_quiet (sim : Simulator) {tick : MarketTick} {request : OrderRequest}
    (reach : aggressiveFillQty tick request ≤ 0) :
    aggressiveFill sim tick request = (.quiet true request.quantity, sim) := by
  unfold aggressiveFillQty at reach
  simp only [aggressiveFill, min_eq_if, if_pos reach]

theorem passiveFillFromMarket_fills {sim : Simulator} {tick : MarketTick}
    (active : sim.restingOrder.active = true) (reach : 0 < reachableQty sim tick) :
    Fills sim tick (passiveFillFromMarket sim tick).1 (passiveFillFromMarket sim tick).2 := by
  have market : isMarketable sim tick = true := by
    by_contra quiet
    simp [reachableQty, quiet] at reach
  have available : ¬visibleOppositeQty sim tick - queueConsumed sim tick ≤ 0 := by
    simp only [reachableQty, market, if_true] at reach
    omega
  simp only [passiveFillFromMarket, market, Bool.not_true, Bool.false_eq_true, if_false,
    if_neg available, min_eq_if]
  constructor
  · rfl
  · rfl
  · simp only [passiveFillQty, reachableQty, market, if_true]
    split_ifs <;> rfl
  · simp only [passiveFillQty, reachableQty, market, if_true]
  · simp only [passiveFillQty, reachableQty, queueAfter, market, if_true, RestingOrder.afterFill]
    split_ifs with done <;> simp [done, active]
  · rfl
  · simp only
    omega

theorem passiveFillFromMarket_quiet {sim : Simulator} {tick : MarketTick}
    (reach : reachableQty sim tick ≤ 0) :
    passiveFillFromMarket sim tick =
      (.quiet true sim.restingOrder.leavesQty, afterQueue sim tick) := by
  cases market : isMarketable sim tick with
  | false => simp [passiveFillFromMarket, afterQueue, queueAfter, market]
  | true =>
    simp only [reachableQty, market, if_true] at reach
    simp [passiveFillFromMarket, afterQueue, queueAfter, market, reach]

theorem onTick_rests {sim : Simulator} (tick : MarketTick)
    (active : sim.restingOrder.active = true) :
    Rests sim tick (onTick sim tick).1 (onTick sim tick).2 := by
  by_cases reach : 0 < reachableQty sim tick
  · have fills := passiveFillFromMarket_fills active reach
    have result : onTick sim tick = passiveFillFromMarket sim tick := by
      simp [onTick, active, fills.hasFill]
    rw [result]
    exact .fills reach fills
  · have quiet := @passiveFillFromMarket_quiet sim tick (by omega)
    by_cases due : CancelDue sim tick
    · have result : onTick sim tick =
          ({ ExecutionReport.quiet true 0 with cancelAcked := true }, afterCancelAck sim tick) := by
        simp [onTick, active, quiet, afterQueue, afterCancelAck, ExecutionReport.quiet, due.1,
          due.2]
      rw [result]
      exact .cancelAcked (by omega) due
    · have result : onTick sim tick =
          (.quiet true sim.restingOrder.leavesQty, afterQueue sim tick) := by
        have late := due
        simp only [CancelDue, not_and] at late
        simp only [onTick, active, quiet, afterQueue, ExecutionReport.quiet]
        by_cases pending : sim.restingOrder.cancelPending = true
        · simp [pending, late pending]
        · simp [pending]
      rw [result]
      exact .waits (by omega) due

/-- With non-negative queue and displayed quantity, the queue only shrinks and
the order sees at most what is displayed. -/
theorem reachable_bounds {sim : Simulator} {tick : MarketTick}
    (queue : 0 ≤ sim.restingOrder.queueAheadQty) (visible : 0 ≤ visibleOppositeQty sim tick) :
    0 ≤ reachableQty sim tick ∧ reachableQty sim tick ≤ visibleOppositeQty sim tick ∧
      0 ≤ queueAfter sim tick := by
  simp only [reachableQty, queueAfter, queueConsumed]
  split_ifs <;> omega

theorem requestCancel_refused {sim : Simulator} {tsNs : TimestampNs}
    (refused : (requestCancel sim tsNs).1 = false) : (requestCancel sim tsNs).2 = sim := by
  unfold requestCancel at refused ⊢
  split at refused
  · rw [if_pos ‹_›]
  · cases refused

theorem requestCancel_reachable (sim : Simulator) (tsNs : TimestampNs) (tick : MarketTick) :
    reachableQty (requestCancel sim tsNs).2 tick = reachableQty sim tick := by
  unfold requestCancel
  split_ifs <;> rfl

theorem requestCancel_cancelLatency (sim : Simulator) (tsNs : TimestampNs) :
    (requestCancel sim tsNs).2.cancelLatencyNs = sim.cancelLatencyNs := by
  unfold requestCancel
  split_ifs <;> rfl

theorem requestCancel_restingOrder (sim : Simulator) (tsNs : TimestampNs) :
    (requestCancel sim tsNs).2.restingOrder =
      if sim.restingOrder.active ∧ sim.restingOrder.cancelPending = false then
        { sim.restingOrder with
          cancelPending := true
          cancelEffectiveTsNs := tsNs + sim.cancelLatencyNs }
      else sim.restingOrder := by
  cases active : sim.restingOrder.active <;> cases pending : sim.restingOrder.cancelPending <;>
    simp [requestCancel, active, pending]

theorem onTick_settings (sim : Simulator) (tick : MarketTick) :
    (onTick sim tick).2.cancelLatencyNs = sim.cancelLatencyNs ∧
      (onTick sim tick).2.adverseMoveThreshold = sim.adverseMoveThreshold := by
  have filled : (passiveFillFromMarket sim tick).2.cancelLatencyNs =
        sim.cancelLatencyNs ∧
      (passiveFillFromMarket sim tick).2.adverseMoveThreshold =
        sim.adverseMoveThreshold := by
    simp only [passiveFillFromMarket]
    split_ifs <;> exact ⟨rfl, rfl⟩
  simp only [onTick]
  split_ifs
  · exact ⟨rfl, rfl⟩
  all_goals exact filled

theorem submitOrder_settings (sim : Simulator) (tick : MarketTick) (request : OrderRequest)
    (style : ExecutionStyle) :
    (submitOrder sim tick request style).2.cancelLatencyNs =
        sim.cancelLatencyNs ∧
      (submitOrder sim tick request style).2.adverseMoveThreshold =
        sim.adverseMoveThreshold := by
  simp only [submitOrder, aggressiveFill]
  split_ifs <;> exact ⟨rfl, rfl⟩

end TradingKernel.ExecutionSimulator
