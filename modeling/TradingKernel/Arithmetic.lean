import TradingKernel.CsvReader
import TradingKernel.Decision
import TradingKernel.MockVenueGateway
import TradingKernel.CostBasis

/-!
The fixed-width arithmetic of the kernel. A computation is one call of a source
function that calculates; its intermediates are the exact values of everything
it calculates, each with the type it is calculated in. Counters and ids, which
count up by one, are left out.
-/

namespace TradingKernel.Arithmetic
open OrderManager MockVenueGateway Decision AccountingEngine
open CsvReader (IntType int64 int32)
open ExecutionSimulator (Simulator isMarketable visibleOppositeQty queueConsumed reachableQty)

def Fits (type : IntType) (value : Int) : Prop := type.min ≤ value ∧ value ≤ type.max

instance (type : IntType) (value : Int) : Decidable (Fits type value) :=
  inferInstanceAs (Decidable (_ ∧ _))

/-- The upper half of `Fits int64`. -/
def Below (value : Int) : Prop := value ≤ int64.max

instance (value : Int) : Decidable (Below value) := inferInstanceAs (Decidable (_ ≤ _))

/-- A value with the type it is calculated in. -/
structure Intermediate where
  type : IntType
  value : Int
  deriving DecidableEq, Repr

def wide (values : List Int) : List Intermediate := values.map (⟨int64, ·⟩)

def narrow (values : List Int) : List Intermediate := values.map (⟨int32, ·⟩)

def midPriceIntermediates (tick : MarketTick) : List Intermediate :=
  wide [tick.bidPrice + tick.askPrice, tick.mid]

/-- What `refresh_derived` calculates from the source of truth. -/
def refreshDerivedIntermediates (engine : Engine) : List Intermediate :=
  wide ((if engine.positionState.netQty = 0 then []
    else
      [absQty engine.openCost, absQty engine.positionState.netQty,
        (absQty engine.openCost).tdiv (absQty engine.positionState.netQty),
        engine.positionState.netQty * engine.markPrice,
        engine.positionState.netQty * engine.markPrice - engine.openCost]) ++
    [engine.pnlState.cash + (refreshDerived engine).openCost])

def nextOpenCostIntermediates (openCost currentQty signedFillQty price : Int) :
    List Intermediate :=
  let residualQty := currentQty + signedFillQty
  wide (if currentQty = 0 ∨ (currentQty > 0 ↔ signedFillQty > 0) then
      [signedFillQty * price, openCost + signedFillQty * price]
    else if residualQty = 0 then []
    else if residualQty > 0 ↔ currentQty > 0 then
      [absQty residualQty, openCost * absQty residualQty, absQty currentQty,
        (openCost * absQty residualQty).tdiv (absQty currentQty)]
    else [residualQty * price])

/-- The engine of `apply_fill` just before it refreshes the derived fields. -/
def booked (engine : Engine) (fill : Fill) : Engine :=
  { engine with
    pnlState := { engine.pnlState with
      cash := engine.pnlState.cash - signedQty fill * fill.price }
    openCost := nextOpenCost engine.openCost engine.positionState.netQty (signedQty fill) fill.price
    positionState := { engine.positionState with
      netQty := engine.positionState.netQty + signedQty fill } }

def applyFillIntermediates (engine : Engine) (fill : Fill) : List Intermediate :=
  if fill.quantity ≤ 0 then []
  else
    wide [signedQty fill, signedQty fill * fill.price,
      engine.pnlState.cash - signedQty fill * fill.price,
      engine.positionState.netQty + signedQty fill] ++
    nextOpenCostIntermediates engine.openCost engine.positionState.netQty (signedQty fill)
      fill.price ++
    refreshDerivedIntermediates (booked engine fill)

def markToMarketIntermediates (engine : Engine) (midPrice : Price) : List Intermediate :=
  refreshDerivedIntermediates { engine with markPrice := midPrice }

/-- Only a fill that passes all checks changes quantities. -/
def onVenueEventIntermediates (order : Manager) (event : VenueEvent) : List Intermediate :=
  if event.type = .fill ∧ (onVenueEvent order event).1 = .applied then
    narrow [order.cumQty + event.fillQty, order.leavesQty - event.fillQty]
  else []

def aggressiveFillIntermediates (tick : MarketTick) (request : OrderRequest) :
    List Intermediate :=
  let availableQty := tick.oppositeQty request.side
  let fillQty := if availableQty < request.quantity then availableQty else request.quantity
  if fillQty ≤ 0 then [] else narrow [request.quantity - fillQty]

def detectAdverseSelectionIntermediates (sim : Simulator) (tick : MarketTick) :
    List Intermediate :=
  midPriceIntermediates tick ++
    wide [match sim.restingOrder.side with
      | .buy => tick.mid + sim.adverseMoveThreshold
      | .sell => tick.mid - sim.adverseMoveThreshold]

def passiveFillFromMarketIntermediates (sim : Simulator) (tick : MarketTick) :
    List Intermediate :=
  if !isMarketable sim tick then []
  else
    let consumed := queueConsumed sim tick
    let availableQty := visibleOppositeQty sim tick - consumed
    let leavesQty := sim.restingOrder.leavesQty
    let fillQty := if leavesQty < availableQty then leavesQty else availableQty
    (if sim.restingOrder.queueAheadQty > 0 then
      narrow [sim.restingOrder.queueAheadQty - consumed, availableQty]
    else []) ++
    if availableQty ≤ 0 then []
    else
      narrow [leavesQty - fillQty] ++ wide [tick.receiveTsNs - sim.restingOrder.submitTsNs] ++
        detectAdverseSelectionIntermediates sim tick

def requestCancelIntermediates (sim : Simulator) (tsNs : TimestampNs) : List Intermediate :=
  if !sim.restingOrder.active || sim.restingOrder.cancelPending then []
  else wide [tsNs + sim.cancelLatencyNs]

def sendNewIntermediates (gateway : Gateway) (request : GatewayNewOrder) : List Intermediate :=
  if request.quantity ≤ 0 ∨ gateway.pendingNew.active ∨ gateway.activeOrder.active then []
  else wide [request.submitTsNs + gateway.newAckLatencyNs]

def sendCancelIntermediates (gateway : Gateway) (requestTsNs : TimestampNs) :
    List Intermediate :=
  if !gateway.activeOrder.active || gateway.activeOrder.cancelSent then []
  else wide [requestTsNs + gateway.cancelSendLatencyNs]

def evaluateIntermediates (risk : RiskEngine) (position : PositionState)
    (request : OrderRequest) : List Intermediate :=
  if request.quantity ≤ 0 then []
  else
    wide [sideSign request.side * request.quantity,
      position.netQty + sideSign request.side * request.quantity, -risk.maxAbsPosition]

/-- One call that calculates, with its arguments and the state it finds. -/
inductive Computation where
  | midPrice (tick : MarketTick)
  | markToMarket (engine : Engine) (midPrice : Price)
  | applyFill (engine : Engine) (fill : Fill)
  | onVenueEvent (order : Manager) (event : VenueEvent)
  | aggressiveFill (tick : MarketTick) (request : OrderRequest)
  | passiveFillFromMarket (sim : Simulator) (tick : MarketTick)
  | requestCancel (sim : Simulator) (tsNs : TimestampNs)
  | sendNew (gateway : Gateway) (request : GatewayNewOrder)
  | sendCancel (gateway : Gateway) (requestTsNs : TimestampNs)
  | cancelTimer (receiveTsNs passiveSubmitTs : TimestampNs)
  | evaluate (risk : RiskEngine) (position : PositionState) (request : OrderRequest)
  deriving DecidableEq, Repr

def Computation.intermediates : Computation → List Intermediate
  | .midPrice tick => midPriceIntermediates tick
  | .markToMarket engine mid => markToMarketIntermediates engine mid
  | .applyFill engine fill => applyFillIntermediates engine fill
  | .onVenueEvent order event => onVenueEventIntermediates order event
  | .aggressiveFill tick request => aggressiveFillIntermediates tick request
  | .passiveFillFromMarket sim tick => passiveFillFromMarketIntermediates sim tick
  | .requestCancel sim tsNs => requestCancelIntermediates sim tsNs
  | .sendNew gateway request => sendNewIntermediates gateway request
  | .sendCancel gateway requestTsNs => sendCancelIntermediates gateway requestTsNs
  | .cancelTimer receiveTsNs passiveSubmitTs => wide [receiveTsNs - passiveSubmitTs]
  | .evaluate risk position request => evaluateIntermediates risk position request

def AllFit (intermediates : List Intermediate) : Prop :=
  ∀ intermediate ∈ intermediates, Fits intermediate.type intermediate.value

instance (intermediates : List Intermediate) : Decidable (AllFit intermediates) :=
  inferInstanceAs (Decidable (∀ intermediate ∈ intermediates, _))

/-- Nothing the call calculates leaves its type. -/
def Computation.InRange (computation : Computation) : Prop := AllFit computation.intermediates

instance (computation : Computation) : Decidable computation.InRange :=
  inferInstanceAs (Decidable (AllFit _))

/-- Room for a fill in the account it meets: the notional and the cash after it,
and what the position makes of it. A full close needs no more. -/
def FillRoom (engine : Engine) (fill : Fill) : Prop :=
  let currentQty := engine.positionState.netQty
  let residualQty := currentQty + signedQty fill
  let notional := signedQty fill * fill.price
  Fits int64 notional ∧ Fits int64 (engine.pnlState.cash - notional) ∧
    if currentQty = 0 ∨ (currentQty > 0 ↔ signedQty fill > 0) then
      Fits int64 (absQty (engine.openCost + notional)) ∧ Fits int64 (residualQty * engine.markPrice)
    else if residualQty = 0 then True
    else if residualQty > 0 ↔ currentQty > 0 then
      Fits int64 (engine.openCost * absQty residualQty) ∧
        Fits int64 (engine.pnlState.cash - notional +
          (engine.openCost * absQty residualQty).tdiv (absQty currentQty))
    else
      Fits int64 (residualQty * engine.markPrice) ∧
        Fits int64 (engine.pnlState.cash + currentQty * fill.price)

/-- What keeps a call in range, where the rest of the kernel does not. -/
def Computation.HasRoom : Computation → Prop
  | .midPrice tick => Below (tick.bidPrice + tick.askPrice)
  | .markToMarket engine mid => Fits int64 (engine.positionState.netQty * mid)
  | .applyFill engine fill => 0 < fill.quantity → FillRoom engine fill
  | .passiveFillFromMarket sim tick => 0 < reachableQty sim tick →
      Below (tick.receiveTsNs - sim.restingOrder.submitTsNs)
  | .requestCancel sim tsNs => sim.restingOrder.active = true →
      sim.restingOrder.cancelPending = false → Below (tsNs + sim.cancelLatencyNs)
  | .sendNew gateway request => (MockVenueGateway.sendNew gateway request).1 = true →
      Below (request.submitTsNs + gateway.newAckLatencyNs)
  | .sendCancel gateway requestTsNs =>
      (MockVenueGateway.sendCancel gateway requestTsNs).1 = true →
      Below (requestTsNs + gateway.cancelSendLatencyNs)
  | .onVenueEvent .. | .aggressiveFill .. | .cancelTimer .. | .evaluate .. => True

@[simp] theorem allFit_nil : AllFit [] := by
  simp [AllFit]

@[simp] theorem allFit_append (first second : List Intermediate) :
    AllFit (first ++ second) ↔ AllFit first ∧ AllFit second := List.forall_mem_append

@[simp] theorem allFit_wide (values : List Int) :
    AllFit (wide values) ↔ ∀ value ∈ values, Fits int64 value := List.forall_mem_map

@[simp] theorem allFit_narrow (values : List Int) :
    AllFit (narrow values) ↔ ∀ value ∈ values, Fits int32 value := List.forall_mem_map

/-- What the refresh after a fill that leaves a position says about it. -/
theorem derived_of_inRange (engine : Engine) (opened : engine.positionState.netQty ≠ 0)
    (fits : AllFit (refreshDerivedIntermediates engine)) :
    Fits int64 (absQty engine.openCost) ∧
      Fits int64 (engine.positionState.netQty * engine.markPrice) ∧
      Fits int64 (engine.pnlState.cash + engine.openCost) := by
  simp only [refreshDerivedIntermediates, if_neg opened, refreshDerived_openCost, allFit_wide,
    List.forall_mem_append, List.forall_mem_cons] at fits
  exact ⟨fits.1.1, fits.1.2.2.2.1, fits.2.1⟩

/-- An engine that calculates a fill without leaving its types had room for it. -/
theorem fillRoom_of_inRange {engine : Engine} {fill : Fill} (positive : 0 < fill.quantity)
    (fits : AllFit (applyFillIntermediates engine fill)) : FillRoom engine fill := by
  have some := signedQty_ne_zero positive
  simp only [applyFillIntermediates, if_neg (show ¬fill.quantity ≤ 0 by omega), allFit_append,
    nextOpenCostIntermediates, allFit_wide, List.forall_mem_cons] at fits
  obtain ⟨⟨⟨_, notional, cash, _⟩, cost⟩, derived⟩ := fits
  refine ⟨notional, cash, ?_⟩
  split_ifs at cost ⊢ with joins closes reduces
  · have opened : (booked engine fill).positionState.netQty ≠ 0 := by
      simp only [booked]
      omega
    have after := derived_of_inRange (booked engine fill) opened derived
    simp only [booked, nextOpenCost, if_pos joins] at after
    exact ⟨after.1, after.2.1⟩
  · have after := derived_of_inRange (booked engine fill) closes derived
    simp only [booked, nextOpenCost, if_neg joins, if_neg closes, if_pos reduces] at after
    exact ⟨cost _ (by simp), after.2.2⟩
  · have after := derived_of_inRange (booked engine fill) closes derived
    simp only [booked, nextOpenCost, if_neg joins, if_neg closes, if_neg reduces] at after
    refine ⟨after.2.1, ?_⟩
    have same : engine.pnlState.cash - signedQty fill * fill.price +
        (engine.positionState.netQty + signedQty fill) * fill.price =
          engine.pnlState.cash + engine.positionState.netQty * fill.price := by ring
    rw [← same]
    exact after.2.2

/-- A call in range had the room it needed. -/
theorem hasRoom_of_inRange {computation : Computation} (inRange : computation.InRange) :
    computation.HasRoom := by
  cases computation with
  | midPrice tick =>
    refine (inRange ⟨int64, tick.bidPrice + tick.askPrice⟩ ?_).2
    simp [Computation.intermediates, midPriceIntermediates, wide]
  | markToMarket engine mid =>
    simp only [Computation.HasRoom]
    by_cases opened : engine.positionState.netQty = 0
    · rw [opened, Int.zero_mul]
      decide
    · exact (derived_of_inRange { engine with markPrice := mid } opened inRange).2.1
  | applyFill engine fill => exact fun positive => fillRoom_of_inRange positive inRange
  | onVenueEvent order event => trivial
  | aggressiveFill tick request => trivial
  | passiveFillFromMarket sim tick =>
    intro reach
    refine (inRange ⟨int64, tick.receiveTsNs - sim.restingOrder.submitTsNs⟩ ?_).2
    have market : isMarketable sim tick = true := by
      by_contra quiet
      simp [reachableQty, quiet] at reach
    simp only [reachableQty, market, if_true] at reach
    simp [Computation.intermediates, passiveFillFromMarketIntermediates, market, wide,
      not_le.2 reach]
  | requestCancel sim tsNs =>
    intro active unasked
    refine (inRange ⟨int64, tsNs + sim.cancelLatencyNs⟩ ?_).2
    simp [Computation.intermediates, requestCancelIntermediates, active, unasked, wide]
  | sendNew gateway request =>
    intro taken
    refine (inRange ⟨int64, request.submitTsNs + gateway.newAckLatencyNs⟩ ?_).2
    unfold MockVenueGateway.sendNew at taken
    split_ifs at taken with refused
    simp [Computation.intermediates, sendNewIntermediates, if_neg refused, wide]
  | sendCancel gateway requestTsNs =>
    intro taken
    refine (inRange ⟨int64, requestTsNs + gateway.cancelSendLatencyNs⟩ ?_).2
    unfold MockVenueGateway.sendCancel at taken
    split_ifs at taken with refused
    simp only [Computation.intermediates, sendCancelIntermediates, if_neg refused, wide]
    simp
  | cancelTimer receiveTsNs passiveSubmitTs => trivial
  | evaluate risk position request => trivial

/-- The account of an engine stays in range. -/
structure AccountFits (engine : Engine) : Prop where
  cash : Fits int64 engine.pnlState.cash
  openCost : Fits int64 (absQty engine.openCost)
  realized : Fits int64 (engine.pnlState.cash + engine.openCost)
  value : Fits int64 (engine.positionState.netQty * engine.markPrice)

/-- The position is within the limit of the replay. -/
def Small (qty : Int) : Prop := -200 ≤ qty ∧ qty ≤ 200

def SameSide (first second : Int) : Prop :=
  0 ≤ first ∧ 0 ≤ second ∨ first ≤ 0 ∧ second ≤ 0

/-- The open cost is on the side of the position, and none without one. -/
structure Held (engine : Engine) : Prop where
  small : Small engine.positionState.netQty
  marked : 0 ≤ engine.markPrice
  side : SameSide engine.positionState.netQty engine.openCost
  flat : engine.positionState.netQty = 0 → engine.openCost = 0

theorem sides_of_tracks {basis : CostBasis.Basis} {engine : Engine}
    (tracks : CostBasis.Tracks basis engine) :
    SameSide engine.positionState.netQty engine.openCost ∧
      (engine.positionState.netQty = 0 → engine.openCost = 0) := by
  obtain ⟨sign, qty, cost, _, unit, holds, _, drift⟩ := tracks
  have flat : qty = 0 → cost = 0 := fun none => (drift.flat none).1
  rw [SameSide, holds.netQty, holds.openCost]
  rcases unit with rfl | rfl
  · exact ⟨by omega, by omega⟩
  · exact ⟨by omega, by omega⟩

theorem fits_of_abs {value : Int} (fits : Fits int64 (absQty value)) : Fits int64 value := by
  rw [absQty_eq] at fits
  simp only [Fits, int64] at *
  omega

/-- A difference of values on one side stays in range. -/
theorem sub_fits {value cost : Int} (same : SameSide value cost) (fits : Fits int64 value)
    (bounded : Fits int64 (absQty cost)) : Fits int64 (value - cost) := by
  rw [absQty_eq] at bounded
  simp only [SameSide, Fits, int64] at *
  omega

theorem sameSide_mul {first second factor : Int} (same : SameSide first second)
    (nonneg : 0 ≤ factor) : SameSide (first * factor) second := by
  rcases same with ⟨up, above⟩ | ⟨down, below⟩
  · exact .inl ⟨Int.mul_nonneg up nonneg, above⟩
  · exact .inr ⟨Int.mul_nonpos_of_nonpos_of_nonneg down nonneg, below⟩

/-- A truncated share of a magnitude is a smaller magnitude. -/
theorem tdiv_abs_fits {amount whole : Int} (fits : Fits int64 (absQty amount)) :
    Fits int64 ((absQty amount).tdiv (absQty whole)) := by
  have nonneg : 0 ≤ absQty amount := by
    rw [absQty_eq]
    omega
  have below := Int.tdiv_le_self (absQty whole) nonneg
  have above : 0 ≤ (absQty amount).tdiv (absQty whole) := by
    refine Int.tdiv_nonneg nonneg ?_
    rw [absQty_eq]
    omega
  simp only [Fits, int64] at *
  omega

theorem small_fits {qty : Int} (small : Small qty) : Fits int64 qty ∧ Fits int64 (absQty qty) := by
  rw [absQty_eq]
  simp only [Small, Fits, int64] at *
  omega

/-- A refresh needs its sums in range, everything else follows. -/
theorem refreshDerived_fits (engine : Engine) (held : Held engine) (fits : AccountFits engine) :
    AllFit (refreshDerivedIntermediates engine) ∧ AccountFits (refreshDerived engine) := by
  have kept : (refreshDerived engine).openCost = engine.openCost := by
    rw [refreshDerived_openCost]
    split_ifs with none
    · exact (held.flat none).symm
    · rfl
  constructor
  · have difference := sub_fits (sameSide_mul held.side held.marked) fits.value fits.openCost
    rw [refreshDerivedIntermediates, allFit_wide, kept]
    refine List.forall_mem_append.2 ⟨?_, by simpa using fits.realized⟩
    split_ifs
    · simp
    · simp only [List.forall_mem_cons]
      exact ⟨fits.openCost, (small_fits held.small).2, tdiv_abs_fits fits.openCost, fits.value,
        difference, by simp⟩
  · constructor
    · rw [refreshDerived_cash]
      exact fits.cash
    · rw [kept]
      exact fits.openCost
    · rw [refreshDerived_cash, kept]
      exact fits.realized
    · rw [refreshDerived_netQty, refreshDerived_markPrice]
      exact fits.value

theorem markToMarket_fits {engine : Engine} (held : Held engine) (fits : AccountFits engine)
    {mid : Price} (nonneg : 0 ≤ mid) (room : Fits int64 (engine.positionState.netQty * mid)) :
    AllFit (markToMarketIntermediates engine mid) ∧ AccountFits (markToMarket engine mid) :=
  refreshDerived_fits { engine with markPrice := mid }
    ⟨held.small, nonneg, held.side, held.flat⟩
    ⟨fits.cash, fits.openCost, fits.realized, room⟩

/-- A smaller quantity at the same price has a smaller value. -/
theorem mul_fits {less more : Int} (fewer : less.natAbs < more.natAbs) {price : Price}
    (fits : Fits int64 (more * price)) : Fits int64 (absQty (less * price)) := by
  by_cases free : price = 0
  · rw [free, Int.mul_zero]
    decide
  · have below : (less * price).natAbs < (more * price).natAbs := by
      rw [Int.natAbs_mul, Int.natAbs_mul]
      exact Nat.mul_lt_mul_of_pos_right fewer (Int.natAbs_pos.2 free)
    rw [absQty_eq]
    simp only [Fits, int64] at *
    omega

/-- The share that a partial close keeps is no more than the whole cost. -/
theorem share_fits {cost part whole : Int} (fewer : part.natAbs ≤ whole.natAbs)
    (fits : Fits int64 (absQty cost)) :
    Fits int64 (absQty ((cost * absQty part).tdiv (absQty whole))) := by
  have below : ((cost * absQty part).tdiv (absQty whole)).natAbs ≤ cost.natAbs := by
    rw [Int.natAbs_tdiv, Int.natAbs_mul, absQty_eq, absQty_eq, Int.natAbs_natCast,
      Int.natAbs_natCast]
    apply Nat.div_le_of_le_mul
    rw [Nat.mul_comm]
    exact Nat.mul_le_mul_right _ fewer
  rw [absQty_eq] at fits ⊢
  simp only [Fits, int64] at *
  omega

section Fill
variable {engine : Engine} {fill : Fill} (positive : 0 < fill.quantity)
  (small : Small (engine.positionState.netQty + signedQty fill))
include positive small

theorem booked_held {basis : CostBasis.Basis} (marked : 0 ≤ engine.markPrice)
    (tracks : CostBasis.Tracks basis (applyFill engine fill).2) : Held (booked engine fill) := by
  have some := signedQty_ne_zero positive
  obtain ⟨side, _⟩ := sides_of_tracks tracks
  rw [applyFill_netQty engine fill positive, applyFill_openCost engine fill positive] at side
  have flat : engine.positionState.netQty + signedQty fill = 0 →
      nextOpenCost engine.openCost engine.positionState.netQty (signedQty fill) fill.price = 0 := by
    intro closes
    rw [nextOpenCost, if_neg (by omega), if_pos closes]
  refine ⟨small, marked, ?_, flat⟩
  simp only [booked]
  split_ifs at side with closes
  · rw [flat closes]
    exact side
  · exact side

/-- With room for it, a fill leaves the account in range on the way to the refresh. -/
theorem booked_fits (held : Held engine) (fits : AccountFits engine)
    (room : FillRoom engine fill) :
    AllFit (nextOpenCostIntermediates engine.openCost engine.positionState.netQty
        (signedQty fill) fill.price) ∧ AccountFits (booked engine fill) := by
  have some := signedQty_ne_zero positive
  obtain ⟨notional, cash, rest⟩ := room
  have realized : engine.pnlState.cash - signedQty fill * fill.price +
      (engine.openCost + signedQty fill * fill.price) =
        engine.pnlState.cash + engine.openCost := by ring
  simp only [nextOpenCostIntermediates, allFit_wide]
  split_ifs at rest ⊢ with joins closes reduces
  · obtain ⟨cost, value⟩ := rest
    refine ⟨by simpa using ⟨notional, fits_of_abs cost⟩, cash, ?_, ?_, value⟩
    · simpa only [booked, nextOpenCost, if_pos joins] using cost
    · simp only [booked, nextOpenCost, if_pos joins, realized]
      exact fits.realized
  · refine ⟨by simp, cash, ?_, ?_, ?_⟩
    · simp only [booked, nextOpenCost, if_neg joins, if_pos closes]
      decide
    · simp only [booked, nextOpenCost, if_neg joins, if_pos closes, Int.add_zero]
      exact cash
    · simp only [booked, closes, Int.zero_mul]
      decide
  · obtain ⟨product, kept⟩ := rest
    have fewer : (engine.positionState.netQty + signedQty fill).natAbs <
        engine.positionState.netQty.natAbs := by omega
    have share := share_fits fewer.le fits.openCost
    refine ⟨?_, cash, ?_, ?_, ?_⟩
    · simp only [List.forall_mem_cons]
      exact ⟨(small_fits small).2, product, (small_fits held.small).2, fits_of_abs share, by simp⟩
    · simpa only [booked, nextOpenCost, if_neg joins, if_neg closes, if_pos reduces] using share
    · simpa only [booked, nextOpenCost, if_neg joins, if_neg closes, if_pos reduces] using kept
    · exact fits_of_abs (mul_fits fewer fits.value)
  · obtain ⟨value, flipped⟩ := rest
    have fewer : (engine.positionState.netQty + signedQty fill).natAbs <
        (signedQty fill).natAbs := by omega
    have cost := mul_fits fewer notional
    have same : engine.pnlState.cash - signedQty fill * fill.price +
        (engine.positionState.netQty + signedQty fill) * fill.price =
          engine.pnlState.cash + engine.positionState.netQty * fill.price := by ring
    refine ⟨by simpa using fits_of_abs cost, cash, ?_, ?_, value⟩
    · simpa only [booked, nextOpenCost, if_neg joins, if_neg closes, if_neg reduces] using cost
    · simp only [booked, nextOpenCost, if_neg joins, if_neg closes, if_neg reduces, same]
      exact flipped

omit small in
theorem applyFill_booked : (applyFill engine fill).2 = refreshDerived (booked engine fill) := by
  rw [applyFill, if_neg (show ¬fill.quantity ≤ 0 by omega)]
  rfl

theorem applyFill_fits {basis : CostBasis.Basis} (held : Held engine) (fits : AccountFits engine)
    (tracks : CostBasis.Tracks basis (applyFill engine fill).2) (room : FillRoom engine fill) :
    AllFit (applyFillIntermediates engine fill) ∧ AccountFits (applyFill engine fill).2 := by
  obtain ⟨next, account⟩ := booked_fits positive small held fits room
  have after := booked_held positive small held.marked tracks
  obtain ⟨derived, last⟩ := refreshDerived_fits _ after account
  have filled : ¬fill.quantity ≤ 0 := by omega
  have moved : Fits int64 (signedQty fill) := by
    have before := held.small
    simp only [Small, Fits, int64] at *
    omega
  rw [applyFill_booked positive, applyFillIntermediates, if_neg filled]
  refine ⟨?_, last⟩
  simp only [allFit_append, allFit_wide, List.forall_mem_cons]
  exact ⟨⟨⟨moved, room.1, room.2.1, (small_fits small).1, by simp⟩, next⟩, derived⟩

end Fill

section Quotes
variable {tick : MarketTick} (valid : ValidTick tick)
  (quotes : Below (tick.bidPrice + tick.askPrice))
include valid quotes

theorem mid_bounds : 0 ≤ tick.mid ∧ Fits int64 (tick.mid + PRICE_SCALE) := by
  have bid : (0 : Int) < tick.bidPrice := valid.bid_pos
  have ask : (0 : Int) < tick.askPrice := valid.ask_pos
  rw [MarketTick.mid, Int.tdiv_eq_ediv_of_nonneg (by omega)]
  simp only [Below, Fits, int64, PRICE_SCALE] at *
  constructor
  · exact Int.ediv_nonneg (by omega) (by omega)
  · omega

theorem midPrice_fits : AllFit (midPriceIntermediates tick) := by
  obtain ⟨low, _, high⟩ := mid_bounds valid quotes
  have mid : (0 : Int) ≤ tick.mid := low
  have half : Fits int64 tick.mid := by
    simp only [Fits, int64, PRICE_SCALE] at *
    omega
  have sum : Fits int64 (tick.bidPrice + tick.askPrice) := by
    have bid : (0 : Int) < tick.bidPrice := valid.bid_pos
    have ask : (0 : Int) < tick.askPrice := valid.ask_pos
    simp only [Below, Fits, int64] at *
    omega
  simpa [midPriceIntermediates] using ⟨sum, half⟩

/-- The threshold of the adverse-selection check never leaves the range. -/
theorem detectAdverseSelection_fits {sim : Simulator}
    (threshold : sim.adverseMoveThreshold = PRICE_SCALE) :
    AllFit (detectAdverseSelectionIntermediates sim tick) := by
  obtain ⟨low, high⟩ := mid_bounds valid quotes
  have mid : (0 : Int) ≤ tick.mid := low
  have below : Fits int64 (tick.mid - PRICE_SCALE) := by
    simp only [Fits, int64, PRICE_SCALE] at *
    omega
  rw [detectAdverseSelectionIntermediates, allFit_append, threshold]
  refine ⟨midPrice_fits valid quotes, ?_⟩
  cases sim.restingOrder.side
  · simpa using high
  · simpa using below

end Quotes

/-- What a resting order can still get on a tick, and since when it rests. -/
structure Resting (sim : Simulator) (now : TimestampNs) : Prop where
  queue : 0 ≤ sim.restingOrder.queueAheadQty ∧ sim.restingOrder.queueAheadQty ≤ int32.max
  leaves : 0 ≤ sim.restingOrder.leavesQty ∧ sim.restingOrder.leavesQty ≤ int32.max
  submitted : sim.restingOrder.submitTsNs ≤ now
  threshold : sim.adverseMoveThreshold = PRICE_SCALE

/-- The queue takes no more than there is of either side. -/
theorem queueConsumed_bounds {sim : Simulator} {tick : MarketTick}
    (queue : 0 ≤ sim.restingOrder.queueAheadQty) (visible : 0 ≤ visibleOppositeQty sim tick) :
    0 ≤ queueConsumed sim tick ∧ queueConsumed sim tick ≤ sim.restingOrder.queueAheadQty ∧
      queueConsumed sim tick ≤ visibleOppositeQty sim tick := by
  simp only [queueConsumed]
  split_ifs
  · omega
  · omega
  · omega

theorem passiveFillFromMarket_inRange {sim : Simulator} {tick : MarketTick}
    (valid : ValidTick tick) (resting : Resting sim tick.receiveTsNs)
    (displayed : visibleOppositeQty sim tick ≤ int32.max)
    (quotes : Below (tick.bidPrice + tick.askPrice))
    (room : (Computation.passiveFillFromMarket sim tick).HasRoom) :
    (Computation.passiveFillFromMarket sim tick).InRange := by
  have visible : 0 ≤ visibleOppositeQty sim tick := valid.nonNegative.oppositeQty _
  have consumed := queueConsumed_bounds resting.queue.1 visible
  have queue := resting.queue
  have leaves := resting.leaves
  simp only [Computation.InRange, Computation.intermediates, passiveFillFromMarketIntermediates]
  cases market : isMarketable sim tick with
  | false => simp
  | true =>
    simp only [Bool.not_true, Bool.false_eq_true, if_false, allFit_append]
    constructor
    · split_ifs
      · simp only [allFit_narrow, List.forall_mem_cons, Fits, int32] at *
        exact ⟨by omega, by omega, by simp⟩
      · exact allFit_nil
    · by_cases none : visibleOppositeQty sim tick - queueConsumed sim tick ≤ 0
      · rw [if_pos none]
        exact allFit_nil
      · have reach : 0 < reachableQty sim tick := by
          rw [reachableQty, if_pos market]
          omega
        have rested : Fits int64 (tick.receiveTsNs - sim.restingOrder.submitTsNs) := by
          have before : (0 : Int) ≤ tick.receiveTsNs - sim.restingOrder.submitTsNs :=
            Int.sub_nonneg_of_le resting.submitted
          have after := room reach
          simp only [Below, Fits, int64] at *
          omega
        rw [if_neg none, allFit_append, allFit_append]
        refine ⟨⟨?_, by simpa using rested⟩,
          detectAdverseSelection_fits valid quotes resting.threshold⟩
        simp only [allFit_narrow, List.forall_mem_singleton, Fits, int32] at *
        split_ifs <;> omega

section Deadlines
variable {gateway : Gateway} {sim : Simulator} {tsNs : TimestampNs} (time : Fits int64 tsNs)
include time

/-- A deadline after a time in range can only be too late. -/
theorem deadline_fits {latency : TimestampNs} (nonneg : 0 ≤ latency)
    (room : Below (tsNs + latency)) : Fits int64 (tsNs + latency) := by
  have later : (0 : Int) ≤ latency := nonneg
  simp only [Below, Fits, int64] at *
  omega

theorem requestCancel_inRange (nonneg : 0 ≤ sim.cancelLatencyNs)
    (room : (Computation.requestCancel sim tsNs).HasRoom) :
    (Computation.requestCancel sim tsNs).InRange := by
  simp only [Computation.InRange, Computation.intermediates, requestCancelIntermediates]
  split_ifs with refused
  · exact allFit_nil
  · simp only [Bool.or_eq_true, Bool.not_eq_true', not_or, Bool.not_eq_false,
      Bool.not_eq_true] at refused
    simpa using deadline_fits time nonneg (room refused.1 refused.2)

theorem sendCancel_inRange (nonneg : 0 ≤ gateway.cancelSendLatencyNs)
    (room : (Computation.sendCancel gateway tsNs).HasRoom) :
    (Computation.sendCancel gateway tsNs).InRange := by
  simp only [Computation.InRange, Computation.intermediates, sendCancelIntermediates]
  split_ifs with refused
  · exact allFit_nil
  · have taken : (sendCancel gateway tsNs).1 = true := by
      rw [sendCancel, if_neg refused]
    simpa using deadline_fits time nonneg (room taken)

theorem sendNew_inRange {request : GatewayNewOrder} (same : request.submitTsNs = tsNs)
    (nonneg : 0 ≤ gateway.newAckLatencyNs)
    (room : (Computation.sendNew gateway request).HasRoom) :
    (Computation.sendNew gateway request).InRange := by
  simp only [Computation.InRange, Computation.intermediates, sendNewIntermediates]
  split_ifs with refused
  · exact allFit_nil
  · have taken : (sendNew gateway request).1 = true := by
      rw [sendNew, if_neg refused]
    have late := room taken
    rw [same] at late ⊢
    simpa using deadline_fits time nonneg late

end Deadlines

/-- While an order is live its quantities add up to at most one order of the strategy. -/
def Sized (order : ManagedOrder) : Prop :=
  order.state.isLive = true →
    0 ≤ order.cumQty ∧ 0 ≤ order.leavesQty ∧ order.cumQty + order.leavesQty ≤ 50

theorem onVenueEvent_inRange {order : Manager} (sized : Sized order) (event : VenueEvent) :
    (Computation.onVenueEvent order event).InRange := by
  rw [Computation.InRange, Computation.intermediates, onVenueEventIntermediates]
  split_ifs with filled
  · rcases onVenueEvent_cases order event with ⟨_, _, _, applies⟩ | ⟨outcome, refused, result⟩
    · obtain ⟨cum, leaves, total⟩ := sized applies.live
      cases applies with
      | fill kind state named positive bounded =>
        simp only [allFit_narrow, List.forall_mem_cons, Fits, int32]
        exact ⟨by omega, by omega, by simp⟩
      | newAck kind => cases kind.symm.trans filled.1
      | newReject kind => cases kind.symm.trans filled.1
      | cancelAck kind => cases kind.symm.trans filled.1
      | cancelReject kind => cases kind.symm.trans filled.1
      | expired kind => cases kind.symm.trans filled.1
    · exact absurd ((congrArg Prod.fst result).symm.trans filled.2) refused
  · exact allFit_nil

theorem Sized.applied {order next : ManagedOrder} {event : VenueEvent} {fill : Fill}
    (sized : Sized order) (applies : Applies order event fill next) : Sized next := by
  have before := sized applies.live
  intro live
  cases applies with
  | newAck => exact before
  | newReject => cases live
  | fill kind state named positive bounded =>
    simp only
    omega
  | cancelAck => cases live
  | cancelReject => exact before
  | expired => cases live

theorem aggressiveFill_inRange {tick : MarketTick} {request : OrderRequest}
    (quantity : 0 < request.quantity ∧ request.quantity ≤ 50) :
    (Computation.aggressiveFill tick request).InRange := by
  simp only [Computation.InRange, Computation.intermediates, aggressiveFillIntermediates]
  split_ifs with more none none
  · exact allFit_nil
  · simp only [allFit_narrow, List.forall_mem_cons, Fits, int32]
    exact ⟨by omega, by simp⟩
  · exact allFit_nil
  · simp only [allFit_narrow, List.forall_mem_cons, Fits, int32]
    exact ⟨by omega, by simp⟩

/-- A position within the limit and one order of the strategy are far from the range's ends. -/
theorem evaluate_inRange {position : PositionState} (small : Small position.netQty)
    {request : OrderRequest} (quantity : request.quantity ≤ 50) :
    (Computation.evaluate ⟨200⟩ position request).InRange := by
  have unit := sideSign_cases request.side
  simp only [Computation.InRange, Computation.intermediates, evaluateIntermediates]
  split_ifs with none
  · exact allFit_nil
  · simp only [allFit_wide, List.forall_mem_cons, Small, Fits, int64] at *
    rcases unit with sign | sign <;> rw [sign] <;> exact ⟨by omega, by omega, by omega, by simp⟩

end TradingKernel.Arithmetic
