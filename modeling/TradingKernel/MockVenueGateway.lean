import TradingKernel.ExecutionSimulator
import TradingKernel.OrderManager

/-!
The mock venue gateway: a command side that accepts one order and one cancel
at a time, and a tick side that acknowledges, answers cancels and matches.
-/

namespace TradingKernel.MockVenueGateway
open Library OrderManager
open ExecutionSimulator (Simulator ExecutionReport)

structure GatewayNewOrder where
  clientOrderId : Int
  side : Side
  quantity : Int
  limitPrice : Price
  style : ExecutionStyle
  submitTsNs : TimestampNs
  deriving DecidableEq, Repr

/-- The batch of one tick; `events` is the used prefix of the source's array of four. -/
structure VenueEventBatch where
  events : List VenueEvent
  overflowCount : Nat
  deriving DecidableEq, Repr

def VenueEventBatch.empty : VenueEventBatch := ⟨[], 0⟩

structure PendingNew where
  active : Bool
  request : GatewayNewOrder
  ackReadyTsNs : TimestampNs
  shouldReject : Bool
  deriving DecidableEq, Repr

structure ActiveOrder where
  active : Bool
  clientOrderId : Int
  venueOrderId : Int
  side : Side
  limitPrice : Price
  leavesQty : Int
  cancelSent : Bool
  cancelSendTsNs : TimestampNs
  cancelRejectOnceDone : Bool
  deriving DecidableEq, Repr

structure Gateway where
  newAckLatencyNs : TimestampNs
  cancelSendLatencyNs : TimestampNs
  nextVenueOrderId : Int
  pendingNew : PendingNew
  activeOrder : ActiveOrder
  execution : Simulator
  deriving DecidableEq, Repr

def create (newAckLatencyNs cancelSendLatencyNs : TimestampNs) : Gateway where
  newAckLatencyNs := newAckLatencyNs
  cancelSendLatencyNs := cancelSendLatencyNs
  nextVenueOrderId := 100000
  pendingNew := ⟨false, ⟨0, .buy, 0, 0, .aggressive, 0⟩, 0, false⟩
  activeOrder := ⟨false, 0, 0, .buy, 0, 0, false, 0, false⟩
  execution := ExecutionSimulator.fresh

/-- A default-constructed gateway. -/
def fresh : Gateway := create 200 200

def sendNew (gateway : Gateway) (request : GatewayNewOrder) : Bool × Gateway :=
  if request.quantity ≤ 0 ∨ gateway.pendingNew.active ∨ gateway.activeOrder.active then
    (false, gateway)
  else
    (true, { gateway with pendingNew :=
      ⟨true, request, request.submitTsNs + gateway.newAckLatencyNs,
        decide (request.clientOrderId.tmod 3 = 0)⟩ })

def sendCancel (gateway : Gateway) (requestTsNs : TimestampNs) : Bool × Gateway :=
  if !gateway.activeOrder.active || gateway.activeOrder.cancelSent then (false, gateway)
  else
    (true, { gateway with activeOrder := { gateway.activeOrder with
      cancelSent := true
      cancelSendTsNs := requestTsNs + gateway.cancelSendLatencyNs } })

def pushEvent (batch : VenueEventBatch) (event : VenueEvent) : VenueEventBatch :=
  if batch.events.length ≥ 4 then { batch with overflowCount := batch.overflowCount + 1 }
  else { batch with events := batch.events ++ [event] }

def applyExecutionReport (gateway : Gateway) (batch : VenueEventBatch) (report : ExecutionReport)
    (eventTsNs : TimestampNs) : VenueEventBatch :=
  let batch := if report.hasFill && gateway.activeOrder.active then
      pushEvent batch ⟨.fill, eventTsNs, gateway.activeOrder.venueOrderId, report.fill.quantity,
        report.fill.price⟩
    else batch
  if report.cancelAcked && gateway.activeOrder.active then
    pushEvent batch ⟨.cancelAck, eventTsNs, gateway.activeOrder.venueOrderId, 0, 0⟩
  else batch

def closeActiveOrderIfDone (gateway : Gateway) : Gateway :=
  if gateway.activeOrder.active && gateway.activeOrder.leavesQty = 0 &&
      !gateway.execution.restingOrder.active then
    { gateway with activeOrder := { gateway.activeOrder with active := false } }
  else gateway

/-- The simulator request made from a gateway order. -/
def orderRequest (request : GatewayNewOrder) : OrderRequest :=
  ⟨request.side, request.quantity, request.limitPrice⟩

/-- The acknowledgment block of `onTick`: the pending request becomes the
active order and is submitted to the simulator on the same tick. -/
def acknowledge (gateway : Gateway) (tick : MarketTick) : VenueEventBatch × Gateway :=
  let request := gateway.pendingNew.request
  let venueOrderId := gateway.nextVenueOrderId
  let batch := pushEvent .empty ⟨.newAck, tick.receiveTsNs, venueOrderId, 0, 0⟩
  let (report, execution) := ExecutionSimulator.submitOrder gateway.execution tick
    (orderRequest request) request.style
  let gateway := { gateway with
    nextVenueOrderId := venueOrderId + 1
    activeOrder := ⟨true, request.clientOrderId, venueOrderId, request.side, request.limitPrice,
      report.leavesQty, false, 0, false⟩
    execution := execution }
  let batch := applyExecutionReport gateway batch report tick.receiveTsNs
  let expires : Bool := request.style = .aggressive && gateway.activeOrder.leavesQty > 0
  let batch := if expires then pushEvent batch ⟨.expired, tick.receiveTsNs, venueOrderId, 0, 0⟩
    else batch
  let gateway := if expires then
      { gateway with activeOrder := { gateway.activeOrder with leavesQty := 0 } }
    else gateway
  (batch, closeActiveOrderIfDone
    { gateway with pendingNew := { gateway.pendingNew with active := false } })

/-- The matching block of `onTick`. -/
def matchResting (gateway : Gateway) (tick : MarketTick) (batch : VenueEventBatch) :
    VenueEventBatch × Gateway :=
  if gateway.activeOrder.active || gateway.execution.restingOrder.active then
    let (report, execution) := ExecutionSimulator.onTick gateway.execution tick
    let gateway := { gateway with
      activeOrder := { gateway.activeOrder with leavesQty := report.leavesQty }
      execution := execution }
    (applyExecutionReport gateway batch report tick.receiveTsNs, closeActiveOrderIfDone gateway)
  else (batch, gateway)

/-- The cancel block of `onTick`: a cancel that has reached the venue is
rejected once for odd venue ids, which ends the tick, and otherwise forwarded. -/
def cancelAndMatch (gateway : Gateway) (tick : MarketTick) (batch : VenueEventBatch) :
    VenueEventBatch × Gateway :=
  if gateway.activeOrder.active && gateway.activeOrder.cancelSent &&
      tick.receiveTsNs ≥ gateway.activeOrder.cancelSendTsNs then
    if !gateway.activeOrder.cancelRejectOnceDone && gateway.activeOrder.venueOrderId.tmod 2 = 1 then
      (pushEvent batch
          ⟨.cancelReject, tick.receiveTsNs, gateway.activeOrder.venueOrderId, 0, 0⟩,
        { gateway with activeOrder := { gateway.activeOrder with
          cancelSent := false
          cancelRejectOnceDone := true } })
    else
      matchResting { gateway with
        activeOrder := { gateway.activeOrder with cancelSent := false }
        execution := (ExecutionSimulator.requestCancel gateway.execution tick.receiveTsNs).2 } tick
        batch
  else matchResting gateway tick batch

def onTick (gateway : Gateway) (tick : MarketTick) : VenueEventBatch × Gateway :=
  if gateway.pendingNew.active && tick.receiveTsNs ≥ gateway.pendingNew.ackReadyTsNs then
    if gateway.pendingNew.shouldReject then
      (pushEvent .empty ⟨.newReject, tick.receiveTsNs, 0, 0, 0⟩,
        { gateway with pendingNew := { gateway.pendingNew with active := false } })
    else
      let (batch, gateway) := acknowledge gateway tick
      cancelAndMatch gateway tick batch
  else cancelAndMatch gateway tick .empty

/-- The free function that cancels on both sides: the gateway must accept the
cancel before the order manager enters `pendingCancel`. -/
def submitCancelRequest (gateway : Gateway) (order : Manager) (requestTsNs : TimestampNs) :
    Bool × Gateway × Manager :=
  if order.state ≠ .acked ∧ order.state ≠ .partiallyFilled then (false, gateway, order)
  else
    let (sent, gateway) := sendCancel gateway requestTsNs
    if !sent then (false, gateway, order)
    else
      let (requested, order) := requestCancel order
      (requested, gateway, order)

/-- The latencies and the threshold a gateway works with. -/
def settings (gateway : Gateway) : TimestampNs × TimestampNs × TimestampNs × Price :=
  (gateway.newAckLatencyNs, gateway.cancelSendLatencyNs, gateway.execution.cancelLatencyNs,
    gateway.execution.adverseMoveThreshold)

/-- The settings of a default-constructed gateway. -/
theorem fresh_settings {gateway : Gateway} (fixed : settings gateway = settings fresh) :
    gateway.newAckLatencyNs = 200 ∧ gateway.cancelSendLatencyNs = 200 ∧
      gateway.execution.cancelLatencyNs = 1000 ∧
      gateway.execution.adverseMoveThreshold = PRICE_SCALE := by
  simp only [settings, Prod.mk.injEq] at fixed
  exact fixed

theorem closeActiveOrderIfDone_settings (gateway : Gateway) :
    settings (closeActiveOrderIfDone gateway) = settings gateway := by
  unfold closeActiveOrderIfDone
  split_ifs <;> rfl

theorem matchResting_settings (gateway : Gateway) (tick : MarketTick) (batch : VenueEventBatch) :
    settings (matchResting gateway tick batch).2 = settings gateway := by
  obtain ⟨latency, threshold⟩ := ExecutionSimulator.onTick_settings gateway.execution tick
  simp only [matchResting]
  split_ifs
  · rw [closeActiveOrderIfDone_settings]
    simp only [settings, latency, threshold]
  · rfl

theorem cancelAndMatch_settings (gateway : Gateway) (tick : MarketTick)
    (batch : VenueEventBatch) :
    settings (cancelAndMatch gateway tick batch).2 = settings gateway := by
  simp only [cancelAndMatch]
  split_ifs
  · rfl
  · rw [matchResting_settings]
    simp only [settings, ExecutionSimulator.requestCancel]
    split_ifs <;> rfl
  · exact matchResting_settings gateway tick batch

theorem acknowledge_settings (gateway : Gateway) (tick : MarketTick) :
    settings (acknowledge gateway tick).2 = settings gateway := by
  obtain ⟨latency, threshold⟩ := ExecutionSimulator.submitOrder_settings gateway.execution tick
    (orderRequest gateway.pendingNew.request) gateway.pendingNew.request.style
  simp only [acknowledge, closeActiveOrderIfDone_settings]
  split_ifs <;> simp only [settings, latency, threshold]

theorem onTick_settings (gateway : Gateway) (tick : MarketTick) :
    settings (onTick gateway tick).2 = settings gateway := by
  simp only [onTick]
  split_ifs
  · rfl
  · rw [cancelAndMatch_settings, acknowledge_settings]
  · exact cancelAndMatch_settings gateway tick _

end TradingKernel.MockVenueGateway
