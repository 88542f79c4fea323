import TradingKernel.ReplayPhases

/-!
The venue seen from a later clock. Two runs whose ticks differ by a constant
time are compared field by field: timestamps that are still going to be read
differ by that constant, dead ones may be anything, and all else is equal.
-/

namespace TradingKernel.TimeShift
open Library OrderManager MockVenueGateway ReplayRunner
open ExecutionSimulator (Simulator ExecutionReport RestingOrder)

abbrev shiftTick (d : Int) (tick : MarketTick) : MarketTick :=
  { tick with exchangeTsNs := tick.exchangeTsNs + d, receiveTsNs := tick.receiveTsNs + d }

abbrev shiftFill (d : Int) (fill : Fill) : Fill := { fill with tsNs := fill.tsNs + d }

/-- Only a report with a fill carries a time. -/
def shiftReport (d : Int) (report : ExecutionReport) : ExecutionReport :=
  if report.hasFill then { report with fill := shiftFill d report.fill } else report

abbrev shiftEvent (d : Int) (event : VenueEvent) : VenueEvent :=
  { event with tsNs := event.tsNs + d }

def shiftBatch (d : Int) (batch : VenueEventBatch) : VenueEventBatch :=
  { batch with events := batch.events.map (shiftEvent d) }

@[simp] theorem shiftReport_hasFill (d : Int) (report : ExecutionReport) :
    (shiftReport d report).hasFill = report.hasFill := by
  unfold shiftReport
  split_ifs <;> rfl

@[simp] theorem shiftReport_cancelAcked (d : Int) (report : ExecutionReport) :
    (shiftReport d report).cancelAcked = report.cancelAcked := by
  unfold shiftReport
  split_ifs <;> rfl

@[simp] theorem shiftReport_fill (d : Int) (report : ExecutionReport) :
    (shiftReport d report).fill.quantity = report.fill.quantity ∧
      (shiftReport d report).fill.price = report.fill.price := by
  unfold shiftReport
  split_ifs <;> exact ⟨rfl, rfl⟩

@[simp] theorem shiftReport_leavesQty (d : Int) (report : ExecutionReport) :
    (shiftReport d report).leavesQty = report.leavesQty := by
  unfold shiftReport
  split_ifs <;> rfl

/-- A simulator with other times in its resting order. -/
abbrev retimeSim (sim : Simulator) (submitTsNs cancelEffectiveTsNs : TimestampNs) : Simulator :=
  { sim with restingOrder := { sim.restingOrder with
    submitTsNs := submitTsNs
    cancelEffectiveTsNs := cancelEffectiveTsNs } }

/-- The second simulator is the first one, `d` later. -/
inductive LaterSim (d : Int) (sim : Simulator) : Simulator → Prop where
  | mk {submitTsNs cancelEffectiveTsNs : TimestampNs} :
      (sim.restingOrder.active = true → submitTsNs = sim.restingOrder.submitTsNs + d) →
      (sim.restingOrder.cancelPending = true →
        cancelEffectiveTsNs = sim.restingOrder.cancelEffectiveTsNs + d) →
      LaterSim d sim (retimeSim sim submitTsNs cancelEffectiveTsNs)

section Simulator
variable {d : Int} {sim later : Simulator}

theorem passiveFillFromMarket_later {submitTsNs : TimestampNs} (cancelEffectiveTsNs : TimestampNs)
    (submitted : submitTsNs = sim.restingOrder.submitTsNs + d) (tick : MarketTick) :
    ExecutionSimulator.passiveFillFromMarket (retimeSim sim submitTsNs cancelEffectiveTsNs)
        (shiftTick d tick) =
      (shiftReport d (ExecutionSimulator.passiveFillFromMarket sim tick).1,
        retimeSim (ExecutionSimulator.passiveFillFromMarket sim tick).2 submitTsNs
          cancelEffectiveTsNs) := by
  have waited : tick.receiveTsNs + d - submitTsNs =
      tick.receiveTsNs - sim.restingOrder.submitTsNs := by
    rw [submitted]
    exact add_sub_add_right_eq_sub ..
  have market : ExecutionSimulator.isMarketable
      (retimeSim sim submitTsNs cancelEffectiveTsNs) (shiftTick d tick) =
        ExecutionSimulator.isMarketable sim tick := rfl
  have visible : ExecutionSimulator.visibleOppositeQty
      (retimeSim sim submitTsNs cancelEffectiveTsNs) (shiftTick d tick) =
        ExecutionSimulator.visibleOppositeQty sim tick := rfl
  have consumed : ExecutionSimulator.queueConsumed
      (retimeSim sim submitTsNs cancelEffectiveTsNs) (shiftTick d tick) =
        ExecutionSimulator.queueConsumed sim tick := rfl
  have adverse : ExecutionSimulator.detectAdverseSelection
      (retimeSim sim submitTsNs cancelEffectiveTsNs) (shiftTick d tick) =
        ExecutionSimulator.detectAdverseSelection sim tick := rfl
  simp only [ExecutionSimulator.passiveFillFromMarket, market, visible, consumed, adverse, waited,
    ExecutionSimulator.min_eq_if]
  split_ifs <;> rfl

/-- Filling never arms a cancel or moves its time. -/
theorem passiveFillFromMarket_pending (sim : Simulator) (tick : MarketTick) :
    let next := (ExecutionSimulator.passiveFillFromMarket sim tick).2.restingOrder
    (next.active = true → sim.restingOrder.active = true) ∧
      (next.cancelPending = true → sim.restingOrder.cancelPending = true) ∧
      next.submitTsNs = sim.restingOrder.submitTsNs ∧
      next.cancelEffectiveTsNs = sim.restingOrder.cancelEffectiveTsNs := by
  unfold ExecutionSimulator.passiveFillFromMarket
  split_ifs <;> simp
  split_ifs <;> simp

theorem onTick_later (shifted : LaterSim d sim later) (tick : MarketTick) :
    (ExecutionSimulator.onTick later (shiftTick d tick)).1 =
        shiftReport d (ExecutionSimulator.onTick sim tick).1 ∧
      LaterSim d (ExecutionSimulator.onTick sim tick).2
        (ExecutionSimulator.onTick later (shiftTick d tick)).2 := by
  cases shifted with
  | @mk submitTsNs cancelEffectiveTsNs submitted pending =>
    by_cases active : sim.restingOrder.active = true
    · have filled := passiveFillFromMarket_later cancelEffectiveTsNs (submitted active) tick
      obtain ⟨stays, armed, submitKept, cancelKept⟩ := passiveFillFromMarket_pending sim tick
      simp only [ExecutionSimulator.onTick, active, Bool.not_true, Bool.false_eq_true, if_false,
        filled, shiftReport_hasFill]
      generalize ExecutionSimulator.passiveFillFromMarket sim tick = result at *
      obtain ⟨report, next⟩ := result
      have nextSubmitted : next.restingOrder.active = true →
          submitTsNs = next.restingOrder.submitTsNs + d := by
        intro _
        rw [submitted active, submitKept]
      have nextPending : next.restingOrder.cancelPending = true →
          cancelEffectiveTsNs = next.restingOrder.cancelEffectiveTsNs + d := by
        intro waits
        rw [pending (armed waits), cancelKept]
      have due : (next.restingOrder.active && next.restingOrder.cancelPending &&
            decide (tick.receiveTsNs + d ≥ cancelEffectiveTsNs)) =
          (next.restingOrder.active && next.restingOrder.cancelPending &&
            decide (tick.receiveTsNs ≥ next.restingOrder.cancelEffectiveTsNs)) := by
        cases waits : next.restingOrder.cancelPending with
        | false => simp
        | true => simp [nextPending waits]
      rw [due]
      split_ifs with hasFill acked
      · exact ⟨rfl, .mk nextSubmitted nextPending⟩
      · exact ⟨rfl, .mk (by simp) (by simp)⟩
      · exact ⟨rfl, .mk nextSubmitted nextPending⟩
      · exact ⟨rfl, .mk nextSubmitted nextPending⟩
    · simp only [ExecutionSimulator.onTick, active, Bool.not_false, if_true]
      exact ⟨rfl, .mk submitted pending⟩

theorem requestCancel_later (shifted : LaterSim d sim later) (tsNs : TimestampNs) :
    LaterSim d (ExecutionSimulator.requestCancel sim tsNs).2
      (ExecutionSimulator.requestCancel later (tsNs + d)).2 := by
  cases shifted with
  | @mk submitTsNs cancelEffectiveTsNs submitted pending =>
    simp only [ExecutionSimulator.requestCancel]
    split_ifs
    · exact .mk submitted pending
    · exact .mk submitted (fun _ => add_right_comm tsNs d _)

theorem aggressiveFill_later (sim : Simulator) (submitTsNs cancelEffectiveTsNs : TimestampNs)
    (tick : MarketTick) (request : OrderRequest) :
    ExecutionSimulator.aggressiveFill (retimeSim sim submitTsNs cancelEffectiveTsNs)
        (shiftTick d tick) request =
      (shiftReport d (ExecutionSimulator.aggressiveFill sim tick request).1,
        retimeSim (ExecutionSimulator.aggressiveFill sim tick request).2 submitTsNs
          cancelEffectiveTsNs) ∧
      (ExecutionSimulator.aggressiveFill sim tick request).2.restingOrder = sim.restingOrder := by
  have opposite : (shiftTick d tick).oppositeQty request.side = tick.oppositeQty request.side :=
    rfl
  simp only [ExecutionSimulator.aggressiveFill, opposite, ExecutionSimulator.min_eq_if]
  split_ifs <;> exact ⟨rfl, rfl⟩

theorem submitOrder_later (shifted : LaterSim d sim later) (tick : MarketTick)
    (request : OrderRequest) (style : ExecutionStyle) :
    (ExecutionSimulator.submitOrder later (shiftTick d tick) request style).1 =
        shiftReport d (ExecutionSimulator.submitOrder sim tick request style).1 ∧
      LaterSim d (ExecutionSimulator.submitOrder sim tick request style).2
        (ExecutionSimulator.submitOrder later (shiftTick d tick) request style).2 := by
  cases shifted with
  | @mk submitTsNs cancelEffectiveTsNs submitted pending =>
    obtain ⟨traded, kept⟩ := @aggressiveFill_later d sim submitTsNs cancelEffectiveTsNs tick request
    simp only [ExecutionSimulator.submitOrder, traded]
    split_ifs
    · exact ⟨rfl, .mk submitted pending⟩
    · exact ⟨rfl, .mk (by rwa [kept]) (by rwa [kept])⟩
    · exact ⟨rfl, .mk submitted pending⟩
    · exact ⟨rfl, .mk (fun _ => rfl) (by simp)⟩

end Simulator

theorem LaterSim.same {d : Int} {sim later : Simulator} (shifted : LaterSim d sim later) :
    later.restingOrder.active = sim.restingOrder.active ∧ later.stats = sim.stats := by
  cases shifted with
  | mk submitted pending => exact ⟨rfl, rfl⟩

/-- A gateway with another simulator and other times. -/
abbrev retimeGateway (gateway : Gateway) (execution : Simulator)
    (submitTsNs ackReadyTsNs cancelSendTsNs : TimestampNs) : Gateway :=
  { gateway with
    pendingNew := { gateway.pendingNew with
      request := { gateway.pendingNew.request with submitTsNs := submitTsNs }
      ackReadyTsNs := ackReadyTsNs }
    activeOrder := { gateway.activeOrder with cancelSendTsNs := cancelSendTsNs }
    execution := execution }

/-- The second gateway is the first one, `d` later. -/
inductive LaterGateway (d : Int) (gateway : Gateway) : Gateway → Prop where
  | mk {execution : Simulator} {submitTsNs ackReadyTsNs cancelSendTsNs : TimestampNs} :
      LaterSim d gateway.execution execution →
      (gateway.pendingNew.active = true → ackReadyTsNs = gateway.pendingNew.ackReadyTsNs + d) →
      (gateway.activeOrder.cancelSent = true →
        cancelSendTsNs = gateway.activeOrder.cancelSendTsNs + d) →
      LaterGateway d gateway
        (retimeGateway gateway execution submitTsNs ackReadyTsNs cancelSendTsNs)

theorem pushEvent_shift (d : Int) (batch : VenueEventBatch) (event : VenueEvent) :
    pushEvent (shiftBatch d batch) (shiftEvent d event) = shiftBatch d (pushEvent batch event) := by
  simp only [pushEvent, shiftBatch, List.length_map]
  split_ifs
  · rfl
  · simp

section Gateway
variable {d : Int} {gateway later : Gateway}

theorem applyExecutionReport_later (shifted : LaterGateway d gateway later)
    (batch : VenueEventBatch) (report : ExecutionReport) (eventTsNs : TimestampNs) :
    applyExecutionReport later (shiftBatch d batch) (shiftReport d report) (eventTsNs + d) =
      shiftBatch d (applyExecutionReport gateway batch report eventTsNs) := by
  cases shifted with
  | mk execution ackReady cancelSend =>
    simp only [applyExecutionReport, shiftReport_hasFill, shiftReport_cancelAcked,
      shiftReport_fill]
    split_ifs
    · rw [← pushEvent_shift, ← pushEvent_shift]
    · rw [← pushEvent_shift]
    · rw [← pushEvent_shift]
    · rfl

theorem closeActiveOrderIfDone_later (shifted : LaterGateway d gateway later) :
    LaterGateway d (closeActiveOrderIfDone gateway) (closeActiveOrderIfDone later) := by
  cases shifted with
  | mk execution ackReady cancelSend =>
    simp only [closeActiveOrderIfDone, execution.same.1]
    split_ifs
    · exact .mk execution ackReady cancelSend
    · exact .mk execution ackReady cancelSend

theorem matchResting_later (shifted : LaterGateway d gateway later) (tick : MarketTick)
    (batch : VenueEventBatch) :
    (matchResting later (shiftTick d tick) (shiftBatch d batch)).1 =
        shiftBatch d (matchResting gateway tick batch).1 ∧
      LaterGateway d (matchResting gateway tick batch).2
        (matchResting later (shiftTick d tick) (shiftBatch d batch)).2 := by
  cases shifted with
  | @mk laterExecution submitTsNs ackReadyTsNs cancelSendTsNs execution ackReady cancelSend =>
    obtain ⟨report, next⟩ := onTick_later execution tick
    simp only [matchResting, execution.same.1, report, shiftReport_leavesQty]
    split_ifs
    · have matched := @LaterGateway.mk d { gateway with
          activeOrder := { gateway.activeOrder with
            leavesQty := (ExecutionSimulator.onTick gateway.execution tick).1.leavesQty }
          execution := (ExecutionSimulator.onTick gateway.execution tick).2 } _ submitTsNs _ _ next
        ackReady cancelSend
      exact ⟨applyExecutionReport_later matched batch _ _, closeActiveOrderIfDone_later matched⟩
    · exact ⟨rfl, .mk execution ackReady cancelSend⟩

theorem cancelAndMatch_later (shifted : LaterGateway d gateway later) (tick : MarketTick)
    (batch : VenueEventBatch) :
    (cancelAndMatch later (shiftTick d tick) (shiftBatch d batch)).1 =
        shiftBatch d (cancelAndMatch gateway tick batch).1 ∧
      LaterGateway d (cancelAndMatch gateway tick batch).2
        (cancelAndMatch later (shiftTick d tick) (shiftBatch d batch)).2 := by
  have matched := matchResting_later shifted tick batch
  cases shifted with
  | @mk laterExecution submitTsNs ackReadyTsNs cancelSendTsNs execution ackReady cancelSend =>
    have arrives : (gateway.activeOrder.active && gateway.activeOrder.cancelSent &&
          decide (tick.receiveTsNs + d ≥ cancelSendTsNs)) =
        (gateway.activeOrder.active && gateway.activeOrder.cancelSent &&
          decide (tick.receiveTsNs ≥ gateway.activeOrder.cancelSendTsNs)) := by
      cases sent : gateway.activeOrder.cancelSent with
      | false => simp
      | true => simp [cancelSend sent]
    simp only [cancelAndMatch, arrives]
    split_ifs
    · exact ⟨pushEvent_shift d batch ⟨.cancelReject, tick.receiveTsNs,
        gateway.activeOrder.venueOrderId, 0, 0⟩, .mk execution ackReady (by simp)⟩
    · have forwarded := @LaterGateway.mk d { gateway with
          activeOrder := { gateway.activeOrder with cancelSent := false }
          execution :=
            (ExecutionSimulator.requestCancel gateway.execution tick.receiveTsNs).2 } _ submitTsNs
        _ cancelSendTsNs (requestCancel_later execution tick.receiveTsNs) ackReady (by simp)
      exact matchResting_later forwarded tick batch
    · exact matched

theorem acknowledge_later (shifted : LaterGateway d gateway later) (tick : MarketTick) :
    (acknowledge later (shiftTick d tick)).1 = shiftBatch d (acknowledge gateway tick).1 ∧
      LaterGateway d (acknowledge gateway tick).2 (acknowledge later (shiftTick d tick)).2 := by
  cases shifted with
  | @mk laterExecution submitTsNs ackReadyTsNs cancelSendTsNs execution ackReady cancelSend =>
    obtain ⟨report, next⟩ := submitOrder_later execution tick
      (orderRequest gateway.pendingNew.request) gateway.pendingNew.request.style
    have expired := fun batch => pushEvent_shift d batch
      ⟨.expired, tick.receiveTsNs, gateway.nextVenueOrderId, 0, 0⟩
    let result := ExecutionSimulator.submitOrder gateway.execution tick
      (orderRequest gateway.pendingNew.request) gateway.pendingNew.request.style
    -- The gateway that serves the order, before it is known whether anything is left of it.
    let serving : Gateway := { gateway with
      nextVenueOrderId := gateway.nextVenueOrderId + 1
      activeOrder := ⟨true, gateway.pendingNew.request.clientOrderId, gateway.nextVenueOrderId,
        gateway.pendingNew.request.side, gateway.pendingNew.request.limitPrice,
        result.1.leavesQty, false, 0, false⟩
      execution := result.2 }
    have served := @LaterGateway.mk d serving _ submitTsNs _ 0 next ackReady (by simp [serving])
    have acked : pushEvent .empty
        (shiftEvent d ⟨.newAck, tick.receiveTsNs, gateway.nextVenueOrderId, 0, 0⟩) =
          shiftBatch d (pushEvent .empty
            ⟨.newAck, tick.receiveTsNs, gateway.nextVenueOrderId, 0, 0⟩) :=
      pushEvent_shift d .empty _
    have reported := applyExecutionReport_later served
      (pushEvent .empty ⟨.newAck, tick.receiveTsNs, gateway.nextVenueOrderId, 0, 0⟩) result.1
      tick.receiveTsNs
    rw [← acked] at reported
    have sameRequest : orderRequest (retimeGateway gateway laterExecution submitTsNs ackReadyTsNs
        cancelSendTsNs).pendingNew.request = orderRequest gateway.pendingNew.request := rfl
    simp only [acknowledge, sameRequest, report, shiftReport_leavesQty]
    split_ifs
    · have done := @LaterGateway.mk d { serving with
          activeOrder := { serving.activeOrder with leavesQty := 0 }
          pendingNew := { serving.pendingNew with active := false } } _ submitTsNs ackReadyTsNs 0
        next (by simp) (by simp [serving])
      exact ⟨(congrArg (pushEvent · _) reported).trans (expired _),
        closeActiveOrderIfDone_later done⟩
    · have kept := @LaterGateway.mk d { serving with
          pendingNew := { serving.pendingNew with active := false } } _ submitTsNs ackReadyTsNs 0
        next (by simp) (by simp [serving])
      exact ⟨reported, closeActiveOrderIfDone_later kept⟩

/-- A later gateway answers a later tick with the same batch, that much later. -/
theorem gatewayTick_later (shifted : LaterGateway d gateway later) (tick : MarketTick) :
    (MockVenueGateway.onTick later (shiftTick d tick)).1 =
        shiftBatch d (MockVenueGateway.onTick gateway tick).1 ∧
      LaterGateway d (MockVenueGateway.onTick gateway tick).2
        (MockVenueGateway.onTick later (shiftTick d tick)).2 := by
  obtain ⟨batch, acknowledged⟩ := acknowledge_later shifted tick
  have unanswered := cancelAndMatch_later shifted tick .empty
  cases shifted with
  | @mk laterExecution submitTsNs ackReadyTsNs cancelSendTsNs execution ackReady cancelSend =>
    have ready : (gateway.pendingNew.active && decide (tick.receiveTsNs + d ≥ ackReadyTsNs)) =
        (gateway.pendingNew.active &&
          decide (tick.receiveTsNs ≥ gateway.pendingNew.ackReadyTsNs)) := by
      cases pending : gateway.pendingNew.active with
      | false => rfl
      | true => simp [ackReady pending]
    simp only [MockVenueGateway.onTick, ready]
    split_ifs
    · exact ⟨rfl, .mk execution (by simp) cancelSend⟩
    · rw [batch]
      exact cancelAndMatch_later acknowledged tick _
    · exact unanswered

theorem sendNew_later (shifted : LaterGateway d gateway later) (request : GatewayNewOrder) :
    (sendNew later { request with submitTsNs := request.submitTsNs + d }).1 =
        (sendNew gateway request).1 ∧
      LaterGateway d (sendNew gateway request).2
        (sendNew later { request with submitTsNs := request.submitTsNs + d }).2 := by
  cases shifted with
  | mk execution ackReady cancelSend =>
    simp only [sendNew]
    split_ifs
    · exact ⟨rfl, .mk execution ackReady cancelSend⟩
    · exact ⟨rfl, .mk execution (fun _ => add_right_comm _ _ _) cancelSend⟩

theorem sendCancel_later (shifted : LaterGateway d gateway later) (requestTsNs : TimestampNs) :
    (sendCancel later (requestTsNs + d)).1 = (sendCancel gateway requestTsNs).1 ∧
      LaterGateway d (sendCancel gateway requestTsNs).2
        (sendCancel later (requestTsNs + d)).2 := by
  cases shifted with
  | mk execution ackReady cancelSend =>
    simp only [sendCancel]
    split_ifs
    · exact ⟨rfl, .mk execution ackReady cancelSend⟩
    · exact ⟨rfl, .mk execution ackReady (fun _ => add_right_comm _ _ _)⟩

end Gateway

end TradingKernel.TimeShift
