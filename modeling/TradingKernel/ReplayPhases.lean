import TradingKernel.GatewayLink
import TradingKernel.ReplayRun

/-!
What each part of a tick does to the objects and which actions it performs,
stated once for every result about replays.
-/

namespace TradingKernel.ReplayPhases
open Library OrderManager MockVenueGateway GatewayInvariant GatewayLink ReplayRunner ReplayRun
open Decision
open AccountingEngine (applyFill markToMarket)

@[simp] theorem andThen_objects (effect : Effect) (next : ReplayObjects → Effect) :
    (effect.andThen next).objects = (next effect.objects).objects := rfl

@[simp] theorem andThen_actions (effect : Effect) (next : ReplayObjects → Effect) :
    (effect.andThen next).actions = effect.actions ++ (next effect.objects).actions := rfl

/-- Accounting takes every positive fill. -/
theorem handleFill_positive {fill : Fill} (positive : 0 < fill.quantity) (tick : MarketTick)
    (objects : ReplayObjects) :
    handleFill fill tick objects =
      ⟨{ objects with accounting :=
          markToMarket (applyFill objects.accounting fill).2 tick.mid },
        [.measure .accounting,
          .emit ⟨fill.tsNs, fill.price, fill.quantity, .fill, fill.side, .none⟩,
          .count .fills 1]⟩ := by
  rw [handleFill, if_neg (by omega)]
  simp [(AccountingEngine.applyFill_accepted objects.accounting fill).2 positive]

/-- An applied event journals its transition, its fill and its reject, in that order. -/
theorem handleVenueEvent_applied {event : VenueEvent} {objects : ReplayObjects} {fill : Fill}
    {next : Manager} (applies : Applies objects.orderManager event fill next)
    (fallbackSide : Side) (tick : MarketTick) :
    handleVenueEvent event fallbackSide tick objects =
      ⟨(handleFill fill tick { objects with orderManager := next }).objects,
        emitTransition event.tsNs objects.orderManager.state next.state objects.orderManager.side ++
          (handleFill fill tick { objects with orderManager := next }).actions ++
          venueRejectActions event objects.orderManager.side next⟩ := by
  have busy : objects.orderManager.state ≠ .idle := by
    intro idle
    have live := applies.live
    simp [idle, OrderState.isLive] at live
  simp only [handleVenueEvent, applies.eq, if_neg busy, if_true]

theorem handleVenueEvent_refused {event : VenueEvent} {objects : ReplayObjects}
    {outcome : VenueEventOutcome} (refused : outcome ≠ .applied)
    (result : onVenueEvent objects.orderManager event =
      (outcome, Fill.empty, objects.orderManager)) (fallbackSide : Side) (tick : MarketTick) :
    handleVenueEvent event fallbackSide tick objects = ⟨objects, refusedActions outcome⟩ := by
  simp only [handleVenueEvent, result, if_neg refused]

/-- Objects that differ at most in accounting and in the order manager's order. -/
structure SameVenue (objects next : ReplayObjects) : Prop where
  gateway : next.gateway = objects.gateway
  clientOrderId : next.clientOrderId = objects.clientOrderId
  passiveSubmitTs : next.passiveSubmitTs = objects.passiveSubmitTs

theorem SameVenue.refl (objects : ReplayObjects) : SameVenue objects objects := ⟨rfl, rfl, rfl⟩

theorem SameVenue.trans {first second third : ReplayObjects} (left : SameVenue first second)
    (right : SameVenue second third) : SameVenue first third :=
  ⟨right.gateway.trans left.gateway, right.clientOrderId.trans left.clientOrderId,
    right.passiveSubmitTs.trans left.passiveSubmitTs⟩

theorem handleFill_sameVenue (fill : Fill) (tick : MarketTick) (objects : ReplayObjects) :
    SameVenue objects (handleFill fill tick objects).objects ∧
      (handleFill fill tick objects).objects.orderManager = objects.orderManager := by
  by_cases positive : 0 < fill.quantity
  · rw [handleFill_positive positive]
    exact ⟨⟨rfl, rfl, rfl⟩, rfl⟩
  · rw [handleFill, if_pos (by omega)]
    exact ⟨.refl _, rfl⟩

/-- One venue event only touches the order and accounting. -/
theorem handleVenueEvent_objects (event : VenueEvent) (fallbackSide : Side) (tick : MarketTick)
    (objects : ReplayObjects) :
    SameVenue objects (handleVenueEvent event fallbackSide tick objects).objects ∧
      (handleVenueEvent event fallbackSide tick objects).objects.orderManager =
        (onVenueEvent objects.orderManager event).2.2 := by
  rcases onVenueEvent_cases objects.orderManager event with
    ⟨fill, next, result, applies⟩ | ⟨outcome, refused, result⟩
  · rw [handleVenueEvent_applied applies, result]
    obtain ⟨same, order⟩ := handleFill_sameVenue fill tick { objects with orderManager := next }
    exact ⟨⟨same.gateway, same.clientOrderId, same.passiveSubmitTs⟩, order⟩
  · rw [handleVenueEvent_refused refused result, result]
    exact ⟨.refl _, rfl⟩

theorem handleBatch_objects (tick : MarketTick) (events : List VenueEvent)
    (objects : ReplayObjects) :
    SameVenue objects (handleBatch tick events objects).objects ∧
      (handleBatch tick events objects).objects.orderManager =
        applyEvents objects.orderManager events := by
  induction events generalizing objects with
  | nil => exact ⟨.refl _, rfl⟩
  | cons event rest ih =>
    obtain ⟨same, order⟩ :=
      handleVenueEvent_objects event objects.orderManager.side tick objects
    obtain ⟨sameRest, orderRest⟩ :=
      ih (handleVenueEvent event objects.orderManager.side tick objects).objects
    refine ⟨same.trans sameRest, ?_⟩
    rw [applyEvents_cons, ← order]
    exact orderRest

theorem venuePhase_eq (tick : MarketTick) (objects : ReplayObjects) :
    venuePhase tick objects =
      Effect.andThen
        ⟨{ objects with gateway := (MockVenueGateway.onTick objects.gateway tick).2 },
          [.count .venueBatchOverflows
              (MockVenueGateway.onTick objects.gateway tick).1.overflowCount,
            .measure .execution]⟩
        (handleBatch tick (MockVenueGateway.onTick objects.gateway tick).1.events) := rfl

theorem venuePhase_answered {tick : MarketTick} {objects : ReplayObjects}
    {batch : VenueEventBatch} {next : Gateway}
    (result : MockVenueGateway.onTick objects.gateway tick = (batch, next)) :
    (venuePhase tick objects).objects =
      (handleBatch tick batch.events { objects with gateway := next }).objects := by
  rw [venuePhase_eq, result]
  rfl

theorem venuePhase_objects (tick : MarketTick) (objects : ReplayObjects) :
    (venuePhase tick objects).objects.gateway =
        (MockVenueGateway.onTick objects.gateway tick).2 ∧
      (venuePhase tick objects).objects.orderManager = applyEvents objects.orderManager
        (MockVenueGateway.onTick objects.gateway tick).1.events ∧
      (venuePhase tick objects).objects.clientOrderId = objects.clientOrderId ∧
      (venuePhase tick objects).objects.passiveSubmitTs = objects.passiveSubmitTs := by
  rw [venuePhase_eq, andThen_objects]
  obtain ⟨same, order⟩ := handleBatch_objects tick
    (MockVenueGateway.onTick objects.gateway tick).1.events
    { objects with gateway := (MockVenueGateway.onTick objects.gateway tick).2 }
  exact ⟨same.gateway, order, same.clientOrderId, same.passiveSubmitTs⟩

/-- A cancel takes both sides along, or none. -/
theorem submitCancelRequest_cases (gateway : Gateway) (order : Manager)
    (requestTsNs : TimestampNs) :
    ((order.state = .acked ∨ order.state = .partiallyFilled) ∧
        gateway.activeOrder.active = true ∧ gateway.activeOrder.cancelSent = false ∧
        submitCancelRequest gateway order requestTsNs =
          (true, (sendCancel gateway requestTsNs).2, { order with state := .pendingCancel })) ∨
      submitCancelRequest gateway order requestTsNs = (false, gateway, order) := by
  by_cases state : order.state ≠ .acked ∧ order.state ≠ .partiallyFilled
  · exact .inr (by rw [submitCancelRequest, if_pos state])
  · rcases sendCancel_cases gateway requestTsNs with ⟨active, unsent, sent⟩ | ⟨_, refused⟩
    · rcases requestCancel_cases order with ⟨live, requested⟩ | ⟨notAcked, notPartial, _⟩
      · refine .inl ⟨live, active, unsent, ?_⟩
        simp [submitCancelRequest, if_neg state, sent, requested]
      · exact absurd ⟨notAcked, notPartial⟩ state
    · refine .inr ?_
      simp [submitCancelRequest, refused]

/-- The timer part either does nothing or moves the order to `pendingCancel`. -/
theorem cancelPhase_cases (config : ReplayConfig) (tick : MarketTick) (objects : ReplayObjects) :
    (ReplayRunner.CancelDue config tick objects ∧ objects.gateway.activeOrder.active = true ∧
        objects.gateway.activeOrder.cancelSent = false ∧
        cancelPhase config tick objects =
          ⟨{ objects with
              gateway := (sendCancel objects.gateway tick.receiveTsNs).2
              orderManager := { objects.orderManager with state := .pendingCancel } },
            [.emit ⟨tick.receiveTsNs, objects.orderManager.state.code,
              OrderState.pendingCancel.code, .omsTransition, objects.orderManager.side, .none⟩]⟩) ∨
      cancelPhase config tick objects = ⟨objects, []⟩ := by
  by_cases due : ReplayRunner.CancelDue config tick objects
  · rcases submitCancelRequest_cases objects.gateway objects.orderManager tick.receiveTsNs with
      ⟨live, active, unsent, result⟩ | result
    · refine .inl ⟨due, active, unsent, ?_⟩
      have moves : objects.orderManager.state ≠ .pendingCancel := by
        rcases live with state | state <;> simp [state]
      simp [cancelPhase, due, result, emitTransition, moves]
    · exact .inr (by simp [cancelPhase, due, result])
  · exact .inr (by rw [cancelPhase, if_neg due])

theorem orderToSend_quantity (config : ReplayConfig) (tick : MarketTick) (order : OrderRequest) :
    (orderToSend config tick order).quantity = order.quantity ∧
      (orderToSend config tick order).side = order.side := by
  unfold orderToSend
  split_ifs <;> exact ⟨rfl, rfl⟩

/-- The order manager's order right after a local submission. -/
def submittedOrder (clientOrderId : Int) (order : OrderRequest) : ManagedOrder :=
  ⟨clientOrderId, 0, order.side, order.limitPrice, order.quantity, 0, order.quantity,
    .pendingNewAck⟩

/-- The objects right after a local submission. -/
def submittedObjects (config : ReplayConfig) (tick : MarketTick) (order : OrderRequest)
    (objects : ReplayObjects) : ReplayObjects :=
  { objects with
    clientOrderId := objects.clientOrderId + 1
    orderManager := submittedOrder objects.clientOrderId (orderToSend config tick order) }

/-- A live order refuses the submission; only the client id is used up. -/
theorem submitPhase_live (config : ReplayConfig) (tick : MarketTick) (order : OrderRequest)
    {objects : ReplayObjects} (live : objects.orderManager.state.isLive = true) :
    submitPhase config tick order objects =
      ⟨{ objects with clientOrderId := objects.clientOrderId + 1 }, [.measure .execution]⟩ := by
  simp only [submitPhase, submitNew_live live, Bool.false_eq_true, if_false]

theorem submitPhase_free (config : ReplayConfig) (tick : MarketTick) {order : OrderRequest}
    {objects : ReplayObjects} (free : objects.orderManager.state.isLive = false)
    (positive : 0 < order.quantity) :
    submitPhase config tick order objects =
      ⟨(sendOrder config tick (gatewayRequest config tick objects.clientOrderId
          (orderToSend config tick order)) (submittedObjects config tick order objects)).objects,
        .count .localSubmissions 1 ::
          .emit ⟨tick.receiveTsNs, OrderState.idle.code, OrderState.pendingNewAck.code,
            .omsTransition, order.side, .none⟩ ::
          .count .gatewaySubmissions 1 ::
          (sendOrder config tick
            (gatewayRequest config tick objects.clientOrderId (orderToSend config tick order))
            (submittedObjects config tick order objects)).actions ++
          [.measure .execution]⟩ := by
  obtain ⟨quantity, side⟩ := orderToSend_quantity config tick order
  have some : 0 < (orderToSend config tick order).quantity := by omega
  simp only [submitPhase, submitNew_free free _ _ _ some, if_true]
  simp [submittedObjects, submittedOrder, emitTransition, side]

/-- The gateway state that holds a new request. -/
def requested (gateway : Gateway) (request : GatewayNewOrder) : Gateway :=
  { gateway with pendingNew :=
    ⟨true, request, request.submitTsNs + gateway.newAckLatencyNs,
      decide (request.clientOrderId.tmod 3 = 0)⟩ }

/-- An order sent to a free gateway starts the timer of a passive replay. -/
theorem sendOrder_free (config : ReplayConfig) (tick : MarketTick) {request : GatewayNewOrder}
    {objects : ReplayObjects} (unpending : objects.gateway.pendingNew.active = false)
    (idle : objects.gateway.activeOrder.active = false) (positive : 0 < request.quantity) :
    sendOrder config tick request objects =
      ⟨{ objects with
          gateway := requested objects.gateway request
          passiveSubmitTs := if config.executionStyle = .passive then tick.receiveTsNs
            else objects.passiveSubmitTs }, []⟩ := by
  simp only [sendOrder, sendNew_free unpending idle positive, if_true, requested]
  split_ifs <;> rfl

/-- The decision part journals nothing, a risk reject, or a submission. -/
theorem decisionPhase_cases (config : ReplayConfig) (tick : MarketTick)
    (objects : ReplayObjects) :
    ((strategy.onTick tick).hasOrder = false ∧
        decisionPhase config tick objects = ⟨objects, [.measure .strategy]⟩) ∨
      ((strategy.onTick tick).hasOrder = true ∧
        (risk.evaluate objects.accounting.positionState
          (strategy.onTick tick).order).accepted = false ∧
        decisionPhase config tick objects =
          ⟨objects, [.measure .strategy, .count .strategySignals 1, .measure .risk,
            .count .riskRejects 1,
            .emit ⟨tick.receiveTsNs, 0, (strategy.onTick tick).order.quantity, .riskReject,
              (strategy.onTick tick).order.side, (risk.evaluate objects.accounting.positionState
                (strategy.onTick tick).order).rejectReason⟩]⟩) ∨
      ((strategy.onTick tick).hasOrder = true ∧
        (risk.evaluate objects.accounting.positionState
          (strategy.onTick tick).order).accepted = true ∧
        decisionPhase config tick objects =
          ⟨(submitPhase config tick (strategy.onTick tick).order objects).objects,
            .measure .strategy :: .count .strategySignals 1 :: .measure .risk ::
              (submitPhase config tick (strategy.onTick tick).order objects).actions⟩) := by
  cases signal : (strategy.onTick tick).hasOrder with
  | false => exact .inl ⟨rfl, by simp [decisionPhase, signal]⟩
  | true =>
    cases accepted : (risk.evaluate objects.accounting.positionState
        (strategy.onTick tick).order).accepted with
    | false =>
      refine .inr (.inl ⟨rfl, rfl, ?_⟩)
      simp [decisionPhase, signal, accepted, Effect.andThen]
    | true =>
      refine .inr (.inr ⟨rfl, rfl, ?_⟩)
      simp [decisionPhase, signal, accepted, Effect.andThen]

/-- A tick after its venue part: the timer, then the decision. -/
def ownPhase (config : ReplayConfig) (tick : MarketTick) (objects : ReplayObjects) : Effect :=
  (cancelPhase config tick (stopTimer objects)).andThen (decisionPhase config tick)

/-- A tick is its venue part followed by its own part. -/
theorem tickEffect_eq (config : ReplayConfig) (tick : MarketTick) (objects : ReplayObjects) :
    tickEffect config tick objects =
      ⟨((venuePhase tick (markObjects tick objects)).andThen (ownPhase config tick)).objects,
        ((venuePhase tick (markObjects tick objects)).andThen (ownPhase config tick)).actions ++
          [.measure .endToEnd]⟩ := by
  simp [tickEffect, ownPhase, Effect.andThen]

theorem stopTimer_keeps (objects : ReplayObjects) :
    (stopTimer objects).gateway = objects.gateway ∧
      (stopTimer objects).orderManager = objects.orderManager ∧
      (stopTimer objects).accounting = objects.accounting ∧
      (stopTimer objects).clientOrderId = objects.clientOrderId := by
  unfold stopTimer
  split_ifs <;> exact ⟨rfl, rfl, rfl, rfl⟩

end TradingKernel.ReplayPhases
