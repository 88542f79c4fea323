import TradingKernel.VenueReflection

/-!
A replay in the mirror. The strategy buys as far below a pivot as it sells
above it, risk bounds both directions alike, and the venue is fair, so the
replay of the reflected market is the reflected replay.
-/

namespace TradingKernel.ReplayReflection
open Library OrderManager MockVenueGateway Decision ReplayRunner ReplayRun ReplayPhases
open VenueReflection
open AccountingEngine (Engine oppositeSide signedQty applyFill markToMarket)

/-- The strategy's two thresholds reflect into each other here. -/
def pivot : Price := strategy.buyBelow + strategy.sellAbove

abbrev mirrorTick (tick : MarketTick) : MarketTick := reflectTick pivot tick

/-- A row on the other side; only a fill row has a price to reflect. -/
def reflectRow (row : TradeEvent) : TradeEvent :=
  { row with
    side := oppositeSide row.side
    price := if row.kind = .fill then pivot - row.price else row.price }

def reflectAction : Action → Action
  | .emit event => .emit (reflectRow event)
  | .measure collector => .measure collector
  | .count counter amount => .count counter amount

/-- Only a fill that trades something has a side and a price. -/
def reflectFill (fill : Fill) : Fill :=
  if fill.quantity ≤ 0 then fill
  else { fill with side := oppositeSide fill.side, price := pivot - fill.price }

/-- An aggressive order carries no limit. -/
def reflectLimit (style : ExecutionStyle) (limitPrice : Price) : Price :=
  if style = .passive then pivot - limitPrice else limitPrice

abbrev turnOrder (style : ExecutionStyle) (order : ManagedOrder) : ManagedOrder :=
  { order with
    side := oppositeSide order.side
    limitPrice := reflectLimit style order.limitPrice }

/-- The order manager's order in the mirror; before the first one there is nothing to see. -/
def reflectOrder (style : ExecutionStyle) (order : ManagedOrder) : ManagedOrder :=
  if order.state = .idle then order else turnOrder style order

/-- Accounting in the mirror: the opposite position, bought with what the
pivot is worth, and the same profit where no mid has been truncated. -/
structure MirrorBooks (exact : Prop) (engine other : Engine) : Prop where
  netQty : other.positionState.netQty = -engine.positionState.netQty
  cash : other.pnlState.cash = engine.pnlState.cash + pivot * engine.positionState.netQty
  profit : exact → other.pnlState.realizedPnl + other.pnlState.unrealizedPnl =
    engine.pnlState.realizedPnl + engine.pnlState.unrealizedPnl

/-- The second objects are the first ones in the mirror. -/
structure MirrorObjects (config : ReplayConfig) (exact : Prop) (objects other : ReplayObjects) :
    Prop where
  accounting : MirrorBooks exact objects.accounting other.accounting
  gateway : MirrorGateway pivot exact objects.gateway other.gateway
  orderManager : other.orderManager = reflectOrder config.executionStyle objects.orderManager
  clientOrderId : other.clientOrderId = objects.clientOrderId
  passiveSubmitTs : other.passiveSubmitTs = objects.passiveSubmitTs

structure MirrorEffect (config : ReplayConfig) (exact : Prop) (effect other : Effect) : Prop where
  objects : MirrorObjects config exact effect.objects other.objects
  actions : other.actions = effect.actions.map reflectAction

theorem MirrorEffect.andThen {config : ReplayConfig} {exact : Prop} {effect other : Effect}
    (mirrored : MirrorEffect config exact effect other) {next otherNext : ReplayObjects → Effect}
    (rest : MirrorEffect config exact (next effect.objects) (otherNext other.objects)) :
    MirrorEffect config exact (effect.andThen next) (other.andThen otherNext) := by
  constructor
  · exact rest.objects
  · rw [andThen_actions, andThen_actions, mirrored.actions, rest.actions, List.map_append]

section Books
variable {exact : Prop} {engine other : Engine} {tick : MarketTick}

theorem profit_mark (engine : Engine) (midPrice : Price) :
    (markToMarket engine midPrice).pnlState.realizedPnl +
        (markToMarket engine midPrice).pnlState.unrealizedPnl =
      engine.pnlState.cash + engine.positionState.netQty * midPrice := by
  have identity := (AccountingEngine.markToMarket_refreshed engine midPrice).identity
  simpa using identity

/-- Marking at the reflected mid. -/
theorem MirrorBooks.mark (netQty : other.positionState.netQty = -engine.positionState.netQty)
    (cash : other.pnlState.cash = engine.pnlState.cash + pivot * engine.positionState.netQty)
    (centered : exact → Centered tick) :
    MirrorBooks exact (markToMarket engine tick.mid)
      (markToMarket other (mirrorTick tick).mid) := by
  constructor
  · simpa using netQty
  · simpa using cash
  · intro holds
    rw [profit_mark, profit_mark, reflectTick_mid pivot (centered holds), netQty, cash]
    ring

theorem applyFill_reflect (netQty : other.positionState.netQty = -engine.positionState.netQty)
    (cash : other.pnlState.cash = engine.pnlState.cash + pivot * engine.positionState.netQty)
    {fill : Fill} (positive : 0 < fill.quantity) :
    (applyFill other (reflectFill fill)).2.positionState.netQty =
        -(applyFill engine fill).2.positionState.netQty ∧
      (applyFill other (reflectFill fill)).2.pnlState.cash =
        (applyFill engine fill).2.pnlState.cash +
          pivot * (applyFill engine fill).2.positionState.netQty := by
  have traded : reflectFill fill =
      { fill with side := oppositeSide fill.side, price := pivot - fill.price } := by
    rw [reflectFill, if_neg (by omega)]
  have signed : signedQty (reflectFill fill) = -signedQty fill := by
    rw [traded]
    exact AccountingEngine.signedQty_flipFill fill
  have quantity : 0 < (reflectFill fill).quantity := by
    rw [traded]
    exact positive
  have price : (reflectFill fill).price = pivot - fill.price := by rw [traded]
  rw [AccountingEngine.applyFill_netQty _ _ quantity, AccountingEngine.applyFill_cash _ _ quantity,
    AccountingEngine.applyFill_netQty _ _ positive, AccountingEngine.applyFill_cash _ _ positive,
    signed, price, netQty, cash]
  constructor <;> ring

end Books

theorem stateAfterFill_busy (leavesQty : Int) : stateAfterFill leavesQty ≠ .idle := by
  unfold stateAfterFill
  split_ifs <;> simp

theorem stateAfterCancelReject_busy (order : ManagedOrder) :
    stateAfterCancelReject order ≠ .idle := by
  unfold stateAfterCancelReject
  split_ifs <;> simp

theorem stateAfterCancelReject_turn (style : ExecutionStyle) (order : ManagedOrder) :
    stateAfterCancelReject (turnOrder style order) = stateAfterCancelReject order := rfl

/-- The order manager treats both sides alike. -/
theorem onVenueEvent_reflect (style : ExecutionStyle) (order : Manager) (event : VenueEvent) :
    onVenueEvent (reflectOrder style order) (reflectEvent pivot event) =
      ((onVenueEvent order event).1, reflectFill (onVenueEvent order event).2.1,
        reflectOrder style (onVenueEvent order event).2.2) := by
  by_cases idle : order.state = .idle
  · cases kind : event.type <;>
      simp [onVenueEvent, reflectEvent, kind, refuse, reflectOrder, idle, reflectFill, Fill.empty]
  · rw [reflectOrder, if_neg idle]
    cases kind : event.type <;>
      simp only [onVenueEvent, reflectEvent, kind, refuse, if_true, reduceCtorEq, if_false,
        stateAfterCancelReject_turn] <;>
      split_ifs <;>
      simp_all [reflectFill, reflectOrder, Fill.empty, stateAfterFill_busy,
        stateAfterCancelReject_busy]

theorem emitTransition_reflect (tsNs : TimestampNs) (source target : OrderState) (side : Side) :
    emitTransition tsNs source target (oppositeSide side) =
      (emitTransition tsNs source target side).map reflectAction := by
  unfold emitTransition
  split_ifs <;> rfl

theorem reflectOrder_keeps (style : ExecutionStyle) (order : ManagedOrder) :
    (reflectOrder style order).state = order.state ∧
      (reflectOrder style order).orderQty = order.orderQty ∧
      (reflectOrder style order).leavesQty = order.leavesQty := by
  unfold reflectOrder
  split_ifs <;> exact ⟨rfl, rfl, rfl⟩

theorem reflectOrder_side {style : ExecutionStyle} {order : ManagedOrder}
    (busy : order.state ≠ .idle) : (reflectOrder style order).side = oppositeSide order.side := by
  rw [reflectOrder, if_neg busy]

theorem venueReject_reflect (style : ExecutionStyle) (event : VenueEvent) (side : Side)
    (order : ManagedOrder) :
    venueRejectActions (reflectEvent pivot event) (oppositeSide side) (reflectOrder style order) =
      (venueRejectActions event side order).map reflectAction := by
  obtain ⟨_, orderQty, leavesQty⟩ := reflectOrder_keeps style order
  cases kind : event.type <;>
    simp [venueRejectActions, reflectEvent, kind, reflectAction, reflectRow, orderQty, leavesQty]

theorem refused_reflect (outcome : VenueEventOutcome) :
    (refusedActions outcome).map reflectAction = refusedActions outcome := by
  cases outcome <;> rfl

section Phases
variable {config : ReplayConfig} {exact : Prop} {objects other : ReplayObjects}
  {tick : MarketTick} (centered : exact → Centered tick)
include centered

theorem handleFill_mirror (mirrored : MirrorObjects config exact objects other) (fill : Fill) :
    MirrorEffect config exact (handleFill fill tick objects)
      (handleFill (reflectFill fill) (mirrorTick tick) other) := by
  obtain ⟨books, gateway, orderManager, clientOrderId, passiveSubmitTs⟩ := mirrored
  by_cases positive : 0 < fill.quantity
  · have traded : reflectFill fill =
        { fill with side := oppositeSide fill.side, price := pivot - fill.price } := by
      rw [reflectFill, if_neg (by omega)]
    have quantity : 0 < (reflectFill fill).quantity := by
      rw [traded]
      exact positive
    obtain ⟨netQty, cash⟩ := applyFill_reflect books.netQty books.cash positive
    rw [handleFill_positive positive, handleFill_positive quantity]
    constructor
    · exact ⟨.mark netQty cash centered, gateway, orderManager, clientOrderId, passiveSubmitTs⟩
    · rw [traded]
      rfl
  · have nothing : fill.quantity ≤ 0 := by omega
    rw [reflectFill, if_pos nothing, handleFill, if_pos nothing, handleFill, if_pos nothing]
    exact ⟨⟨books, gateway, orderManager, clientOrderId, passiveSubmitTs⟩, rfl⟩

theorem handleVenueEvent_mirror (mirrored : MirrorObjects config exact objects other)
    (event : VenueEvent) (fallbackSide otherFallback : Side) :
    MirrorEffect config exact (handleVenueEvent event fallbackSide tick objects)
      (handleVenueEvent (reflectEvent pivot event) otherFallback (mirrorTick tick) other) := by
  have answer := onVenueEvent_reflect config.executionStyle objects.orderManager event
  rw [← mirrored.orderManager] at answer
  have state : other.orderManager.state = objects.orderManager.state := by
    rw [mirrored.orderManager]
    exact (reflectOrder_keeps _ _).1
  rcases onVenueEvent_cases objects.orderManager event with
    ⟨fill, next, result, applies⟩ | ⟨outcome, refused, result⟩
  · have busy : objects.orderManager.state ≠ .idle := by
      intro idle
      have live := applies.live
      simp [idle, OrderState.isLive] at live
    have side : other.orderManager.side = oppositeSide objects.orderManager.side := by
      rw [mirrored.orderManager]
      exact reflectOrder_side busy
    have moved : MirrorObjects config exact { objects with orderManager := next }
        { other with orderManager := reflectOrder config.executionStyle next } :=
      ⟨mirrored.accounting, mirrored.gateway, rfl, mirrored.clientOrderId,
        mirrored.passiveSubmitTs⟩
    have filled := handleFill_mirror centered moved fill
    have tsNs : (reflectEvent pivot event).tsNs = event.tsNs := by
      unfold reflectEvent
      split_ifs <;> rfl
    rw [result] at answer
    simp only [handleVenueEvent, result, answer, state, side, if_neg busy, if_true]
    constructor
    · exact filled.objects
    · rw [filled.actions, tsNs, (reflectOrder_keeps _ _).1, emitTransition_reflect,
        venueReject_reflect, List.map_append, List.map_append]
  · rw [result] at answer
    have nothing : reflectFill Fill.empty = Fill.empty := rfl
    rw [← mirrored.orderManager, nothing] at answer
    rw [handleVenueEvent_refused refused result, handleVenueEvent_refused refused answer]
    exact ⟨mirrored, (refused_reflect outcome).symm⟩

theorem handleBatch_mirror (mirrored : MirrorObjects config exact objects other)
    (events : List VenueEvent) :
    MirrorEffect config exact (handleBatch tick events objects)
      (handleBatch (mirrorTick tick) (events.map (reflectEvent pivot)) other) := by
  induction events generalizing objects other with
  | nil => exact ⟨mirrored, rfl⟩
  | cons event rest ih =>
    have first := handleVenueEvent_mirror centered mirrored event objects.orderManager.side
      other.orderManager.side
    exact first.andThen (ih first.objects)

theorem venuePhase_mirror (mirrored : MirrorObjects config exact objects other) :
    MirrorEffect config exact (venuePhase tick objects) (venuePhase (mirrorTick tick) other) := by
  obtain ⟨batch, next⟩ := gatewayTick_mirror mirrored.gateway centered
  rw [venuePhase_eq, venuePhase_eq, batch]
  have asked : MirrorEffect config exact
      ⟨{ objects with gateway := (MockVenueGateway.onTick objects.gateway tick).2 },
        [.count .venueBatchOverflows
          (MockVenueGateway.onTick objects.gateway tick).1.overflowCount, .measure .execution]⟩
      ⟨{ other with gateway := (MockVenueGateway.onTick other.gateway (mirrorTick tick)).2 },
        [.count .venueBatchOverflows
          (MockVenueGateway.onTick objects.gateway tick).1.overflowCount,
          .measure .execution]⟩ :=
    ⟨⟨mirrored.accounting, next, mirrored.orderManager, mirrored.clientOrderId,
      mirrored.passiveSubmitTs⟩, rfl⟩
  exact asked.andThen (handleBatch_mirror centered asked.objects _)

theorem markObjects_mirror (mirrored : MirrorObjects config exact objects other) :
    MirrorObjects config exact (markObjects tick objects)
      (markObjects (mirrorTick tick) other) :=
  ⟨.mark mirrored.accounting.netQty mirrored.accounting.cash centered, mirrored.gateway,
    mirrored.orderManager, mirrored.clientOrderId, mirrored.passiveSubmitTs⟩

end Phases

section Own
variable {config : ReplayConfig} {exact : Prop} {objects other : ReplayObjects}
  {tick : MarketTick}

theorem MirrorObjects.state (mirrored : MirrorObjects config exact objects other) :
    other.orderManager.state = objects.orderManager.state := by
  rw [mirrored.orderManager]
  exact (reflectOrder_keeps _ _).1

theorem stopTimer_mirror (mirrored : MirrorObjects config exact objects other) :
    MirrorObjects config exact (stopTimer objects) (stopTimer other) := by
  simp only [stopTimer, mirrored.state]
  split_ifs
  · exact ⟨mirrored.accounting, mirrored.gateway, mirrored.orderManager, mirrored.clientOrderId,
      rfl⟩
  · exact mirrored

theorem submitCancelRequest_mirror (mirrored : MirrorObjects config exact objects other)
    (requestTsNs : TimestampNs) :
    (submitCancelRequest other.gateway other.orderManager requestTsNs).1 =
        (submitCancelRequest objects.gateway objects.orderManager requestTsNs).1 ∧
      MirrorGateway pivot exact
        (submitCancelRequest objects.gateway objects.orderManager requestTsNs).2.1
        (submitCancelRequest other.gateway other.orderManager requestTsNs).2.1 ∧
      (submitCancelRequest other.gateway other.orderManager requestTsNs).2.2 =
        reflectOrder config.executionStyle
          (submitCancelRequest objects.gateway objects.orderManager requestTsNs).2.2 := by
  obtain ⟨accepted, next⟩ := sendCancel_mirror mirrored.gateway requestTsNs
  have state := mirrored.state
  simp only [submitCancelRequest, requestCancel, state, accepted]
  split_ifs with idle unsent
  · exact ⟨rfl, mirrored.gateway, mirrored.orderManager⟩
  · exact ⟨rfl, next, mirrored.orderManager⟩
  · have busy : objects.orderManager.state ≠ .idle := by
      intro none
      simp [none] at idle
    refine ⟨rfl, next, ?_⟩
    rw [mirrored.orderManager, reflectOrder, if_neg busy, reflectOrder, if_neg (by simp)]

theorem cancelPhase_mirror (mirrored : MirrorObjects config exact objects other) :
    MirrorEffect config exact (cancelPhase config tick objects)
      (cancelPhase config (mirrorTick tick) other) := by
  have requested := submitCancelRequest_mirror mirrored tick.receiveTsNs
  have due : CancelDue config (mirrorTick tick) other ↔ CancelDue config tick objects := by
    rw [CancelDue, CancelDue, mirrored.state, mirrored.passiveSubmitTs]
  by_cases cancels : CancelDue config tick objects
  · have busy : objects.orderManager.state ≠ .idle := by
      intro none
      rcases cancels.2.1 with state | state <;> simp [none] at state
    have side : other.orderManager.side = oppositeSide objects.orderManager.side := by
      rw [mirrored.orderManager]
      exact reflectOrder_side busy
    obtain ⟨sent, gateway, order⟩ := requested
    simp only [cancelPhase, if_pos cancels, if_pos (due.2 cancels)]
    constructor
    · exact ⟨mirrored.accounting, gateway, order, mirrored.clientOrderId,
        mirrored.passiveSubmitTs⟩
    · dsimp only
      rw [sent, mirrored.state, side, emitTransition_reflect]
      split_ifs <;> rfl
  · rw [cancelPhase, if_neg cancels, cancelPhase, if_neg (fun later => cancels (due.1 later))]
    exact ⟨mirrored, rfl⟩

/-- A passive order joins the other side of the reflected book. -/
theorem orderToSend_reflect (config : ReplayConfig) (tick : MarketTick) (order : OrderRequest) :
    orderToSend config (mirrorTick tick) { order with side := oppositeSide order.side } =
      { orderToSend config tick order with
        side := oppositeSide order.side
        limitPrice :=
          reflectLimit config.executionStyle (orderToSend config tick order).limitPrice } := by
  obtain ⟨side, quantity, limitPrice⟩ := order
  by_cases passive : config.executionStyle = .passive
  · cases side <;> simp [orderToSend, reflectLimit, passive, oppositeSide]
  · simp [orderToSend, reflectLimit, passive]

theorem gatewayRequest_mirror (config : ReplayConfig) (tick : MarketTick) (clientOrderId : Int)
    (order : OrderRequest) :
    MirrorOrder pivot (gatewayRequest config tick clientOrderId order)
      (gatewayRequest config (mirrorTick tick) clientOrderId { order with
        side := oppositeSide order.side
        limitPrice := reflectLimit config.executionStyle order.limitPrice }) := by
  refine ⟨rfl, rfl, rfl, ⟨rfl, rfl, fun passive => ?_⟩⟩
  exact if_pos passive

theorem sendOrder_mirror (centered : exact → Centered tick)
    (mirrored : MirrorObjects config exact objects other)
    {request otherRequest : GatewayNewOrder} (requested : MirrorOrder pivot request otherRequest) :
    MirrorEffect config exact (sendOrder config tick request objects)
      (sendOrder config (mirrorTick tick) otherRequest other) := by
  obtain ⟨accepted, next⟩ := sendNew_mirror mirrored.gateway requested
  have sent : MirrorObjects config exact
      { objects with gateway := (sendNew objects.gateway request).2 }
      { other with gateway := (sendNew other.gateway otherRequest).2 } :=
    ⟨mirrored.accounting, next, mirrored.orderManager, mirrored.clientOrderId,
      mirrored.passiveSubmitTs⟩
  simp only [sendOrder, accepted]
  split_ifs with taken passive
  · exact ⟨⟨sent.accounting, next, sent.orderManager, sent.clientOrderId, rfl⟩, rfl⟩
  · exact ⟨sent, rfl⟩
  · exact handleVenueEvent_mirror centered sent ⟨.newReject, tick.receiveTsNs, 0, 0, 0⟩ _ _

theorem submitPhase_mirror (centered : exact → Centered tick)
    (mirrored : MirrorObjects config exact objects other) {order : OrderRequest}
    (positive : 0 < order.quantity) :
    MirrorEffect config exact (submitPhase config tick order objects)
      (submitPhase config (mirrorTick tick) { order with side := oppositeSide order.side }
        other) := by
  cases live : objects.orderManager.state.isLive with
  | true =>
    have otherLive : other.orderManager.state.isLive = true := by rwa [mirrored.state]
    rw [submitPhase_live config tick order live, submitPhase_live config _ _ otherLive]
    refine ⟨⟨mirrored.accounting, mirrored.gateway, mirrored.orderManager, ?_,
      mirrored.passiveSubmitTs⟩, rfl⟩
    rw [mirrored.clientOrderId]
  | false =>
    have otherFree : other.orderManager.state.isLive = false := by rwa [mirrored.state]
    have side := (orderToSend_quantity config tick order).2
    have reflected := orderToSend_reflect config tick order
    have submitted : MirrorObjects config exact (submittedObjects config tick order objects)
        (submittedObjects config (mirrorTick tick) { order with side := oppositeSide order.side }
          other) := by
      refine ⟨mirrored.accounting, mirrored.gateway, ?_, ?_, mirrored.passiveSubmitTs⟩
      · simp [submittedObjects, submittedOrder, reflectOrder, turnOrder, reflected, side,
          mirrored.clientOrderId]
      · simp [submittedObjects, mirrored.clientOrderId]
    have requested := gatewayRequest_mirror config tick objects.clientOrderId
      (orderToSend config tick order)
    rw [side, ← reflected, ← mirrored.clientOrderId] at requested
    have sent := sendOrder_mirror centered submitted requested
    rw [submitPhase_free config tick live positive,
      @submitPhase_free config (mirrorTick tick) { order with side := oppositeSide order.side }
        other otherFree positive]
    rw [mirrored.clientOrderId] at sent ⊢
    constructor
    · exact sent.objects
    · simp only [List.map_append, List.map_cons, List.map_nil, ← sent.actions]
      rfl

/-- Uncrossed quotes signal on at most one side, and the reflected ones on the other. -/
theorem strategy_reflect (uncrossed : tick.bidPrice ≤ tick.askPrice) :
    (strategy.onTick (mirrorTick tick)).hasOrder = (strategy.onTick tick).hasOrder ∧
      ((strategy.onTick tick).hasOrder = true →
        (strategy.onTick (mirrorTick tick)).order = { (strategy.onTick tick).order with
          side := oppositeSide (strategy.onTick tick).order.side }) := by
  have buys : (mirrorTick tick).askPrice ≤ strategy.buyBelow ↔
      tick.bidPrice ≥ strategy.sellAbove := by
    show pivot - tick.bidPrice ≤ strategy.buyBelow ↔ _
    unfold pivot
    constructor <;> intro crosses <;> linarith
  have sells : (mirrorTick tick).bidPrice ≥ strategy.sellAbove ↔
      tick.askPrice ≤ strategy.buyBelow := by
    show pivot - tick.askPrice ≥ strategy.sellAbove ↔ _
    unfold pivot
    constructor <;> intro crosses <;> linarith
  have wide : strategy.buyBelow < strategy.sellAbove := by decide
  unfold Strategy.onTick
  rw [if_congr buys rfl rfl, if_congr sells rfl rfl]
  split_ifs with low high
  · exact absurd (low.trans (uncrossed.trans high)) (not_le.2 wide)
  · exact ⟨rfl, fun _ => rfl⟩
  · exact ⟨rfl, fun _ => rfl⟩
  · exact ⟨rfl, fun signal => by cases signal⟩

/-- Risk looks at the size of the projected position alone. -/
theorem risk_reflect {position otherPosition : PositionState}
    (netQty : otherPosition.netQty = -position.netQty) (order : OrderRequest) :
    risk.evaluate otherPosition { order with side := oppositeSide order.side } =
      risk.evaluate position order := by
  have projected : otherPosition.netQty + sideSign (oppositeSide order.side) * order.quantity =
      -(position.netQty + sideSign order.side * order.quantity) := by
    rw [netQty]
    cases order.side <;> simp [oppositeSide, sideSign] <;> ring
  simp only [RiskEngine.evaluate, projected]
  split_ifs with nothing fits other other
  · rfl
  · rfl
  · exact absurd ⟨by omega, by omega⟩ other
  · exact absurd ⟨by omega, by omega⟩ fits
  · rfl

theorem decisionPhase_mirror (centered : exact → Centered tick)
    (uncrossed : tick.bidPrice ≤ tick.askPrice)
    (mirrored : MirrorObjects config exact objects other) :
    MirrorEffect config exact (decisionPhase config tick objects)
      (decisionPhase config (mirrorTick tick) other) := by
  obtain ⟨sameSignal, turned⟩ := strategy_reflect uncrossed
  simp only [decisionPhase, sameSignal]
  by_cases signal : (strategy.onTick tick).hasOrder = true
  · have positive : 0 < (strategy.onTick tick).order.quantity := by
      rw [Strategy.onTick_quantity signal]
      decide
    rw [if_pos signal, if_pos signal, turned signal,
      risk_reflect mirrored.accounting.netQty (strategy.onTick tick).order]
    split_ifs
    · exact MirrorEffect.andThen ⟨mirrored, rfl⟩ (submitPhase_mirror centered mirrored positive)
    · exact MirrorEffect.andThen ⟨mirrored, rfl⟩ ⟨mirrored, rfl⟩
  · rw [if_neg signal, if_neg signal]
    exact ⟨mirrored, rfl⟩

theorem tickEffect_mirror (centered : exact → Centered tick)
    (uncrossed : tick.bidPrice ≤ tick.askPrice)
    (mirrored : MirrorObjects config exact objects other) :
    MirrorEffect config exact (tickEffect config tick objects)
      (tickEffect config (mirrorTick tick) other) := by
  have venue := venuePhase_mirror centered (markObjects_mirror centered mirrored)
  have canceled := @cancelPhase_mirror config exact _ _ tick (stopTimer_mirror venue.objects)
  have own : MirrorEffect config exact
      (ownPhase config tick (venuePhase tick (markObjects tick objects)).objects)
      (ownPhase config (mirrorTick tick)
        (venuePhase (mirrorTick tick) (markObjects (mirrorTick tick) other)).objects) :=
    canceled.andThen (decisionPhase_mirror centered uncrossed canceled.objects)
  have all := venue.andThen own
  rw [tickEffect_eq, tickEffect_eq]
  constructor
  · exact all.objects
  · rw [List.map_append, all.actions]
    rfl

end Own

abbrev reflectRecord (record : ReplayRecord) : ReplayRecord :=
  { record with events := record.events.map reflectRow }

/-- Performing never looks into an event. -/
theorem perform_reflect (env : ReplayEnv) (config : ReplayConfig) (record : ReplayRecord)
    (action : Action) :
    perform env config (reflectRecord record) (reflectAction action) =
      reflectRecord (perform env config record action) := by
  cases action with
  | measure collector => rfl
  | count counter amount => rfl
  | emit event =>
    simp only [perform, reflectAction, emitEvent, recordLatency, deliver, List.length_map]
    cases config.sinkMode with
    | sync => cases env.consume record.events.length <;> simp
    | async => cases env.push record.events.length <;> simp

theorem performAll_reflect (env : ReplayEnv) (config : ReplayConfig) (record : ReplayRecord)
    (actions : List Action) :
    performAll env config (reflectRecord record) (actions.map reflectAction) =
      reflectRecord (performAll env config record actions) := by
  induction actions generalizing record with
  | nil => rfl
  | cons action rest ih =>
    calc performAll env config (reflectRecord record) ((action :: rest).map reflectAction)
        = performAll env config (reflectRecord (perform env config record action))
            (rest.map reflectAction) := by
          rw [← perform_reflect]
          rfl
      _ = _ := ih _

/-- The second replay is the first one in the mirror. -/
structure MirrorState (config : ReplayConfig) (exact : Prop) (s other : ReplayState) : Prop where
  objects : MirrorObjects config exact s.objects other.objects
  record : other.record = reflectRecord s.record

section Run
variable {config : ReplayConfig} {exact : Prop}

theorem runTick_mirror (env : ReplayEnv) {s other : ReplayState}
    (mirrored : MirrorState config exact s other) {tick : MarketTick}
    (fair : tick.bidPrice ≤ tick.askPrice ∧ (exact → Centered tick)) :
    MirrorState config exact (runTick env config tick s)
      (runTick env config (mirrorTick tick) other) := by
  have effect := tickEffect_mirror fair.2 fair.1 mirrored.objects
  constructor
  · exact effect.objects
  · simp only [runTick, effect.actions, mirrored.record, performAll_reflect]

theorem initialState_mirror (config : ReplayConfig) (exact : Prop) (tickCount : Nat) :
    MirrorState config exact (initialState tickCount) (initialState tickCount) := by
  have simulator : MirrorSim pivot exact ExecutionSimulator.fresh ExecutionSimulator.fresh :=
    @MirrorSim.mk pivot exact ExecutionSimulator.fresh .buy 0 0 (fun active => by cases active)
      (fun _ => rfl)
  have gateway : MirrorGateway pivot exact MockVenueGateway.fresh MockVenueGateway.fresh :=
    @MirrorGateway.mk pivot exact MockVenueGateway.fresh _ .buy .buy 0 0 simulator
      (fun active => by cases active)
  exact ⟨⟨⟨rfl, rfl, fun _ => rfl⟩, gateway, rfl, rfl, rfl⟩, rfl⟩

theorem run_mirror (env : ReplayEnv) {s other : ReplayState}
    (mirrored : MirrorState config exact s other) {ticks : List MarketTick}
    (fair : ∀ tick ∈ ticks, tick.bidPrice ≤ tick.askPrice ∧ (exact → Centered tick)) :
    MirrorState config exact ((machine env config).run s ticks)
      ((machine env config).run other (ticks.map mirrorTick)) := by
  apply (machine env config).run_lockstep (machine env config) mirrorTick
    (MirrorState config exact)
    (fun _ tick => tick.bidPrice ≤ tick.askPrice ∧ (exact → Centered tick))
    (fun _ _ _ related fair => runTick_mirror env related fair) mirrored ticks
  intro before tick after split
  exact fair tick (by rw [split]; simp)

end Run

/-- A report in the mirror. Orders, fills, times, counters and latencies are the
same; the position is the opposite one, and has cost what the pivot prices it
at. Where every mid is a price, so are profit and adverse fills. -/
structure MirrorResult (style : ExecutionStyle) (exact : Prop) (r other : ReplayResult) :
    Prop where
  counters : other.counters = r.counters
  latencies : other.latencies = r.latencies
  order : other.order = reflectOrder style r.order
  netQty : other.position.netQty = -r.position.netQty
  cash : other.pnl.cash = r.pnl.cash + pivot * r.position.netQty
  executionStats : { other.executionStats with
    adverseFillCount := r.executionStats.adverseFillCount } = r.executionStats
  adverse : exact → other.executionStats.adverseFillCount = r.executionStats.adverseFillCount
  profit : exact → other.pnl.realizedPnl + other.pnl.unrealizedPnl =
    r.pnl.realizedPnl + r.pnl.unrealizedPnl

theorem MirrorState.report {config : ReplayConfig} {exact : Prop} {s other : ReplayState}
    (mirrored : MirrorState config exact s other) :
    MirrorResult config.executionStyle exact
      (result s s.record.persistedEvents s.record.sinkFailed)
      (result other other.record.persistedEvents other.record.sinkFailed) := by
  obtain ⟨objects, record⟩ := mirrored
  have stats := objects.gateway.execution.stats
  constructor
  · simp only [result, record]
  · simp only [result, record]
  · exact objects.orderManager
  · exact objects.accounting.netQty
  · exact objects.accounting.cash
  · exact stats.1
  · exact stats.2
  · exact objects.accounting.profit

/-- No side of the market is favoured. The replay of a market seen from the
other side of the book writes the same rows on the other side, fills at the
reflected prices, and reports the mirror image of every figure. -/
theorem run_reflects (env : ReplayEnv) (config : ReplayConfig) (ticks : List MarketTick)
    (valid : ValidTicks ticks) (some : ticks ≠ []) :
    ∃ s other r otherReport,
      replayTicks env config ticks = .ok s ∧
      replayTicks env config (ticks.map mirrorTick) = .ok other ∧
      runReplay env config ticks = .ok r ∧
      runReplay env config (ticks.map mirrorTick) = .ok otherReport ∧
      other.record.events = s.record.events.map reflectRow ∧
      MirrorResult config.executionStyle (∀ tick ∈ ticks, Centered tick) r otherReport := by
  have otherSome : ticks.map mirrorTick ≠ [] := by simpa using some
  have otherSymbol : (ticks.map mirrorTick).Pairwise
      fun earlier later => earlier.symbolId = later.symbolId :=
    List.pairwise_map.2 valid.oneSymbol
  have otherRuns := replayTicks_run env config otherSome otherSymbol
  have otherReports := runReplay_run env config otherSome otherSymbol
  rw [List.length_map] at otherRuns otherReports
  have mirrored := run_mirror env
    (initialState_mirror config (∀ tick ∈ ticks, Centered tick) ticks.length)
    (fun tick member => ⟨(valid.rows tick member).bid_le_ask, fun all => all tick member⟩)
  refine ⟨_, _, _, _, replayTicks_run env config some valid.oneSymbol, otherRuns,
    runReplay_run env config some valid.oneSymbol, otherReports, ?_, mirrored.report⟩
  exact congrArg ReplayRecord.events mirrored.record

/-- A buy that fills in part. -/
def partTicks : List MarketTick :=
  [⟨1000, 1000, 99800, 99900, 1, 30, 20⟩, ⟨1200, 1200, 99700, 99900, 1, 30, 20⟩]

/-- Its reflection is a sale at the reflected price. -/
theorem run_reflects_part :
    ∃ s other r otherReport,
      replayTicks quietEnv ⟨.sync, .aggressive, 3000⟩ partTicks = .ok s ∧
      replayTicks quietEnv ⟨.sync, .aggressive, 3000⟩ (partTicks.map mirrorTick) = .ok other ∧
      runReplay quietEnv ⟨.sync, .aggressive, 3000⟩ partTicks = .ok r ∧
      runReplay quietEnv ⟨.sync, .aggressive, 3000⟩ (partTicks.map mirrorTick) =
        .ok otherReport ∧
      other.record.events = s.record.events.map reflectRow ∧
      MirrorResult .aggressive (∀ tick ∈ partTicks, Centered tick) r otherReport :=
  run_reflects quietEnv ⟨.sync, .aggressive, 3000⟩ partTicks (by decide) (by decide)

end TradingKernel.ReplayReflection
