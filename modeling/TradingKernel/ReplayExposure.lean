import TradingKernel.ReplayAgreement

/-!
The position limit at every point of a replay. Risk looks at the filled
position only; the bound on what is still open comes from the order manager's
refusal of a second order and from fills that never exceed the open quantity.
-/

namespace TradingKernel.ReplayExposure
open Library OrderManager MockVenueGateway GatewayInvariant GatewayLink ReplayRunner ReplayRun
open ReplayPhases ReplayAgreement Decision
open AccountingEngine (Engine applyFill markToMarket applyFill_netQty markToMarket_netQty)

/-- What is still open at the venue as far as the order manager knows. -/
def openQty (order : ManagedOrder) : Int := if order.state.isLive then order.leavesQty else 0

/-- The position and the position after a full fill of the open order are within the limit. -/
structure WithinLimit (objects : ReplayObjects) : Prop where
  filled : -200 ≤ objects.accounting.positionState.netQty ∧
    objects.accounting.positionState.netQty ≤ 200
  worst : -200 ≤ objects.accounting.positionState.netQty +
      sideSign objects.orderManager.side * openQty objects.orderManager ∧
    objects.accounting.positionState.netQty +
      sideSign objects.orderManager.side * openQty objects.orderManager ≤ 200

/-- Whatever the gateway holds is the order manager's one live order. -/
structure OneOutstanding (objects : ReplayObjects) : Prop where
  exclusive : ¬(objects.gateway.pendingNew.active = true ∧
    objects.gateway.activeOrder.active = true)
  pending : objects.gateway.pendingNew.active = true → objects.orderManager.state.isLive = true ∧
    objects.gateway.pendingNew.request.clientOrderId = objects.orderManager.clientOrderId
  active : objects.gateway.activeOrder.active = true → objects.orderManager.state.isLive = true ∧
    objects.gateway.activeOrder.clientOrderId = objects.orderManager.clientOrderId

section
variable (config : ReplayConfig) (tick : MarketTick)

/-- The points of `handleFill`: accounting updated, then marked. -/
def fillPoints (fill : Fill) (objects : ReplayObjects) : List ReplayObjects :=
  if fill.quantity ≤ 0 then []
  else [{ objects with accounting := (applyFill objects.accounting fill).2 },
    (handleFill fill tick objects).objects]

/-- The points of `handleVenueEvent`: order updated, then those of its fill. -/
def eventPoints (event : VenueEvent) (objects : ReplayObjects) : List ReplayObjects :=
  let (outcome, fill, orderManager) := onVenueEvent objects.orderManager event
  let objects := { objects with orderManager := orderManager }
  objects :: if outcome = .applied then fillPoints tick fill objects else []

def batchPoints : List VenueEvent → ReplayObjects → List ReplayObjects
  | [], _ => []
  | event :: rest, objects =>
    eventPoints tick event objects ++ batchPoints rest
      (handleVenueEvent event objects.orderManager.side tick objects).objects

/-- The points of the venue part: gateway asked, then those of its batch. -/
def venuePoints (objects : ReplayObjects) : List ReplayObjects :=
  let (batch, gateway) := MockVenueGateway.onTick objects.gateway tick
  let objects := { objects with gateway := gateway }
  objects :: batchPoints tick batch.events objects

/-- The points of the timer part: timer stopped, gateway told, order updated. -/
def cancelPoints (objects : ReplayObjects) : List ReplayObjects :=
  let objects := stopTimer objects
  objects ::
    if ReplayRunner.CancelDue config tick objects then
      [{ objects with gateway :=
          (submitCancelRequest objects.gateway objects.orderManager tick.receiveTsNs).2.1 },
        (cancelPhase config tick objects).objects]
    else []

/-- The points of the decision part: order submitted locally, then sent. -/
def decisionPoints (objects : ReplayObjects) : List ReplayObjects :=
  let decision := strategy.onTick tick
  if decision.hasOrder ∧
      (risk.evaluate objects.accounting.positionState decision.order).accepted then
    let order := orderToSend config tick decision.order
    [{ objects with
        clientOrderId := objects.clientOrderId + 1
        orderManager := (submitNew objects.orderManager objects.clientOrderId order.side
          order.limitPrice order.quantity).2 },
      (decisionPhase config tick objects).objects]
  else []

/-- Every point of a tick at which an object has just changed. -/
def tickPoints (objects : ReplayObjects) : List ReplayObjects :=
  let marked := markObjects tick objects
  let answered := (venuePhase tick marked).objects
  let timed := (cancelPhase config tick (stopTimer answered)).objects
  marked :: venuePoints tick marked ++ cancelPoints config tick answered ++
    decisionPoints config tick timed ++ [(tickEffect config tick objects).objects]

def beforeDecision (objects : ReplayObjects) : ReplayObjects :=
  (cancelPhase config tick
    (stopTimer (venuePhase tick (markObjects tick objects)).objects)).objects

end

theorem openQty_live {order : ManagedOrder} (live : order.state.isLive = true) :
    openQty order = order.leavesQty := by
  rw [openQty, if_pos live]

theorem openQty_closed {order : ManagedOrder} (closed : order.state.isLive = false) :
    openQty order = 0 := by
  simp [openQty, closed]

theorem withinLimit_closed {objects : ReplayObjects} (limit : WithinLimit objects)
    {order : Manager} (closed : order.state.isLive = false) :
    WithinLimit { objects with orderManager := order } := by
  refine ⟨limit.filled, ?_⟩
  rw [openQty_closed closed, Int.mul_zero, Int.add_zero]
  exact limit.filled

/-- A change that keeps what is open keeps the exposure. -/
theorem withinLimit_same {objects next : ReplayObjects} (limit : WithinLimit objects)
    (net : next.accounting.positionState.netQty = objects.accounting.positionState.netQty)
    (side : next.orderManager.side = objects.orderManager.side)
    (qty : openQty next.orderManager = openQty objects.orderManager) : WithinLimit next := by
  constructor
  · rw [net]
    exact limit.filled
  · rw [net, side, qty]
    exact limit.worst

/-- Part of an exposure within the limit is within the limit. -/
theorem partial_within {net sign qty part : Int} (unit : sign = 1 ∨ sign = -1)
    (filled : -200 ≤ net ∧ net ≤ 200) (worst : -200 ≤ net + sign * qty ∧ net + sign * qty ≤ 200)
    (low : 0 ≤ part) (high : part ≤ qty) :
    -200 ≤ net + sign * part ∧ net + sign * part ≤ 200 := by
  rcases unit with rfl | rfl <;> omega

/-- The order as an accepted fill leaves it. -/
abbrev afterFill (order : Manager) (qty : Int) : Manager :=
  { order with
    cumQty := order.cumQty + qty
    leavesQty := order.leavesQty - qty
    state := stateAfterFill (order.leavesQty - qty) }

theorem openQty_afterFill (order : Manager) (qty : Int) :
    openQty (afterFill order qty) = order.leavesQty - qty := by
  unfold afterFill stateAfterFill
  split_ifs with done
  · rw [openQty_closed rfl]
    exact done.symm
  · exact openQty_live rfl

section Fill
variable {objects : ReplayObjects} (limit : WithinLimit objects)
  (live : objects.orderManager.state.isLive = true) {qty : Int} (positive : 0 < qty)
  (bounded : qty ≤ objects.orderManager.leavesQty)
include limit live positive bounded

/-- The order has been filled and the account does not know of it yet. -/
theorem filled_withinLimit :
    WithinLimit { objects with orderManager := afterFill objects.orderManager qty } := by
  have worst := limit.worst
  rw [openQty_live live] at worst
  refine ⟨limit.filled, ?_⟩
  rw [openQty_afterFill]
  exact partial_within (sideSign_cases _) limit.filled worst (by omega) (by omega)

/-- The account has booked the fill: what was open is now held. -/
theorem booked_withinLimit {engine : Engine}
    (net : engine.positionState.netQty = objects.accounting.positionState.netQty +
      sideSign objects.orderManager.side * qty) :
    WithinLimit { objects with
      accounting := engine
      orderManager := afterFill objects.orderManager qty } := by
  have unit := sideSign_cases objects.orderManager.side
  have worst := limit.worst
  rw [openQty_live live] at worst
  constructor
  · rw [net]
    exact partial_within unit limit.filled worst positive.le bounded
  · rw [net, openQty_afterFill]
    rcases unit with buy | sell
    · simp only [buy] at worst ⊢
      omega
    · simp only [sell] at worst ⊢
      omega

end Fill

theorem applied_withinLimit {objects : ReplayObjects} (limit : WithinLimit objects)
    {event : VenueEvent} {fill : Fill} {next : Manager}
    (applies : Applies objects.orderManager event fill next) (tick : MarketTick) :
    WithinLimit { objects with orderManager := next } ∧
      ∀ point ∈ fillPoints tick fill { objects with orderManager := next }, WithinLimit point := by
  have live := applies.live
  cases applies with
  | newAck kind state id =>
    refine ⟨withinLimit_same limit rfl rfl ?_, by simp [fillPoints, Fill.empty]⟩
    rw [openQty_live live]
    rfl
  | newReject kind state =>
    exact ⟨withinLimit_closed limit rfl, by simp [fillPoints, Fill.empty]⟩
  | fill kind state named positive bounded =>
    refine ⟨filled_withinLimit limit live positive bounded, ?_⟩
    intro point member
    rw [fillPoints, if_neg (by simp only; omega), handleFill_positive positive] at member
    rcases List.mem_pair.1 member with rfl | rfl
    · exact booked_withinLimit limit live positive bounded (applyFill_netQty _ _ positive)
    · exact booked_withinLimit limit live positive bounded
        ((markToMarket_netQty _ _).trans (applyFill_netQty _ _ positive))
  | cancelAck kind state named =>
    exact ⟨withinLimit_closed limit rfl, by simp [fillPoints, Fill.empty]⟩
  | cancelReject kind state named =>
    refine ⟨withinLimit_same limit rfl rfl ?_, by simp [fillPoints, Fill.empty]⟩
    rw [openQty_live live, openQty_live]
    simp only [stateAfterCancelReject]
    split_ifs <;> rfl
  | expired kind state named =>
    exact ⟨withinLimit_closed limit rfl, by simp [fillPoints, Fill.empty]⟩

theorem event_withinLimit {objects : ReplayObjects} (limit : WithinLimit objects)
    (event : VenueEvent) (tick : MarketTick) :
    (∀ point ∈ eventPoints tick event objects, WithinLimit point) ∧
      WithinLimit
        (handleVenueEvent event objects.orderManager.side tick objects).objects := by
  rcases onVenueEvent_cases objects.orderManager event with
    ⟨fill, next, result, applies⟩ | ⟨outcome, refused, result⟩
  · obtain ⟨updated, filled⟩ := applied_withinLimit limit applies tick
    constructor
    · intro point member
      simp only [eventPoints, result, if_true] at member
      rcases List.mem_cons.1 member with rfl | later
      · exact updated
      · exact filled point later
    · rw [handleVenueEvent_applied applies]
      by_cases positive : 0 < fill.quantity
      · apply filled
        rw [fillPoints, if_neg (by omega)]
        simp
      · simp only [handleFill, if_pos (show fill.quantity ≤ 0 by omega)]
        exact updated
  · constructor
    · intro point member
      simp only [eventPoints, result, if_neg refused, List.mem_singleton] at member
      rw [member]
      exact limit
    · rw [handleVenueEvent_refused refused result]
      exact limit

theorem batch_withinLimit {objects : ReplayObjects} (limit : WithinLimit objects)
    (events : List VenueEvent) (tick : MarketTick) :
    (∀ point ∈ batchPoints tick events objects, WithinLimit point) ∧
      WithinLimit (handleBatch tick events objects).objects := by
  induction events generalizing objects with
  | nil => exact ⟨by simp [batchPoints], limit⟩
  | cons event rest ih =>
    obtain ⟨points, next⟩ := event_withinLimit limit event tick
    obtain ⟨restPoints, last⟩ := ih next
    refine ⟨?_, last⟩
    intro point member
    rcases List.mem_append.1 member with first | later
    · exact points point first
    · exact restPoints point later

/-- A gateway linked to where the rest of a batch leads holds the current order. -/
theorem linked_outstanding {objects : ReplayObjects} (events : List VenueEvent)
    (wellFormed : WellFormed objects.gateway)
    (linked : Linked objects.gateway (applyEvents objects.orderManager events)) :
    OneOutstanding objects := by
  obtain ⟨same, revives⟩ := applyEvents_sameOrder objects.orderManager events
  constructor
  · rintro ⟨pending, active⟩
    simp [wellFormed.exclusive pending] at active
  · intro pending
    rcases linked with paired | stranded
    · cases paired with
      | free unpending idle notLive => simp [unpending] at pending
      | pending _ requests =>
        have last : (applyEvents objects.orderManager events).state.isLive = true := by
          simp [requests.state, OrderState.isLive]
        exact ⟨revives last, requests.client.symm.trans same⟩
      | active active serves => simp [wellFormed.exclusive pending] at active
    · simp [stranded.unpending] at pending
  · intro active
    rcases linked with paired | stranded
    · have serves := paired_active wellFormed paired active
      exact ⟨revives (serves_live serves), serves.client.symm.trans same⟩
    · simp [stranded.idle] at active

theorem fillPoints_venue {tick : MarketTick} {fill : Fill} {objects point : ReplayObjects}
    (member : point ∈ fillPoints tick fill objects) :
    point.gateway = objects.gateway ∧ point.orderManager = objects.orderManager := by
  unfold fillPoints at member
  split_ifs at member
  · simp at member
  · rcases List.mem_pair.1 member with rfl | rfl
    · exact ⟨rfl, rfl⟩
    · obtain ⟨same, order⟩ := handleFill_sameVenue fill tick objects
      exact ⟨same.gateway, order⟩

theorem eventPoints_venue {tick : MarketTick} {event : VenueEvent}
    {objects point : ReplayObjects} (member : point ∈ eventPoints tick event objects) :
    point.gateway = objects.gateway ∧
      point.orderManager = (onVenueEvent objects.orderManager event).2.2 := by
  simp only [eventPoints] at member
  rcases List.mem_cons.1 member with rfl | later
  · exact ⟨rfl, rfl⟩
  · split_ifs at later
    · exact fillPoints_venue later
    · simp at later

theorem batch_outstanding {objects : ReplayObjects} (events : List VenueEvent)
    (tick : MarketTick) (wellFormed : WellFormed objects.gateway)
    (linked : Linked objects.gateway (applyEvents objects.orderManager events)) :
    ∀ point ∈ batchPoints tick events objects, OneOutstanding point := by
  induction events generalizing objects with
  | nil => simp [batchPoints]
  | cons event rest ih =>
    obtain ⟨same, order⟩ := handleVenueEvent_objects event objects.orderManager.side tick objects
    intro point member
    rcases List.mem_append.1 member with first | later
    · obtain ⟨gateway, orderManager⟩ := eventPoints_venue first
      apply linked_outstanding rest (by rwa [gateway])
      rw [gateway, orderManager]
      exact linked
    · apply ih _ _ point later
      · rwa [same.gateway]
      · rw [same.gateway, order]
        exact linked

/-- What holds of the objects between the parts of a tick. -/
structure Safe (objects : ReplayObjects) : Prop where
  sound : Sound objects
  limit : WithinLimit objects

theorem Safe.outstanding {objects : ReplayObjects} (safe : Safe objects) :
    OneOutstanding objects :=
  linked_outstanding [] safe.sound.wellFormed safe.sound.linked

def Holds (point : ReplayObjects) : Prop := WithinLimit point ∧ OneOutstanding point

theorem Safe.holds {objects : ReplayObjects} (safe : Safe objects) : Holds objects :=
  ⟨safe.limit, safe.outstanding⟩

theorem markObjects_safe {objects : ReplayObjects} (safe : Safe objects) (tick : MarketTick) :
    Safe (markObjects tick objects) :=
  ⟨markObjects_sound safe.sound tick,
    withinLimit_same safe.limit (markToMarket_netQty _ _) rfl rfl⟩

theorem venue_safe {objects : ReplayObjects} (safe : Safe objects) {tick : MarketTick}
    (nonneg : NonNegative tick) :
    (∀ point ∈ venuePoints tick objects, Holds point) ∧ Safe (venuePhase tick objects).objects := by
  have sound := safe.sound
  obtain ⟨events, next, ticks, result⟩ := onTick_ticks sound.wellFormed.coherent tick
  have wellFormed := ticks.wellFormed sound.wellFormed nonneg
  have linked := (tick_linked ticks sound.linked sound.wellFormed sound.latency nonneg).1
  have answered : WithinLimit { objects with gateway := next } :=
    withinLimit_same safe.limit rfl rfl rfl
  obtain ⟨points, last⟩ := batch_withinLimit answered events tick
  constructor
  · intro point member
    simp only [venuePoints, result] at member
    rcases List.mem_cons.1 member with rfl | later
    · exact ⟨answered, linked_outstanding events wellFormed linked⟩
    · exact ⟨points point later, batch_outstanding events tick wellFormed linked point later⟩
  · refine ⟨(venuePhase_keeps sound nonneg).1, ?_⟩
    rw [venuePhase_eq, result]
    exact last

theorem stopTimer_safe {objects : ReplayObjects} (safe : Safe objects) :
    Safe (stopTimer objects) := by
  obtain ⟨_, orderManager, accounting, _⟩ := stopTimer_keeps objects
  refine ⟨safe.sound.timed.sound, ?_⟩
  exact withinLimit_same safe.limit (by rw [accounting]) (by rw [orderManager])
    (by rw [orderManager])

/-- A cancel moves a live order to another live state. -/
theorem cancelPhase_withinLimit {objects : ReplayObjects} (limit : WithinLimit objects)
    (config : ReplayConfig) (tick : MarketTick) :
    WithinLimit (cancelPhase config tick objects).objects := by
  rcases cancelPhase_cases config tick objects with ⟨due, _, _, result⟩ | result
  · rw [result]
    have live := OrderState.live_of_cancelable due.2.1
    apply withinLimit_same limit
    · rfl
    · rfl
    · exact (openQty_live rfl).trans (openQty_live live).symm
  · rw [result]
    exact limit

/-- Telling the gateway about a cancel does not move its order. -/
theorem canceling_outstanding {objects : ReplayObjects} (safe : Safe objects)
    (requestTsNs : TimestampNs) :
    OneOutstanding { objects with gateway :=
      (submitCancelRequest objects.gateway objects.orderManager requestTsNs).2.1 } := by
  have outstanding := safe.outstanding
  rcases submitCancelRequest_cases objects.gateway objects.orderManager requestTsNs with
    ⟨_, active, unsent, result⟩ | result
  · rw [result]
    rcases sendCancel_cases objects.gateway requestTsNs with ⟨_, _, sent⟩ | ⟨_, sent⟩
    · rw [sent]
      exact ⟨outstanding.exclusive, outstanding.pending, outstanding.active⟩
    · rw [sent]
      exact outstanding
  · rw [result]
    exact outstanding

theorem cancel_safe {objects : ReplayObjects} (safe : Safe objects) (config : ReplayConfig)
    (tick : MarketTick) :
    (∀ point ∈ cancelPoints config tick objects, Holds point) ∧
      Safe (cancelPhase config tick (stopTimer objects)).objects := by
  have timer := stopTimer_safe safe
  have next : Safe (cancelPhase config tick (stopTimer objects)).objects :=
    ⟨(safe.sound.canceled config tick).sound,
      cancelPhase_withinLimit timer.limit config tick⟩
  refine ⟨?_, next⟩
  intro point member
  simp only [cancelPoints] at member
  rcases List.mem_cons.1 member with rfl | later
  · exact timer.holds
  · split_ifs at later
    · rcases List.mem_pair.1 later with rfl | rfl
      · exact ⟨withinLimit_same timer.limit rfl rfl rfl,
          canceling_outstanding timer tick.receiveTsNs⟩
      · exact next.holds
    · simp at later

/-- An order that risk accepted fits on top of the filled position. -/
theorem submitted_withinLimit {objects next : ReplayObjects} (limit : WithinLimit objects)
    {order : OrderRequest} {clientOrderId : Int}
    (accepted : (risk.evaluate objects.accounting.positionState order).accepted = true)
    (accounting : next.accounting = objects.accounting)
    {sent : OrderRequest} (same : sent.quantity = order.quantity ∧ sent.side = order.side)
    (submitted : next.orderManager = submittedOrder clientOrderId sent) : WithinLimit next := by
  obtain ⟨positive, low, high⟩ := (RiskEngine.evaluate_accepted _ _ _).1 accepted
  constructor
  · rw [accounting]
    exact limit.filled
  · rw [accounting, submitted, openQty_live rfl]
    simp only [submittedOrder, same.1, same.2]
    exact ⟨low, high⟩

theorem submitPhase_withinLimit {objects : ReplayObjects} (safe : Safe objects)
    (config : ReplayConfig) (tick : MarketTick) {order : OrderRequest}
    (accepted : (risk.evaluate objects.accounting.positionState order).accepted = true) :
    WithinLimit (submitPhase config tick order objects).objects := by
  have positive := ((RiskEngine.evaluate_accepted _ _ _).1 accepted).1
  cases live : objects.orderManager.state.isLive with
  | true =>
    rw [submitPhase_live config tick order live]
    exact withinLimit_same safe.limit rfl rfl rfl
  | false =>
    rw [submitPhase_sound safe.sound config tick positive live]
    exact submitted_withinLimit safe.limit accepted rfl (orderToSend_quantity config tick order) rfl

/-- Between the local submission and the gateway call, the new order is the only one. -/
theorem submitting_holds {objects : ReplayObjects} (safe : Safe objects)
    (config : ReplayConfig) (tick : MarketTick) {order : OrderRequest}
    (accepted : (risk.evaluate objects.accounting.positionState order).accepted = true) :
    Holds { objects with
      clientOrderId := objects.clientOrderId + 1
      orderManager := (submitNew objects.orderManager objects.clientOrderId
        (orderToSend config tick order).side (orderToSend config tick order).limitPrice
        (orderToSend config tick order).quantity).2 } := by
  have positive := ((RiskEngine.evaluate_accepted _ _ _).1 accepted).1
  have same := orderToSend_quantity config tick order
  cases live : objects.orderManager.state.isLive with
  | true =>
    rw [submitNew_live live]
    have outstanding := safe.outstanding
    exact ⟨withinLimit_same safe.limit rfl rfl rfl,
      outstanding.exclusive, outstanding.pending, outstanding.active⟩
  | false =>
    obtain ⟨unpending, idle⟩ := safe.sound.gatewayFree live
    rw [submitNew_free live _ _ _ (by omega)]
    refine ⟨submitted_withinLimit safe.limit accepted rfl same rfl, ?_, ?_, ?_⟩
    · simp [unpending]
    · simp [unpending]
    · simp [idle]

theorem decision_safe {objects : ReplayObjects} (safe : Safe objects) (config : ReplayConfig)
    (tick : MarketTick) :
    (∀ point ∈ decisionPoints config tick objects, Holds point) ∧
      Safe (decisionPhase config tick objects).objects := by
  have next : Safe (decisionPhase config tick objects).objects := by
    refine ⟨(decisionPhase_keeps safe.sound config tick).sound, ?_⟩
    rcases decisionPhase_cases config tick objects with
      ⟨_, result⟩ | ⟨_, _, result⟩ | ⟨_, accepted, result⟩
    · rw [result]
      exact safe.limit
    · rw [result]
      exact safe.limit
    · rw [result]
      exact submitPhase_withinLimit safe config tick accepted
  refine ⟨?_, next⟩
  intro point member
  simp only [decisionPoints] at member
  split_ifs at member with asked
  · rcases List.mem_pair.1 member with rfl | rfl
    · exact submitting_holds safe config tick asked.2
    · exact next.holds
  · simp at member

theorem tick_safe {objects : ReplayObjects} (safe : Safe objects) (config : ReplayConfig)
    {tick : MarketTick} (nonneg : NonNegative tick) :
    (∀ point ∈ tickPoints config tick objects, Holds point) ∧
      Safe (beforeDecision config tick objects) ∧
      Safe (tickEffect config tick objects).objects := by
  have marked := markObjects_safe safe tick
  obtain ⟨venue, answered⟩ := venue_safe marked nonneg
  obtain ⟨cancel, timed⟩ := cancel_safe answered config tick
  obtain ⟨decision, last⟩ := decision_safe timed config tick
  refine ⟨?_, timed, last⟩
  intro point member
  simp only [tickPoints, List.mem_append, List.mem_cons, List.not_mem_nil, or_false] at member
  rcases member with (((rfl | inVenue) | inCancel) | inDecision) | rfl
  · exact marked.holds
  · exact venue point inVenue
  · exact cancel point inCancel
  · exact decision point inDecision
  · exact last.holds

theorem initialObjects_safe : Safe initialObjects :=
  ⟨initialObjects_sound, ⟨by decide, by decide⟩, by decide, by decide⟩

/-- A successful local submission always finds the gateway ready. -/
def GatewayReady (objects : ReplayObjects) : Prop :=
  ∀ request : GatewayNewOrder,
    (submitNew objects.orderManager request.clientOrderId request.side request.limitPrice
      request.quantity).1 = true →
    (sendNew objects.gateway request).1 = true

theorem Safe.gatewayReady {objects : ReplayObjects} (safe : Safe objects) :
    GatewayReady objects := by
  intro request submitted
  rw [submitNew_eq] at submitted
  split_ifs at submitted with free
  · obtain ⟨unpending, idle⟩ := safe.sound.gatewayFree free.2
    rw [sendNew_free unpending idle free.1]

/-- At every point of a replay the worst-case exposure is within the limit and
at most one order is outstanding; no local submission is refused by the gateway. -/
theorem run_withinLimit (env : ReplayEnv) (config : ReplayConfig) (ticks : List MarketTick)
    (valid : ValidTicks ticks) :
    ∀ before tick after, ticks = before ++ tick :: after →
      (∀ point ∈ (stateAfter env config ticks.length before).objects ::
          tickPoints config tick (stateAfter env config ticks.length before).objects,
        WithinLimit point ∧ OneOutstanding point) ∧
        GatewayReady
          (beforeDecision config tick (stateAfter env config ticks.length before).objects) := by
  intro before tick after split
  have rows : ∀ row ∈ before ++ [tick], NonNegative row :=
    (valid.take ⟨after, by simp [split]⟩).nonNegative
  have safe : Safe (stateAfter env config ticks.length before).objects :=
    (machine env config).run_invariant (fun s => Safe s.objects) NonNegative
      initialObjects_safe (fun _ _ safe nonneg => (tick_safe safe config nonneg).2.2) before
      (fun row member => rows row (List.mem_append_left _ member))
  obtain ⟨points, timed, _⟩ := tick_safe safe config (rows tick (by simp))
  refine ⟨?_, timed.gatewayReady⟩
  intro point member
  rcases List.mem_cons.1 member with rfl | later
  · exact safe.holds
  · exact points point later

/-- A buy signal on the first tick, its acknowledgment and a partial fill on the second. -/
theorem run_withinLimit_twoTicks :
    (∀ point ∈
        (stateAfter quietEnv ⟨.sync, .aggressive, 3000⟩ 2
          [⟨1000, 1000, 99500, 99900, 1, 50, 50⟩]).objects ::
        tickPoints ⟨.sync, .aggressive, 3000⟩ ⟨2000, 2000, 99700, 100100, 1, 50, 20⟩
          (stateAfter quietEnv ⟨.sync, .aggressive, 3000⟩ 2
            [⟨1000, 1000, 99500, 99900, 1, 50, 50⟩]).objects,
      WithinLimit point ∧ OneOutstanding point) ∧
      GatewayReady
        (beforeDecision ⟨.sync, .aggressive, 3000⟩ ⟨2000, 2000, 99700, 100100, 1, 50, 20⟩
          (stateAfter quietEnv ⟨.sync, .aggressive, 3000⟩ 2
            [⟨1000, 1000, 99500, 99900, 1, 50, 50⟩]).objects) :=
  run_withinLimit quietEnv ⟨.sync, .aggressive, 3000⟩
    [⟨1000, 1000, 99500, 99900, 1, 50, 50⟩, ⟨2000, 2000, 99700, 100100, 1, 50, 20⟩] (by decide)
    [⟨1000, 1000, 99500, 99900, 1, 50, 50⟩] ⟨2000, 2000, 99700, 100100, 1, 50, 20⟩ [] rfl

end TradingKernel.ReplayExposure
