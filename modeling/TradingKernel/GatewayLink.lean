import TradingKernel.GatewayInvariant

/-!
How the order manager follows the gateway across ticks. As long as no cancel
answer reaches a partially filled order, every event is applied and both sides
hold the same order; such an answer is refused, and a refused cancel
acknowledgment leaves the order manager holding an order the venue has closed.
-/

namespace TradingKernel.GatewayLink
open Library OrderManager MockVenueGateway GatewayInvariant
open ExecutionSimulator (passiveFillQty reachableQty CancelDue)

/-- The order after a batch, applied or refused event by event. -/
def applyEvents (order : Manager) (events : List VenueEvent) : Manager :=
  events.foldl (fun order event => (onVenueEvent order event).2.2) order

/-- The outcomes of a batch, each event meeting the order its predecessors left. -/
def outcomes (order : Manager) : List VenueEvent → List VenueEventOutcome
  | [] => []
  | event :: rest =>
    (onVenueEvent order event).1 :: outcomes (onVenueEvent order event).2.2 rest

def Accepts (order : Manager) (events : List VenueEvent) : Prop :=
  ∀ outcome ∈ outcomes order events, outcome = .applied

@[simp] theorem applyEvents_nil (order : Manager) : applyEvents order [] = order := rfl

@[simp] theorem applyEvents_cons (order : Manager) (event : VenueEvent) (rest : List VenueEvent) :
    applyEvents order (event :: rest) = applyEvents (onVenueEvent order event).2.2 rest := rfl

theorem accepts_nil (order : Manager) : Accepts order [] := by
  simp [Accepts, outcomes]

theorem accepts_cons {order next : Manager} {event : VenueEvent} {fill : Fill}
    (applies : Applies order event fill next) (rest : List VenueEvent) :
    Accepts order (event :: rest) ↔ Accepts next rest := by
  simp [Accepts, outcomes, applies.eq]

theorem applyEvents_applied {order next : Manager} {event : VenueEvent} {fill : Fill}
    (applies : Applies order event fill next) (rest : List VenueEvent) :
    applyEvents order (event :: rest) = applyEvents next rest := by
  rw [applyEvents_cons, applies.eq]

/-- Events come from the venue: they neither replace the order nor revive it. -/
theorem onVenueEvent_sameOrder (order : Manager) (event : VenueEvent) :
    (onVenueEvent order event).2.2.clientOrderId = order.clientOrderId ∧
      ((onVenueEvent order event).2.2.state.isLive = true → order.state.isLive = true) := by
  rcases onVenueEvent_cases order event with ⟨fill, next, result, applies⟩ | ⟨_, _, result⟩
  · rw [result]
    refine ⟨?_, fun _ => applies.live⟩
    cases applies <;> rfl
  · rw [result]
    exact ⟨rfl, id⟩

theorem applyEvents_sameOrder (order : Manager) (events : List VenueEvent) :
    (applyEvents order events).clientOrderId = order.clientOrderId ∧
      ((applyEvents order events).state.isLive = true → order.state.isLive = true) := by
  induction events generalizing order with
  | nil => exact ⟨rfl, id⟩
  | cons event rest ih =>
    obtain ⟨client, live⟩ := onVenueEvent_sameOrder order event
    obtain ⟨clientRest, liveRest⟩ := ih (onVenueEvent order event).2.2
    exact ⟨clientRest.trans client, fun after => live (liveRest after)⟩

/-- The order manager's order is the request the gateway has not answered yet. -/
structure Requests (request : GatewayNewOrder) (order : Manager) : Prop where
  state : order.state = .pendingNewAck
  client : order.clientOrderId = request.clientOrderId
  side : order.side = request.side
  leaves : order.leavesQty = request.quantity

/-- The order manager waits for the acknowledgment of an order like the request. -/
structure Awaits (request : GatewayNewOrder) (order : Manager) : Prop where
  state : order.state = .pendingNewAck
  side : order.side = request.side
  leaves : order.leavesQty = request.quantity

theorem Requests.awaits {request : GatewayNewOrder} {order : Manager}
    (requests : Requests request order) : Awaits request order :=
  ⟨requests.state, requests.side, requests.leaves⟩

/-- The order manager's order is the gateway's active one. -/
structure Serves (gateway : Gateway) (order : Manager) : Prop where
  state : order.state = .acked ∨ order.state = .partiallyFilled ∨ order.state = .pendingCancel
  client : order.clientOrderId = gateway.activeOrder.clientOrderId
  venue : order.venueOrderId = gateway.activeOrder.venueOrderId
  side : order.side = gateway.activeOrder.side
  leaves : order.leavesQty = gateway.activeOrder.leavesQty
  noCancel : order.state = .acked → gateway.activeOrder.cancelSent = false ∧
    gateway.execution.restingOrder.cancelPending = false

/-- Gateway and order manager hold the same order, or none. -/
inductive Paired (gateway : Gateway) (order : Manager) : Prop where
  | free : gateway.pendingNew.active = false → gateway.activeOrder.active = false →
      order.state.isLive = false → Paired gateway order
  | pending : gateway.pendingNew.active = true → Requests gateway.pendingNew.request order →
      Paired gateway order
  | active : gateway.activeOrder.active = true → Serves gateway order → Paired gateway order

/-- The venue has closed the order, the order manager has not noticed. -/
structure Stranded (gateway : Gateway) (order : Manager) : Prop where
  unpending : gateway.pendingNew.active = false
  idle : gateway.activeOrder.active = false
  state : order.state = .partiallyFilled

def Linked (gateway : Gateway) (order : Manager) : Prop :=
  Paired gateway order ∨ Stranded gateway order

/-- The tick delivers the gateway's answer to a cancel of its active order. -/
def CancelAnswered (gateway : Gateway) (tick : MarketTick) : Prop :=
  gateway.activeOrder.active = true ∧
    (CancelArrives gateway tick ∧ RejectsCancel gateway.activeOrder ∨
      CancelDue gateway.execution tick ∧ reachableQty gateway.execution tick ≤ 0)

instance (gateway : Gateway) (tick : MarketTick) : Decidable (CancelAnswered gateway tick) :=
  inferInstanceAs (Decidable (_ ∧ _))

/-- A partial fill has overtaken the cancel that this tick answers. -/
def Overtaken (gateway : Gateway) (order : Manager) (tick : MarketTick) : Prop :=
  order.state = .partiallyFilled ∧ CancelAnswered gateway tick

instance (gateway : Gateway) (order : Manager) (tick : MarketTick) :
    Decidable (Overtaken gateway order tick) :=
  inferInstanceAs (Decidable (_ ∧ _))

theorem serves_live {gateway : Gateway} {order : Manager} (serves : Serves gateway order) :
    order.state.isLive = true :=
  OrderState.live_of_acknowledged serves.state

/-- A fill within the remaining quantity is applied. -/
theorem fill_applies {gateway : Gateway} {order : Manager} (serves : Serves gateway order)
    (wellFormed : WellFormed gateway) (active : gateway.activeOrder.active = true)
    {event : VenueEvent} (kind : event.type = .fill)
    (named : event.venueOrderId = gateway.activeOrder.venueOrderId) (positive : 0 < event.fillQty)
    (bounded : event.fillQty ≤ gateway.activeOrder.leavesQty) :
    Applies order event ⟨event.tsNs, event.fillPrice, event.fillQty, order.side⟩
      { order with
        cumQty := order.cumQty + event.fillQty
        leavesQty := order.leavesQty - event.fillQty
        state := stateAfterFill (order.leavesQty - event.fillQty) } := by
  have id := (wellFormed.activeId active).1
  refine .fill kind serves.state ⟨by omega, ?_⟩ positive ?_
  · rw [named, serves.venue]
  · rw [serves.leaves]
    exact bounded

theorem passiveFillQty_bounds {gateway : Gateway} {tick : MarketTick}
    (wellFormed : WellFormed gateway) (active : gateway.activeOrder.active = true)
    (reach : 0 < reachableQty gateway.execution tick) :
    0 < passiveFillQty gateway.execution tick ∧
      passiveFillQty gateway.execution tick ≤ gateway.activeOrder.leavesQty := by
  obtain ⟨leaves, positive⟩ := wellFormed.leaves active
  rw [leaves]
  exact ⟨lt_min positive reach, min_le_left _ _⟩

/-- Unless a cancel acknowledgment meets a partially filled order, matching is
applied and keeps both sides together. -/
theorem matches_paired {gateway next : Gateway} {order : Manager} {tick : MarketTick}
    {events : List VenueEvent} (matched : Matches gateway tick events next)
    (serves : Serves gateway order) (wellFormed : WellFormed gateway)
    (active : gateway.activeOrder.active = true)
    (inTime : order.state = .partiallyFilled → CancelDue gateway.execution tick →
      0 < reachableQty gateway.execution tick) :
    Accepts order events ∧ Paired next (applyEvents order events) := by
  have id := (wellFormed.activeId active).1
  cases matched with
  | @fills report execution reach fills =>
    obtain ⟨positive, bounded⟩ := passiveFillQty_bounds wellFormed active reach
    have applies := @fill_applies _ _ serves wellFormed active ⟨.fill, tick.receiveTsNs,
      gateway.activeOrder.venueOrderId, passiveFillQty gateway.execution tick,
      gateway.activeOrder.limitPrice⟩ rfl rfl positive bounded
    refine ⟨(accepts_cons applies []).2 (accepts_nil _), ?_⟩
    rw [applyEvents_applied applies, applyEvents_nil]
    by_cases done : gateway.activeOrder.leavesQty - passiveFillQty gateway.execution tick = 0
    · refine .free (wellFormed.notPending active) (by simp [done]) ?_
      simp [stateAfterFill, serves.leaves, done, OrderState.isLive]
    · refine .active (by simp [done]) ⟨?_, serves.client, serves.venue, serves.side, ?_, ?_⟩
      · simp [stateAfterFill, serves.leaves, done]
      · simp [serves.leaves]
      · simp [stateAfterFill, serves.leaves, done]
  | cancelAcked reach due =>
    have state : order.state = .pendingCancel := by
      rcases serves.state with acked | partially | canceling
      · exact absurd due.1 (by simp [(serves.noCancel acked).2])
      · have := inTime partially due
        omega
      · exact canceling
    have applies : Applies order ⟨.cancelAck, tick.receiveTsNs, gateway.activeOrder.venueOrderId,
        0, 0⟩ Fill.empty { order with state := .canceled, leavesQty := 0 } :=
      .cancelAck rfl state ⟨id, serves.venue.symm⟩
    refine ⟨(accepts_cons applies []).2 (accepts_nil _), ?_⟩
    rw [applyEvents_applied applies, applyEvents_nil]
    exact .free (wellFormed.notPending active) rfl rfl
  | waits reach early =>
    exact ⟨accepts_nil _, .active active
      ⟨serves.state, serves.client, serves.venue, serves.side, serves.leaves, serves.noCancel⟩⟩

/-- A cancel acknowledgment that meets a partially filled order is refused. -/
theorem matches_stranded {gateway next : Gateway} {order : Manager} {tick : MarketTick}
    {events : List VenueEvent} (matched : Matches gateway tick events next)
    (wellFormed : WellFormed gateway) (active : gateway.activeOrder.active = true)
    (state : order.state = .partiallyFilled) (due : CancelDue gateway.execution tick)
    (reach : reachableQty gateway.execution tick ≤ 0) :
    events = [⟨.cancelAck, tick.receiveTsNs, gateway.activeOrder.venueOrderId, 0, 0⟩] ∧
      Stranded next order := by
  cases matched with
  | fills some fills => omega
  | cancelAcked none due => exact ⟨rfl, wellFormed.notPending active, rfl, state⟩
  | waits none early => exact absurd due early

theorem forwarded_reachable (gateway : Gateway) (tick : MarketTick) :
    reachableQty (forwarded gateway tick).execution tick =
      reachableQty gateway.execution tick := by
  unfold forwarded
  split_ifs
  · exact ExecutionSimulator.requestCancel_reachable _ _ _
  · rfl

/-- A cancel forwarded on a tick is not yet effective on that tick. -/
theorem forwarded_cancelDue {gateway : Gateway} (latency : 0 < gateway.execution.cancelLatencyNs)
    (tick : MarketTick) :
    CancelDue (forwarded gateway tick).execution tick ↔ CancelDue gateway.execution tick := by
  have keeps := ExecutionSimulator.requestCancel_restingOrder gateway.execution tick.receiveTsNs
  unfold forwarded
  split_ifs
  · simp only [CancelDue, keeps]
    split_ifs with fresh
    · simp only [fresh.2]
      constructor
      · rintro ⟨_, late⟩
        exact absurd late (Int.not_le.2 (Int.lt_add_of_pos_right _ latency))
      · rintro ⟨none, _⟩
        exact absurd none (by decide)
    · rfl
  · rfl

theorem forwarded_serves {gateway : Gateway} {order : Manager} (serves : Serves gateway order)
    (tick : MarketTick) : Serves (forwarded gateway tick) order := by
  unfold forwarded
  split_ifs with arrives
  · refine ⟨serves.state, serves.client, serves.venue, serves.side, serves.leaves, ?_⟩
    intro acked
    exact absurd arrives.1 (by simp [(serves.noCancel acked).1])
  · exact serves

/-- The order manager after acknowledging the gateway's next id. -/
def ackedOrder (gateway : Gateway) (order : Manager) : Manager :=
  { order with venueOrderId := gateway.nextVenueOrderId, state := .acked }

theorem newAck_applies {gateway : Gateway} {order : Manager} (coherent : Coherent gateway)
    (awaits : Awaits gateway.pendingNew.request order) (tsNs : TimestampNs) :
    Applies order ⟨.newAck, tsNs, gateway.nextVenueOrderId, 0, 0⟩ Fill.empty
      (ackedOrder gateway order) :=
  .newAck rfl awaits.state coherent.nextId

theorem acknowledged_serves {gateway : Gateway} {order : Manager}
    (requests : Requests gateway.pendingNew.request order) (tick : MarketTick) :
    Serves (acknowledged gateway tick) (ackedOrder gateway order) :=
  ⟨.inl rfl, requests.client, rfl, requests.side, requests.leaves, fun _ => ⟨rfl, rfl⟩⟩

/-- The order manager after a fill of `qty`. -/
def filledOrder (order : Manager) (qty : Int) : Manager :=
  { order with
    cumQty := order.cumQty + qty
    leavesQty := order.leavesQty - qty
    state := stateAfterFill (order.leavesQty - qty) }

def expiredOrder (order : Manager) : Manager := { order with leavesQty := 0, state := .expired }

/-- The order manager after an aggressive order's only batch. -/
def iocOrder (gateway : Gateway) (order : Manager) (tick : MarketTick) : Manager :=
  let qty := iocFillQty gateway.pendingNew.request tick
  let acked := ackedOrder gateway order
  let traded := if 0 < qty then filledOrder acked qty else acked
  if qty < gateway.pendingNew.request.quantity then expiredOrder traded else traded

theorem iocFill_applies {gateway : Gateway} {order : Manager} {tick : MarketTick}
    (coherent : Coherent gateway) (awaits : Awaits gateway.pendingNew.request order)
    (reach : 0 < iocFillQty gateway.pendingNew.request tick) :
    Applies (ackedOrder gateway order) ⟨.fill, tick.receiveTsNs, gateway.nextVenueOrderId,
      iocFillQty gateway.pendingNew.request tick,
      tick.touchPrice gateway.pendingNew.request.side⟩
      ⟨tick.receiveTsNs, tick.touchPrice gateway.pendingNew.request.side,
        iocFillQty gateway.pendingNew.request tick, order.side⟩
      (filledOrder (ackedOrder gateway order) (iocFillQty gateway.pendingNew.request tick)) := by
  have leaves := awaits.leaves
  have bounded : iocFillQty gateway.pendingNew.request tick ≤
      gateway.pendingNew.request.quantity := min_le_right _ _
  apply Applies.fill rfl (.inl rfl) ⟨coherent.nextId, rfl⟩ reach
  simp only [ackedOrder]
  omega

theorem expired_applies {gateway : Gateway} {traded : Manager} (coherent : Coherent gateway)
    (named : traded.venueOrderId = gateway.nextVenueOrderId)
    (live : traded.state = .acked ∨ traded.state = .partiallyFilled) (tsNs : TimestampNs) :
    Applies traded ⟨.expired, tsNs, gateway.nextVenueOrderId, 0, 0⟩ Fill.empty
      (expiredOrder traded) :=
  .expired rfl live ⟨coherent.nextId, named.symm⟩

/-- A fill that leaves quantity open leaves the order partially filled. -/
theorem filledOrder_short {gateway : Gateway} {order : Manager} {tick : MarketTick}
    (awaits : Awaits gateway.pendingNew.request order)
    (short : iocFillQty gateway.pendingNew.request tick < gateway.pendingNew.request.quantity) :
    (filledOrder (ackedOrder gateway order)
      (iocFillQty gateway.pendingNew.request tick)).state = .partiallyFilled := by
  have leaves := awaits.leaves
  have rest : order.leavesQty - iocFillQty gateway.pendingNew.request tick ≠ 0 := by omega
  exact if_neg rest

/-- An aggressive order's batch is applied as a whole and closes the order. -/
theorem ioc_accepts {gateway : Gateway} {order : Manager} {tick : MarketTick}
    (coherent : Coherent gateway) (due : AckDue gateway tick)
    (awaits : Awaits gateway.pendingNew.request order) :
    Accepts order (iocEvents gateway.pendingNew.request tick gateway.nextVenueOrderId) ∧
      applyEvents order (iocEvents gateway.pendingNew.request tick gateway.nextVenueOrderId) =
        iocOrder gateway order tick := by
  have positive := coherent.pendingQty due.1
  have acks := newAck_applies coherent awaits tick.receiveTsNs
  unfold iocEvents iocOrder
  rw [accepts_cons acks, applyEvents_applied acks]
  by_cases reach : 0 < iocFillQty gateway.pendingNew.request tick
  · have fills := iocFill_applies coherent awaits reach
    simp only [if_pos reach, List.singleton_append]
    rw [accepts_cons fills, applyEvents_applied fills]
    by_cases short : iocFillQty gateway.pendingNew.request tick <
        gateway.pendingNew.request.quantity
    · have ends := @expired_applies gateway (filledOrder (ackedOrder gateway order)
        (iocFillQty gateway.pendingNew.request tick)) coherent rfl
        (.inr (filledOrder_short awaits short)) tick.receiveTsNs
      simp only [if_pos short]
      rw [accepts_cons ends, applyEvents_applied ends]
      exact ⟨accepts_nil _, rfl⟩
    · simp only [if_neg short]
      exact ⟨accepts_nil _, rfl⟩
  · have short : iocFillQty gateway.pendingNew.request tick <
        gateway.pendingNew.request.quantity := by omega
    have ends := @expired_applies gateway (ackedOrder gateway order) coherent rfl (.inl rfl)
      tick.receiveTsNs
    simp only [if_neg reach, if_pos short, List.nil_append]
    have chain := accepts_cons ends []
    have result := applyEvents_applied ends []
    exact ⟨chain.2 (accepts_nil _), result⟩

theorem iocOrder_closed {gateway : Gateway} {order : Manager} {tick : MarketTick}
    (awaits : Awaits gateway.pendingNew.request order)
    (positive : 0 < gateway.pendingNew.request.quantity) :
    (iocOrder gateway order tick).state.isLive = false := by
  have leaves := awaits.leaves
  have bounded : iocFillQty gateway.pendingNew.request tick ≤
      gateway.pendingNew.request.quantity := min_le_right _ _
  simp only [iocOrder]
  split_ifs with short reach
  · rfl
  · rfl
  · have full : order.leavesQty - iocFillQty gateway.pendingNew.request tick = 0 := by omega
    simp [filledOrder, ackedOrder, stateAfterFill, full, OrderState.isLive]
  · omega

/-- A pending order is the order manager's pending order. -/
theorem paired_due {gateway : Gateway} {order : Manager} {tick : MarketTick}
    (wellFormed : WellFormed gateway) (paired : Paired gateway order)
    (due : AckDue gateway tick) : Requests gateway.pendingNew.request order := by
  cases paired with
  | free unpending idle notLive => simp [due.1] at unpending
  | pending _ requests => exact requests
  | active active serves => simp [wellFormed.exclusive due.1] at active

theorem paired_active {gateway : Gateway} {order : Manager} (wellFormed : WellFormed gateway)
    (paired : Paired gateway order) (active : gateway.activeOrder.active = true) :
    Serves gateway order := by
  cases paired with
  | free unpending idle notLive => simp [active] at idle
  | pending pending requests => simp [wellFormed.exclusive pending] at active
  | active _ serves => exact serves

theorem cancelReject_accepts {gateway : Gateway} {order : Manager} {tick : MarketTick}
    (wellFormed : WellFormed gateway) (active : gateway.activeOrder.active = true)
    (serves : Serves gateway order) (rejects : RejectsCancel gateway.activeOrder)
    (state : order.state = .pendingCancel) :
    Accepts order [⟨.cancelReject, tick.receiveTsNs, gateway.activeOrder.venueOrderId, 0, 0⟩] ∧
      Paired { gateway with activeOrder := { gateway.activeOrder with
          cancelSent := false
          cancelRejectOnceDone := true } }
        (applyEvents order
          [⟨.cancelReject, tick.receiveTsNs, gateway.activeOrder.venueOrderId, 0, 0⟩]) := by
  have applies : Applies order
      ⟨.cancelReject, tick.receiveTsNs, gateway.activeOrder.venueOrderId, 0, 0⟩ Fill.empty
      { order with state := stateAfterCancelReject order } :=
    .cancelReject rfl state ⟨(wellFormed.activeId active).1, serves.venue.symm⟩
  have unpending : gateway.execution.restingOrder.cancelPending = false := by
    by_contra pending
    have done := wellFormed.rejectFirst active (by simpa using pending) rejects.2
    simp [rejects.1] at done
  refine ⟨(accepts_cons applies []).2 (accepts_nil _), ?_⟩
  rw [applyEvents_applied applies, applyEvents_nil]
  refine .active active ⟨?_, serves.client, serves.venue, serves.side, serves.leaves,
    fun _ => ⟨rfl, unpending⟩⟩
  simp only [stateAfterCancelReject]
  split_ifs <;> simp

/-- A tick that no cancel answer overtakes is applied as a whole. -/
theorem tick_paired {gateway next : Gateway} {order : Manager} {tick : MarketTick}
    {events : List VenueEvent} (ticks : Ticks gateway tick events next)
    (paired : Paired gateway order) (wellFormed : WellFormed gateway)
    (latency : 0 < gateway.execution.cancelLatencyNs) (nonneg : NonNegative tick)
    (inTime : ¬Overtaken gateway order tick) :
    Accepts order events ∧ Paired next (applyEvents order events) := by
  cases ticks with
  | quiet early idle => exact ⟨accepts_nil _, paired⟩
  | newReject due reject =>
    have requests := paired_due wellFormed paired due
    have applies : Applies order ⟨.newReject, tick.receiveTsNs, 0, 0, 0⟩ Fill.empty
        { order with state := .rejected } := .newReject rfl requests.state
    refine ⟨(accepts_cons applies []).2 (accepts_nil _), ?_⟩
    rw [applyEvents_applied applies]
    exact .free rfl (wellFormed.exclusive due.1) rfl
  | ioc due accepted style =>
    have requests := paired_due wellFormed paired due
    obtain ⟨accepts, result⟩ := ioc_accepts wellFormed.coherent due requests.awaits
    refine ⟨accepts, ?_⟩
    rw [result]
    exact .free rfl rfl (iocOrder_closed requests.awaits (wellFormed.pendingQty due.1))
  | @passive events next due accepted style matched =>
    have requests := paired_due wellFormed paired due
    have acks := newAck_applies wellFormed.coherent requests.awaits tick.receiveTsNs
    rw [accepts_cons acks, applyEvents_applied acks]
    exact matches_paired matched (acknowledged_serves requests tick)
      (acknowledged_wellFormed wellFormed nonneg due) rfl
      (fun partially => absurd partially (by simp [ackedOrder]))
  | cancelReject active arrives rejects =>
    have serves := paired_active wellFormed paired active
    apply cancelReject_accepts wellFormed active serves rejects
    rcases serves.state with acked | partially | canceling
    · exact absurd arrives.1 (by simp [(serves.noCancel acked).1])
    · exact absurd ⟨partially, active, .inl ⟨arrives, rejects⟩⟩ inTime
    · exact canceling
  | matching active answer matched =>
    have serves := paired_active wellFormed paired active
    apply matches_paired matched (forwarded_serves serves tick)
      (forwarded_wellFormed wellFormed answer) ((forwarded_active gateway tick).trans active)
    intro partially due
    rw [forwarded_reachable]
    by_contra reach
    exact inTime ⟨partially, active, .inr ⟨(forwarded_cancelDue latency tick).1 due, by omega⟩⟩

/-- The answer to an overtaken cancel is the whole batch, and it is refused. -/
theorem tick_overtaken {gateway next : Gateway} {order : Manager} {tick : MarketTick}
    {events : List VenueEvent} (ticks : Ticks gateway tick events next)
    (paired : Paired gateway order) (wellFormed : WellFormed gateway)
    (latency : 0 < gateway.execution.cancelLatencyNs)
    (overtaken : Overtaken gateway order tick) :
    (∃ event, events = [event] ∧ event.type ≠ .fill ∧
      onVenueEvent order event = (.wrongState, Fill.empty, order)) ∧ Linked next order := by
  obtain ⟨partially, active, answer⟩ := overtaken
  have serves := paired_active wellFormed paired active
  have notDue : ¬AckDue gateway tick := fun due =>
    absurd due.1 (by simp [wellFormed.notPending active])
  cases ticks with
  | quiet early idle => simp [active] at idle
  | newReject due reject => exact absurd due notDue
  | ioc due accepted style => exact absurd due notDue
  | passive due accepted style matched => exact absurd due notDue
  | cancelReject _ arrives rejects =>
    refine ⟨⟨_, rfl, by simp, by simp [onVenueEvent, partially, refuse]⟩, .inl ?_⟩
    refine .active active
      ⟨serves.state, serves.client, serves.venue, serves.side, serves.leaves, ?_⟩
    simp [partially]
  | matching _ unrejected matched =>
    have due : CancelDue gateway.execution tick ∧ reachableQty gateway.execution tick ≤ 0 := by
      rcases answer with ⟨arrives, rejects⟩ | due
      · exact absurd rejects (unrejected arrives)
      · exact due
    obtain ⟨rfl, stranded⟩ := matches_stranded matched (forwarded_wellFormed wellFormed unrejected)
      ((forwarded_active gateway tick).trans active) partially
      ((forwarded_cancelDue latency tick).2 due.1) (by rw [forwarded_reachable]; exact due.2)
    exact ⟨⟨_, rfl, by simp, by simp [onVenueEvent, partially, refuse]⟩, .inr stranded⟩

/-- A stranded order never hears from the venue again. -/
theorem tick_stranded {gateway next : Gateway} {order : Manager} {tick : MarketTick}
    {events : List VenueEvent} (ticks : Ticks gateway tick events next)
    (stranded : Stranded gateway order) : events = [] ∧ next = gateway := by
  have notDue : ¬AckDue gateway tick := fun due => absurd due.1 (by simp [stranded.unpending])
  cases ticks with
  | quiet early idle => exact ⟨rfl, rfl⟩
  | newReject due reject => exact absurd due notDue
  | ioc due accepted style => exact absurd due notDue
  | passive due accepted style matched => exact absurd due notDue
  | cancelReject active arrives rejects => simp [stranded.idle] at active
  | matching active answer matched => simp [stranded.idle] at active

/-- On every tick, fills are applied and the link survives. -/
theorem tick_linked {gateway next : Gateway} {order : Manager} {tick : MarketTick}
    {events : List VenueEvent} (ticks : Ticks gateway tick events next)
    (linked : Linked gateway order) (wellFormed : WellFormed gateway)
    (latency : 0 < gateway.execution.cancelLatencyNs) (nonneg : NonNegative tick) :
    Linked next (applyEvents order events) ∧
      (Accepts order events ∨ ∃ event, events = [event] ∧ event.type ≠ .fill ∧
        onVenueEvent order event = (.wrongState, Fill.empty, order)) := by
  rcases linked with paired | stranded
  · by_cases overtaken : Overtaken gateway order tick
    · obtain ⟨⟨event, rfl, kind, refused⟩, linked⟩ :=
        tick_overtaken ticks paired wellFormed latency overtaken
      refine ⟨?_, .inr ⟨event, rfl, kind, refused⟩⟩
      rwa [applyEvents_cons, refused]
    · obtain ⟨accepts, after⟩ := tick_paired ticks paired wellFormed latency nonneg overtaken
      exact ⟨.inl after, .inl accepts⟩
  · obtain ⟨rfl, rfl⟩ := tick_stranded ticks stranded
    exact ⟨.inr stranded, .inl (accepts_nil _)⟩

end TradingKernel.GatewayLink
