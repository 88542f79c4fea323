import TradingKernel.ReplayReconstruction

/-!
The counters of the simulator against the journal. A replay counts fills,
partial fills and cancels on the venue's side and writes transitions on the
order's side; here the two are reconciled, and with them the lives of the orders.
-/

namespace TradingKernel.ReplayTallies
open Library OrderManager MockVenueGateway GatewayInvariant GatewayLink ReplayRunner ReplayRun
open ReplayPhases ReplayAgreement ReplayJournal ReplayReconstruction
open ExecutionSimulator (Simulator passiveFillQty reachableQty)

/-- How many rows report an order that enters a state. -/
def entering (state : OrderState) (rows : List TradeEvent) : Nat :=
  rows.countP fun row => row.kind = .omsTransition ∧ row.quantity = state.code

/-- How many rows report the end of an order. -/
def closings (rows : List TradeEvent) : Nat :=
  entering .filled rows + entering .canceled rows + entering .rejected rows +
    entering .expired rows

/-- How often a batch takes an order into a state. -/
def enters (state : OrderState) (order : Manager) : List VenueEvent → Nat
  | [] => 0
  | event :: rest =>
    let next := (onVenueEvent order event).2.2
    (if order.state ≠ next.state ∧ next.state = state then 1 else 0) + enters state next rest

section Rows
variable {order next : Manager} {event : VenueEvent} {fill : Fill}

theorem code_injective : Function.Injective OrderState.code := by
  intro first second same
  cases first <;> cases second <;> first | rfl | cases same

@[simp] theorem entering_nil (state : OrderState) : entering state [] = 0 := rfl

@[simp] theorem entering_append (state : OrderState) (first second : List TradeEvent) :
    entering state (first ++ second) = entering state first + entering state second :=
  List.countP_append

theorem entering_none (state : OrderState) {rows : List TradeEvent}
    (others : ∀ row ∈ rows, row.kind ≠ .omsTransition) : entering state rows = 0 := by
  rw [entering, List.countP_eq_zero]
  intro row member
  simp [others row member]

theorem entering_transition (state : OrderState) (tsNs : TimestampNs)
    (source target : OrderState) (side : Side) :
    entering state (emitted (emitTransition tsNs source target side)) =
      if source ≠ target ∧ target = state then 1 else 0 := by
  unfold emitTransition
  by_cases same : source = target
  · simp [same]
  · simp [same, entering, code_injective.eq_iff]

@[simp] theorem enters_nil (state : OrderState) (order : Manager) : enters state order [] = 0 :=
  rfl

theorem enters_applied (state : OrderState) (applies : Applies order event fill next)
    (rest : List VenueEvent) :
    enters state order (event :: rest) =
      (if order.state ≠ next.state ∧ next.state = state then 1 else 0) +
        enters state next rest := by
  rw [enters, applies.eq]

/-- The transition rows of a batch are the states it takes the order into. -/
theorem batch_entering (state : OrderState) (tick : MarketTick) (events : List VenueEvent)
    (objects : ReplayObjects) :
    entering state (emitted (handleBatch tick events objects).actions) =
      enters state objects.orderManager events := by
  induction events generalizing objects with
  | nil => rfl
  | cons event rest ih =>
    have orders := (handleVenueEvent_objects event objects.orderManager.side tick objects).2
    have later := ih (handleVenueEvent event objects.orderManager.side tick objects).objects
    rw [orders] at later
    have first : entering state
        (emitted (handleVenueEvent event objects.orderManager.side tick objects).actions) =
        if objects.orderManager.state ≠ (onVenueEvent objects.orderManager event).2.2.state ∧
          (onVenueEvent objects.orderManager event).2.2.state = state then 1 else 0 := by
      rcases onVenueEvent_cases objects.orderManager event with
        ⟨fill, next, result, applies⟩ | ⟨outcome, refused, result⟩
      · have filled : entering state (emitted (handleFill fill tick
            { objects with orderManager := next }).actions) = 0 := by
          apply entering_none
          rw [handleFill_rows]
          split_ifs <;> simp
        have rejected : entering state
            (emitted (venueRejectActions event objects.orderManager.side next)) = 0 := by
          apply entering_none
          intro row member
          simp [(venueReject_rows event objects.orderManager.side next row member).1]
        rw [handleVenueEvent_applied applies, result, emitted_append, emitted_append,
          entering_append, entering_append, filled, rejected, entering_transition]
        rfl
      · rw [handleVenueEvent_refused refused result, result, refused_silent]
        simp
    rw [enters, ← later, ← first, ← entering_append, ← emitted_append]
    rfl

theorem applies_busy (applies : Applies order event fill next) : next.state ≠ .idle := by
  cases applies with
  | newAck kind state id => simp
  | newReject kind state => simp
  | fill kind state named positive bounded =>
    simp only [stateAfterFill]
    split_ifs <;> simp
  | cancelAck kind state named => simp
  | cancelReject kind state named =>
    simp only [stateAfterCancelReject]
    split_ifs <;> simp
  | expired kind state named => simp

/-- A live order stays live or enters one of the terminal states. -/
theorem live_closes {source target : OrderState} (live : source.isLive = true)
    (busy : target ≠ .idle) :
    (if target.isLive then 1 else 0) + ([OrderState.filled, .canceled, .rejected, .expired].map
      fun state => if source ≠ target ∧ target = state then 1 else 0).sum = 1 := by
  cases target with
  | idle => exact absurd rfl busy
  | pendingNewAck | acked | partiallyFilled | pendingCancel => simp [OrderState.isLive]
  | filled | canceled | rejected | expired => cases source <;> simp_all [OrderState.isLive]

/-- A batch ends the order it meets, or leaves it as live as it was. -/
theorem batch_closes (events : List VenueEvent) (order : Manager) :
    (if (applyEvents order events).state.isLive then 1 else 0) +
        (enters .filled order events + enters .canceled order events +
          enters .rejected order events + enters .expired order events) =
      if order.state.isLive then 1 else 0 := by
  induction events generalizing order with
  | nil => rfl
  | cons event rest ih =>
    have later := ih (onVenueEvent order event).2.2
    rw [applyEvents_cons]
    simp only [enters]
    rcases onVenueEvent_cases order event with
      ⟨fill, next, result, applies⟩ | ⟨outcome, refused, result⟩
    · have first := live_closes applies.live (applies_busy applies)
      simp only [List.map_cons, List.map_nil, List.sum_cons, List.sum_nil] at first
      simp only [result] at later ⊢
      rw [if_pos applies.live]
      omega
    · simp only [result] at later ⊢
      simp only [ne_eq, not_true_eq_false, false_and, if_false]
      omega

end Rows

section Venue
variable {gateway next : Gateway} {order : Manager} {tick : MarketTick}
  {events : List VenueEvent}

theorem passiveFill_counts {sim : Simulator} (active : sim.restingOrder.active = true)
    (reach : 0 < reachableQty sim tick) :
    (ExecutionSimulator.onTick sim tick).2.stats.partialFillCount =
        sim.stats.partialFillCount +
          (if passiveFillQty sim tick < sim.restingOrder.leavesQty then 1 else 0) ∧
      (ExecutionSimulator.onTick sim tick).2.stats.cancelAckCount = sim.stats.cancelAckCount ∧
      (ExecutionSimulator.onTick sim tick).2.stats.cancelRequestCount =
        sim.stats.cancelRequestCount := by
  have fills := ExecutionSimulator.passiveFillFromMarket_fills active reach
  have market : ExecutionSimulator.isMarketable sim tick = true := by
    by_contra quiet
    simp [reachableQty, quiet] at reach
  have available : ¬ExecutionSimulator.visibleOppositeQty sim tick -
      ExecutionSimulator.queueConsumed sim tick ≤ 0 := by
    simp only [reachableQty, market, if_true] at reach
    omega
  have result : ExecutionSimulator.onTick sim tick =
      ExecutionSimulator.passiveFillFromMarket sim tick := by
    simp [ExecutionSimulator.onTick, active, fills.hasFill]
  rw [result]
  simp only [ExecutionSimulator.passiveFillFromMarket, market, Bool.not_true, Bool.false_eq_true,
    if_false, if_neg available, ExecutionSimulator.min_eq_if, passiveFillQty, reachableQty, if_true,
    decide_eq_true_eq, and_self]

theorem matchResting_execution (active : gateway.activeOrder.active = true)
    (batch : VenueEventBatch) : (matchResting gateway tick batch).2.execution =
      (ExecutionSimulator.onTick gateway.execution tick).2 := by
  simp only [matchResting, active, Bool.true_or, if_true, closeActiveOrderIfDone]
  split_ifs <;> rfl

theorem cancelAndMatch_execution (active : gateway.activeOrder.active = true)
    (answer : CancelArrives gateway tick → ¬RejectsCancel gateway.activeOrder)
    (batch : VenueEventBatch) : (cancelAndMatch gateway tick batch).2.execution =
      (ExecutionSimulator.onTick (forwarded gateway tick).execution tick).2 := by
  rw [← matchResting_execution ((forwarded_active gateway tick).trans active) batch]
  by_cases arrives : CancelArrives gateway tick
  · have accepted := answer arrives
    simp only [RejectsCancel, not_and] at accepted
    have branch : (!gateway.activeOrder.cancelRejectOnceDone &&
        decide (gateway.activeOrder.venueOrderId.tmod 2 = 1)) = false := by
      cases done : gateway.activeOrder.cancelRejectOnceDone
      · simpa using accepted done
      · rfl
    simp only [cancelAndMatch, active, arrives.1, arrives.2, forwarded, if_pos arrives,
      decide_true, Bool.and_self, if_true, branch, Bool.false_eq_true, if_false]
  · have branch : (gateway.activeOrder.cancelSent &&
        decide (tick.receiveTsNs ≥ gateway.activeOrder.cancelSendTsNs)) = false := by
      simpa [CancelArrives] using arrives
    simp only [cancelAndMatch, active, Bool.true_and, branch, Bool.false_eq_true, if_false,
      forwarded, if_neg arrives]

/-- Whatever it does first, the gateway hands an active order to the simulator. -/
theorem onTick_matching (coherent : Coherent gateway) (active : gateway.activeOrder.active = true)
    (answer : CancelArrives gateway tick → ¬RejectsCancel gateway.activeOrder) :
    (MockVenueGateway.onTick gateway tick).2.execution =
      (ExecutionSimulator.onTick (forwarded gateway tick).execution tick).2 := by
  rw [MockVenueGateway.onTick, coherent.notPending active]
  exact cancelAndMatch_execution active answer .empty

theorem onTick_passive (coherent : Coherent gateway) (due : AckDue gateway tick)
    (accepted : gateway.pendingNew.shouldReject = false)
    (style : gateway.pendingNew.request.style = .passive) :
    (MockVenueGateway.onTick gateway tick).2.execution =
      (ExecutionSimulator.onTick (acknowledged gateway tick).execution tick).2 := by
  have branch : (gateway.pendingNew.active &&
      decide (tick.receiveTsNs ≥ gateway.pendingNew.ackReadyTsNs)) = true := by
    simp [due.1, due.2]
  have early : ¬CancelArrives (acknowledged gateway tick) tick := by
    simp [CancelArrives, acknowledged]
  have result := @cancelAndMatch_execution (acknowledged gateway tick) tick rfl
    (fun arrives => absurd arrives early)
    ⟨[⟨.newAck, tick.receiveTsNs, gateway.nextVenueOrderId, 0, 0⟩], 0⟩
  rw [forwarded, if_neg early] at result
  simp only [MockVenueGateway.onTick, branch, if_true, accepted, Bool.false_eq_true, if_false,
    acknowledge_passive coherent due.1 style]
  exact result

/-- The simulator's counters against the order that a venue part meets. -/
structure Counts (gateway next : Gateway) (order : Manager) (events : List VenueEvent) :
    Prop where
  partials : next.execution.stats.partialFillCount + (enters .filled order events : Int) =
    gateway.execution.stats.partialFillCount + ((fillEvents events).length : Int)
  acks : next.execution.stats.cancelAckCount =
    gateway.execution.stats.cancelAckCount + (enters .canceled order events : Int)

/-- Matching counts what it does to the order, unless its acknowledgment is refused. -/
theorem matches_counts (matched : Matches gateway tick events next) (serves : Serves gateway order)
    (wellFormed : WellFormed gateway) (active : gateway.activeOrder.active = true)
    (pinned : next.execution = (ExecutionSimulator.onTick gateway.execution tick).2)
    (inTime : order.state = .partiallyFilled →
      ExecutionSimulator.CancelDue gateway.execution tick →
        0 < reachableQty gateway.execution tick) : Counts gateway next order events := by
  have resting : gateway.execution.restingOrder.active = true := wellFormed.resting.trans active
  have leaves := (wellFormed.leaves active).1
  cases matched with
  | @fills report execution reach fills =>
    obtain ⟨positive, bounded⟩ := passiveFillQty_bounds wellFormed active reach
    have applies := @fill_applies _ _ serves wellFormed active ⟨.fill, tick.receiveTsNs,
      gateway.activeOrder.venueOrderId, passiveFillQty gateway.execution tick,
      gateway.activeOrder.limitPrice⟩ rfl rfl positive bounded
    obtain ⟨partials, acks, _⟩ := passiveFill_counts resting reach
    have live := serves_live serves
    have open_ : order.state ≠ .filled := by
      intro filled
      rw [filled] at live
      cases live
    have same := serves.leaves
    dsimp only at pinned
    constructor
    · rw [enters_applied _ applies, pinned, partials]
      simp only [enters_nil, fillEvents, List.filter_singleton, stateAfterFill]
      by_cases done : order.leavesQty - passiveFillQty gateway.execution tick = 0
      · have whole : ¬passiveFillQty gateway.execution tick <
            gateway.execution.restingOrder.leavesQty := by omega
        simp [done, whole, open_]
      · have short : passiveFillQty gateway.execution tick <
            gateway.execution.restingOrder.leavesQty := by omega
        simp [done, short]
    · rw [enters_applied _ applies, pinned, acks]
      simp only [stateAfterFill]
      split_ifs <;> simp_all
  | cancelAcked reach due =>
    have state : order.state = .pendingCancel := by
      rcases serves.state with acked | partially | canceling
      · exact absurd due.1 (by simp [(serves.noCancel acked).2])
      · have some := inTime partially due
        omega
      · exact canceling
    have applies : Applies order ⟨.cancelAck, tick.receiveTsNs, gateway.activeOrder.venueOrderId,
        0, 0⟩ Fill.empty { order with state := .canceled, leavesQty := 0 } :=
      .cancelAck rfl state ⟨(wellFormed.activeId active).1, serves.venue.symm⟩
    constructor
    · rw [enters_applied _ applies]
      simp [fillEvents, ExecutionSimulator.afterCancelAck]
    · rw [enters_applied _ applies]
      simp [state, ExecutionSimulator.afterCancelAck]
  | waits reach early => exact ⟨rfl, (Int.add_zero _).symm⟩

theorem forwarded_stats (gateway : Gateway) (tick : MarketTick) :
    (forwarded gateway tick).execution.stats.partialFillCount =
        gateway.execution.stats.partialFillCount ∧
      (forwarded gateway tick).execution.stats.cancelAckCount =
        gateway.execution.stats.cancelAckCount := by
  unfold forwarded ExecutionSimulator.requestCancel
  split_ifs <;> exact ⟨rfl, rfl⟩

theorem aggressiveFill_counts (sim : Simulator) {request : OrderRequest}
    (reach : 0 < ExecutionSimulator.aggressiveFillQty tick request) :
    let next := (ExecutionSimulator.aggressiveFill sim tick request).2
    next.stats.partialFillCount = sim.stats.partialFillCount +
        (if ExecutionSimulator.aggressiveFillQty tick request < request.quantity then 1 else 0) ∧
      next.stats.cancelAckCount = sim.stats.cancelAckCount := by
  have some : ¬min (tick.oppositeQty request.side) request.quantity ≤ 0 := by
    simpa [ExecutionSimulator.aggressiveFillQty] using reach
  by_cases short : ExecutionSimulator.aggressiveFillQty tick request < request.quantity
  · have less : min (tick.oppositeQty request.side) request.quantity < request.quantity := short
    rw [if_pos short]
    simp only [ExecutionSimulator.aggressiveFill, ExecutionSimulator.min_eq_if, if_neg some, less,
      decide_true, if_true, and_self]
  · have whole : ¬min (tick.oppositeQty request.side) request.quantity < request.quantity := short
    rw [if_neg short]
    simp only [ExecutionSimulator.aggressiveFill, ExecutionSimulator.min_eq_if, if_neg some, whole,
      decide_false, Bool.false_eq_true, if_false, Int.add_zero, and_self]

/-- An aggressive order is filled at once or expires. -/
theorem ioc_enters (wellFormed : WellFormed gateway) (due : AckDue gateway tick)
    (requests : Requests gateway.pendingNew.request order) (state : OrderState)
    (closed : state = .filled ∨ state = .canceled) :
    enters state order (iocEvents gateway.pendingNew.request tick gateway.nextVenueOrderId) =
      if state = .filled ∧ iocFillQty gateway.pendingNew.request tick =
        gateway.pendingNew.request.quantity then 1 else 0 := by
  have awaits := requests.awaits
  have leaves := awaits.leaves
  have positive := wellFormed.pendingQty due.1
  have bounded : iocFillQty gateway.pendingNew.request tick ≤
      gateway.pendingNew.request.quantity := min_le_right _ _
  have others : state ≠ .acked ∧ state ≠ .partiallyFilled ∧ state ≠ .expired := by
    rcases closed with rfl | rfl <;> decide
  rw [iocEvents, enters_applied _ (newAck_applies wellFormed.coherent awaits tick.receiveTsNs)]
  by_cases reach : 0 < iocFillQty gateway.pendingNew.request tick
  · rw [if_pos reach, List.singleton_append,
      enters_applied _ (iocFill_applies wellFormed.coherent awaits reach)]
    by_cases short : iocFillQty gateway.pendingNew.request tick <
        gateway.pendingNew.request.quantity
    · have after := filledOrder_short awaits short
      rw [if_pos short, enters_applied _ (expired_applies wellFormed.coherent rfl (.inr after)
        tick.receiveTsNs), after]
      simp [ackedOrder, expiredOrder, others.1.symm, others.2.1.symm, others.2.2.symm, short.ne]
    · have full : iocFillQty gateway.pendingNew.request tick =
          gateway.pendingNew.request.quantity := by omega
      have after : (filledOrder (ackedOrder gateway order)
          (iocFillQty gateway.pendingNew.request tick)).state = .filled := if_pos (by
        simp only [ackedOrder]
        omega)
      rw [if_neg short, after]
      simp [ackedOrder, others.1.symm, full, eq_comm]
  · have short : iocFillQty gateway.pendingNew.request tick <
        gateway.pendingNew.request.quantity := by omega
    rw [if_neg reach, if_pos short, List.nil_append, enters_applied _
      (expired_applies wellFormed.coherent rfl (.inl rfl) tick.receiveTsNs)]
    simp [ackedOrder, expiredOrder, others.1.symm, others.2.2.symm, short.ne]

theorem ioc_counts (wellFormed : WellFormed gateway) (due : AckDue gateway tick)
    (requests : Requests gateway.pendingNew.request order) :
    Counts gateway (iocDone gateway tick) order
      (iocEvents gateway.pendingNew.request tick gateway.nextVenueOrderId) := by
  have positive := wellFormed.pendingQty due.1
  have bounded : iocFillQty gateway.pendingNew.request tick ≤
      gateway.pendingNew.request.quantity := min_le_right _ _
  have fills : (fillEvents (iocEvents gateway.pendingNew.request tick
      gateway.nextVenueOrderId)).length =
        if 0 < iocFillQty gateway.pendingNew.request tick then 1 else 0 := by
    unfold iocEvents fillEvents
    split_ifs <;> rfl
  have counted : (iocDone gateway tick).execution.stats.partialFillCount =
      gateway.execution.stats.partialFillCount +
        (if 0 < iocFillQty gateway.pendingNew.request tick ∧
          iocFillQty gateway.pendingNew.request tick < gateway.pendingNew.request.quantity
          then 1 else 0) ∧
      (iocDone gateway tick).execution.stats.cancelAckCount =
        gateway.execution.stats.cancelAckCount := by
    by_cases reach : 0 < iocFillQty gateway.pendingNew.request tick
    · simp only [reach, true_and]
      exact aggressiveFill_counts gateway.execution reach
    · have quiet := @ExecutionSimulator.aggressiveFill_quiet gateway.execution tick
        (orderRequest gateway.pendingNew.request) (by simpa [iocFillQty] using reach)
      simp [iocDone, quiet, reach]
  constructor
  · rw [ioc_enters wellFormed due requests _ (.inl rfl), fills, counted.1]
    by_cases reach : 0 < iocFillQty gateway.pendingNew.request tick
    · by_cases short : iocFillQty gateway.pendingNew.request tick <
          gateway.pendingNew.request.quantity
      · simp [reach, short, short.ne]
      · have full : iocFillQty gateway.pendingNew.request tick =
            gateway.pendingNew.request.quantity := by omega
        simp [full, positive]
    · have other : iocFillQty gateway.pendingNew.request tick ≠
          gateway.pendingNew.request.quantity := by omega
      simp [reach, other]
  · rw [ioc_enters wellFormed due requests _ (.inr rfl), counted.2]
    simp

/-- A venue part that answers in time counts what it does to the order. -/
theorem tick_counts (ticks : Ticks gateway tick events next)
    (result : MockVenueGateway.onTick gateway tick = (⟨events, 0⟩, next))
    (paired : Paired gateway order) (wellFormed : WellFormed gateway)
    (latency : 0 < gateway.execution.cancelLatencyNs) (nonneg : NonNegative tick)
    (inTime : ¬Overtaken gateway order tick) : Counts gateway next order events := by
  have reached : next = (MockVenueGateway.onTick gateway tick).2 := by rw [result]
  cases ticks with
  | quiet early idle => exact ⟨rfl, (Int.add_zero _).symm⟩
  | newReject due reject =>
    have requests := paired_due wellFormed paired due
    have applies : Applies order ⟨.newReject, tick.receiveTsNs, 0, 0, 0⟩ Fill.empty
        { order with state := .rejected } := .newReject rfl requests.state
    constructor
    · rw [enters_applied _ applies]
      simp [fillEvents]
    · rw [enters_applied _ applies]
      simp
  | ioc due accepted style => exact ioc_counts wellFormed due (paired_due wellFormed paired due)
  | @passive events next due accepted style matched =>
    have requests := paired_due wellFormed paired due
    have acks := newAck_applies wellFormed.coherent requests.awaits tick.receiveTsNs
    have counts := matches_counts matched (acknowledged_serves requests tick)
      (acknowledged_wellFormed wellFormed nonneg due) rfl
      (by rw [reached]; exact onTick_passive wellFormed.coherent due accepted style)
      (fun partially => absurd partially (by simp [ackedOrder]))
    constructor
    · rw [enters_applied _ acks]
      simpa [ackedOrder, fillEvents, acknowledged] using counts.partials
    · rw [enters_applied _ acks]
      simpa [ackedOrder, acknowledged] using counts.acks
  | cancelReject active arrives rejects =>
    have serves := paired_active wellFormed paired active
    have state : order.state = .pendingCancel := by
      rcases serves.state with acked | partially | canceling
      · exact absurd arrives.1 (by simp [(serves.noCancel acked).1])
      · exact absurd ⟨partially, active, .inl ⟨arrives, rejects⟩⟩ inTime
      · exact canceling
    have applies : Applies order
        ⟨.cancelReject, tick.receiveTsNs, gateway.activeOrder.venueOrderId, 0, 0⟩ Fill.empty
        { order with state := stateAfterCancelReject order } :=
      .cancelReject rfl state ⟨(wellFormed.activeId active).1, serves.venue.symm⟩
    have moves : stateAfterCancelReject order ≠ .filled ∧
        stateAfterCancelReject order ≠ .canceled := by
      unfold stateAfterCancelReject
      split_ifs <;> decide
    constructor
    · rw [enters_applied _ applies]
      simp [fillEvents, moves.1]
    · rw [enters_applied _ applies]
      simp [moves.2]
  | matching active answer matched =>
    have serves := paired_active wellFormed paired active
    obtain ⟨partials, acks⟩ := forwarded_stats gateway tick
    have counts := matches_counts matched (forwarded_serves serves tick)
      (forwarded_wellFormed wellFormed answer) ((forwarded_active gateway tick).trans active)
      (by rw [reached]; exact onTick_matching wellFormed.coherent active answer) (by
        intro partially due
        rw [forwarded_reachable]
        by_contra reach
        exact inTime ⟨partially, active,
          .inr ⟨(forwarded_cancelDue latency tick).1 due, by omega⟩⟩)
    exact ⟨by rw [counts.partials, partials], by rw [counts.acks, acks]⟩

/-- An overtaken answer moves nothing but the counter of acknowledgments, and
then the order is stranded. -/
theorem overtaken_counts (ticks : Ticks gateway tick events next) (paired : Paired gateway order)
    (wellFormed : WellFormed gateway) (latency : 0 < gateway.execution.cancelLatencyNs)
    (overtaken : Overtaken gateway order tick) :
    next.execution.stats.partialFillCount = gateway.execution.stats.partialFillCount ∧
      fillEvents events = [] ∧ (∀ state, enters state order events = 0) ∧
      (next.execution.stats.cancelAckCount = gateway.execution.stats.cancelAckCount ∧
          Paired next order ∨
        next.execution.stats.cancelAckCount = gateway.execution.stats.cancelAckCount + 1 ∧
          Stranded next order) := by
  obtain ⟨⟨event, rfl, kind, refused⟩, _⟩ :=
    tick_overtaken ticks paired wellFormed latency overtaken
  obtain ⟨partially, active, answer⟩ := overtaken
  have serves := paired_active wellFormed paired active
  have notDue : ¬AckDue gateway tick := fun due =>
    absurd due.1 (by simp [wellFormed.notPending active])
  have unmoved : ∀ state, enters state order [event] = 0 := by
    intro state
    simp [enters, refused]
  have unfilled : fillEvents [event] = [] := by simp [fillEvents, kind]
  suffices counted : next.execution.stats.partialFillCount =
      gateway.execution.stats.partialFillCount ∧
      (next.execution.stats.cancelAckCount = gateway.execution.stats.cancelAckCount ∧
          Paired next order ∨
        next.execution.stats.cancelAckCount = gateway.execution.stats.cancelAckCount + 1 ∧
          Stranded next order) from ⟨counted.1, unfilled, unmoved, counted.2⟩
  generalize batch : [event] = events at ticks
  cases ticks with
  | quiet early idle => simp [active] at idle
  | newReject due reject => exact absurd due notDue
  | ioc due accepted style => exact absurd due notDue
  | passive due accepted style matched => exact absurd due notDue
  | cancelReject _ arrives rejects =>
    refine ⟨rfl, .inl ⟨rfl, .active active
      ⟨serves.state, serves.client, serves.venue, serves.side, serves.leaves, ?_⟩⟩⟩
    simp [partially]
  | matching _ unrejected matched =>
    have due : ExecutionSimulator.CancelDue gateway.execution tick ∧
        reachableQty gateway.execution tick ≤ 0 := by
      rcases answer with ⟨arrives, rejects⟩ | due
      · exact absurd rejects (unrejected arrives)
      · exact due
    obtain ⟨partials, acks⟩ := forwarded_stats gateway tick
    have unreached := (forwarded_reachable gateway tick).trans_le due.2
    cases matched with
    | fills reach fills => omega
    | cancelAcked reach late =>
      refine ⟨partials, .inr ⟨congrArg (· + 1) acks, ?_⟩⟩
      exact ⟨(forwarded_wellFormed wellFormed unrejected).notPending
        ((forwarded_active gateway tick).trans active), rfl, partially⟩
    | waits reach early => exact absurd ((forwarded_cancelDue latency tick).2 due.1) early

end Venue

section Phases
variable {objects : ReplayObjects} {tick : MarketTick}

/-- One if an order is live. -/
def alive (order : ManagedOrder) : Nat := if order.state.isLive then 1 else 0

theorem batch_submissions (tick : MarketTick) (events : List VenueEvent)
    (objects : ReplayObjects) :
    submissions (emitted (handleBatch tick events objects).actions) = [] := by
  induction events generalizing objects with
  | nil => rfl
  | cons event rest ih =>
    have first : submissions (emitted (handleVenueEvent event objects.orderManager.side tick
        objects).actions) = [] := by
      rcases onVenueEvent_cases objects.orderManager event with
        ⟨fill, next, result, applies⟩ | ⟨outcome, refused, result⟩
      · rw [handleVenueEvent_applied applies, emitted_append, emitted_append, submissions_append,
          submissions_append, (transition_countFill applies.live _ _ _ 0).2, submissions_none,
          submissions_none]
        · rfl
        · intro row member
          simp [(venueReject_rows event objects.orderManager.side next row member).1]
        · rw [handleFill_rows]
          split_ifs <;> simp
      · rw [handleVenueEvent_refused refused result, refused_silent]
        rfl
    have rows : emitted (handleBatch tick (event :: rest) objects).actions =
        emitted (handleVenueEvent event objects.orderManager.side tick objects).actions ++
          emitted (handleBatch tick rest
            (handleVenueEvent event objects.orderManager.side tick objects).objects).actions :=
      emitted_append _ _
    rw [rows, submissions_append, first, ih, List.append_nil]

theorem venuePhase_rows (tick : MarketTick) (objects : ReplayObjects) :
    emitted (venuePhase tick objects).actions =
      emitted (handleBatch tick (MockVenueGateway.onTick objects.gateway tick).1.events
        { objects with gateway := (MockVenueGateway.onTick objects.gateway tick).2 }).actions := by
  rw [venuePhase_eq, andThen_actions, emitted_append]
  rfl

/-- The venue part ends orders and starts none. -/
theorem venue_lives (tick : MarketTick) (objects : ReplayObjects) :
    submissions (emitted (venuePhase tick objects).actions) = [] ∧
      alive (venuePhase tick objects).objects.orderManager +
          closings (emitted (venuePhase tick objects).actions) = alive objects.orderManager := by
  rw [venuePhase_rows, (venuePhase_objects tick objects).2.1, closings]
  simp only [batch_entering]
  exact ⟨batch_submissions tick _ _, batch_closes _ objects.orderManager⟩

/-- Where the acknowledgments of cancels stand. -/
def Acknowledged (objects : ReplayObjects) (rows : List TradeEvent) : Prop :=
  InStep objects ∧
      objects.gateway.execution.stats.cancelAckCount = (entering .canceled rows : Int) ∨
    Stranded objects.gateway objects.orderManager ∧
      objects.gateway.execution.stats.cancelAckCount = (entering .canceled rows : Int) + 1

theorem venue_counts (sound : Sound objects) (nonneg : NonNegative tick) {rows : List TradeEvent}
    (acknowledged : Acknowledged objects rows) :
    let effect := venuePhase tick objects
    effect.objects.gateway.execution.stats.partialFillCount +
          (entering .filled (emitted effect.actions) : Int) =
        objects.gateway.execution.stats.partialFillCount +
          ((rowsOf .fill (emitted effect.actions)).length : Int) ∧
      Acknowledged effect.objects (rows ++ emitted effect.actions) := by
  intro effect
  obtain ⟨events, next, ticks, result⟩ := onTick_ticks sound.wellFormed.coherent tick
  obtain ⟨gateway, orderManager, _, _⟩ := venuePhase_objects tick objects
  have fills : (rowsOf .fill (emitted effect.actions)).length = (fillEvents events).length := by
    rw [(venue_fillRows sound nonneg).1, venueFills, List.length_map, result]
  have moves : ∀ state, entering state (emitted effect.actions) =
      enters state objects.orderManager events := by
    intro state
    rw [venuePhase_rows, batch_entering, result]
  rw [result] at gateway orderManager
  rw [fills, moves, gateway]
  simp only [Acknowledged, InStep, entering_append, moves]
  rw [gateway, orderManager]
  rcases acknowledged with ⟨paired, acks⟩ | ⟨stranded, acks⟩
  · by_cases overtaken : Overtaken objects.gateway objects.orderManager tick
    · obtain ⟨partials, unfilled, unmoved, answers⟩ :=
        overtaken_counts ticks paired sound.wellFormed sound.latency overtaken
      obtain ⟨⟨event, rfl, kind, refused⟩, _⟩ :=
        tick_overtaken ticks paired sound.wellFormed sound.latency overtaken
      have unchanged : applyEvents objects.orderManager [event] = objects.orderManager := by
        rw [applyEvents_cons, refused, applyEvents_nil]
      simp only [unfilled, unmoved, unchanged, List.length_nil, Nat.cast_zero, Int.add_zero,
        Nat.add_zero]
      refine ⟨partials, answers.imp ?_ ?_⟩
      · rintro ⟨same, paired⟩
        exact ⟨paired, same.trans acks⟩
      · rintro ⟨more, stranded⟩
        exact ⟨stranded, by rw [more, acks]⟩
    · have counts :=
        tick_counts ticks result paired sound.wellFormed sound.latency nonneg overtaken
      have after := (tick_paired ticks paired sound.wellFormed sound.latency nonneg overtaken).2
      refine ⟨counts.partials, .inl ⟨after, ?_⟩⟩
      rw [counts.acks, acks]
      push_cast
      rfl
  · obtain ⟨rfl, rfl⟩ := tick_stranded ticks stranded
    exact ⟨rfl, .inr ⟨stranded, acks⟩⟩

/-- A stranded order only lets risk rejects through. -/
theorem own_stranded (sound : Sound objects) (config : ReplayConfig)
    (stranded : Stranded objects.gateway objects.orderManager) :
    let effect := ownPhase config tick objects
    effect.objects.gateway = objects.gateway ∧
      effect.objects.orderManager = objects.orderManager ∧
      effect.objects.accounting = objects.accounting ∧
      ∀ row ∈ emitted effect.actions, row.kind = .riskReject := by
  intro effect
  obtain ⟨gateway, orderManager, accounting, _⟩ := stopTimer_keeps objects
  have idle : (stopTimer objects).gateway.activeOrder.active = false := by
    rw [gateway, stranded.idle]
  have canceled : cancelPhase config tick (stopTimer objects) = ⟨stopTimer objects, []⟩ := by
    rcases cancelPhase_cases config tick (stopTimer objects) with ⟨_, active, _, _⟩ | same
    · rw [idle] at active
      cases active
    · exact same
  have live : (stopTimer objects).orderManager.state.isLive = true := by
    rw [orderManager, stranded.state]
    rfl
  obtain ⟨decision, decides, result⟩ :=
    decisionPhase_decides (keeps_same sound gateway orderManager).sound config tick
  have whole : effect = ⟨decision.objects, decision.actions⟩ := by
    simp only [effect, ownPhase, canceled, Effect.andThen, result, List.nil_append]
  rw [whole]
  cases decides with
  | noSignal quiet => exact ⟨gateway, orderManager, accounting, by simp⟩
  | riskReject signal refused => exact ⟨gateway, orderManager, accounting, by simp⟩
  | busy signal live => exact ⟨gateway, orderManager, accounting, by simp⟩
  | submits signal accepted free =>
    rw [live] at free
    cases free

/-- A part of the loop that ends no order, and starts one for each submission. -/
structure Starts (objects : ReplayObjects) (effect : Effect) : Prop where
  endless : ∀ state : OrderState, state.isTerminal = true →
    entering state (emitted effect.actions) = 0
  started : alive effect.objects.orderManager =
    alive objects.orderManager + (submissions (emitted effect.actions)).length

theorem Starts.andThen {effect : Effect} {next : ReplayObjects → Effect}
    (first : Starts objects effect) (second : Starts effect.objects (next effect.objects)) :
    Starts objects (effect.andThen next) := by
  constructor
  · intro state terminal
    rw [andThen_actions, emitted_append, entering_append, first.endless state terminal,
      second.endless state terminal]
  · rw [andThen_actions, emitted_append, submissions_append, List.length_append, andThen_objects,
      second.started, first.started, Nat.add_assoc]

theorem cancel_starts (config : ReplayConfig) (tick : MarketTick) (objects : ReplayObjects) :
    Starts objects (cancelPhase config tick objects) := by
  rcases cancelPhase_cases config tick objects with ⟨due, _, _, result⟩ | result
  · rw [result]
    have live := OrderState.live_of_cancelable due.2.1
    have moves : objects.orderManager.state ≠ .pendingCancel := by
      rcases due.2.1 with state | state <;> simp [state]
    have none := (transition_countFill live tick.receiveTsNs .pendingCancel
      objects.orderManager.side 0).2
    rw [emitTransition, if_neg moves] at none
    constructor
    · intro state terminal
      have other : OrderState.pendingCancel ≠ state := by
        rintro rfl
        cases terminal
      simpa [entering, code_injective.eq_iff] using other
    · rw [none]
      simp only [alive, live, if_true, List.length_nil, Nat.add_zero]
      rfl
  · rw [result]
    exact ⟨fun _ _ => rfl, rfl⟩

theorem decision_starts (sound : Sound objects) (config : ReplayConfig) (tick : MarketTick) :
    Starts objects (decisionPhase config tick objects) := by
  obtain ⟨effect, decides, result⟩ := decisionPhase_decides sound config tick
  rw [result]
  cases decides with
  | noSignal quiet => exact ⟨fun _ _ => rfl, rfl⟩
  | riskReject signal refused =>
    constructor
    · intro state terminal
      simp [entering]
    · simp [submissions, IsSubmission]
  | busy signal live => exact ⟨fun _ _ => rfl, rfl⟩
  | submits signal accepted live =>
    have row : IsSubmission ⟨tick.receiveTsNs, OrderState.idle.code,
        OrderState.pendingNewAck.code, .omsTransition, (strategy.onTick tick).order.side,
        .none⟩ := ⟨rfl, rfl, rfl⟩
    constructor
    · intro state terminal
      have other : OrderState.pendingNewAck ≠ state := by
        rintro rfl
        cases terminal
      simpa [entering, code_injective.eq_iff] using other
    · have none : alive objects.orderManager = 0 := by simp [alive, live]
      rw [none]
      simp only [emitted_measure, emitted_count, emitted_emit, emitted_nil, submissions,
        List.filter_singleton, decide_eq_true row]
      rfl

theorem own_starts (sound : Sound objects) (config : ReplayConfig) (tick : MarketTick) :
    Starts objects (ownPhase config tick objects) := by
  obtain ⟨_, orderManager, _, _⟩ := stopTimer_keeps objects
  have cancel := cancel_starts config tick (stopTimer objects)
  have stopped : Starts objects (cancelPhase config tick (stopTimer objects)) :=
    ⟨cancel.endless, by rw [cancel.started, orderManager]⟩
  exact stopped.andThen (decision_starts (sound.canceled config tick).sound config tick)

end Phases

section Run
variable {env : ReplayEnv} {config : ReplayConfig}

/-- What the journal says about the orders and the simulator of a state. -/
structure Tallied (s : ReplayState) : Prop where
  lives : (submissions s.record.events).length =
    closings s.record.events + alive s.objects.orderManager
  partials : s.objects.gateway.execution.stats.partialFillCount +
    (entering .filled s.record.events : Int) = ((rowsOf .fill s.record.events).length : Int)
  acks : Acknowledged s.objects s.record.events

theorem runTick_rows (s : ReplayState) (tick : MarketTick) :
    (runTick env config tick s).record.events = s.record.events ++
      emitted (venuePhase tick (markObjects tick s.objects)).actions ++
      emitted (ownPhase config tick
        (venuePhase tick (markObjects tick s.objects)).objects).actions := by
  rw [runTick_events, tickEffect_eq]
  simp only [andThen_actions, emitted_append, emitted_measure, emitted_nil, List.append_nil,
    List.append_assoc]

theorem own_acknowledged {objects : ReplayObjects} (sound : Sound objects) (tick : MarketTick)
    {rows : List TradeEvent} (acknowledged : Acknowledged objects rows) :
    Acknowledged (ownPhase config tick objects).objects
      (rows ++ emitted (ownPhase config tick objects).actions) := by
  have unmoved := (own_starts sound config tick).endless .canceled rfl
  have execution := (own_fillRows sound config tick).2
  simp only [Acknowledged, execution, entering_append, unmoved, Nat.add_zero]
  refine acknowledged.imp ?_ ?_
  · rintro ⟨paired, acks⟩
    exact ⟨(ownPhase_keeps sound config tick).inStep paired, acks⟩
  · rintro ⟨stranded, acks⟩
    obtain ⟨gateway, orderManager, _, _⟩ := @own_stranded _ tick sound config stranded
    rw [gateway, orderManager]
    exact ⟨stranded, acks⟩

theorem tick_tallied {s : ReplayState} {tick : MarketTick} (tallied : Tallied s)
    (sound : Sound s.objects) (nonneg : NonNegative tick) :
    Tallied (runTick env config tick s) := by
  have marked := markObjects_sound sound tick
  have answered := sound.answered nonneg
  obtain ⟨none, ended⟩ := venue_lives tick (markObjects tick s.objects)
  obtain ⟨partials, acks⟩ := venue_counts marked nonneg
    (show Acknowledged (markObjects tick s.objects) s.record.events from tallied.acks)
  obtain ⟨endless, started⟩ := own_starts answered config tick
  obtain ⟨fills, execution⟩ := own_fillRows answered config tick
  have after : (runTick env config tick s).objects =
      (ownPhase config tick (venuePhase tick (markObjects tick s.objects)).objects).objects := by
    rw [runTick, tickEffect_eq]
    rfl
  have lives := tallied.lives
  have counted := tallied.partials
  have before : alive (markObjects tick s.objects).orderManager = alive s.objects.orderManager :=
    rfl
  constructor
  · rw [runTick_rows, after, started]
    simp only [submissions_append, List.length_append, none, List.length_nil, closings,
      entering_append, endless _ (show OrderState.filled.isTerminal = true from rfl),
      endless _ (show OrderState.canceled.isTerminal = true from rfl),
      endless _ (show OrderState.rejected.isTerminal = true from rfl),
      endless _ (show OrderState.expired.isTerminal = true from rfl)] at lives ended ⊢
    omega
  · rw [runTick_rows, after, execution]
    simp only [entering_append, rowsOf_append, List.length_append, fills, List.length_nil,
      endless _ (show OrderState.filled.isTerminal = true from rfl)] at partials ⊢
    push_cast
    have same : (markObjects tick s.objects).gateway = s.objects.gateway := rfl
    rw [same] at partials
    omega
  · rw [runTick_rows, after]
    exact own_acknowledged answered tick acks

theorem run_tallied (env : ReplayEnv) (config : ReplayConfig) (tickCount : Nat)
    {ticks : List MarketTick} (nonneg : ∀ tick ∈ ticks, NonNegative tick) :
    Tallied (stateAfter env config tickCount ticks) := by
  have both := (machine env config).run_invariant (fun s => Sound s.objects ∧ Tallied s)
    NonNegative (s := initialState tickCount) ⟨initialObjects_sound, rfl, rfl,
      .inl ⟨.free rfl rfl rfl, rfl⟩⟩ ?_ ticks nonneg
  · exact both.2
  · rintro s tick ⟨sound, tallied⟩ nonneg
    exact ⟨tickEffect_sound sound config nonneg, tick_tallied tallied sound nonneg⟩

/-- A second partial fill overtakes a cancel that the venue then acknowledges. -/
def strandedTicks : List MarketTick :=
  [⟨1000, 1000, 99900, 100000, 1, 0, 10⟩,
    ⟨1200, 1200, 99900, 100100, 1, 0, 10⟩,
    ⟨2200, 2200, 99900, 100100, 1, 0, 10⟩,
    ⟨3200, 3200, 99800, 99900, 1, 0, 1⟩,
    ⟨3300, 3300, 99800, 99900, 1, 0, 1⟩,
    ⟨4200, 4200, 99900, 100100, 1, 0, 10⟩]

/-- What a result and its journal agree on. -/
structure Reconciles (journal : List TradeEvent) (r : ReplayResult) : Prop where
  lives : (submissions journal).length = closings journal + alive r.order
  partials : r.executionStats.partialFillCount + (entering .filled journal : Int) =
    (r.counters.fills : Int)
  acks : r.executionStats.cancelAckCount = (entering .canceled journal : Int) ∨
    r.executionStats.cancelAckCount = (entering .canceled journal : Int) + 1 ∧
      r.order.state = .partiallyFilled

/-- The venue's counters reconcile with the journal. In every replay of a valid
tick list as many orders have ended as were submitted, but for a live one, the
partial fills are the fills that filled no order, and the venue has acknowledged the
cancels the journal shows, or one more that found its order partially filled. -/
theorem run_reconciles_stats (env : ReplayEnv) (config : ReplayConfig) (ticks : List MarketTick)
    (valid : ValidTicks ticks) (some : ticks ≠ []) :
    ∃ s r, replayTicks env config ticks = .ok s ∧ runReplay env config ticks = .ok r ∧
      Reconciles s.record.events r := by
  have nonneg := valid.nonNegative
  have tallied := run_tallied env config ticks.length nonneg
  have journaled := @run_journaled env config _ _ _ (initialState_journaled ticks.length)
    initialObjects_sound nonneg
  refine ⟨_, _, replayTicks_run env config some valid.oneSymbol,
    runReplay_run env config some valid.oneSymbol, tallied.lives, ?_, ?_⟩
  · have fills : (stateAfter env config ticks.length ticks).record.counters.fills = _ :=
      journaled.fills
    exact tallied.partials.trans (congrArg _ fills.symm)
  · rcases tallied.acks with ⟨_, acks⟩ | ⟨stranded, acks⟩
    · exact .inl acks
    · exact .inr ⟨acks, stranded.state⟩

theorem run_reconciles_stats_stranded :
    ∃ s r, replayTicks quietEnv ⟨.sync, .passive, 0⟩ strandedTicks = .ok s ∧
      runReplay quietEnv ⟨.sync, .passive, 0⟩ strandedTicks = .ok r ∧
      Reconciles s.record.events r :=
  run_reconciles_stats quietEnv ⟨.sync, .passive, 0⟩ strandedTicks (by decide) (by decide)

/-- Nothing but risk rejects and marks has happened since a state. -/
structure Idles (start s : ReplayState) : Prop where
  rows : ∃ rows, s.record.events = start.record.events ++ rows ∧
    ∀ row ∈ rows, row.kind = .riskReject
  gateway : s.objects.gateway = start.objects.gateway
  orderManager : s.objects.orderManager = start.objects.orderManager
  position : s.objects.accounting.positionState = start.objects.accounting.positionState
  realized : s.objects.accounting.pnlState.realizedPnl =
    start.objects.accounting.pnlState.realizedPnl
  cash : s.objects.accounting.pnlState.cash = start.objects.accounting.pnlState.cash

/-- The venue has nothing to say about a stranded order. -/
theorem venue_stranded {objects : ReplayObjects} (sound : Sound objects) (tick : MarketTick)
    (stranded : Stranded objects.gateway objects.orderManager) :
    (venuePhase tick objects).objects = objects ∧
      emitted (venuePhase tick objects).actions = [] := by
  obtain ⟨events, next, ticks, result⟩ := onTick_ticks sound.wellFormed.coherent tick
  obtain ⟨rfl, rfl⟩ := tick_stranded ticks stranded
  rw [venuePhase_rows, venuePhase_eq, andThen_objects, result]
  exact ⟨rfl, rfl⟩

theorem tick_idles {start s : ReplayState} {tick : MarketTick} (idles : Idles start s)
    (sound : Sound s.objects) (refreshed : AccountingEngine.Refreshed s.objects.accounting)
    (stranded : Stranded start.objects.gateway start.objects.orderManager) :
    Idles start (runTick env config tick s) := by
  obtain ⟨⟨rows, split, rejects⟩, gateway, orderManager, position, realized, cash⟩ := idles
  have marked := markObjects_sound sound tick
  have still : Stranded (markObjects tick s.objects).gateway
      (markObjects tick s.objects).orderManager := by
    rwa [← gateway, ← orderManager] at stranded
  obtain ⟨quiet, silent⟩ := venue_stranded marked tick still
  obtain ⟨sameGateway, sameOrder, sameBooks, refused⟩ :=
    @own_stranded _ tick marked config still
  obtain ⟨samePosition, sameRealized⟩ := AccountingEngine.markToMarket_figures refreshed tick.mid
  have after : (runTick env config tick s).objects =
      (ownPhase config tick (markObjects tick s.objects)).objects := by
    rw [runTick, tickEffect_eq]
    simp only [andThen_objects, quiet]
  have events : (runTick env config tick s).record.events = start.record.events ++ (rows ++
      emitted (ownPhase config tick (markObjects tick s.objects)).actions) := by
    rw [runTick_rows, quiet, silent, split, List.append_nil, List.append_assoc]
  constructor
  · refine ⟨_, events, ?_⟩
    intro row member
    exact (List.mem_append.1 member).elim (rejects row) (refused row)
  · rw [after, sameGateway]
    exact gateway
  · rw [after, sameOrder]
    exact orderManager
  · rw [after, sameBooks]
    exact samePosition.trans position
  · rw [after, sameBooks]
    exact sameRealized.trans realized
  · rw [after, sameBooks, ← cash]
    exact AccountingEngine.markToMarket_cash _ _

theorem run_idles {start : ReplayState} {ticks : List MarketTick} (sound : Sound start.objects)
    (refreshed : AccountingEngine.Refreshed start.objects.accounting)
    (stranded : Stranded start.objects.gateway start.objects.orderManager)
    (nonneg : ∀ tick ∈ ticks, NonNegative tick) :
    Idles start ((machine env config).run start ticks) := by
  have kept := (machine env config).run_invariant (fun s => Sound s.objects ∧
    AccountingEngine.Refreshed s.objects.accounting ∧ Idles start s) NonNegative (s := start)
    ⟨sound, refreshed, ⟨[], by simp⟩, rfl, rfl, rfl, rfl, rfl⟩ ?_ ticks nonneg
  · exact kept.2.2
  · rintro s tick ⟨sound, refreshed, idles⟩ nonneg
    exact ⟨tickEffect_sound sound config nonneg, (tick_journals sound config nonneg).refreshed,
      tick_idles idles sound refreshed stranded⟩

/-- Once the venue has acknowledged a cancel the journal does not show, the replay
never trades again: whatever follows, it writes risk rejects only, and order,
position, cash and realized profit stay as they are. -/
theorem run_stranded (env : ReplayEnv) (config : ReplayConfig) (tickCount : Nat)
    (before after : List MarketTick) (nonneg : ∀ tick ∈ before ++ after, NonNegative tick)
    (unseen :
      (stateAfter env config tickCount before).objects.gateway.execution.stats.cancelAckCount ≠
        (entering .canceled (stateAfter env config tickCount before).record.events : Int)) :
    Idles (stateAfter env config tickCount before)
      (stateAfter env config tickCount (before ++ after)) := by
  have early : ∀ tick ∈ before, NonNegative tick :=
    fun tick member => nonneg tick (List.mem_append_left _ member)
  have late : ∀ tick ∈ after, NonNegative tick :=
    fun tick member => nonneg tick (List.mem_append_right _ member)
  have sound := run_sound env config tickCount early
  have stranded : Stranded (stateAfter env config tickCount before).objects.gateway
      (stateAfter env config tickCount before).objects.orderManager := by
    rcases (run_tallied env config tickCount early).acks with ⟨_, acks⟩ | ⟨stranded, _⟩
    · exact absurd acks unseen
    · exact stranded
  have refreshed := (@run_journaled env config _ _ _ (initialState_journaled tickCount)
    initialObjects_sound early).refreshed
  have whole : stateAfter env config tickCount (before ++ after) =
      (machine env config).run (stateAfter env config tickCount before) after :=
    (machine env config).run_append _ before after
  rw [whole]
  exact run_idles sound refreshed stranded late

/-- A buy signal after the acknowledgment was refused. -/
theorem run_stranded_signal :
    Idles (stateAfter quietEnv ⟨.sync, .passive, 0⟩ 7 strandedTicks)
      (stateAfter quietEnv ⟨.sync, .passive, 0⟩ 7
        (strandedTicks ++ [⟨5200, 5200, 99800, 99900, 1, 10, 10⟩])) :=
  run_stranded quietEnv ⟨.sync, .passive, 0⟩ 7 strandedTicks
    [⟨5200, 5200, 99800, 99900, 1, 10, 10⟩]
    (fun tick member => by fin_cases member <;> exact ⟨by decide, by decide⟩)
    (by decide +kernel)

end Run

end TradingKernel.ReplayTallies
