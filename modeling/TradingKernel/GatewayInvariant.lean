import Mathlib.Tactic.SplitIfs
import TradingKernel.MockVenueGateway

/-!
What one gateway tick can do. The gateway's flags and the simulator's resting
order describe the same order in every reachable state, so each tick falls
into one of six cases with an explicit batch and next state.
-/

namespace TradingKernel.GatewayInvariant
open Library OrderManager MockVenueGateway
open ExecutionSimulator (Simulator ExecutionReport passiveFillQty reachableQty CancelDue Fills
  afterQueue afterCancelAck queueAfter aggressiveFillQty)

/-- The gateway's own flags agree with each other and with the simulator. -/
structure WellFormed (gateway : Gateway) : Prop where
  exclusive : gateway.pendingNew.active = true → gateway.activeOrder.active = false
  resting : gateway.execution.restingOrder.active = gateway.activeOrder.active
  pendingQty : gateway.pendingNew.active = true → 0 < gateway.pendingNew.request.quantity
  leaves : gateway.activeOrder.active = true →
    gateway.activeOrder.leavesQty = gateway.execution.restingOrder.leavesQty ∧
      0 < gateway.execution.restingOrder.leavesQty
  order : gateway.activeOrder.active = true →
    gateway.execution.restingOrder.side = gateway.activeOrder.side ∧
      gateway.execution.restingOrder.price = gateway.activeOrder.limitPrice
  queue : gateway.activeOrder.active = true → 0 ≤ gateway.execution.restingOrder.queueAheadQty
  nextId : 0 < gateway.nextVenueOrderId
  activeId : gateway.activeOrder.active = true →
    0 < gateway.activeOrder.venueOrderId ∧
      gateway.activeOrder.venueOrderId < gateway.nextVenueOrderId
  rejectFirst : gateway.activeOrder.active = true →
    gateway.execution.restingOrder.cancelPending = true →
      gateway.activeOrder.venueOrderId.tmod 2 = 1 → gateway.activeOrder.cancelRejectOnceDone = true

/-- What remains of it when ticks may display negative quantities: everything
but the sign of the queue. -/
structure Coherent (gateway : Gateway) : Prop where
  exclusive : gateway.pendingNew.active = true → gateway.activeOrder.active = false
  resting : gateway.execution.restingOrder.active = gateway.activeOrder.active
  pendingQty : gateway.pendingNew.active = true → 0 < gateway.pendingNew.request.quantity
  leaves : gateway.activeOrder.active = true →
    gateway.activeOrder.leavesQty = gateway.execution.restingOrder.leavesQty ∧
      0 < gateway.execution.restingOrder.leavesQty
  order : gateway.activeOrder.active = true →
    gateway.execution.restingOrder.side = gateway.activeOrder.side ∧
      gateway.execution.restingOrder.price = gateway.activeOrder.limitPrice
  nextId : 0 < gateway.nextVenueOrderId
  activeId : gateway.activeOrder.active = true →
    0 < gateway.activeOrder.venueOrderId ∧
      gateway.activeOrder.venueOrderId < gateway.nextVenueOrderId
  rejectFirst : gateway.activeOrder.active = true →
    gateway.execution.restingOrder.cancelPending = true →
      gateway.activeOrder.venueOrderId.tmod 2 = 1 → gateway.activeOrder.cancelRejectOnceDone = true

theorem WellFormed.coherent {gateway : Gateway} (wellFormed : WellFormed gateway) :
    Coherent gateway :=
  { wellFormed with }

theorem Coherent.wellFormed {gateway : Gateway} (coherent : Coherent gateway)
    (queue : gateway.activeOrder.active = true → 0 ≤ gateway.execution.restingOrder.queueAheadQty) :
    WellFormed gateway :=
  { coherent with queue }

theorem Coherent.notPending {gateway : Gateway} (coherent : Coherent gateway)
    (active : gateway.activeOrder.active = true) : gateway.pendingNew.active = false := by
  by_contra pending
  simp [coherent.exclusive (by simpa using pending)] at active

theorem WellFormed.notPending {gateway : Gateway} (wellFormed : WellFormed gateway)
    (active : gateway.activeOrder.active = true) : gateway.pendingNew.active = false :=
  wellFormed.coherent.notPending active

theorem create_wellFormed (newAckLatencyNs cancelSendLatencyNs : TimestampNs) :
    WellFormed (create newAckLatencyNs cancelSendLatencyNs) := by
  constructor <;> simp [create, ExecutionSimulator.fresh, ExecutionSimulator.create]

/-- What matching does to an active order on one tick. -/
inductive Matches (gateway : Gateway) (tick : MarketTick) : List VenueEvent → Gateway → Prop where
  | fills {report execution} : 0 < reachableQty gateway.execution tick →
      Fills gateway.execution tick report execution →
      Matches gateway tick
        [⟨.fill, tick.receiveTsNs, gateway.activeOrder.venueOrderId,
          passiveFillQty gateway.execution tick, gateway.activeOrder.limitPrice⟩]
        { gateway with
          activeOrder := { gateway.activeOrder with
            leavesQty := gateway.activeOrder.leavesQty - passiveFillQty gateway.execution tick
            active := decide
              (gateway.activeOrder.leavesQty - passiveFillQty gateway.execution tick ≠ 0) }
          execution := execution }
  | cancelAcked : reachableQty gateway.execution tick ≤ 0 → CancelDue gateway.execution tick →
      Matches gateway tick
        [⟨.cancelAck, tick.receiveTsNs, gateway.activeOrder.venueOrderId, 0, 0⟩]
        { gateway with
          activeOrder := { gateway.activeOrder with leavesQty := 0, active := false }
          execution := afterCancelAck gateway.execution tick }
  | waits : reachableQty gateway.execution tick ≤ 0 → ¬CancelDue gateway.execution tick →
      Matches gateway tick [] { gateway with execution := afterQueue gateway.execution tick }

theorem pushEvent_room (batch : VenueEventBatch) (event : VenueEvent)
    (room : batch.events.length < 4) :
    pushEvent batch event = ⟨batch.events ++ [event], batch.overflowCount⟩ := by
  simp [pushEvent, show ¬batch.events.length ≥ 4 by omega]

theorem matchResting_matches {gateway : Gateway} (coherent : Coherent gateway)
    (active : gateway.activeOrder.active = true) (tick : MarketTick) (batch : VenueEventBatch)
    (room : batch.events.length < 4) :
    ∃ events next, Matches gateway tick events next ∧
      matchResting gateway tick batch = (⟨batch.events ++ events, batch.overflowCount⟩, next) := by
  have resting : gateway.execution.restingOrder.active = true := coherent.resting.trans active
  obtain ⟨leaves, positive⟩ := coherent.leaves active
  have rests := ExecutionSimulator.onTick_rests tick resting
  cases result : ExecutionSimulator.onTick gateway.execution tick with
  | mk report execution =>
    simp only [result] at rests
    simp only [matchResting, active, Bool.true_or, if_true, result]
    cases rests with
    | fills reach fills =>
      refine ⟨_, _, .fills reach fills, ?_⟩
      simp only [applyExecutionReport, fills.hasFill, Bool.and_self, if_true,
        fills.notAcked, Bool.false_and, Bool.false_eq_true, if_false, pushEvent_room _ _ room,
        fills.fill, (coherent.order active).2, fills.leaves, leaves]
      simp only [closeActiveOrderIfDone, fills.resting,
        ExecutionSimulator.RestingOrder.afterFill, resting, Bool.true_and]
      by_cases done : gateway.execution.restingOrder.leavesQty -
          passiveFillQty gateway.execution tick = 0
      · simp [done]
      · simp [done]
    | cancelAcked reach due =>
      refine ⟨_, _, .cancelAcked reach due, ?_⟩
      simp [applyExecutionReport, ExecutionReport.quiet, pushEvent_room _ _ room,
        closeActiveOrderIfDone, afterCancelAck]
    | waits reach early =>
      refine ⟨_, _, .waits reach early, ?_⟩
      have unfinished : gateway.activeOrder.leavesQty ≠ 0 := by omega
      simp only [applyExecutionReport, ExecutionReport.quiet, ← leaves]
      simp [closeActiveOrderIfDone, unfinished]
      rw [← active]

/-- The gateway right after acknowledging a passive order. -/
def acknowledged (gateway : Gateway) (tick : MarketTick) : Gateway :=
  let request := gateway.pendingNew.request
  { gateway with
    nextVenueOrderId := gateway.nextVenueOrderId + 1
    pendingNew := { gateway.pendingNew with active := false }
    activeOrder := ⟨true, request.clientOrderId, gateway.nextVenueOrderId, request.side,
      request.limitPrice, request.quantity, false, 0, false⟩
    execution := { gateway.execution with restingOrder := ⟨true, request.side, request.limitPrice,
      request.quantity, tick.ownQty request.side, tick.receiveTsNs, false, 0⟩ } }

/-- The quantity an aggressive order trades on its tick. -/
def iocFillQty (request : GatewayNewOrder) (tick : MarketTick) : Int :=
  aggressiveFillQty tick (orderRequest request)

/-- The events of an aggressive order's only tick. -/
def iocEvents (request : GatewayNewOrder) (tick : MarketTick) (venueOrderId : Int) :
    List VenueEvent :=
  ⟨.newAck, tick.receiveTsNs, venueOrderId, 0, 0⟩ ::
    ((if 0 < iocFillQty request tick then
        [⟨.fill, tick.receiveTsNs, venueOrderId, iocFillQty request tick,
          tick.touchPrice request.side⟩]
      else []) ++
      if iocFillQty request tick < request.quantity then
        [⟨.expired, tick.receiveTsNs, venueOrderId, 0, 0⟩]
      else [])

theorem mem_iocEvents {request : GatewayNewOrder} {tick : MarketTick} {venueOrderId : Int}
    {event : VenueEvent} (member : event ∈ iocEvents request tick venueOrderId) :
    event = ⟨.newAck, tick.receiveTsNs, venueOrderId, 0, 0⟩ ∨
      event = ⟨.fill, tick.receiveTsNs, venueOrderId, iocFillQty request tick,
        tick.touchPrice request.side⟩ ∨
      event = ⟨.expired, tick.receiveTsNs, venueOrderId, 0, 0⟩ := by
  simp only [iocEvents, List.mem_cons, List.mem_append] at member
  rcases member with ack | fill | expiry
  · exact .inl ack
  · split_ifs at fill
    · exact .inr (.inl (List.mem_singleton.1 fill))
    · cases fill
  · split_ifs at expiry
    · exact .inr (.inr (List.mem_singleton.1 expiry))
    · cases expiry

/-- The gateway after an aggressive order's only tick. -/
def iocDone (gateway : Gateway) (tick : MarketTick) : Gateway :=
  let request := gateway.pendingNew.request
  { gateway with
    nextVenueOrderId := gateway.nextVenueOrderId + 1
    pendingNew := { gateway.pendingNew with active := false }
    activeOrder := ⟨false, request.clientOrderId, gateway.nextVenueOrderId, request.side,
      request.limitPrice, 0, false, 0, false⟩
    execution :=
      (ExecutionSimulator.aggressiveFill gateway.execution tick (orderRequest request)).2 }

def CancelArrives (gateway : Gateway) (tick : MarketTick) : Prop :=
  gateway.activeOrder.cancelSent = true ∧ gateway.activeOrder.cancelSendTsNs ≤ tick.receiveTsNs

instance (gateway : Gateway) (tick : MarketTick) : Decidable (CancelArrives gateway tick) :=
  inferInstanceAs (Decidable (_ ∧ _))

/-- The venue rejects the first cancel of an order with an odd id. -/
def RejectsCancel (order : ActiveOrder) : Prop :=
  order.cancelRejectOnceDone = false ∧ order.venueOrderId.tmod 2 = 1

instance (order : ActiveOrder) : Decidable (RejectsCancel order) :=
  inferInstanceAs (Decidable (_ ∧ _))

/-- The gateway after forwarding a cancel that has arrived, if one has. -/
def forwarded (gateway : Gateway) (tick : MarketTick) : Gateway :=
  if CancelArrives gateway tick then
    { gateway with
      activeOrder := { gateway.activeOrder with cancelSent := false }
      execution := (ExecutionSimulator.requestCancel gateway.execution tick.receiveTsNs).2 }
  else gateway

def AckDue (gateway : Gateway) (tick : MarketTick) : Prop :=
  gateway.pendingNew.active = true ∧ gateway.pendingNew.ackReadyTsNs ≤ tick.receiveTsNs

instance (gateway : Gateway) (tick : MarketTick) : Decidable (AckDue gateway tick) :=
  inferInstanceAs (Decidable (_ ∧ _))

/-- While an order is active, nothing is pending that a tick could answer. -/
theorem Coherent.notDue {gateway : Gateway} (coherent : Coherent gateway)
    (active : gateway.activeOrder.active = true) (tick : MarketTick) : ¬AckDue gateway tick := by
  intro due
  simp [coherent.exclusive due.1] at active

/-- Everything one gateway tick can do. -/
inductive Ticks (gateway : Gateway) (tick : MarketTick) : List VenueEvent → Gateway → Prop where
  | quiet : ¬AckDue gateway tick → gateway.activeOrder.active = false →
      Ticks gateway tick [] gateway
  | newReject : AckDue gateway tick → gateway.pendingNew.shouldReject = true →
      Ticks gateway tick [⟨.newReject, tick.receiveTsNs, 0, 0, 0⟩]
        { gateway with pendingNew := { gateway.pendingNew with active := false } }
  | ioc : AckDue gateway tick → gateway.pendingNew.shouldReject = false →
      gateway.pendingNew.request.style = .aggressive →
      Ticks gateway tick
        (iocEvents gateway.pendingNew.request tick gateway.nextVenueOrderId) (iocDone gateway tick)
  | passive {events next} : AckDue gateway tick → gateway.pendingNew.shouldReject = false →
      gateway.pendingNew.request.style = .passive →
      Matches (acknowledged gateway tick) tick events next →
      Ticks gateway tick
        (⟨.newAck, tick.receiveTsNs, gateway.nextVenueOrderId, 0, 0⟩ :: events) next
  | cancelReject : gateway.activeOrder.active = true → CancelArrives gateway tick →
      RejectsCancel gateway.activeOrder →
      Ticks gateway tick
        [⟨.cancelReject, tick.receiveTsNs, gateway.activeOrder.venueOrderId, 0, 0⟩]
        { gateway with activeOrder := { gateway.activeOrder with
          cancelSent := false
          cancelRejectOnceDone := true } }
  | matching {events next} : gateway.activeOrder.active = true →
      (CancelArrives gateway tick → ¬RejectsCancel gateway.activeOrder) →
      Matches (forwarded gateway tick) tick events next → Ticks gateway tick events next

theorem acknowledged_coherent {gateway : Gateway} (coherent : Coherent gateway)
    {tick : MarketTick} (due : AckDue gateway tick) : Coherent (acknowledged gateway tick) := by
  have positive := coherent.pendingQty due.1
  have id := coherent.nextId
  exact
    { exclusive := by
        intro pending
        cases pending
      resting := rfl
      pendingQty := by
        intro pending
        cases pending
      leaves := fun _ => ⟨rfl, positive⟩
      order := fun _ => ⟨rfl, rfl⟩
      nextId := by
        change 0 < gateway.nextVenueOrderId + 1
        omega
      activeId := by
        intro _
        change 0 < gateway.nextVenueOrderId ∧
          gateway.nextVenueOrderId < gateway.nextVenueOrderId + 1
        omega
      rejectFirst := by
        intro _ cancelPending
        cases cancelPending }

theorem acknowledged_wellFormed {gateway : Gateway} (wellFormed : WellFormed gateway)
    {tick : MarketTick} (nonneg : NonNegative tick) (due : AckDue gateway tick) :
    WellFormed (acknowledged gateway tick) :=
  (acknowledged_coherent wellFormed.coherent due).wellFormed fun _ => nonneg.ownQty _

theorem forwarded_coherent {gateway : Gateway} (coherent : Coherent gateway)
    {tick : MarketTick} (answer : CancelArrives gateway tick → ¬RejectsCancel gateway.activeOrder) :
    Coherent (forwarded gateway tick) := by
  unfold forwarded
  split_ifs with arrives
  · have keeps := ExecutionSimulator.requestCancel_restingOrder gateway.execution tick.receiveTsNs
    have done : gateway.activeOrder.venueOrderId.tmod 2 = 1 →
        gateway.activeOrder.cancelRejectOnceDone = true := by
      intro odd
      by_contra notDone
      exact answer arrives ⟨by simpa using notDone, odd⟩
    constructor <;> simp only [keeps]
    · exact coherent.exclusive
    · split_ifs <;> exact coherent.resting
    · exact coherent.pendingQty
    · split_ifs <;> exact coherent.leaves
    · split_ifs <;> exact coherent.order
    · exact coherent.nextId
    · exact coherent.activeId
    · exact fun _ _ => done
  · exact coherent

theorem forwarded_queue (gateway : Gateway) (tick : MarketTick) :
    (forwarded gateway tick).execution.restingOrder.queueAheadQty =
      gateway.execution.restingOrder.queueAheadQty := by
  unfold forwarded
  split_ifs
  · rw [ExecutionSimulator.requestCancel_restingOrder]
    split_ifs <;> rfl
  · rfl

theorem forwarded_active (gateway : Gateway) (tick : MarketTick) :
    (forwarded gateway tick).activeOrder.active = gateway.activeOrder.active := by
  unfold forwarded
  split_ifs <;> rfl

theorem forwarded_wellFormed {gateway : Gateway} (wellFormed : WellFormed gateway)
    {tick : MarketTick} (answer : CancelArrives gateway tick → ¬RejectsCancel gateway.activeOrder) :
    WellFormed (forwarded gateway tick) := by
  apply (forwarded_coherent wellFormed.coherent answer).wellFormed
  rw [forwarded_active, forwarded_queue]
  exact wellFormed.queue

/-- The acknowledgment block on an aggressive request is the whole IOC lifecycle. -/
theorem acknowledge_ioc {gateway : Gateway} (coherent : Coherent gateway) {tick : MarketTick}
    (pending : gateway.pendingNew.active = true)
    (style : gateway.pendingNew.request.style = .aggressive) :
    acknowledge gateway tick =
      (⟨iocEvents gateway.pendingNew.request tick gateway.nextVenueOrderId, 0⟩,
        iocDone gateway tick) := by
  have positive := coherent.pendingQty pending
  have free : gateway.execution.restingOrder.active = false :=
    coherent.resting.trans (coherent.exclusive pending)
  have quantity : ¬gateway.pendingNew.request.quantity ≤ 0 := by omega
  simp only [acknowledge, ExecutionSimulator.submitOrder, orderRequest, if_neg quantity, style,
    if_true, iocEvents, iocDone, iocFillQty]
  change _ = (VenueEventBatch.mk _ 0, _)
  by_cases reach : 0 < aggressiveFillQty tick (orderRequest gateway.pendingNew.request)
  · have trades := ExecutionSimulator.aggressiveFill_trades gateway.execution reach
    simp only [orderRequest] at trades reach
    simp only [applyExecutionReport, trades.hasFill, trades.notAcked, trades.fill, trades.leaves]
    by_cases done : aggressiveFillQty tick (orderRequest gateway.pendingNew.request) <
        gateway.pendingNew.request.quantity
    · simp only [orderRequest] at done
      simp [pushEvent, VenueEventBatch.empty, closeActiveOrderIfDone, trades.resting, free, done,
        reach]
    · have full : aggressiveFillQty tick (orderRequest gateway.pendingNew.request) =
          gateway.pendingNew.request.quantity := by
        have := min_le_right (tick.oppositeQty gateway.pendingNew.request.side)
          gateway.pendingNew.request.quantity
        simp only [aggressiveFillQty, orderRequest] at done ⊢
        omega
      simp only [orderRequest] at done full
      simp [pushEvent, VenueEventBatch.empty, closeActiveOrderIfDone, trades.resting, free, full,
        positive]
  · have quiet := @ExecutionSimulator.aggressiveFill_quiet gateway.execution tick
      (orderRequest gateway.pendingNew.request) (by omega)
    simp only [orderRequest] at quiet reach
    have short : aggressiveFillQty tick ⟨gateway.pendingNew.request.side,
        gateway.pendingNew.request.quantity, gateway.pendingNew.request.limitPrice⟩ <
          gateway.pendingNew.request.quantity := by omega
    simp [applyExecutionReport, quiet, ExecutionReport.quiet, pushEvent, VenueEventBatch.empty,
      closeActiveOrderIfDone, free, reach, short, positive]

/-- The acknowledgment block on a passive request rests the whole order. -/
theorem acknowledge_passive {gateway : Gateway} (coherent : Coherent gateway)
    {tick : MarketTick} (pending : gateway.pendingNew.active = true)
    (style : gateway.pendingNew.request.style = .passive) :
    acknowledge gateway tick =
      (⟨[⟨.newAck, tick.receiveTsNs, gateway.nextVenueOrderId, 0, 0⟩], 0⟩,
        acknowledged gateway tick) := by
  have positive := coherent.pendingQty pending
  have free : gateway.execution.restingOrder.active = false :=
    coherent.resting.trans (coherent.exclusive pending)
  have quantity : ¬gateway.pendingNew.request.quantity ≤ 0 := by omega
  simp [acknowledge, ExecutionSimulator.submitOrder, orderRequest, quantity, style, free,
    ExecutionReport.quiet, applyExecutionReport, pushEvent, VenueEventBatch.empty,
    closeActiveOrderIfDone, acknowledged]

theorem cancelAndMatch_idle {gateway : Gateway} (coherent : Coherent gateway)
    (idle : gateway.activeOrder.active = false) (tick : MarketTick) (batch : VenueEventBatch) :
    cancelAndMatch gateway tick batch = (batch, gateway) := by
  simp [cancelAndMatch, matchResting, idle, coherent.resting]

theorem cancelAndMatch_rejects {gateway : Gateway} (active : gateway.activeOrder.active = true)
    {tick : MarketTick} (arrives : CancelArrives gateway tick)
    (rejects : RejectsCancel gateway.activeOrder) :
    cancelAndMatch gateway tick .empty =
      (⟨[⟨.cancelReject, tick.receiveTsNs, gateway.activeOrder.venueOrderId, 0, 0⟩], 0⟩,
        { gateway with activeOrder := { gateway.activeOrder with
          cancelSent := false
          cancelRejectOnceDone := true } }) := by
  simp [cancelAndMatch, active, arrives.1, arrives.2, rejects.1, rejects.2, pushEvent,
    VenueEventBatch.empty]

theorem cancelAndMatch_matches {gateway : Gateway} (coherent : Coherent gateway)
    (active : gateway.activeOrder.active = true) {tick : MarketTick}
    (answer : CancelArrives gateway tick → ¬RejectsCancel gateway.activeOrder)
    (batch : VenueEventBatch) (room : batch.events.length < 4) :
    ∃ events next, Matches (forwarded gateway tick) tick events next ∧
      cancelAndMatch gateway tick batch =
        (⟨batch.events ++ events, batch.overflowCount⟩, next) := by
  obtain ⟨events, next, matched, result⟩ := matchResting_matches
    (forwarded_coherent coherent answer) ((forwarded_active gateway tick).trans active) tick
    batch room
  refine ⟨events, next, matched, ?_⟩
  rw [← result]
  by_cases arrives : CancelArrives gateway tick
  · have accepted := answer arrives
    simp only [RejectsCancel, not_and] at accepted
    have branch : (!gateway.activeOrder.cancelRejectOnceDone &&
        decide (gateway.activeOrder.venueOrderId.tmod 2 = 1)) = false := by
      cases done : gateway.activeOrder.cancelRejectOnceDone
      · simpa using accepted done
      · rfl
    simp only [cancelAndMatch, active, arrives.1, arrives.2, forwarded, if_pos arrives,
      decide_true, Bool.and_self, if_true, branch, Bool.false_eq_true, if_false]
  · have branch : (gateway.activeOrder.cancelSent &&
        decide (tick.receiveTsNs ≥ gateway.activeOrder.cancelSendTsNs)) = false := by
      simpa [CancelArrives] using arrives
    simp only [cancelAndMatch, active, Bool.true_and, branch, Bool.false_eq_true, if_false,
      forwarded, if_neg arrives]

theorem iocDone_resting (gateway : Gateway) (tick : MarketTick) :
    (iocDone gateway tick).execution.restingOrder = gateway.execution.restingOrder := by
  by_cases reach : 0 < iocFillQty gateway.pendingNew.request tick
  · exact (ExecutionSimulator.aggressiveFill_trades gateway.execution reach).resting
  · simp only [iocDone]
    rw [ExecutionSimulator.aggressiveFill_quiet gateway.execution (by
      simp only [iocFillQty] at reach; omega)]

theorem iocDone_coherent {gateway : Gateway} (coherent : Coherent gateway)
    (tick : MarketTick) (pending : gateway.pendingNew.active = true) :
    Coherent (iocDone gateway tick) := by
  have id := coherent.nextId
  constructor
  · exact fun _ => rfl
  · rw [iocDone_resting]
    exact coherent.resting.trans (coherent.exclusive pending)
  · simp [iocDone]
  · simp [iocDone]
  · simp [iocDone]
  · simp only [iocDone]
    omega
  · simp [iocDone]
  · simp [iocDone]

theorem iocDone_wellFormed {gateway : Gateway} (wellFormed : WellFormed gateway)
    (tick : MarketTick) (pending : gateway.pendingNew.active = true) :
    WellFormed (iocDone gateway tick) := by
  apply (iocDone_coherent wellFormed.coherent tick pending).wellFormed
  simp [iocDone]

/-- Every tick on a coherent gateway is one of the listed cases, and its
batch never overflows. -/
theorem onTick_ticks {gateway : Gateway} (coherent : Coherent gateway) (tick : MarketTick) :
    ∃ events next, Ticks gateway tick events next ∧ onTick gateway tick = (⟨events, 0⟩, next) := by
  by_cases due : AckDue gateway tick
  · have branch : (gateway.pendingNew.active &&
        decide (tick.receiveTsNs ≥ gateway.pendingNew.ackReadyTsNs)) = true := by
      simp [due.1, due.2]
    cases reject : gateway.pendingNew.shouldReject with
    | true =>
      refine ⟨_, _, .newReject due reject, ?_⟩
      simp [onTick, branch, reject, pushEvent, VenueEventBatch.empty]
    | false =>
      cases style : gateway.pendingNew.request.style with
      | aggressive =>
        refine ⟨_, _, .ioc due reject style, ?_⟩
        simp only [onTick, branch, if_true, reject, Bool.false_eq_true, if_false,
          acknowledge_ioc coherent due.1 style]
        exact cancelAndMatch_idle (iocDone_coherent coherent tick due.1) rfl tick _
      | passive =>
        have next := acknowledged_coherent coherent due
        have early : ¬CancelArrives (acknowledged gateway tick) tick := by
          simp [CancelArrives, acknowledged]
        obtain ⟨events, after, matched, result⟩ := cancelAndMatch_matches next rfl
          (fun arrives => absurd arrives early)
          ⟨[⟨.newAck, tick.receiveTsNs, gateway.nextVenueOrderId, 0, 0⟩], 0⟩ (by simp)
        rw [forwarded, if_neg early] at matched
        refine ⟨_, _, .passive due reject style matched, ?_⟩
        simp only [onTick, branch, if_true, reject, Bool.false_eq_true, if_false,
          acknowledge_passive coherent due.1 style]
        exact result
  · have branch : (gateway.pendingNew.active &&
        decide (tick.receiveTsNs ≥ gateway.pendingNew.ackReadyTsNs)) = false := by
      simpa [AckDue] using due
    simp only [onTick, branch, Bool.false_eq_true, if_false]
    cases active : gateway.activeOrder.active with
    | false => exact ⟨_, _, .quiet due active, cancelAndMatch_idle coherent active tick _⟩
    | true =>
      by_cases answer : CancelArrives gateway tick → ¬RejectsCancel gateway.activeOrder
      · obtain ⟨events, next, matched, result⟩ :=
          cancelAndMatch_matches coherent active answer .empty (by simp [VenueEventBatch.empty])
        exact ⟨_, _, .matching active answer matched, result⟩
      · obtain ⟨arrives, rejects⟩ := Classical.not_imp.1 answer
        rw [not_not] at rejects
        exact ⟨_, _, .cancelReject active arrives rejects,
          cancelAndMatch_rejects active arrives rejects⟩

theorem Matches.coherent {gateway next : Gateway} {tick : MarketTick} {events : List VenueEvent}
    (matched : Matches gateway tick events next) (coherent : Coherent gateway)
    (active : gateway.activeOrder.active = true) : Coherent next := by
  have resting : gateway.execution.restingOrder.active = true := coherent.resting.trans active
  obtain ⟨leaves, positive⟩ := coherent.leaves active
  cases matched with
  | @fills report execution reach fills =>
    have filled : passiveFillQty gateway.execution tick ≤
        gateway.execution.restingOrder.leavesQty := min_le_left _ _
    constructor <;> simp only [fills.resting, ExecutionSimulator.RestingOrder.afterFill, resting,
      leaves, decide_eq_true_eq]
    · exact fun pending => absurd (coherent.exclusive pending) (by simp [active])
    · rfl
    · exact coherent.pendingQty
    · intro rest
      exact ⟨trivial, by omega⟩
    · exact fun _ => coherent.order active
    · exact coherent.nextId
    · exact fun _ => coherent.activeId active
    · intro rest pending
      exact coherent.rejectFirst active (by simpa [rest] using pending)
  | cancelAcked reach due =>
    constructor <;> simp only [afterCancelAck]
    · exact fun _ => trivial
    · exact coherent.pendingQty
    · simp
    · simp
    · exact coherent.nextId
    · simp
    · simp
  | waits reach early =>
    constructor <;> simp only [afterQueue]
    · exact coherent.exclusive
    · exact coherent.resting
    · exact coherent.pendingQty
    · exact coherent.leaves
    · exact coherent.order
    · exact coherent.nextId
    · exact coherent.activeId
    · exact coherent.rejectFirst

/-- Displayed quantities that are not negative never take the queue below zero. -/
theorem Matches.wellFormed {gateway next : Gateway} {tick : MarketTick} {events : List VenueEvent}
    (matched : Matches gateway tick events next) (wellFormed : WellFormed gateway)
    (active : gateway.activeOrder.active = true) (nonneg : NonNegative tick) : WellFormed next := by
  have bounds := ExecutionSimulator.reachable_bounds (wellFormed.queue active)
    (nonneg.oppositeQty gateway.execution.restingOrder.side)
  apply (matched.coherent wellFormed.coherent active).wellFormed
  intro _
  cases matched with
  | fills reach fills =>
    rw [fills.resting]
    exact bounds.2.2
  | cancelAcked reach due => exact bounds.2.2
  | waits reach early => exact bounds.2.2

theorem Ticks.coherent {gateway next : Gateway} {tick : MarketTick} {events : List VenueEvent}
    (ticks : Ticks gateway tick events next) (coherent : Coherent gateway) : Coherent next := by
  cases ticks with
  | quiet due idle => exact coherent
  | newReject due reject =>
    have idle := coherent.exclusive due.1
    exact { coherent with
      exclusive := fun _ => idle
      pendingQty := by simp }
  | ioc due reject style => exact iocDone_coherent coherent tick due.1
  | passive due reject style matched =>
    exact matched.coherent (acknowledged_coherent coherent due) rfl
  | cancelReject active arrives rejects =>
    exact { coherent with rejectFirst := fun _ _ _ => rfl }
  | matching active answer matched =>
    exact matched.coherent (forwarded_coherent coherent answer)
      ((forwarded_active gateway tick).trans active)

theorem Ticks.wellFormed {gateway next : Gateway} {tick : MarketTick} {events : List VenueEvent}
    (ticks : Ticks gateway tick events next) (wellFormed : WellFormed gateway)
    (nonneg : NonNegative tick) : WellFormed next := by
  cases ticks with
  | quiet due idle => exact wellFormed
  | newReject due reject =>
    have after := (Ticks.newReject due reject).coherent wellFormed.coherent
    exact after.wellFormed wellFormed.queue
  | ioc due reject style => exact iocDone_wellFormed wellFormed tick due.1
  | passive due reject style matched =>
    exact matched.wellFormed (acknowledged_wellFormed wellFormed nonneg due) rfl nonneg
  | cancelReject active arrives rejects =>
    have after := (Ticks.cancelReject active arrives rejects).coherent wellFormed.coherent
    exact after.wellFormed wellFormed.queue
  | matching active answer matched =>
    exact matched.wellFormed (forwarded_wellFormed wellFormed answer)
      ((forwarded_active gateway tick).trans active) nonneg

theorem matches_pendingNew {gateway next : Gateway} {tick : MarketTick} {events : List VenueEvent}
    (matched : Matches gateway tick events next) : next.pendingNew = gateway.pendingNew := by
  cases matched <;> rfl

theorem forwarded_pendingNew (gateway : Gateway) (tick : MarketTick) :
    (forwarded gateway tick).pendingNew = gateway.pendingNew := by
  unfold forwarded
  split_ifs <;> rfl

theorem forwarded_cancelLatency (gateway : Gateway) (tick : MarketTick) :
    (forwarded gateway tick).execution.cancelLatencyNs = gateway.execution.cancelLatencyNs := by
  unfold forwarded
  split_ifs
  · exact ExecutionSimulator.requestCancel_cancelLatency gateway.execution tick.receiveTsNs
  · rfl

theorem sendNew_cases (gateway : Gateway) (request : GatewayNewOrder) :
    (0 < request.quantity ∧ gateway.pendingNew.active = false ∧
        gateway.activeOrder.active = false ∧
        sendNew gateway request = (true, { gateway with pendingNew :=
          ⟨true, request, request.submitTsNs + gateway.newAckLatencyNs,
            decide (request.clientOrderId.tmod 3 = 0)⟩ })) ∨
      ((request.quantity ≤ 0 ∨ gateway.pendingNew.active = true ∨
          gateway.activeOrder.active = true) ∧ sendNew gateway request = (false, gateway)) := by
  unfold sendNew
  split_ifs with refused
  · exact .inr ⟨refused, rfl⟩
  · simp only [not_or, not_le, Bool.not_eq_true] at refused
    exact .inl ⟨refused.1, refused.2.1, refused.2.2, rfl⟩

/-- A free gateway takes every order of positive quantity. -/
theorem sendNew_free {gateway : Gateway} {request : GatewayNewOrder}
    (unpending : gateway.pendingNew.active = false) (idle : gateway.activeOrder.active = false)
    (positive : 0 < request.quantity) :
    sendNew gateway request = (true, { gateway with pendingNew :=
      ⟨true, request, request.submitTsNs + gateway.newAckLatencyNs,
        decide (request.clientOrderId.tmod 3 = 0)⟩ }) := by
  rcases sendNew_cases gateway request with ⟨_, _, _, result⟩ | ⟨busy, _⟩
  · exact result
  · rcases busy with negative | pending | active
    · omega
    · simp [unpending] at pending
    · simp [idle] at active

theorem sendCancel_cases (gateway : Gateway) (requestTsNs : TimestampNs) :
    (gateway.activeOrder.active = true ∧ gateway.activeOrder.cancelSent = false ∧
        sendCancel gateway requestTsNs = (true, { gateway with activeOrder :=
          { gateway.activeOrder with
            cancelSent := true
            cancelSendTsNs := requestTsNs + gateway.cancelSendLatencyNs } })) ∨
      ((gateway.activeOrder.active = false ∨ gateway.activeOrder.cancelSent = true) ∧
        sendCancel gateway requestTsNs = (false, gateway)) := by
  cases active : gateway.activeOrder.active <;> cases sent : gateway.activeOrder.cancelSent <;>
    simp [sendCancel, active, sent]

theorem sendNew_coherent {gateway : Gateway} (coherent : Coherent gateway)
    (request : GatewayNewOrder) : Coherent (sendNew gateway request).2 := by
  rcases sendNew_cases gateway request with ⟨positive, _, idle, result⟩ | ⟨_, result⟩
  · rw [result]
    exact { coherent with
      exclusive := fun _ => idle
      pendingQty := fun _ => positive }
  · rwa [result]

theorem sendNew_wellFormed {gateway : Gateway} (wellFormed : WellFormed gateway)
    (request : GatewayNewOrder) : WellFormed (sendNew gateway request).2 := by
  apply (sendNew_coherent wellFormed.coherent request).wellFormed
  rcases sendNew_cases gateway request with ⟨_, _, _, result⟩ | ⟨_, result⟩
  · rw [result]
    exact wellFormed.queue
  · rw [result]
    exact wellFormed.queue

theorem sendCancel_coherent {gateway : Gateway} (coherent : Coherent gateway)
    (requestTsNs : TimestampNs) : Coherent (sendCancel gateway requestTsNs).2 := by
  rcases sendCancel_cases gateway requestTsNs with ⟨_, _, result⟩ | ⟨_, result⟩
  · rw [result]
    exact { coherent with }
  · rwa [result]

theorem sendCancel_wellFormed {gateway : Gateway} (wellFormed : WellFormed gateway)
    (requestTsNs : TimestampNs) : WellFormed (sendCancel gateway requestTsNs).2 := by
  apply (sendCancel_coherent wellFormed.coherent requestTsNs).wellFormed
  rcases sendCancel_cases gateway requestTsNs with ⟨_, _, result⟩ | ⟨_, result⟩
  · rw [result]
    exact wellFormed.queue
  · rw [result]
    exact wellFormed.queue

theorem onTick_coherent {gateway : Gateway} (coherent : Coherent gateway) (tick : MarketTick) :
    Coherent (onTick gateway tick).2 := by
  obtain ⟨events, next, ticks, result⟩ := onTick_ticks coherent tick
  rw [result]
  exact ticks.coherent coherent

end TradingKernel.GatewayInvariant
