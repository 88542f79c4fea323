import TradingKernel.Arithmetic
import TradingKernel.CsvAcceptance
import TradingKernel.HeldOrders
import TradingKernel.ReplayExposure

/-!
The arithmetic of a whole replay. Each part of the loop is traced for the calls
that calculate; along every replay of accepted input all of them stay in range
exactly as long as each one has room, so that quotes, deadlines and the money
of the account are the only places that can overflow.
-/

namespace TradingKernel.ReplayArithmetic
open Library OrderManager MockVenueGateway GatewayInvariant GatewayLink ReplayRunner ReplayRun
open ReplayPhases ReplayAgreement ReplayExposure Arithmetic
open AccountingEngine (Engine applyFill markToMarket signedQty)
open CostBasis (Basis Tracks)
open CsvReader (IntType int64 int32 readAll Input)
open CsvAcceptance (Representable)
open ExecutionSimulator (Simulator)

section Traces
variable (tick : MarketTick)

def matchRestingComputations (gateway : Gateway) : List Computation :=
  if gateway.activeOrder.active || gateway.execution.restingOrder.active then
    if gateway.execution.restingOrder.active then
      [.passiveFillFromMarket gateway.execution tick]
    else []
  else []

def cancelAndMatchComputations (gateway : Gateway) : List Computation :=
  if gateway.activeOrder.active && gateway.activeOrder.cancelSent &&
      tick.receiveTsNs ≥ gateway.activeOrder.cancelSendTsNs then
    if !gateway.activeOrder.cancelRejectOnceDone &&
        gateway.activeOrder.venueOrderId.tmod 2 = 1 then []
    else
      .requestCancel gateway.execution tick.receiveTsNs ::
        matchRestingComputations tick { gateway with
          activeOrder := { gateway.activeOrder with cancelSent := false }
          execution :=
            (ExecutionSimulator.requestCancel gateway.execution tick.receiveTsNs).2 }
  else matchRestingComputations tick gateway

def acknowledgeComputations (gateway : Gateway) : List Computation :=
  let request := gateway.pendingNew.request
  if request.quantity ≤ 0 then []
  else if request.style = .aggressive then [.aggressiveFill tick (orderRequest request)]
  else []

def gatewayComputations (gateway : Gateway) : List Computation :=
  if gateway.pendingNew.active && tick.receiveTsNs ≥ gateway.pendingNew.ackReadyTsNs then
    if gateway.pendingNew.shouldReject then []
    else
      acknowledgeComputations tick gateway ++
        cancelAndMatchComputations tick (acknowledge gateway tick).2
  else cancelAndMatchComputations tick gateway

def fillComputations (fill : Fill) (accounting : Engine) : List Computation :=
  if fill.quantity ≤ 0 then []
  else
    .applyFill accounting fill ::
      if (applyFill accounting fill).1 then
        [.midPrice tick, .markToMarket (applyFill accounting fill).2 tick.mid]
      else []

def eventComputations (event : VenueEvent) (objects : ReplayObjects) : List Computation :=
  .onVenueEvent objects.orderManager event ::
    if (onVenueEvent objects.orderManager event).1 = .applied then
      fillComputations tick (onVenueEvent objects.orderManager event).2.1 objects.accounting
    else []

def batchComputations : List VenueEvent → ReplayObjects → List Computation
  | [], _ => []
  | event :: rest, objects =>
    eventComputations tick event objects ++ batchComputations rest
      (handleVenueEvent event objects.orderManager.side tick objects).objects

def venueComputations (objects : ReplayObjects) : List Computation :=
  let (batch, gateway) := MockVenueGateway.onTick objects.gateway tick
  gatewayComputations tick objects.gateway ++
    batchComputations tick batch.events { objects with gateway := gateway }

variable (config : ReplayConfig)

def cancelComputations (objects : ReplayObjects) : List Computation :=
  if config.executionStyle = .passive ∧
      (objects.orderManager.state = .acked ∨ objects.orderManager.state = .partiallyFilled) ∧
      objects.passiveSubmitTs ≥ 0 then
    .cancelTimer tick.receiveTsNs objects.passiveSubmitTs ::
      if tick.receiveTsNs - objects.passiveSubmitTs ≥ config.passiveCancelAfterNs then
        [.sendCancel objects.gateway tick.receiveTsNs]
      else []
  else []

def submitComputations (order : OrderRequest) (objects : ReplayObjects) : List Computation :=
  let order := orderToSend config tick order
  let request := gatewayRequest config tick objects.clientOrderId order
  let (submitted, orderManager) := submitNew objects.orderManager objects.clientOrderId order.side
    order.limitPrice order.quantity
  if submitted then
    let (accepted, gateway) := sendNew objects.gateway request
    .sendNew objects.gateway request ::
      if accepted then []
      else eventComputations tick ⟨.newReject, tick.receiveTsNs, 0, 0, 0⟩
        { objects with
          gateway := gateway
          clientOrderId := objects.clientOrderId + 1
          orderManager := orderManager }
  else []

def decisionComputations (objects : ReplayObjects) : List Computation :=
  let decision := strategy.onTick tick
  if decision.hasOrder then
    .evaluate risk objects.accounting.positionState decision.order ::
      if (risk.evaluate objects.accounting.positionState decision.order).accepted then
        submitComputations tick config decision.order objects
      else []
  else []

/-- Everything one iteration of the tick loop calculates, in order. -/
def tickComputations (objects : ReplayObjects) : List Computation :=
  let marked := markObjects tick objects
  let timed := stopTimer (venuePhase tick marked).objects
  .midPrice tick :: .markToMarket objects.accounting tick.mid ::
    (venueComputations tick marked ++ cancelComputations tick config timed ++
      decisionComputations tick config (cancelPhase config tick timed).objects)

end Traces

/-- The resting order of an active gateway, seen at a time. -/
def RestingQuoted (now : TimestampNs) (gateway : Gateway) : Prop :=
  gateway.activeOrder.active = true →
    gateway.execution.restingOrder.queueAheadQty ≤ int32.max ∧
      gateway.execution.restingOrder.submitTsNs ≤ now ∧
      0 < gateway.execution.restingOrder.price

/-- What the gateway's orders look like at a time. -/
structure Quoted (now : TimestampNs) (gateway : Gateway) : Prop where
  resting : RestingQuoted now gateway
  pending : gateway.pendingNew.active = true → gateway.pendingNew.request.style = .passive →
    0 < gateway.pendingNew.request.limitPrice
  settings : settings gateway = settings MockVenueGateway.fresh

/-- A tick as the reader returns it. -/
structure Accepted (tick : MarketTick) : Prop where
  valid : ValidTick tick
  fits : Representable tick

theorem Accepted.ranges {tick : MarketTick} (accepted : Accepted tick) (side : Side) :
    Fits int64 tick.receiveTsNs ∧ tick.oppositeQty side ≤ int32.max ∧
      tick.ownQty side ≤ int32.max := by
  have columns := accepted.fits
  simp only [Representable, CsvAcceptance.columns, List.forall_mem_cons] at columns
  obtain ⟨_, receive, _, _, _, bid, ask, _⟩ := columns
  refine ⟨receive, ?_⟩
  cases side
  · exact ⟨ask.2, bid.2⟩
  · exact ⟨bid.2, ask.2⟩

theorem mid_nonneg {tick : MarketTick} (valid : ValidTick tick) : 0 ≤ tick.mid :=
  Int.tdiv_nonneg (Int.add_nonneg valid.bid_pos.le valid.ask_pos.le) (by decide)

theorem touchPrice_pos {tick : MarketTick} (valid : ValidTick tick) (side : Side) :
    0 < tick.touchPrice side := by
  cases side
  · exact valid.ask_pos
  · exact valid.bid_pos

/-- Every fill of a batch has a price. -/
def Priced (events : List VenueEvent) : Prop :=
  ∀ event ∈ events, 0 < event.fillQty → 0 < event.fillPrice

section Gateway
variable {gateway next : Gateway} {tick : MarketTick} {events : List VenueEvent}

theorem matches_quoted (matched : Matches gateway tick events next)
    (wellFormed : WellFormed gateway) (active : gateway.activeOrder.active = true)
    (nonneg : NonNegative tick) (quoted : RestingQuoted tick.receiveTsNs gateway) :
    RestingQuoted tick.receiveTsNs next ∧ Priced events := by
  obtain ⟨queue, submitted, price⟩ := quoted active
  have consumed := queueConsumed_bounds (wellFormed.queue active)
    (nonneg.oppositeQty gateway.execution.restingOrder.side)
  have shrinks : ExecutionSimulator.queueAfter gateway.execution tick ≤ int32.max := by
    unfold ExecutionSimulator.queueAfter
    split_ifs <;> omega
  cases matched with
  | fills reach fills =>
    constructor
    · intro _
      rw [fills.resting]
      exact ⟨shrinks, submitted, price⟩
    · simp only [Priced, List.forall_mem_singleton]
      intro _
      rw [← (wellFormed.order active).2]
      exact price
  | cancelAcked reach due => exact ⟨fun rests => (by cases rests), by simp [Priced]⟩
  | waits reach early => exact ⟨fun _ => ⟨shrinks, submitted, price⟩, by simp [Priced]⟩

theorem ticks_quoted (ticks : Ticks gateway tick events next) (wellFormed : WellFormed gateway)
    (accepted : Accepted tick) (quoted : Quoted tick.receiveTsNs gateway) :
    RestingQuoted tick.receiveTsNs next ∧ Priced events := by
  have nonneg := accepted.valid.nonNegative
  cases ticks with
  | quiet early idle => exact ⟨fun active => by simp [idle] at active, by simp [Priced]⟩
  | newReject due reject => exact ⟨quoted.resting, by simp [Priced]⟩
  | ioc due taken style =>
    refine ⟨fun active => (by cases active), ?_⟩
    have touch := touchPrice_pos accepted.valid gateway.pendingNew.request.side
    unfold iocEvents
    split_ifs <;> simp [Priced, touch]
  | passive due taken style matched =>
    have limit := quoted.pending due.1 style
    have fresh : RestingQuoted tick.receiveTsNs (acknowledged gateway tick) :=
      fun _ => ⟨(accepted.ranges _).2.2, le_refl _, limit⟩
    obtain ⟨rests, priced⟩ := matches_quoted matched
      (acknowledged_wellFormed wellFormed nonneg due) rfl nonneg fresh
    refine ⟨rests, ?_⟩
    simp only [Priced, List.forall_mem_cons]
    exact ⟨by simp, priced⟩
  | cancelReject active arrives rejects => exact ⟨quoted.resting, by simp [Priced]⟩
  | matching active answer matched =>
    apply matches_quoted matched (forwarded_wellFormed wellFormed answer)
      ((forwarded_active gateway tick).trans active) nonneg
    intro _
    have held := quoted.resting active
    unfold forwarded
    split_ifs
    · rw [ExecutionSimulator.requestCancel_restingOrder]
      split_ifs <;> exact held
    · exact held

end Gateway

def HaveRoom (computations : List Computation) : Prop :=
  ∀ computation ∈ computations, computation.HasRoom

def AllInRange (computations : List Computation) : Prop :=
  ∀ computation ∈ computations, computation.InRange

instance (computations : List Computation) : Decidable (AllInRange computations) :=
  inferInstanceAs (Decidable (∀ computation ∈ computations, computation.InRange))

theorem haveRoom_append (first second : List Computation) :
    HaveRoom (first ++ second) ↔ HaveRoom first ∧ HaveRoom second := List.forall_mem_append

theorem allInRange_append {first second : List Computation} (left : AllInRange first)
    (right : AllInRange second) : AllInRange (first ++ second) :=
  List.forall_mem_append.2 ⟨left, right⟩

theorem haveRoom_cons (first : Computation) (rest : List Computation) :
    HaveRoom (first :: rest) ↔ first.HasRoom ∧ HaveRoom rest := List.forall_mem_cons

theorem allInRange_cons {first : Computation} {rest : List Computation} (left : first.InRange)
    (right : AllInRange rest) : AllInRange (first :: rest) := List.forall_mem_cons.2 ⟨left, right⟩

theorem allInRange_nil : AllInRange [] := by
  simp [AllInRange]

section GatewayRange
variable {gateway : Gateway} {tick : MarketTick} (wellFormed : WellFormed gateway)
  (accepted : Accepted tick) (quoted : RestingQuoted tick.receiveTsNs gateway)
  (fixed : settings gateway = settings MockVenueGateway.fresh)
  (small : gateway.activeOrder.active = true → gateway.execution.restingOrder.leavesQty ≤ 50)
  (quotes : Below (tick.bidPrice + tick.askPrice))
include wellFormed accepted quoted fixed small quotes

theorem matchResting_inRange (room : HaveRoom (matchRestingComputations tick gateway)) :
    AllInRange (matchRestingComputations tick gateway) := by
  unfold matchRestingComputations at room ⊢
  split_ifs at room ⊢ with busy rests
  · have active : gateway.activeOrder.active = true := wellFormed.resting.symm.trans rests
    obtain ⟨queue, submitted, _⟩ := quoted active
    obtain ⟨_, positive⟩ := wellFormed.leaves active
    have few := small active
    have threshold := (fresh_settings fixed).2.2.2
    have resting : Resting gateway.execution tick.receiveTsNs := by
      refine ⟨⟨wellFormed.queue active, queue⟩, ⟨positive.le, few.trans ?_⟩, submitted, threshold⟩
      decide
    exact allInRange_cons (passiveFillFromMarket_inRange accepted.valid resting
      (accepted.ranges _).2.1 quotes (room _ (List.mem_singleton_self _))) allInRange_nil
  · exact allInRange_nil
  · exact allInRange_nil

theorem cancelAndMatch_inRange (room : HaveRoom (cancelAndMatchComputations tick gateway)) :
    AllInRange (cancelAndMatchComputations tick gateway) := by
  have latency := (fresh_settings fixed).2.2.1
  unfold cancelAndMatchComputations at room ⊢
  split_ifs at room ⊢ with arrives rejects
  · exact allInRange_nil
  · simp only [Bool.and_eq_true, decide_eq_true_eq] at arrives
    have due : CancelArrives gateway tick := ⟨arrives.1.2, arrives.2⟩
    have answer : CancelArrives gateway tick → ¬RejectsCancel gateway.activeOrder := by
      rintro _ ⟨first, odd⟩
      simp [first, odd] at rejects
    have after := forwarded_wellFormed wellFormed answer
    have kept := ExecutionSimulator.requestCancel_restingOrder gateway.execution tick.receiveTsNs
    have sent : settings (forwarded gateway tick) = settings MockVenueGateway.fresh := by
      rw [← fixed, forwarded, if_pos due]
      simp only [settings, ExecutionSimulator.requestCancel]
      split_ifs <;> rfl
    rw [forwarded, if_pos due] at after sent
    obtain ⟨asks, matching⟩ := (haveRoom_cons _ _).1 room
    refine allInRange_cons (requestCancel_inRange (accepted.ranges .buy).1 (by rw [latency]; decide)
      asks) (matchResting_inRange after accepted ?_ sent ?_ quotes matching)
    · intro active
      have held := quoted active
      rw [kept]
      split_ifs <;> exact held
    · intro active
      rw [kept]
      split_ifs <;> exact small active
  · exact matchResting_inRange wellFormed accepted quoted fixed small quotes room

end GatewayRange

theorem gatewayComputations_inRange {gateway : Gateway} {tick : MarketTick}
    (wellFormed : WellFormed gateway) (accepted : Accepted tick)
    (quoted : Quoted tick.receiveTsNs gateway)
    (small : gateway.activeOrder.active = true → gateway.execution.restingOrder.leavesQty ≤ 50)
    (asked : gateway.pendingNew.active = true → gateway.pendingNew.request.quantity ≤ 50)
    (quotes : Below (tick.bidPrice + tick.askPrice))
    (room : HaveRoom (gatewayComputations tick gateway)) :
    AllInRange (gatewayComputations tick gateway) := by
  unfold gatewayComputations at room ⊢
  split_ifs at room ⊢ with ready rejects
  · exact allInRange_nil
  · simp only [Bool.and_eq_true, decide_eq_true_eq] at ready
    obtain ⟨pending, due⟩ := ready
    have positive := wellFormed.pendingQty pending
    have nonneg := accepted.valid.nonNegative
    have fixed := (acknowledge_settings gateway tick).trans quoted.settings
    have submitted : AllInRange (acknowledgeComputations tick gateway) := by
      simp only [acknowledgeComputations]
      split_ifs
      · exact allInRange_nil
      · exact allInRange_cons (aggressiveFill_inRange ⟨positive, asked pending⟩) allInRange_nil
      · exact allInRange_nil
    refine allInRange_append submitted ?_
    have after := ((haveRoom_append _ _).1 room).2
    cases style : gateway.pendingNew.request.style with
    | aggressive =>
      rw [acknowledge_ioc wellFormed.coherent pending style] at fixed after ⊢
      exact cancelAndMatch_inRange (iocDone_wellFormed wellFormed tick pending) accepted
        (fun active => by cases active) fixed (fun active => by cases active) quotes after
    | passive =>
      rw [acknowledge_passive wellFormed.coherent pending style] at fixed after ⊢
      have limit := quoted.pending pending style
      exact cancelAndMatch_inRange (acknowledged_wellFormed wellFormed nonneg ⟨pending, due⟩)
        accepted (fun _ => ⟨(accepted.ranges _).2.2, le_refl _, limit⟩) fixed
        (fun _ => asked pending) quotes after
  · exact cancelAndMatch_inRange wellFormed accepted quoted.resting quoted.settings small quotes
      room

/-- What holds of the order and the account whether or not anything overflows. -/
structure Books (objects : ReplayObjects) : Prop where
  limit : WithinLimit objects
  tracked : ∃ basis, Tracks basis objects.accounting
  marked : 0 ≤ objects.accounting.markPrice
  sized : Sized objects.orderManager

theorem Books.answered {objects : ReplayObjects} (books : Books objects) (gateway : Gateway) :
    Books { objects with gateway := gateway } :=
  ⟨withinLimit_same books.limit rfl rfl rfl, books.tracked, books.marked, books.sized⟩

theorem Books.held {objects : ReplayObjects} (books : Books objects) : Held objects.accounting := by
  obtain ⟨basis, tracks⟩ := books.tracked
  obtain ⟨side, flat⟩ := sides_of_tracks tracks
  exact ⟨books.limit.filled, books.marked, side, flat⟩

/-- An applied event with a priced fill returns a priced fill. -/
theorem applies_priced {order next : Manager} {event : VenueEvent} {fill : Fill}
    (applies : Applies order event fill next) (priced : 0 < event.fillQty → 0 < event.fillPrice)
    (positive : 0 < fill.quantity) : 0 < fill.price := by
  cases applies with
  | fill kind state named some bounded => exact priced some
  | newAck => cases positive
  | newReject => cases positive
  | cancelAck => cases positive
  | cancelReject => cases positive
  | expired => cases positive

theorem fill_tracked {basis : Basis} {engine : Engine} (tracks : Tracks basis engine) {fill : Fill}
    (priced : 0 < fill.price) : Tracks (basis.step (.applyFill fill)) (applyFill engine fill).2 :=
  CostBasis.step_tracks tracks (.applyFill fill) priced

theorem mark_tracked {basis : Basis} {engine : Engine} (tracks : Tracks basis engine)
    (midPrice : Price) : Tracks basis (markToMarket engine midPrice) :=
  CostBasis.step_tracks tracks (.markToMarket midPrice) trivial

/-- An applied fill keeps the position small and the account on its sides. -/
theorem applied_held {objects : ReplayObjects} (books : Books objects) {event : VenueEvent}
    {fill : Fill} {next : Manager} (applies : Applies objects.orderManager event fill next)
    (priced : 0 < event.fillQty → 0 < event.fillPrice) (positive : 0 < fill.quantity)
    (tick : MarketTick) :
    Small (objects.accounting.positionState.netQty + signedQty fill) ∧
      (∃ basis, Tracks basis (applyFill objects.accounting fill).2) ∧
      Held (applyFill objects.accounting fill).2 := by
  have small : Small (objects.accounting.positionState.netQty + signedQty fill) := by
    have limit := (applied_withinLimit books.limit applies tick).2
      { objects with
        orderManager := next
        accounting := (applyFill objects.accounting fill).2 }
      (by simp [fillPoints, show ¬fill.quantity ≤ 0 by omega])
    rw [← AccountingEngine.applyFill_netQty _ _ positive]
    exact limit.filled
  obtain ⟨basis, tracks⟩ := books.tracked
  have tracked := fill_tracked tracks (applies_priced applies priced positive)
  obtain ⟨side, flat⟩ := sides_of_tracks tracked
  refine ⟨small, ⟨_, tracked⟩, ?_, ?_, side, flat⟩
  · rw [AccountingEngine.applyFill_netQty _ _ positive]
    exact small
  · rw [AccountingEngine.applyFill_markPrice]
    exact books.marked

section Events
variable {objects : ReplayObjects} {tick : MarketTick} (valid : ValidTick tick)
include valid

theorem event_books (books : Books objects) {event : VenueEvent}
    (priced : 0 < event.fillQty → 0 < event.fillPrice) :
    Books (handleVenueEvent event objects.orderManager.side tick objects).objects := by
  have limit := (event_withinLimit books.limit event tick).2
  obtain ⟨basis, tracks⟩ := books.tracked
  rcases onVenueEvent_cases objects.orderManager event with
    ⟨fill, next, result, applies⟩ | ⟨outcome, refused, result⟩
  · have sized := books.sized.applied applies
    rw [handleVenueEvent_applied applies] at limit ⊢
    by_cases positive : 0 < fill.quantity
    · rw [handleFill_positive positive] at limit ⊢
      have filled := fill_tracked tracks (applies_priced applies priced positive)
      refine ⟨limit, ⟨_, mark_tracked filled tick.mid⟩, ?_, sized⟩
      simpa using mid_nonneg valid
    · rw [handleFill, if_pos (by omega)] at limit ⊢
      exact ⟨limit, ⟨basis, tracks⟩, books.marked, sized⟩
  · rw [handleVenueEvent_refused refused result]
    exact books

/-- With room, everything an event calculates is in range, and so is the account after it. -/
theorem event_inRange (books : Books objects) (fits : AccountFits objects.accounting)
    {event : VenueEvent} (priced : 0 < event.fillQty → 0 < event.fillPrice)
    (room : HaveRoom (eventComputations tick event objects)) :
    AllInRange (eventComputations tick event objects) ∧
      AccountFits (handleVenueEvent event objects.orderManager.side tick objects).objects.accounting
    := by
  have noted := onVenueEvent_inRange books.sized event
  rcases onVenueEvent_cases objects.orderManager event with
    ⟨fill, next, result, applies⟩ | ⟨outcome, refused, result⟩
  · by_cases positive : 0 < fill.quantity
    · rw [handleVenueEvent_applied applies, handleFill_positive positive]
      have accepted := (AccountingEngine.applyFill_accepted objects.accounting fill).2 positive
      simp only [eventComputations, result, if_true, fillComputations, accepted,
        if_neg (show ¬fill.quantity ≤ 0 by omega), haveRoom_cons] at room ⊢
      obtain ⟨_, filling, quotes, marking, _⟩ := room
      obtain ⟨small, ⟨_, tracked⟩, held⟩ := applied_held books applies priced positive tick
      obtain ⟨booked, filled⟩ := applyFill_fits positive small books.held fits tracked
        (filling positive)
      obtain ⟨marked, last⟩ := markToMarket_fits held filled (mid_nonneg valid) marking
      exact ⟨allInRange_cons noted (allInRange_cons booked (allInRange_cons
        (midPrice_fits valid quotes) (allInRange_cons marked allInRange_nil))), last⟩
    · simp only [eventComputations, result, if_true, fillComputations,
        if_pos (show fill.quantity ≤ 0 by omega)]
      rw [handleVenueEvent_applied applies, handleFill, if_pos (by omega)]
      exact ⟨allInRange_cons noted allInRange_nil, fits⟩
  · simp only [eventComputations, result, if_neg refused]
    rw [handleVenueEvent_refused refused result]
    exact ⟨allInRange_cons noted allInRange_nil, fits⟩

theorem batch_inRange {events : List VenueEvent} (books : Books objects) (priced : Priced events) :
    Books (handleBatch tick events objects).objects ∧
      (AccountFits objects.accounting → HaveRoom (batchComputations tick events objects) →
        AllInRange (batchComputations tick events objects) ∧
          AccountFits (handleBatch tick events objects).objects.accounting) := by
  induction events generalizing objects with
  | nil => exact ⟨books, fun fits _ => ⟨allInRange_nil, fits⟩⟩
  | cons event rest ih =>
    obtain ⟨first, others⟩ := List.forall_mem_cons.1 priced
    obtain ⟨last, later⟩ := ih (event_books valid books first) others
    refine ⟨last, fun fits room => ?_⟩
    obtain ⟨now, after⟩ := (haveRoom_append _ _).1 room
    obtain ⟨inRange, account⟩ := event_inRange valid books fits first now
    obtain ⟨restInRange, restAccount⟩ := later account after
    exact ⟨allInRange_append inRange restInRange, restAccount⟩

end Events

/-- What holds of a replay's objects at a time, whether or not anything overflows. -/
structure Regular (now : TimestampNs) (objects : ReplayObjects) : Prop where
  safe : Safe objects
  quoted : Quoted now objects.gateway
  books : Books objects
  timer : 0 ≤ objects.passiveSubmitTs → objects.passiveSubmitTs ≤ now

theorem Regular.later {now next : TimestampNs} {objects : ReplayObjects}
    (regular : Regular now objects) (after : now ≤ next) : Regular next objects := by
  obtain ⟨safe, ⟨resting, pending, fixed⟩, books, timer⟩ := regular
  refine ⟨safe, ⟨?_, pending, fixed⟩, books, fun started => (timer started).trans after⟩
  intro active
  obtain ⟨queue, submitted, price⟩ := resting active
  exact ⟨queue, submitted.trans after, price⟩

/-- Both sides hold no more than one order of the strategy. -/
theorem Regular.small {now : TimestampNs} {objects : ReplayObjects}
    (regular : Regular now objects) :
    (objects.gateway.activeOrder.active = true →
        objects.gateway.execution.restingOrder.leavesQty ≤ 50) ∧
      (objects.gateway.pendingNew.active = true →
        objects.gateway.pendingNew.request.quantity ≤ 50) := by
  have sound := regular.safe.sound
  constructor
  · intro active
    have serves := sound.serves active
    have sized := regular.books.sized (serves_live serves)
    have leaves := (sound.wellFormed.leaves active).1
    have same := serves.leaves
    omega
  · intro pending
    rcases sound.linked with paired | stranded
    · cases paired with
      | free unpending idle notLive => simp [unpending] at pending
      | pending _ requests =>
        have live : objects.orderManager.state.isLive = true := by
          simp [requests.state, OrderState.isLive]
        have sized := regular.books.sized live
        have same := requests.leaves
        omega
      | active active serves => simp [sound.wellFormed.exclusive pending] at active
    · simp [stranded.unpending] at pending

/-- A passive order is sent at a quoted price. -/
theorem joined_pos {config : ReplayConfig} {tick : MarketTick} (valid : ValidTick tick)
    (style : config.executionStyle = .passive) (order : OrderRequest) :
    0 < (orderToSend config tick order).limitPrice := by
  rw [orderToSend, if_pos style]
  simp only
  split_ifs
  · exact valid.bid_pos
  · exact valid.ask_pos

section Phases
variable {objects : ReplayObjects} {tick : MarketTick} (accepted : Accepted tick)
  (regular : Regular tick.receiveTsNs objects)
include accepted regular

theorem venuePhase_inRange :
    Regular tick.receiveTsNs (venuePhase tick objects).objects ∧
      (Below (tick.bidPrice + tick.askPrice) → AccountFits objects.accounting →
        HaveRoom (venueComputations tick objects) →
        AllInRange (venueComputations tick objects) ∧
          AccountFits (venuePhase tick objects).objects.accounting) := by
  have valid := accepted.valid
  have sound := regular.safe.sound
  have safe := (venue_safe regular.safe valid.nonNegative).2
  have fixed := (onTick_settings objects.gateway tick).trans regular.quoted.settings
  obtain ⟨events, next, ticks, result⟩ := onTick_ticks sound.wellFormed.coherent tick
  obtain ⟨gateway, _, _, timer⟩ := venuePhase_objects tick objects
  obtain ⟨resting, priced⟩ := ticks_quoted ticks sound.wellFormed accepted regular.quoted
  rw [result] at fixed gateway
  obtain ⟨books, batch⟩ := batch_inRange valid (regular.books.answered next) priced
  have same := venuePhase_answered result
  constructor
  · refine ⟨safe, ⟨?_, ?_, ?_⟩, same ▸ books, ?_⟩
    · rw [gateway]
      exact resting
    · rw [gateway]
      intro pending
      have kept := HeldOrders.ticks_pending ticks pending
      rw [kept] at pending ⊢
      exact regular.quoted.pending pending
    · rw [gateway]
      exact fixed
    · rw [timer]
      exact regular.timer
  · intro quotes fits room
    simp only [venueComputations, result] at room ⊢
    obtain ⟨asking, booking⟩ := (haveRoom_append _ _).1 room
    obtain ⟨inRange, account⟩ := batch fits booking
    obtain ⟨few, asked⟩ := regular.small
    rw [same]
    exact ⟨allInRange_append (gatewayComputations_inRange sound.wellFormed accepted regular.quoted
      few asked quotes asking) inRange, account⟩

omit accepted in
theorem stopTimer_regular : Regular tick.receiveTsNs (stopTimer objects) := by
  obtain ⟨gateway, orderManager, accounting, _⟩ := stopTimer_keeps objects
  have safe := stopTimer_safe regular.safe
  have books := regular.books
  refine ⟨safe, gateway ▸ regular.quoted,
    ⟨safe.limit, accounting ▸ books.tracked, accounting ▸ books.marked,
      orderManager ▸ books.sized⟩, ?_⟩
  unfold stopTimer
  split_ifs
  · intro started
    cases started
  · exact regular.timer

omit accepted in
theorem cancelPhase_regular (config : ReplayConfig) :
    Regular tick.receiveTsNs (cancelPhase config tick objects).objects ∧
      (cancelPhase config tick objects).objects.accounting = objects.accounting := by
  have limit := cancelPhase_withinLimit regular.safe.limit config tick
  have sound := (cancelPhase_keeps regular.safe.sound config tick).sound
  rcases cancelPhase_cases config tick objects with ⟨due, active, unsent, result⟩ | result
  · rw [result] at limit sound ⊢
    have books := regular.books
    have quoted : Quoted tick.receiveTsNs (sendCancel objects.gateway tick.receiveTsNs).2 := by
      rcases sendCancel_cases objects.gateway tick.receiveTsNs with ⟨_, _, sent⟩ | ⟨_, sent⟩
      · rw [sent]
        exact ⟨regular.quoted.resting, regular.quoted.pending, regular.quoted.settings⟩
      · rw [sent]
        exact regular.quoted
    have sized : Sized { objects.orderManager with state := .pendingCancel } :=
      fun _ => books.sized (OrderState.live_of_cancelable due.2.1)
    exact ⟨⟨⟨sound, limit⟩, quoted, ⟨limit, books.tracked, books.marked, sized⟩, regular.timer⟩,
      rfl⟩
  · rw [result]
    exact ⟨regular, rfl⟩

theorem cancelComputations_inRange (config : ReplayConfig)
    (room : HaveRoom (cancelComputations tick config objects)) :
    AllInRange (cancelComputations tick config objects) := by
  have time := (accepted.ranges .buy).1
  have latency := (fresh_settings regular.quoted.settings).2.1
  unfold cancelComputations at room ⊢
  by_cases running : config.executionStyle = .passive ∧
      (objects.orderManager.state = .acked ∨ objects.orderManager.state = .partiallyFilled) ∧
      objects.passiveSubmitTs ≥ 0
  · rw [if_pos running] at room ⊢
    have waited : (Computation.cancelTimer tick.receiveTsNs objects.passiveSubmitTs).InRange := by
      have start : (0 : Int) ≤ objects.passiveSubmitTs := running.2.2
      have nonneg : (0 : Int) ≤ tick.receiveTsNs - objects.passiveSubmitTs :=
        Int.sub_nonneg_of_le (regular.timer running.2.2)
      simp only [Computation.InRange, Computation.intermediates, allFit_wide,
        List.forall_mem_singleton, Fits, int64] at *
      omega
    refine allInRange_cons waited ?_
    have asking := ((haveRoom_cons _ _).1 room).2
    split_ifs at asking ⊢
    · exact allInRange_cons (sendCancel_inRange time (by rw [latency]; decide)
        (asking _ (List.mem_singleton_self _))) allInRange_nil
    · exact allInRange_nil
  · rw [if_neg running]
    exact allInRange_nil

theorem decisionPhase_regular (config : ReplayConfig) :
    Regular tick.receiveTsNs (decisionPhase config tick objects).objects ∧
      (decisionPhase config tick objects).objects.accounting = objects.accounting := by
  have safe := (decision_safe regular.safe config tick).2
  have books := regular.books
  obtain ⟨effect, decides, result⟩ := decisionPhase_decides regular.safe.sound config tick
  rw [result] at safe ⊢
  cases decides with
  | noSignal quiet => exact ⟨regular, rfl⟩
  | riskReject signal refused => exact ⟨regular, rfl⟩
  | busy signal live =>
    exact ⟨⟨safe, regular.quoted, ⟨safe.limit, books.tracked, books.marked, books.sized⟩,
      regular.timer⟩, rfl⟩
  | submits signal taken live =>
    have quantity := signal_quantity signal
    have same := (orderToSend_quantity config tick (strategy.onTick tick).order).1
    refine ⟨⟨safe, ⟨regular.quoted.resting, fun _ style => ?_, regular.quoted.settings⟩,
      ⟨safe.limit, books.tracked, books.marked, fun _ => ?_⟩, ?_⟩, rfl⟩
    · exact joined_pos accepted.valid style _
    · simp only [submittedObjects, submittedOrder]
      omega
    · dsimp only
      split_ifs
      · exact fun _ => le_refl _
      · exact regular.timer

omit accepted in
/-- The gateway takes every order that is submitted to it. -/
theorem submitComputations_eq (config : ReplayConfig) {order : OrderRequest}
    (positive : 0 < order.quantity) :
    submitComputations tick config order objects =
      if objects.orderManager.state.isLive then []
      else [.sendNew objects.gateway
        (gatewayRequest config tick objects.clientOrderId (orderToSend config tick order))] := by
  have quantity := (orderToSend_quantity config tick order).1
  have sent : 0 < (orderToSend config tick order).quantity := by omega
  simp only [submitComputations]
  cases live : objects.orderManager.state.isLive with
  | true =>
    rw [submitNew_live live]
    simp
  | false =>
    obtain ⟨unpending, idle⟩ := regular.safe.sound.gatewayFree live
    have taken := @sendNew_free objects.gateway
      (gatewayRequest config tick objects.clientOrderId (orderToSend config tick order)) unpending
      idle sent
    rw [submitNew_free live _ _ _ sent]
    simp [taken]

theorem submitComputations_inRange (config : ReplayConfig) {order : OrderRequest}
    (positive : 0 < order.quantity)
    (room : HaveRoom (submitComputations tick config order objects)) :
    AllInRange (submitComputations tick config order objects) := by
  have time := (accepted.ranges .buy).1
  have latency := (fresh_settings regular.quoted.settings).1
  rw [submitComputations_eq regular config positive] at room ⊢
  split_ifs at room ⊢
  · exact allInRange_nil
  · exact allInRange_cons (sendNew_inRange time rfl (by rw [latency]; decide)
      (room _ (List.mem_singleton_self _))) allInRange_nil

theorem decisionComputations_inRange (config : ReplayConfig)
    (room : HaveRoom (decisionComputations tick config objects)) :
    AllInRange (decisionComputations tick config objects) := by
  simp only [decisionComputations] at room ⊢
  by_cases signal : (strategy.onTick tick).hasOrder = true
  · have quantity := signal_quantity signal
    rw [if_pos signal] at room ⊢
    refine allInRange_cons (evaluate_inRange regular.books.limit.filled quantity.le) ?_
    have asking := ((haveRoom_cons _ _).1 room).2
    split_ifs at asking ⊢
    · exact submitComputations_inRange accepted regular config (by omega) asking
    · exact allInRange_nil
  · rw [if_neg signal]
    exact allInRange_nil

theorem markObjects_regular : Regular tick.receiveTsNs (markObjects tick objects) := by
  have safe := markObjects_safe regular.safe tick
  obtain ⟨basis, tracks⟩ := regular.books.tracked
  have marked : 0 ≤ (markObjects tick objects).accounting.markPrice := by
    simpa [markObjects] using mid_nonneg accepted.valid
  exact ⟨safe, regular.quoted, ⟨safe.limit, ⟨basis, mark_tracked tracks tick.mid⟩, marked,
    regular.books.sized⟩, regular.timer⟩

/-- A tick keeps the invariant; with room for what it calculates nothing leaves
its type, and the account stays in range. -/
theorem tick_inRange (config : ReplayConfig) :
    Regular tick.receiveTsNs (tickEffect config tick objects).objects ∧
      (AccountFits objects.accounting → HaveRoom (tickComputations tick config objects) →
        AllInRange (tickComputations tick config objects) ∧
          AccountFits (tickEffect config tick objects).objects.accounting) := by
  obtain ⟨answered, venue⟩ := venuePhase_inRange accepted (markObjects_regular accepted regular)
  have timed := stopTimer_regular answered
  obtain ⟨canceled, cancel⟩ := cancelPhase_regular timed config
  obtain ⟨decided, decision⟩ := decisionPhase_regular accepted canceled config
  have stopped := (stopTimer_keeps (venuePhase tick (markObjects tick objects)).objects).2.2.1
  have same : (tickEffect config tick objects).objects = (decisionPhase config tick
      (cancelPhase config tick (stopTimer (venuePhase tick
        (markObjects tick objects)).objects)).objects).objects := rfl
  rw [same]
  refine ⟨decided, fun fits room => ?_⟩
  obtain ⟨quotes, marking, rest⟩ := (haveRoom_cons _ _).1 room |>.imp_right (haveRoom_cons _ _).1
  obtain ⟨parts, deciding⟩ := (haveRoom_append _ _).1 rest
  obtain ⟨asking, canceling⟩ := (haveRoom_append _ _).1 parts
  obtain ⟨marked, account⟩ := markToMarket_fits regular.books.held fits
    (mid_nonneg accepted.valid) marking
  obtain ⟨venueInRange, last⟩ := venue quotes account asking
  constructor
  · exact allInRange_cons (midPrice_fits accepted.valid quotes) (allInRange_cons marked
      (allInRange_append (allInRange_append venueInRange
        (cancelComputations_inRange accepted timed config canceling))
        (decisionComputations_inRange accepted canceled config deciding)))
  · rw [decision, cancel, stopped]
    exact last

end Phases

theorem initialObjects_regular (now : TimestampNs) : Regular now initialObjects :=
  ⟨initialObjects_safe,
    ⟨fun active => (by cases active), fun pending => (by cases pending), rfl⟩,
    ⟨initialObjects_safe.limit, ⟨_, CostBasis.fresh_tracks⟩, le_refl _,
      fun live => (by cases live)⟩,
    fun started => (by cases started)⟩

theorem initialObjects_account : AccountFits initialObjects.accounting :=
  ⟨by decide, by decide, by decide, by decide⟩

section Run
variable (env : ReplayEnv) (config : ReplayConfig) (tickCount : Nat)

/-- Before every tick of a run, at that tick's time. -/
theorem run_regular {ticks : List MarketTick} (accepted : ∀ tick ∈ ticks, Accepted tick)
    (ordered : ticks.Pairwise (fun earlier later => earlier.receiveTsNs ≤ later.receiveTsNs))
    {before : List MarketTick} {tick : MarketTick} {after : List MarketTick}
    (split : ticks = before ++ tick :: after) :
    Regular tick.receiveTsNs (stateAfter env config tickCount before).objects := by
  induction before using List.reverseRecOn generalizing tick after with
  | nil => exact initialObjects_regular tick.receiveTsNs
  | append_singleton earlier last ih =>
    have whole : ticks = earlier ++ last :: (tick :: after) := by simp [split]
    have now := (tick_inRange (accepted last (by simp [whole])) (ih whole) config).1
    have later : last.receiveTsNs ≤ tick.receiveTsNs := by
      rw [whole] at ordered
      exact (List.pairwise_cons.1 (List.pairwise_append.1 ordered).2.1).1 tick (by simp)
    rw [stateAfter_append]
    exact now.later later

/-- Room at every tick keeps the account in range throughout. -/
theorem run_account {ticks : List MarketTick} (accepted : ∀ tick ∈ ticks, Accepted tick)
    (ordered : ticks.Pairwise (fun earlier later => earlier.receiveTsNs ≤ later.receiveTsNs))
    (room : ∀ before tick after, ticks = before ++ tick :: after →
      HaveRoom (tickComputations tick config (stateAfter env config tickCount before).objects))
    {before after : List MarketTick} (split : ticks = before ++ after) :
    AccountFits (stateAfter env config tickCount before).objects.accounting := by
  induction before using List.reverseRecOn generalizing after with
  | nil => exact initialObjects_account
  | append_singleton earlier last ih =>
    have whole : ticks = earlier ++ last :: after := by simp [split]
    have regular := run_regular env config tickCount accepted ordered whole
    rw [stateAfter_append]
    exact ((tick_inRange (accepted last (by simp [whole])) regular config).2 (ih whole)
      (room earlier last after whole)).2

end Run

/-- Along a replay of any tick list the reader returns, nothing that is
calculated leaves its type if and only if every call has room. -/
theorem run_in_range_iff (env : ReplayEnv) (config : ReplayConfig) (path : Option String)
    (file : Option Input) (ticks : List MarketTick) (read : readAll path file = .ok ticks) :
    (∀ before tick after, ticks = before ++ tick :: after →
        ∀ computation ∈
            tickComputations tick config (stateAfter env config ticks.length before).objects,
          computation.InRange) ↔
      ∀ before tick after, ticks = before ++ tick :: after →
        ∀ computation ∈
            tickComputations tick config (stateAfter env config ticks.length before).objects,
          computation.HasRoom := by
  obtain ⟨valid, fits⟩ := CsvAcceptance.readAll_accepted read
  have accepted : ∀ tick ∈ ticks, Accepted tick :=
    fun tick member => ⟨valid.rows tick member, fits tick member⟩
  constructor
  · intro inRange before tick after split computation member
    exact hasRoom_of_inRange (inRange before tick after split computation member)
  · intro room before tick after split
    have account := run_account env config ticks.length accepted valid.ordered room split
    have regular := run_regular env config ticks.length accepted valid.ordered split
    exact ((tick_inRange (accepted tick (by simp [split])) regular config).2 account
      (room before tick after split)).1

end TradingKernel.ReplayArithmetic
