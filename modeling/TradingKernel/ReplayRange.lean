import TradingKernel.AccountLimits
import TradingKernel.ReplayArithmetic

/-!
How large prices, times and the number of signals may be. What the strategy has
asked for is traded or still open, which bounds the position, its cost and the
cash; an order is sent and rests after the signal it came from, which bounds the
deadlines. A bound on these keeps a whole replay in range.
-/

namespace TradingKernel.ReplayRange
open Library OrderManager MockVenueGateway GatewayInvariant GatewayLink ReplayRunner ReplayRun
open ReplayPhases ReplayAgreement ReplayExposure HeldOrders Arithmetic ReplayArithmetic
open AccountLimits
open CsvReader (int64 readAll Input)

theorem mid_le {tick : MarketTick} (valid : ValidTick tick) : tick.mid ≤ tick.askPrice := by
  have crossed : (tick.bidPrice : Int) ≤ tick.askPrice := valid.bid_le_ask
  have positive : (0 : Int) < tick.bidPrice := valid.bid_pos
  rw [MarketTick.mid, Int.tdiv_eq_ediv_of_nonneg (by linarith)]
  exact Int.ediv_le_of_le_mul (by decide) (by linarith)

theorem openQty_bounds {order : Manager} (sized : Sized order) :
    0 ≤ openQty order ∧ openQty order ≤ 50 := by
  cases live : order.state.isLive with
  | true =>
    obtain ⟨cum, leaves, most⟩ := sized live
    rw [openQty_live live]
    omega
  | false =>
    rw [openQty_closed live]
    decide

/-- What an event trades, the order has no longer open. -/
theorem applied_openQty {order next : Manager} {event : VenueEvent} {fill : Fill}
    (applies : Applies order event fill next) (sized : Sized order) :
    0 ≤ fill.quantity ∧ fill.quantity + openQty next ≤ openQty order := by
  have live := applies.live
  have leaves := (sized live).2.1
  rw [openQty_live live]
  cases applies with
  | newAck kind state id =>
    rw [openQty_live rfl]
    exact ⟨le_refl _, (Int.zero_add _).le⟩
  | newReject kind state =>
    rw [openQty_closed rfl]
    exact ⟨le_refl _, leaves⟩
  | fill kind state named positive bounded =>
    have rest := openQty_afterFill order event.fillQty
    unfold afterFill at rest
    rw [rest]
    exact ⟨positive.le, (add_sub_cancel _ _).le⟩
  | cancelAck kind state named =>
    rw [openQty_closed rfl]
    exact ⟨le_refl _, leaves⟩
  | cancelReject kind state named =>
    have waits : (stateAfterCancelReject order).isLive = true := by
      simp only [stateAfterCancelReject]
      split_ifs <;> rfl
    rw [openQty_live waits]
    exact ⟨le_refl _, (Int.zero_add _).le⟩
  | expired kind state named =>
    rw [openQty_closed rfl]
    exact ⟨le_refl _, leaves⟩

/-- The ticks on which the strategy wants to trade. -/
def signals (ticks : List MarketTick) : Nat :=
  ticks.countP fun tick => (strategy.onTick tick).hasOrder

/-- Of a number of units submitted so far, the account has traded what is no longer open. -/
def Traded (price : Price) (submitted : Int) (objects : ReplayObjects) : Prop :=
  Charged price (submitted - openQty objects.orderManager) objects.accounting

/-- The fills of a batch are at no more than a price. -/
def Within (price : Price) (events : List VenueEvent) : Prop :=
  ∀ event ∈ events, event.type = .fill → event.fillPrice ≤ price

theorem applied_within {order next : Manager} {event : VenueEvent} {fill : Fill} {price : Price}
    (applies : Applies order event fill next)
    (within : event.type = .fill → event.fillPrice ≤ price) (positive : 0 < fill.quantity) :
    fill.price ≤ price := by
  cases applies with
  | fill kind state named some bounded => exact within kind
  | newAck => cases positive
  | newReject => cases positive
  | cancelAck => cases positive
  | cancelReject => cases positive
  | expired => cases positive

section Events
variable {price : Price} {submitted total : Int} {objects : ReplayObjects} {tick : MarketTick}
  (valid : ValidTick tick) (quoted : tick.askPrice ≤ price)
  (quotes : Below (tick.bidPrice + tick.askPrice)) (limits : Limits price total)
  (fewer : submitted ≤ total)
include valid quoted quotes limits fewer

/-- Within the limits everything an event calculates has room. -/
theorem event_room (books : Books objects) (traded : Traded price submitted objects)
    {event : VenueEvent} (priced : 0 < event.fillQty → 0 < event.fillPrice)
    (within : event.type = .fill → event.fillPrice ≤ price) :
    HaveRoom (eventComputations tick event objects) ∧
      Traded price submitted
        (handleVenueEvent event objects.orderManager.side tick objects).objects := by
  have low := (mid_le valid).trans quoted
  rcases onVenueEvent_cases objects.orderManager event with
    ⟨fill, next, result, applies⟩ | ⟨outcome, refused, result⟩
  · obtain ⟨some, spends⟩ := applied_openQty applies books.sized
    obtain ⟨left, _⟩ := openQty_bounds (books.sized.applied applies)
    obtain ⟨_, most⟩ := openQty_bounds books.sized
    by_cases positive : 0 < fill.quantity
    · have accepted := (AccountingEngine.applyFill_accepted objects.accounting fill).2 positive
      obtain ⟨small, ⟨_, tracked⟩, held⟩ := applied_held books applies priced positive tick
      have worth : 0 < fill.price ∧ fill.price ≤ price :=
        ⟨applies_priced applies priced positive, applied_within applies within positive⟩
      have after := booked_held positive small books.marked tracked
      have filled := (applyFill_charged traded positive worth).mono limits.nonneg
        (show _ ≤ submitted - openQty next by omega)
      have whole := filled.mono limits.nonneg (show _ ≤ total by omega)
      rw [handleVenueEvent_applied applies, handleFill_positive positive]
      simp only [eventComputations, result, if_true, fillComputations, accepted,
        if_neg (show ¬fill.quantity ≤ 0 by omega), haveRoom_cons]
      refine ⟨⟨trivial, fun _ => ?_, quotes, mark_fits limits whole held (mid_nonneg valid) low,
        by simp [HaveRoom]⟩, markToMarket_charged filled low⟩
      exact fillRoom_of_charged traded books.held positive (by omega) worth limits (by omega)
        after
    · simp only [eventComputations, result, if_true, fillComputations,
        if_pos (show fill.quantity ≤ 0 by omega)]
      rw [handleVenueEvent_applied applies, handleFill, if_pos (by omega)]
      refine ⟨by simp [HaveRoom, Computation.HasRoom], traded.mono limits.nonneg ?_⟩
      simp only
      omega
  · simp only [eventComputations, result, if_neg refused]
    rw [handleVenueEvent_refused refused result]
    exact ⟨by simp [HaveRoom, Computation.HasRoom], traded⟩

theorem batch_room {events : List VenueEvent} (books : Books objects)
    (traded : Traded price submitted objects) (priced : Priced events)
    (within : Within price events) :
    HaveRoom (batchComputations tick events objects) ∧
      Traded price submitted (handleBatch tick events objects).objects := by
  induction events generalizing objects with
  | nil => exact ⟨by simp [HaveRoom, batchComputations], traded⟩
  | cons event rest ih =>
    obtain ⟨first, others⟩ := List.forall_mem_cons.1 priced
    obtain ⟨now, later⟩ := List.forall_mem_cons.1 within
    obtain ⟨room, next⟩ := event_room valid quoted quotes limits fewer books traded first now
    obtain ⟨restRoom, last⟩ := ih (event_books valid books first) next others later
    exact ⟨(haveRoom_append _ _).2 ⟨room, restRoom⟩, last⟩

end Events

/-- Since when the orders in the gateway can be there: they follow a signal. -/
structure Since (before : List MarketTick) (gateway : Gateway) : Prop where
  pending : gateway.pendingNew.active = true →
    ∃ earlier ∈ before, (strategy.onTick earlier).hasOrder = true
  active : gateway.activeOrder.active = true →
    ∃ earlier ∈ before, (strategy.onTick earlier).hasOrder = true ∧
      earlier.receiveTsNs ≤ gateway.execution.restingOrder.submitTsNs

section Gateway
variable {before : List MarketTick} {gateway next : Gateway} {tick : MarketTick}
  {events : List VenueEvent}

theorem Since.mono {more : List MarketTick} (since : Since before gateway)
    (longer : before ⊆ more) : Since more gateway := by
  constructor
  · intro pending
    obtain ⟨earlier, member, signal⟩ := since.pending pending
    exact ⟨earlier, longer member, signal⟩
  · intro active
    obtain ⟨earlier, member, signal, rests⟩ := since.active active
    exact ⟨earlier, longer member, signal, rests⟩

/-- A resting order keeps the time at which it started to rest. -/
theorem matches_submitTsNs (matched : Matches gateway tick events next) :
    next.activeOrder.active = true →
      next.execution.restingOrder.submitTsNs = gateway.execution.restingOrder.submitTsNs := by
  cases matched with
  | fills reach fills =>
    intro _
    simp only [fills.resting]
    rfl
  | cancelAcked reach due =>
    intro rests
    cases rests
  | waits reach early => exact fun _ => rfl

theorem ticks_since (ticks : Ticks gateway tick events next) (since : Since before gateway)
    (ordered : ∀ earlier ∈ before, earlier.receiveTsNs ≤ tick.receiveTsNs) :
    Since before next := by
  have pending : next.pendingNew.active = true →
      ∃ earlier ∈ before, (strategy.onTick earlier).hasOrder = true := by
    intro pends
    rw [ticks_pending ticks pends] at pends
    exact since.pending pends
  refine ⟨pending, ?_⟩
  cases ticks with
  | quiet early idle => exact since.active
  | newReject due reject => exact since.active
  | ioc due accepted style =>
    intro active
    cases active
  | passive due accepted style matched =>
    intro active
    obtain ⟨earlier, member, signal⟩ := since.pending due.1
    rw [matches_submitTsNs matched active]
    exact ⟨earlier, member, signal, ordered earlier member⟩
  | cancelReject active arrives rejects => exact since.active
  | matching active answer matched =>
    intro rests
    rw [matches_submitTsNs matched rests]
    obtain ⟨earlier, member, signal, start⟩ := since.active active
    refine ⟨earlier, member, signal, ?_⟩
    unfold forwarded
    split_ifs
    · rw [ExecutionSimulator.requestCancel_restingOrder]
      split_ifs <;> exact start
    · exact start

/-- The deadline of a cancel and the age of the resting order at a time. -/
def RestsInRange (now : TimestampNs) (sim : ExecutionSimulator.Simulator) : Prop :=
  sim.restingOrder.active = true →
    Below (now + 1000) ∧ Below (now - sim.restingOrder.submitTsNs)

theorem matchResting_room (inRange : RestsInRange tick.receiveTsNs gateway.execution) :
    HaveRoom (matchRestingComputations tick gateway) := by
  unfold matchRestingComputations
  split_ifs with busy rests
  · intro computation member
    rw [List.mem_singleton.1 member]
    exact fun _ => (inRange rests).2
  · simp [HaveRoom]
  · simp [HaveRoom]

theorem cancelAndMatch_room (latency : gateway.execution.cancelLatencyNs = 1000)
    (inRange : RestsInRange tick.receiveTsNs gateway.execution) :
    HaveRoom (cancelAndMatchComputations tick gateway) := by
  unfold cancelAndMatchComputations
  split_ifs with arrives rejects
  · simp [HaveRoom]
  · refine (haveRoom_cons _ _).2 ⟨?_, matchResting_room ?_⟩
    · intro rests _
      rw [latency]
      exact (inRange rests).1
    · have kept := ExecutionSimulator.requestCancel_restingOrder gateway.execution
        tick.receiveTsNs
      intro rests
      rw [kept] at rests ⊢
      split_ifs at rests ⊢ <;> exact inRange rests
  · exact matchResting_room inRange

variable {config : ReplayConfig} {asked : GatewayNewOrder → Prop}
  (style : ∀ request, asked request → request.style = config.executionStyle)
  (rests : config.executionStyle = .passive → ∀ earlier ∈ before,
    (strategy.onTick earlier).hasOrder = true →
      Below (tick.receiveTsNs + 1000) ∧ Below (tick.receiveTsNs - earlier.receiveTsNs))
include style rests

/-- An order that is active rests since a signal. -/
theorem active_restsInRange (holds : HoldsOnly asked gateway) (since : Since before gateway)
    (active : gateway.activeOrder.active = true) :
    Below (tick.receiveTsNs + 1000) ∧
      Below (tick.receiveTsNs - gateway.execution.restingOrder.submitTsNs) := by
  obtain ⟨request, member, passive, _⟩ := holds.active active
  obtain ⟨earlier, known, signal, start⟩ := since.active active
  obtain ⟨cancel, age⟩ := rests ((style request member).symm.trans passive) earlier known signal
  exact ⟨cancel, (Int.sub_le_sub_left start _).trans age⟩

theorem gateway_room (wellFormed : WellFormed gateway)
    (fixed : settings gateway = settings MockVenueGateway.fresh)
    (holds : HoldsOnly asked gateway) (since : Since before gateway) :
    HaveRoom (gatewayComputations tick gateway) := by
  unfold gatewayComputations
  split_ifs with ready rejects
  · simp [HaveRoom]
  · simp only [Bool.and_eq_true, decide_eq_true_eq] at ready
    obtain ⟨pending, due⟩ := ready
    have kept := (acknowledge_settings gateway tick).trans fixed
    have latency := (fresh_settings kept).2.2.1
    refine (haveRoom_append _ _).2 ⟨?_, cancelAndMatch_room latency ?_⟩
    · simp only [acknowledgeComputations]
      split_ifs <;> simp [HaveRoom, Computation.HasRoom]
    · cases sent : gateway.pendingNew.request.style with
      | aggressive =>
        rw [acknowledge_ioc wellFormed.coherent pending sent]
        intro active
        rw [(iocDone_wellFormed wellFormed tick pending).resting] at active
        cases active
      | passive =>
        rw [acknowledge_passive wellFormed.coherent pending sent]
        obtain ⟨earlier, known, signal⟩ := since.pending pending
        have own := (style _ (holds.pending pending)).symm.trans sent
        intro _
        refine ⟨(rests own earlier known signal).1, ?_⟩
        simp only [acknowledged, sub_self, Below]
        decide
  · have latency := (fresh_settings fixed).2.2.1
    refine cancelAndMatch_room latency fun active => ?_
    rw [wellFormed.resting] at active
    exact active_restsInRange style rests holds since active

end Gateway

/-- An order of the replay's own style, and at no more than a price if it is to rest. -/
def AsksAtMost (config : ReplayConfig) (price : Price) (request : GatewayNewOrder) : Prop :=
  request.style = config.executionStyle ∧ (request.style = .passive → request.limitPrice ≤ price)

theorem gatewayRequest_asksAtMost (config : ReplayConfig) {price : Price} {tick : MarketTick}
    (valid : ValidTick tick) (quoted : tick.askPrice ≤ price) (order : OrderRequest)
    (clientOrderId : Int) :
    AsksAtMost config price
      (gatewayRequest config tick clientOrderId (orderToSend config tick order)) := by
  refine ⟨rfl, fun style => ?_⟩
  have passive : config.executionStyle = .passive := style
  simp only [gatewayRequest, orderToSend, if_pos passive]
  split_ifs
  · exact le_trans valid.bid_le_ask quoted
  · exact quoted

theorem tradePrice_le {config : ReplayConfig} {price : Price} {tick : MarketTick}
    (valid : ValidTick tick) (quoted : tick.askPrice ≤ price) {request : GatewayNewOrder}
    (asked : AsksAtMost config price request) : tradePrice request tick ≤ price := by
  unfold tradePrice
  cases style : request.style with
  | aggressive =>
    cases side : request.side
    · exact quoted
    · exact le_trans valid.bid_le_ask quoted
  | passive => exact asked.2 style

/-- What a list may look like: sums of quotes, the highest price with the number of
signals, and the times of signals and of what follows them. -/
structure Bounded (config : ReplayConfig) (price : Price) (ticks : List MarketTick) : Prop where
  quotes : ∀ tick ∈ ticks, Below (tick.bidPrice + tick.askPrice)
  prices : ∀ tick ∈ ticks, tick.askPrice ≤ price
  limits : Limits price (50 * signals ticks)
  deadlines : ∀ tick ∈ ticks, (strategy.onTick tick).hasOrder = true →
    Below (tick.receiveTsNs + 200)
  rests : config.executionStyle = .passive → ticks.Pairwise fun earlier later =>
    (strategy.onTick earlier).hasOrder = true →
      Below (later.receiveTsNs + 1000) ∧ Below (later.receiveTsNs - earlier.receiveTsNs)

section Phases
variable {config : ReplayConfig} {price : Price} {submitted total : Int}
  {objects : ReplayObjects} {tick : MarketTick} {before : List MarketTick}

/-- What is traded and what the gateway holds, before or within a tick. -/
structure Follows (config : ReplayConfig) (price : Price) (submitted : Int)
    (before : List MarketTick) (objects : ReplayObjects) : Prop where
  traded : Traded price submitted objects
  holds : HoldsOnly (AsksAtMost config price) objects.gateway
  since : Since before objects.gateway

variable (accepted : Accepted tick) (quoted : tick.askPrice ≤ price)
  (quotes : Below (tick.bidPrice + tick.askPrice)) (limits : Limits price total)
  (fewer : submitted ≤ total)
  (rests : config.executionStyle = .passive → ∀ earlier ∈ before,
    (strategy.onTick earlier).hasOrder = true →
      Below (tick.receiveTsNs + 1000) ∧ Below (tick.receiveTsNs - earlier.receiveTsNs))
  (regular : Regular tick.receiveTsNs objects)
  (follows : Follows config price submitted before objects)

include accepted quoted quotes limits fewer rests regular follows in
theorem venue_room (ordered : ∀ earlier ∈ before, earlier.receiveTsNs ≤ tick.receiveTsNs) :
    HaveRoom (venueComputations tick objects) ∧
      Follows config price submitted before (venuePhase tick objects).objects := by
  have sound := regular.safe.sound
  have valid := accepted.valid
  obtain ⟨events, next, ticks, result⟩ := onTick_ticks sound.wellFormed.coherent tick
  obtain ⟨holds, fills⟩ := ticks_holdsOnly ticks sound.wellFormed.coherent follows.holds
  have within : Within price events := by
    intro event member fill
    obtain ⟨request, asked, _, _, cost⟩ := fills event member fill
    exact cost.le.trans (tradePrice_le valid quoted asked)
  have priced := (ticks_quoted ticks sound.wellFormed accepted regular.quoted).2
  obtain ⟨room, traded⟩ := batch_room valid quoted quotes limits fewer
    (regular.books.answered next) follows.traded priced within
  obtain ⟨gateway, _, _, _⟩ := venuePhase_objects tick objects
  have same := venuePhase_answered result
  rw [result] at gateway
  constructor
  · simp only [venueComputations, result]
    exact (haveRoom_append _ _).2 ⟨gateway_room (fun _ asked => asked.1) rests sound.wellFormed
      regular.quoted.settings follows.holds follows.since, room⟩
  · refine ⟨same ▸ traded, ?_, ?_⟩
    · rw [gateway]
      exact holds
    · rw [gateway]
      exact ticks_since ticks follows.since ordered

include follows in
theorem stopTimer_follows : Follows config price submitted before (stopTimer objects) := by
  obtain ⟨gateway, orderManager, accounting, _⟩ := stopTimer_keeps objects
  obtain ⟨traded, holds, since⟩ := follows
  refine ⟨?_, gateway ▸ holds, gateway ▸ since⟩
  unfold Traded at traded ⊢
  rwa [orderManager, accounting]

include rests regular follows in
theorem cancel_room : HaveRoom (cancelComputations tick config objects) := by
  have latency := (fresh_settings regular.quoted.settings).2.1
  unfold cancelComputations
  split_ifs
  · refine (haveRoom_cons _ _).2 ⟨trivial, ?_⟩
    intro computation member
    rw [List.mem_singleton.1 member]
    intro taken
    have active : objects.gateway.activeOrder.active = true := by
      unfold sendCancel at taken
      split_ifs at taken with refused
      simp only [Bool.or_eq_true, Bool.not_eq_true', not_or, Bool.not_eq_false] at refused
      exact refused.1
    have late := (active_restsInRange (fun _ asked => asked.1) rests follows.holds follows.since
      active).1
    rw [latency]
    unfold Below at late ⊢
    exact le_trans (Int.add_le_add_left (by decide) _) late
  · simp [HaveRoom, Computation.HasRoom]
  · simp [HaveRoom]

include follows in
theorem cancel_follows : Follows config price submitted before
    (cancelPhase config tick objects).objects := by
  obtain ⟨traded, holds, since⟩ := follows
  rcases cancelPhase_cases config tick objects with ⟨due, active, unsent, result⟩ | result
  · rw [result]
    have live := OrderState.live_of_cancelable due.2.1
    refine ⟨?_, sendCancel_holdsOnly holds _, ?_⟩
    · unfold Traded at traded ⊢
      rw [openQty_live live] at traded
      rwa [openQty_live rfl]
    · rcases sendCancel_cases objects.gateway tick.receiveTsNs with ⟨_, _, sent⟩ | ⟨_, sent⟩
      · rw [sent]
        exact ⟨since.pending, since.active⟩
      · rw [sent]
        exact since
  · rw [result]
    exact ⟨traded, holds, since⟩

include regular in
theorem decision_room (deadline : (strategy.onTick tick).hasOrder = true →
    Below (tick.receiveTsNs + 200)) : HaveRoom (decisionComputations tick config objects) := by
  have latency := (fresh_settings regular.quoted.settings).1
  simp only [decisionComputations]
  by_cases signal : (strategy.onTick tick).hasOrder = true
  · rw [if_pos signal]
    refine (haveRoom_cons _ _).2 ⟨trivial, ?_⟩
    have quantity := signal_quantity signal
    split_ifs
    · rw [submitComputations_eq regular config (by omega)]
      split_ifs
      · simp [HaveRoom]
      · intro computation member
        rw [List.mem_singleton.1 member]
        intro _
        rw [latency]
        exact deadline signal
    · simp [HaveRoom]
  · rw [if_neg signal]
    simp [HaveRoom]

include accepted quoted limits regular follows in
/-- Every signal may add an order. -/
theorem decision_follows : Follows config price
    (submitted + if (strategy.onTick tick).hasOrder = true then 50 else 0) (before ++ [tick])
    (decisionPhase config tick objects).objects := by
  obtain ⟨traded, holds, since⟩ := follows
  have longer := since.mono (List.subset_append_left before [tick])
  obtain ⟨effect, decides, result⟩ := decisionPhase_decides regular.safe.sound config tick
  rw [result]
  cases decides with
  | noSignal quiet =>
    rw [if_neg (by simp [quiet]), Int.add_zero]
    exact ⟨traded, holds, longer⟩
  | riskReject signal refused =>
    rw [if_pos signal]
    exact ⟨Charged.mono traded limits.nonneg (by simp only; omega), holds, longer⟩
  | busy signal live =>
    rw [if_pos signal]
    exact ⟨Charged.mono traded limits.nonneg (by simp only; omega), holds, longer⟩
  | submits signal taken live =>
    have quantity := signal_quantity signal
    have same := (orderToSend_quantity config tick (strategy.onTick tick).order).1
    rw [if_pos signal]
    refine ⟨?_, ⟨fun _ => gatewayRequest_asksAtMost config accepted.valid quoted _ _,
      holds.active⟩, fun _ => ⟨tick, by simp, signal⟩, longer.active⟩
    unfold Traded at traded ⊢
    rw [openQty_closed live] at traded
    rw [openQty_live rfl]
    simp only [submittedObjects, submittedOrder]
    exact traded.mono limits.nonneg (by omega)

include accepted quoted follows in
theorem mark_follows : Follows config price submitted before (markObjects tick objects) :=
  ⟨markToMarket_charged follows.traded ((mid_le accepted.valid).trans quoted), follows.holds,
    follows.since⟩

include accepted quoted quotes limits fewer rests regular follows in
/-- Within the bounds everything a tick calculates has room. -/
theorem tick_room (ordered : ∀ earlier ∈ before, earlier.receiveTsNs ≤ tick.receiveTsNs)
    (deadline : (strategy.onTick tick).hasOrder = true → Below (tick.receiveTsNs + 200)) :
    HaveRoom (tickComputations tick config objects) ∧
      Follows config price
        (submitted + if (strategy.onTick tick).hasOrder = true then 50 else 0) (before ++ [tick])
        (tickEffect config tick objects).objects := by
  have marked := markObjects_regular accepted regular
  obtain ⟨venue, answered⟩ := venue_room accepted quoted quotes limits fewer rests marked
    (mark_follows accepted quoted follows) ordered
  have timed := stopTimer_regular (venuePhase_inRange accepted marked).1
  have stopped := stopTimer_follows answered
  have canceled := (cancelPhase_regular timed config).1
  constructor
  · refine (haveRoom_cons _ _).2 ⟨quotes, (haveRoom_cons _ _).2 ⟨?_, (haveRoom_append _ _).2
      ⟨(haveRoom_append _ _).2 ⟨venue, cancel_room rests timed stopped⟩,
        decision_room canceled deadline⟩⟩⟩
    have charged := follows.traded.mono limits.nonneg (show _ ≤ total by
      have left := (openQty_bounds regular.books.sized).1
      omega)
    exact mark_fits limits charged regular.books.held (mid_nonneg accepted.valid)
      ((mid_le accepted.valid).trans quoted)
  · exact decision_follows accepted quoted limits canceled (cancel_follows stopped)

end Phases

theorem initialObjects_follows (config : ReplayConfig) {price : Price} (nonneg : 0 ≤ price) :
    Follows config price 0 [] initialObjects :=
  ⟨fresh_charged nonneg, fresh_holdsOnly _, fun pending => (by cases pending),
    fun active => (by cases active)⟩

theorem signals_append (first second : List MarketTick) :
    signals (first ++ second) = signals first + signals second := List.countP_append

theorem pairwise_before {related : MarketTick → MarketTick → Prop}
    {before : List MarketTick} {tick : MarketTick} {after : List MarketTick}
    (pairwise : (before ++ tick :: after).Pairwise related) :
    ∀ earlier ∈ before, related earlier tick :=
  fun earlier member => (List.pairwise_append.1 pairwise).2.2 earlier member tick
    List.mem_cons_self

section Run
variable (env : ReplayEnv) (config : ReplayConfig) {price : Price} (tickCount : Nat)
  {ticks : List MarketTick} (accepted : ∀ tick ∈ ticks, Accepted tick)
  (ordered : ticks.Pairwise (fun earlier later => earlier.receiveTsNs ≤ later.receiveTsNs))
  (bounded : Bounded config price ticks) {before : List MarketTick} {tick : MarketTick}
  {after : List MarketTick} (split : ticks = before ++ tick :: after)
include accepted ordered bounded split

/-- One tick of a bounded list. -/
theorem bounded_room (follows : Follows config price (50 * signals before) before
      (stateAfter env config tickCount before).objects) :
    HaveRoom (tickComputations tick config (stateAfter env config tickCount before).objects) ∧
      Follows config price (50 * signals (before ++ [tick])) (before ++ [tick])
        (stateAfter env config tickCount (before ++ [tick])).objects := by
  have regular := run_regular env config tickCount accepted ordered split
  have member : tick ∈ ticks := by simp [split]
  have fewer : (50 * signals before : Int) ≤ 50 * signals ticks := by
    rw [split, signals_append]
    omega
  rw [split] at ordered
  have rests := bounded.rests
  rw [split] at rests
  have next := tick_room (accepted tick member) (bounded.prices tick member)
    (bounded.quotes tick member) bounded.limits fewer
    (fun passive => pairwise_before (rests passive)) regular follows (pairwise_before ordered)
    (bounded.deadlines tick member)
  have counted : (50 * signals (before ++ [tick]) : Int) =
      50 * signals before + if (strategy.onTick tick).hasOrder = true then 50 else 0 := by
    rw [signals_append]
    unfold signals
    simp only [List.countP_singleton]
    split_ifs <;> push_cast <;> ring
  rw [counted, stateAfter_append]
  exact next

theorem run_follows : Follows config price (50 * signals before) before
    (stateAfter env config tickCount before).objects := by
  induction before using List.reverseRecOn generalizing tick after with
  | nil => exact initialObjects_follows config bounded.limits.nonneg
  | append_singleton earlier last ih =>
    have whole : ticks = earlier ++ last :: (tick :: after) := by simp [split]
    exact (bounded_room env config tickCount accepted ordered bounded whole (ih whole)).2

end Run

/-- No value that a replay calculates leaves its type. -/
def InRange (env : ReplayEnv) (config : ReplayConfig) (ticks : List MarketTick) : Prop :=
  ∀ before tick after, ticks = before ++ tick :: after →
    AllInRange (tickComputations tick config (stateAfter env config ticks.length before).objects)

/-- Without a signal nothing is bought, and only the quotes themselves matter. -/
theorem bounded_of_silent {config : ReplayConfig} {ticks : List MarketTick}
    (positive : ∀ tick ∈ ticks, ValidTick tick) (silent : signals ticks = 0)
    (quotes : ∀ tick ∈ ticks, Below (tick.bidPrice + tick.askPrice)) :
    Bounded config int64.max ticks := by
  have quiet : ∀ tick ∈ ticks, ¬(strategy.onTick tick).hasOrder = true :=
    List.countP_eq_zero.1 silent
  refine ⟨quotes, ?_, ?_, fun tick member signal => absurd signal (quiet tick member),
    fun _ => ?_⟩
  · intro tick member
    have bid : (0 : Int) < tick.bidPrice := (positive tick member).bid_pos
    have sum : (tick.bidPrice + tick.askPrice : Int) ≤ int64.max := quotes tick member
    exact show (tick.askPrice : Int) ≤ int64.max by linarith
  · rw [silent]
    constructor <;> decide
  · exact List.pairwise_of_forall_mem_list fun earlier member _ _ signal =>
      absurd signal (quiet earlier member)

/-- No replay of a bounded list overflows. The sums of the quotes are needed of
every list, and nothing else of one on which the strategy never signals. -/
theorem in_range_of_bounded (env : ReplayEnv) (config : ReplayConfig) (path : Option String)
    (file : Option Input) (ticks : List MarketTick) (read : readAll path file = .ok ticks) :
    (∀ price, Bounded config price ticks → InRange env config ticks) ∧
      (InRange env config ticks → ∀ tick ∈ ticks, Below (tick.bidPrice + tick.askPrice)) ∧
      (signals ticks = 0 → (∀ tick ∈ ticks, Below (tick.bidPrice + tick.askPrice)) →
        InRange env config ticks) := by
  obtain ⟨valid, fits⟩ := CsvAcceptance.readAll_accepted read
  have accepted : ∀ tick ∈ ticks, Accepted tick :=
    fun tick member => ⟨valid.rows tick member, fits tick member⟩
  have enough : ∀ price, Bounded config price ticks → InRange env config ticks := by
    intro price bounded
    refine (run_in_range_iff env config path file ticks read).2 ?_
    intro before tick after split
    exact (bounded_room env config ticks.length accepted valid.ordered bounded split
      (run_follows env config ticks.length accepted valid.ordered bounded split)).1
  refine ⟨enough, ?_, ?_⟩
  · intro inRange tick member
    obtain ⟨before, after, split⟩ := List.append_of_mem member
    exact hasRoom_of_inRange (inRange before tick after split (.midPrice tick) List.mem_cons_self)
  · intro silent quotes
    exact enough int64.max (bounded_of_silent valid.rows silent quotes)

/-- A single row with the largest price on both sides. -/
def largestQuotes : List MarketTick := [⟨0, 0, 2 ^ 63 - 1, 2 ^ 63 - 1, 1, 0, 0⟩]

/-- The reader returns it, and its mid price overflows. -/
theorem largest_quotes_overflow :
    readAll (some "ticks.csv")
        (some ⟨CsvAcceptance.renderFile [] false true largestQuotes, false⟩) = .ok largestQuotes ∧
      ¬InRange quietEnv ⟨.sync, .aggressive, 3000⟩ largestQuotes := by
  refine ⟨CsvAcceptance.renderFile_read false true (by decide) (by decide) (by decide) (by decide)
    (by decide), fun inRange => ?_⟩
  have sum := inRange [] _ [] rfl (.midPrice _) List.mem_cons_self
  exact absurd sum (by decide)

/-- Four orders sell at a high price, then one unit is bought back at an ordinary one. -/
def steepTicks (price : Price) : List MarketTick :=
  [⟨1000, 1000, price, price, 1, 50, 50⟩, ⟨2000, 2000, price, price, 1, 50, 50⟩,
    ⟨3000, 3000, price, price, 1, 50, 50⟩, ⟨4000, 4000, price, price, 1, 50, 50⟩,
    ⟨5000, 5000, price, price, 1, 50, 50⟩, ⟨6000, 6000, price, price, 1, 50, 50⟩,
    ⟨7000, 7000, 99500, 99900, 1, 50, 50⟩, ⟨8000, 8000, 99500, 99900, 1, 50, 50⟩,
    ⟨9000, 9000, 99500, 99900, 1, 50, 1⟩]

/-- The highest price that the cost of the largest position allows. -/
def steepPrice : Price := 231743016001376

theorem steepTicks_bounded :
    Bounded ⟨.sync, .aggressive, 3000⟩ steepPrice (steepTicks steepPrice) :=
  ⟨by decide, by decide, ⟨by decide, by decide, by decide⟩, by decide,
    fun passive => (by cases passive)⟩

theorem in_range_of_bounded_steep :
    InRange quietEnv ⟨.sync, .aggressive, 3000⟩ (steepTicks steepPrice) :=
  (in_range_of_bounded quietEnv ⟨.sync, .aggressive, 3000⟩ (some "ticks.csv")
    (some ⟨CsvAcceptance.renderFile [] false true (steepTicks steepPrice), false⟩)
    (steepTicks steepPrice)
    (CsvAcceptance.renderFile_read false true (by decide) (by decide) (by decide) (by decide)
      (by decide))).1 steepPrice steepTicks_bounded

/-- One more, and the last fill multiplies past the largest value. -/
example : ¬InRange quietEnv ⟨.sync, .aggressive, 3000⟩ (steepTicks (steepPrice + 1)) := by
  intro inRange
  have last := inRange ((steepTicks (steepPrice + 1)).take 8) ⟨9000, 9000, 99500, 99900, 1, 50, 1⟩
    [] rfl
  exact absurd last (by decide +kernel)

end TradingKernel.ReplayRange
