import TradingKernel.HeldOrders
import TradingKernel.ReplayTiming

/-!
Whether the declared collector bounds are enough. Every bound but one is met
on every tick; the event sink's four rows per tick are missed by exactly the
ticks that trade an aggressive order in part and see a new signal, and have to
be paid for by ticks that leave rows free.
-/

namespace TradingKernel.ReplayBounds
open Library OrderManager MockVenueGateway GatewayInvariant GatewayLink ReplayRunner ReplayRun
open ReplayPhases ReplayAgreement ReplayTiming HeldOrders

/-- The tick trades a part of a due aggressive order, so the rest expires. -/
def TradesInPart (gateway : Gateway) (tick : MarketTick) : Prop :=
  AckDue gateway tick ∧ gateway.pendingNew.shouldReject = false ∧
    gateway.pendingNew.request.style = .aggressive ∧
    0 < iocFillQty gateway.pendingNew.request tick ∧
    iocFillQty gateway.pendingNew.request tick < gateway.pendingNew.request.quantity

instance (gateway : Gateway) (tick : MarketTick) : Decidable (TradesInPart gateway tick) :=
  inferInstanceAs (Decidable (_ ∧ _))

/-- The ticks that write five rows. -/
def WritesFive (gateway : Gateway) (tick : MarketTick) : Prop :=
  TradesInPart gateway tick ∧ (strategy.onTick tick).hasOrder = true

instance (gateway : Gateway) (tick : MarketTick) : Decidable (WritesFive gateway tick) :=
  inferInstanceAs (Decidable (_ ∧ _))

/-- A passive order that waits for its acknowledgment has a row to spare. -/
def credit (config : ReplayConfig) (order : ManagedOrder) : Nat :=
  if config.executionStyle = .passive ∧ order.state = .pendingNewAck then 1 else 0

def Asked (config : ReplayConfig) (request : GatewayNewOrder) : Prop :=
  request.style = config.executionStyle ∧ request.quantity = 50

theorem gatewayRequest_asked (config : ReplayConfig) {tick : MarketTick}
    (signal : (strategy.onTick tick).hasOrder = true) (clientOrderId : Int) :
    Asked config (gatewayRequest config tick clientOrderId
      (orderToSend config tick (strategy.onTick tick).order)) :=
  ⟨rfl, (orderToSend_quantity config tick _).1.trans (signal_quantity signal)⟩

theorem inPart_aggressive {config : ReplayConfig} {gateway : Gateway} {tick : MarketTick}
    (held : HoldsOnly (Asked config) gateway) (inPart : TradesInPart gateway tick) :
    config.executionStyle = .aggressive :=
  (held.pending inPart.1.1).1.symm.trans inPart.2.2.1

/-- The rows a tick leaves free whatever it decides, in an aggressive replay: three
while no order is due, one if the due order is rejected. -/
def spareRows (gateway : Gateway) (tick : MarketTick) : Nat :=
  if AckDue gateway tick then if gateway.pendingNew.shouldReject then 1 else 0 else 3

/-- The tick signals and shows less than a whole order on a side. -/
def Thin (tick : MarketTick) : Prop :=
  (strategy.onTick tick).hasOrder = true ∧
    (0 < tick.askQty ∧ tick.askQty < 50 ∨ 0 < tick.bidQty ∧ tick.bidQty < 50)

instance (tick : MarketTick) : Decidable (Thin tick) := inferInstanceAs (Decidable (_ ∧ _))

theorem WritesFive.thin {config : ReplayConfig} {gateway : Gateway} {tick : MarketTick}
    (held : HoldsOnly (Asked config) gateway) (five : WritesFive gateway tick) : Thin tick := by
  obtain ⟨⟨due, _, _, reach, short⟩, signal⟩ := five
  have quantity := (held.pending due.1).2
  refine ⟨signal, ?_⟩
  rw [iocFillQty, ExecutionSimulator.aggressiveFillQty, orderRequest, quantity] at reach short
  cases side : gateway.pendingNew.request.side <;>
    simp only [side, MarketTick.oppositeQty] at reach short <;> omega

theorem credit_aggressive {config : ReplayConfig} (style : config.executionStyle = .aggressive)
    (order : ManagedOrder) : credit config order = 0 := by
  simp [credit, style]

section Rows
variable {gateway next : Gateway} {tick : MarketTick} {events : List VenueEvent}

theorem matches_rows (matched : Matches gateway tick events next) : batchRows events ≤ 2 := by
  cases matched <;> simp [batchRows, eventRows]

theorem ticks_rows (ticks : Ticks gateway tick events next) :
    batchRows events ≤
      if TradesInPart gateway tick then 4 else if AckDue gateway tick then 3 else 2 := by
  cases ticks with
  | quiet early idle => exact Nat.zero_le _
  | newReject due reject =>
    rw [if_neg (by simp [TradesInPart, reject]), if_pos due]
    simp [batchRows, eventRows]
  | ioc due accepted style =>
    unfold iocEvents
    by_cases inPart : TradesInPart gateway tick
    · rw [if_pos inPart, if_pos inPart.2.2.2.1, if_pos inPart.2.2.2.2]
      simp [batchRows, eventRows]
    · rw [if_neg inPart, if_pos due]
      split_ifs with reach short
      · exact absurd ⟨due, accepted, style, reach, short⟩ inPart
      · simp [batchRows, eventRows]
      · simp [batchRows, eventRows]
      · simp [batchRows, eventRows]
  | passive due accepted style matched =>
    have rows := matches_rows matched
    rw [if_neg (by simp [TradesInPart, style]), if_pos due]
    simp only [batchRows, List.map_cons, List.sum_cons, eventRows] at rows ⊢
    omega
  | cancelReject active arrives rejects =>
    apply le_trans (show _ ≤ 2 by simp [batchRows, eventRows])
    split_ifs <;> omega
  | matching active answer matched =>
    apply (matches_rows matched).trans
    split_ifs <;> omega

/-- In an aggressive replay a gateway tick is worth three rows with the spare ones,
unless it trades in part. -/
theorem ticks_spare {config : ReplayConfig} (ticks : Ticks gateway tick events next)
    (held : HoldsOnly (Asked config) gateway) (style : config.executionStyle = .aggressive) :
    batchRows events + spareRows gateway tick ≤ if TradesInPart gateway tick then 4 else 3 := by
  have idle := held.idle fun _ asked => asked.1.trans style
  have rows := ticks_rows ticks
  cases ticks with
  | quiet early _ =>
    rw [spareRows, if_neg early, if_neg (fun inPart => early inPart.1)]
    simp [batchRows]
  | newReject due reject =>
    rw [spareRows, if_pos due, if_pos reject, if_neg (by simp [TradesInPart, reject])]
    simp [batchRows, eventRows]
  | ioc due accepted _ =>
    rw [spareRows, if_pos due, if_neg (by simp [accepted]), Nat.add_zero]
    rwa [if_pos due] at rows
  | passive due _ passive _ => simp [(held.pending due.1).1, style] at passive
  | cancelReject active _ _ => simp [idle] at active
  | matching active _ _ => simp [idle] at active

end Rows

section Phases
variable {objects : ReplayObjects} {tick : MarketTick}

theorem venuePhase_rows (sound : Sound objects) (tick : MarketTick) :
    (emitted (venuePhase tick objects).actions).length ≤
      if TradesInPart objects.gateway tick then 4
      else if AckDue objects.gateway tick then 3 else 2 := by
  obtain ⟨events, next, ticks, result⟩ := onTick_ticks sound.wellFormed.coherent tick
  rw [venuePhase_eq, result]
  simp only [andThen_actions, emitted_append, emitted_count, emitted_measure, emitted_nil,
    List.nil_append]
  exact (batch_rows events).trans (ticks_rows ticks)

theorem venuePhase_spare (sound : Sound objects) {config : ReplayConfig}
    (held : HoldsOnly (Asked config) objects.gateway)
    (style : config.executionStyle = .aggressive) :
    (emitted (venuePhase tick (markObjects tick objects)).actions).length +
        spareRows objects.gateway tick ≤ if TradesInPart objects.gateway tick then 4 else 3 := by
  obtain ⟨events, next, ticks, result⟩ := onTick_ticks sound.wellFormed.coherent tick
  have rows := ticks_spare ticks held style
  rw [venuePhase_eq, show (markObjects tick objects).gateway = objects.gateway from rfl, result]
  simp only [andThen_actions, emitted_append, emitted_count, emitted_measure, emitted_nil,
    List.nil_append]
  exact (Nat.add_le_add_right (batch_rows events) _).trans rows

theorem decisionPhase_rows (sound : Sound objects) (config : ReplayConfig) :
    (emitted (decisionPhase config tick objects).actions).length +
        credit config (decisionPhase config tick objects).objects.orderManager ≤
      (if config.executionStyle = .passive ∧ objects.orderManager.state ≠ .pendingCancel then 1
        else 0) +
        if (strategy.onTick tick).hasOrder = true then 1 else 0 := by
  have waiting : credit config objects.orderManager ≤
      if config.executionStyle = .passive ∧ objects.orderManager.state ≠ .pendingCancel then 1
        else 0 := by
    unfold credit
    split_ifs <;> simp_all
  obtain ⟨effect, decides, result⟩ := decisionPhase_decides sound config tick
  rw [result]
  cases decides with
  | noSignal quiet => simpa [quiet] using waiting
  | riskReject signal refused => simpa [signal, Nat.add_comm] using waiting
  | busy signal live =>
    rw [if_pos signal]
    simp only [emitted_measure, emitted_count, emitted_nil, List.length_nil, Nat.zero_add]
    exact waiting.trans (Nat.le_succ _)
  | submits signal accepted live =>
    have closed : objects.orderManager.state ≠ .pendingCancel := by
      intro state
      simp [state, OrderState.isLive] at live
    simp [signal, credit, closed, Nat.add_comm, submittedObjects, submittedOrder]

/-- After the venue part a tick writes at most two rows, a waiting order included. -/
theorem ownPhase_rows (sound : Sound objects) (config : ReplayConfig) :
    (emitted (ownPhase config tick objects).actions).length +
        credit config (ownPhase config tick objects).objects.orderManager ≤
      if config.executionStyle = .passive then 2
      else if (strategy.onTick tick).hasOrder = true then 1 else 0 := by
  have bound := @decisionPhase_rows _ tick (sound.canceled config tick).sound config
  simp only [ownPhase, andThen_actions, andThen_objects, emitted_append, List.length_append]
  rcases cancelPhase_cases config tick (stopTimer objects) with ⟨due, _, _, result⟩ | result
  · rw [result] at bound ⊢
    simp only [ne_eq, not_true_eq_false, and_false, if_false, Nat.zero_add] at bound
    rw [if_pos due.1]
    simp only [emitted_emit, emitted_nil, List.length_singleton]
    split_ifs at bound <;> omega
  · rw [result] at bound ⊢
    simp only [emitted_nil, List.length_nil, Nat.zero_add]
    dsimp only at bound
    by_cases style : config.executionStyle = .passive
    · rw [if_pos style]
      split_ifs at bound <;> omega
    · rw [if_neg style]
      rwa [if_neg (fun both => style both.1), Nat.zero_add] at bound

theorem credit_due (sound : Sound objects) {config : ReplayConfig}
    (style : config.executionStyle = .passive) (due : AckDue objects.gateway tick) :
    credit config objects.orderManager = 1 := by
  simp [credit, style, (sound.requests due).state]

theorem tickEffect_rows (config : ReplayConfig) (tick : MarketTick) (objects : ReplayObjects) :
    (emitted (tickEffect config tick objects).actions).length =
        (emitted (venuePhase tick (markObjects tick objects)).actions).length +
          (emitted (ownPhase config tick
            (venuePhase tick (markObjects tick objects)).objects).actions).length ∧
      (tickEffect config tick objects).objects =
        (ownPhase config tick (venuePhase tick (markObjects tick objects)).objects).objects := by
  rw [tickEffect_eq]
  simp

/-- A tick stays within four rows, five if it is a five-row tick, counting the rows
of waiting orders and those left free. -/
theorem tick_pays (sound : Sound objects) {config : ReplayConfig}
    (held : HoldsOnly (Asked config) objects.gateway) (nonneg : NonNegative tick) :
    (emitted (tickEffect config tick objects).actions).length +
          (if config.executionStyle = .aggressive then spareRows objects.gateway tick else 0) +
        credit config (tickEffect config tick objects).objects.orderManager ≤
      4 + (if WritesFive objects.gateway tick then 1 else 0) +
        credit config objects.orderManager := by
  obtain ⟨rows, last⟩ := tickEffect_rows config tick objects
  have own := @ownPhase_rows _ tick (sound.answered nonneg) config
  rw [rows, last]
  cases style : config.executionStyle with
  | passive =>
    have venue := venuePhase_rows (markObjects_sound sound tick) tick
    change _ ≤ if TradesInPart objects.gateway tick then 4
      else if AckDue objects.gateway tick then 3 else 2 at venue
    have whole : ¬TradesInPart objects.gateway tick := by
      intro inPart
      simp [inPart_aggressive held inPart] at style
    rw [if_neg whole] at venue
    rw [if_pos style] at own
    by_cases due : AckDue objects.gateway tick
    · have paid := credit_due sound style due
      rw [if_pos due] at venue
      simp only [reduceCtorEq, if_false]
      omega
    · rw [if_neg due] at venue
      simp only [reduceCtorEq, if_false]
      omega
  | aggressive =>
    have venue := @venuePhase_spare _ tick sound config held style
    rw [credit_aggressive style] at own ⊢
    simp only [style, reduceCtorEq, if_false, if_true] at own ⊢
    by_cases five : WritesFive objects.gateway tick
    · rw [if_pos five.1] at venue
      rw [if_pos five.2] at own
      rw [if_pos five]
      omega
    · rw [if_neg five]
      by_cases inPart : TradesInPart objects.gateway tick
      · rw [if_pos inPart] at venue
        rw [if_neg (fun signal => five ⟨inPart, signal⟩)] at own
        omega
      · rw [if_neg inPart] at venue
        split_ifs at own <;> omega

end Phases

/-- The events of a batch are all applied, and each moves the order. -/
inductive Moves : Manager → List VenueEvent → Manager → Prop where
  | done (order : Manager) : Moves order [] order
  | event {order next last : Manager} {event : VenueEvent} {fill : Fill}
      {rest : List VenueEvent} : Applies order event fill next → order.state ≠ next.state →
      Moves next rest last → Moves order (event :: rest) last

section Five
variable {objects : ReplayObjects} {tick : MarketTick}

theorem moves_rows {events : List VenueEvent} {last : Manager}
    (moves : Moves objects.orderManager events last) :
    (emitted (handleBatch tick events objects).actions).length = batchRows events := by
  induction events generalizing objects with
  | nil => rfl
  | cons event rest ih =>
    cases moves with
    | event applies moved others =>
      have rows := @applied_rows tick objects _ _ _ applies objects.orderManager.side
      have order := (handleVenueEvent_objects event objects.orderManager.side tick objects).2
      rw [applies.eq] at order
      dsimp only at order
      rw [← order] at others
      have tail := ih others
      rw [if_neg moved, Nat.add_zero] at rows
      simp only [handleBatch, andThen_actions, emitted_append, List.length_append, tail, rows]
      rfl

/-- An order traded in part goes through all three of its states. -/
theorem inPart_moves {gateway : Gateway} {order : Manager} (wellFormed : WellFormed gateway)
    (requests : Requests gateway.pendingNew.request order)
    (inPart : TradesInPart gateway tick) :
    Moves order (iocEvents gateway.pendingNew.request tick gateway.nextVenueOrderId)
      (iocOrder gateway order tick) := by
  obtain ⟨due, accepted, style, reach, short⟩ := inPart
  have acks := newAck_applies wellFormed.coherent requests.awaits tick.receiveTsNs
  have fills := iocFill_applies wellFormed.coherent requests.awaits reach
  have partially := filledOrder_short requests.awaits short
  have expires := @expired_applies gateway (filledOrder (ackedOrder gateway order)
    (iocFillQty gateway.pendingNew.request tick)) wellFormed.coherent rfl (.inr partially)
    tick.receiveTsNs
  rw [iocEvents, iocOrder, if_pos reach, if_pos short]
  simp only [if_pos reach, if_pos short]
  refine .event acks ?_ (.event fills ?_ (.event expires ?_ (.done _)))
  · simp [requests.state, ackedOrder]
  · rw [partially]
    simp [ackedOrder]
  · rw [partially]
    simp [expiredOrder]

theorem ticks_inPart {gateway next : Gateway} {events : List VenueEvent}
    (wellFormed : WellFormed gateway) (inPart : TradesInPart gateway tick)
    (ticks : Ticks gateway tick events next) :
    events = iocEvents gateway.pendingNew.request tick gateway.nextVenueOrderId := by
  obtain ⟨due, accepted, style, _⟩ := inPart
  cases ticks with
  | quiet early idle => exact absurd due early
  | newReject _ reject => simp [accepted] at reject
  | ioc _ _ _ => rfl
  | passive _ _ other matched => simp [style] at other
  | cancelReject active arrives rejects =>
    exact absurd due.1 (by simp [wellFormed.notPending active])
  | matching active answer matched => exact absurd due.1 (by simp [wellFormed.notPending active])

/-- Four rows for the order that is traded in part, one for the next decision. -/
theorem tick_rows_five (sound : Sound objects) {config : ReplayConfig}
    (held : HoldsOnly (Asked config) objects.gateway) (nonneg : NonNegative tick)
    (five : WritesFive objects.gateway tick) :
    (emitted (tickEffect config tick objects).actions).length = 5 := by
  obtain ⟨inPart, signal⟩ := five
  have requests := sound.requests inPart.1
  have positive := sound.wellFormed.pendingQty inPart.1.1
  obtain ⟨events, next, ticks, result⟩ := onTick_ticks sound.wellFormed.coherent tick
  have batch := ticks_inPart sound.wellFormed inPart ticks
  have venue : (emitted (venuePhase tick (markObjects tick objects)).actions).length = 4 := by
    have rows := @moves_rows { markObjects tick objects with gateway := next } tick _ _
      (inPart_moves sound.wellFormed requests inPart)
    have four : batchRows (iocEvents objects.gateway.pendingNew.request tick
        objects.gateway.nextVenueOrderId) = 4 := by
      rw [iocEvents, if_pos inPart.2.2.2.1, if_pos inPart.2.2.2.2]
      rfl
    rw [venuePhase_eq, show (markObjects tick objects).gateway = objects.gateway from rfl, result,
      batch]
    simp only [andThen_actions, emitted_append, emitted_count, emitted_measure, emitted_nil,
      List.nil_append]
    exact rows.trans four
  have closed : (venuePhase tick (markObjects tick objects)).objects.orderManager.state.isLive =
      false := by
    rw [(venuePhase_objects tick (markObjects tick objects)).2.1,
      show (markObjects tick objects).gateway = objects.gateway from rfl, result, batch,
      show (markObjects tick objects).orderManager = objects.orderManager from rfl,
      (ioc_accepts sound.wellFormed.coherent inPart.1 requests.awaits).2]
    exact iocOrder_closed requests.awaits positive
  have timer := (sound.answered nonneg).timed.sound
  have orderManager :=
    (stopTimer_keeps (venuePhase tick (markObjects tick objects)).objects).2.1
  have own : (emitted (ownPhase config tick
      (venuePhase tick (markObjects tick objects)).objects).actions).length = 1 := by
    rw [ownPhase]
    rcases cancelPhase_cases config tick (stopTimer (venuePhase tick
      (markObjects tick objects)).objects) with ⟨due, _, _, _⟩ | kept
    · exact absurd due.1 (by simp [inPart_aggressive held inPart])
    · obtain ⟨effect, decides, decided⟩ := decisionPhase_decides timer config tick
      simp only [kept, andThen_actions, List.nil_append, decided]
      cases decides with
      | noSignal quiet => simp [signal] at quiet
      | riskReject _ refused => simp
      | busy _ live => simp [orderManager, closed] at live
      | submits _ accepted _ => simp
  rw [(tickEffect_rows config tick objects).1, venue, own]

end Five

section Run
variable {env : ReplayEnv} {config : ReplayConfig}

theorem run_measured (env : ReplayEnv) (config : ReplayConfig) (tickCount : Nat)
    {ticks : List MarketTick} (nonneg : ∀ tick ∈ ticks, NonNegative tick) :
    (∀ collector, measured collector
        (actionsOf ((machine env config).history (initialState tickCount) ticks)) ≤
      ticks.length * tickLimit collector) ∧
      counted .venueBatchOverflows
        (actionsOf ((machine env config).history (initialState tickCount) ticks)) = 0 := by
  have held := (machine env config).history_induction NonNegative
    (motive := fun past s => Sound s.objects ∧
      (∀ collector, measured collector (actionsOf past) ≤ past.length * tickLimit collector) ∧
      counted .venueBatchOverflows (actionsOf past) = 0)
    (s := initialState tickCount) ⟨initialObjects_sound, fun _ => by simp, rfl⟩
    (by
      rintro past s tick ⟨sound, limits, none⟩ nonneg
      refine ⟨tickEffect_sound sound config nonneg, ?_, ?_⟩
      · intro collector
        have tickMeasured := tick_measured sound config nonneg collector
        have pastMeasured := limits collector
        simp only [actionsOf_append, actionsOf_cons, actionsOf_nil, measured_append, measured_nil,
          List.length_append, List.length_singleton, Nat.add_mul, Nat.one_mul, Nat.add_zero]
        exact Nat.add_le_add pastMeasured tickMeasured
      · simp only [actionsOf_append, actionsOf_cons, actionsOf_nil, counted_append, none,
          counted_nil, Nat.zero_add, Nat.add_zero]
        exact tick_overflows sound config nonneg)
    ticks nonneg
  simpa using held.2

theorem overflow_iff {tickCount : Nat} {latencies : ReplayLatencies} {records : Collector → Nat}
    (collects : Collects tickCount latencies records) :
    latencies.overflow = false ↔
      ∀ collector, records collector ≤ tickCount * collector.maxPerTick := by
  have lost : ∀ collector, (latencies.get collector).overflowCount =
      records collector - tickCount * collector.maxPerTick := by
    intro collector
    rw [(collects.wellFormed collector).overflow, collects.recorded, collects.capacity]
  simp only [ReplayLatencies.overflow, List.any_eq_false, decide_eq_true_eq, not_not, lost]
  constructor
  · intro all collector
    have none := all collector (by cases collector <;> simp)
    omega
  · intro all collector _
    have fits := all collector
    omega

theorem run_bounded_iff (env : ReplayEnv) (config : ReplayConfig) {ticks : List MarketTick}
    (valid : ValidTicks ticks) (some : ticks ≠ []) :
    (∃ r, runReplay env config ticks = .ok r ∧ r.latencyOverflow = false ∧
        r.counters.venueBatchOverflows = 0) ↔
      (stateAfter env config ticks.length ticks).record.events.length ≤ 4 * ticks.length := by
  obtain ⟨limits, batches⟩ := run_measured env config ticks.length valid.nonNegative
  have record := run_record env config (initialState ticks.length) ticks
  have events : (stateAfter env config ticks.length ticks).record.events =
      emitted (actionsOf ((machine env config).history (initialState ticks.length) ticks)) := by
    rw [stateAfter, record, performAll_events]
    rfl
  have collects : Collects ticks.length (stateAfter env config ticks.length ticks).record.latencies
      (fun collector => 0 + timed collector
        (actionsOf ((machine env config).history (initialState ticks.length) ticks))) := by
    rw [stateAfter, record]
    exact performAll_collects (allocate_collects ticks.length) _
  have overflows : (stateAfter env config ticks.length ticks).record.counters.get
      .venueBatchOverflows = 0 := by
    rw [stateAfter, record, performAll_get, batches]
    rfl
  have iff := overflow_iff collects
  rw [runReplay_run env config some valid.oneSymbol]
  constructor
  · rintro ⟨r, same, fits, _⟩
    obtain rfl := Except.ok.inj same
    have sink := iff.1 fits .eventSink
    rw [timed_measured, if_pos rfl, ← events] at sink
    simp only [Collector.maxPerTick] at sink
    omega
  · intro fits
    refine ⟨_, rfl, iff.2 ?_, overflows⟩
    intro collector
    have own := limits collector
    rw [timed_measured, ← events]
    cases collector <;> simp [tickLimit, Collector.maxPerTick] at own ⊢ <;> omega

def fives (env : ReplayEnv) (config : ReplayConfig) (ticks : List MarketTick) : Nat :=
  (machine env config).total
    (fun s tick => if WritesFive s.objects.gateway tick then 1 else 0) (initialState ticks.length)
    ticks

/-- How many rows the ticks of an aggressive replay leave free. -/
def spares (env : ReplayEnv) (config : ReplayConfig) (ticks : List MarketTick) : Nat :=
  (machine env config).total (fun s tick => spareRows s.objects.gateway tick)
    (initialState ticks.length) ticks

theorem total_rows (s : ReplayState) (ticks : List MarketTick) :
    (machine env config).total
        (fun s tick => (emitted (tickEffect config tick s.objects).actions).length) s ticks =
      (emitted (actionsOf ((machine env config).history s ticks))).length := by
  induction ticks generalizing s with
  | nil => rfl
  | cons tick rest ih =>
    rw [Machine.total_cons, ih, Machine.history_cons, actionsOf_cons, emitted_append,
      List.length_append]
    rfl

theorem tick_held {s : ReplayState} {tick : MarketTick}
    (held : Sound s.objects ∧ HoldsOnly (Asked config) s.objects.gateway)
    (nonneg : NonNegative tick) :
    Sound (runTick env config tick s).objects ∧
      HoldsOnly (Asked config) (runTick env config tick s).objects.gateway :=
  ⟨tickEffect_sound held.1 config nonneg,
    (tick_holdsOnly held.1 nonneg held.2 (gatewayRequest_asked config)).1⟩

theorem initialState_held (config : ReplayConfig) (tickCount : Nat) :
    Sound (initialState tickCount).objects ∧
      HoldsOnly (Asked config) (initialState tickCount).objects.gateway :=
  ⟨initialObjects_sound, fresh_holdsOnly _⟩

/-- The rows of a run, with those that stay free, against four for every tick. -/
theorem run_rows (env : ReplayEnv) (config : ReplayConfig) {ticks : List MarketTick}
    (nonneg : ∀ tick ∈ ticks, NonNegative tick) :
    (stateAfter env config ticks.length ticks).record.events.length +
        (if config.executionStyle = .aggressive then spares env config ticks else 0) ≤
      4 * ticks.length + fives env config ticks := by
  have paid := (machine env config).total_le
    (fun s => Sound s.objects ∧ HoldsOnly (Asked config) s.objects.gateway) NonNegative
    (fun _ _ held nonneg => tick_held held nonneg) (fun s => credit config s.objects.orderManager)
    (fun _ _ held nonneg => tick_pays held.1 held.2 nonneg)
    (initialState_held config ticks.length) ticks nonneg
  have waiting : credit config (initialState ticks.length).objects.orderManager = 0 := by
    simp [credit, initialState, initialObjects, ManagedOrder.idle]
  rw [Machine.total_add, Machine.total_add, Machine.total_const, total_rows, waiting] at paid
  rw [stateAfter_events]
  have spare : (machine env config).total (fun s tick =>
      if config.executionStyle = .aggressive then spareRows s.objects.gateway tick else 0)
      (initialState ticks.length) ticks =
        if config.executionStyle = .aggressive then spares env config ticks else 0 := by
    split_ifs
    · rfl
    · rw [Machine.total_const, Nat.zero_mul]
  rw [spare] at paid
  exact (Nat.le_add_right _ _).trans paid

theorem run_fives (env : ReplayEnv) (config : ReplayConfig) {ticks : List MarketTick}
    (nonneg : ∀ tick ∈ ticks, NonNegative tick) :
    5 * fives env config ticks ≤
      (stateAfter env config ticks.length ticks).record.events.length := by
  rw [stateAfter_events, ← total_rows, fives, ← Machine.total_mul]
  refine (machine env config).total_le
    (fun s => Sound s.objects ∧ HoldsOnly (Asked config) s.objects.gateway) NonNegative
    (fun _ _ held nonneg => tick_held held nonneg) (fun _ => 0) ?_
    (initialState_held config ticks.length) ticks nonneg
  intro s tick held nonneg
  by_cases five : WritesFive s.objects.gateway tick
  · rw [if_pos five, tick_rows_five held.1 held.2 nonneg five]
  · rw [if_neg five, Nat.mul_zero]
    omega

theorem fives_le (env : ReplayEnv) (config : ReplayConfig) {ticks : List MarketTick}
    (nonneg : ∀ tick ∈ ticks, NonNegative tick) :
    fives env config ticks ≤
      ticks.countP fun tick => config.executionStyle = .aggressive ∧ Thin tick := by
  rw [← (machine env config).total_countP _ (initialState ticks.length)]
  refine (machine env config).total_le
    (fun s => Sound s.objects ∧ HoldsOnly (Asked config) s.objects.gateway) NonNegative
    (fun _ _ held nonneg => tick_held held nonneg) (fun _ => 0) ?_
    (initialState_held config ticks.length) ticks nonneg
  intro s tick held _
  by_cases five : WritesFive s.objects.gateway tick
  · have thin : config.executionStyle = .aggressive ∧ Thin tick :=
      ⟨inPart_aggressive held.2 five.1, five.thin held.2⟩
    rw [if_pos five, if_pos (by simpa using thin)]
  · rw [if_neg five]
    omega

theorem fives_passive (env : ReplayEnv) {config : ReplayConfig}
    (style : config.executionStyle = .passive) {ticks : List MarketTick}
    (nonneg : ∀ tick ∈ ticks, NonNegative tick) : fives env config ticks = 0 := by
  have few := fives_le env config nonneg
  rwa [List.countP_eq_zero.2 (by simp [style]), Nat.le_zero] at few

/-- Nothing is due on the first tick. -/
theorem spares_first (env : ReplayEnv) (config : ReplayConfig) {ticks : List MarketTick}
    (some : ticks ≠ []) : 3 ≤ spares env config ticks := by
  cases ticks with
  | nil => exact absurd rfl some
  | cons first rest => exact Nat.le_add_right 3 _

def KeepsBounds (env : ReplayEnv) (config : ReplayConfig) (ticks : List MarketTick) : Prop :=
  ∃ r, runReplay env config ticks = .ok r ∧ r.latencyOverflow = false ∧
    r.counters.venueBatchOverflows = 0

/-- The declared bounds suffice for a replay whose five-row ticks are no more than the
rows its other ticks leave free, so for every passive one and for every list with at
most three thin ticks. Within the bounds they are at most four fifths of the ticks. -/
theorem bounded_of_fives_paid (env : ReplayEnv) (config : ReplayConfig)
    (ticks : List MarketTick) (valid : ValidTicks ticks) (some : ticks ≠ []) :
    (fives env config ticks ≤ spares env config ticks → KeepsBounds env config ticks) ∧
      (config.executionStyle = .passive ∨ ticks.countP (fun tick => Thin tick) ≤ 3 →
        fives env config ticks ≤ spares env config ticks) ∧
      (KeepsBounds env config ticks → 5 * fives env config ticks ≤ 4 * ticks.length) := by
  have nonneg := valid.nonNegative
  have bounded := run_bounded_iff env config valid some
  refine ⟨fun paid => bounded.2 ?_, fun light => ?_, fun fits => ?_⟩
  · have rows := run_rows env config nonneg
    cases style : config.executionStyle with
    | passive =>
      have none := fives_passive env style nonneg
      omega
    | aggressive =>
      rw [if_pos style] at rows
      omega
  · rcases light with passive | light
    · rw [fives_passive env passive nonneg]
      exact Nat.zero_le _
    · have thin : ticks.countP (fun tick => config.executionStyle = .aggressive ∧ Thin tick) ≤
          ticks.countP (fun tick => Thin tick) :=
        List.countP_mono_left fun tick _ both => by simp_all
      exact (fives_le env config nonneg).trans
        (thin.trans (light.trans (spares_first env config some)))
  · exact (run_fives env config nonneg).trans (bounded.1 fits)

end Run

/-- Every tick trades one lot of the order that the tick before submitted. -/
def thinTicks : List MarketTick :=
  [⟨1000, 1000, 99500, 99900, 1, 50, 1⟩, ⟨1200, 1200, 99500, 99900, 1, 50, 1⟩,
    ⟨1400, 1400, 99500, 99900, 1, 50, 1⟩, ⟨1600, 1600, 99500, 99900, 1, 50, 1⟩,
    ⟨1800, 1800, 99500, 99900, 1, 50, 1⟩, ⟨2000, 2000, 99500, 99900, 1, 50, 1⟩,
    ⟨2200, 2200, 99500, 99900, 1, 50, 1⟩, ⟨2400, 2400, 99500, 99900, 1, 50, 1⟩,
    ⟨2600, 2600, 99500, 99900, 1, 50, 1⟩]

/-- Thirty-seven rows in nine ticks, one more than the event sink's collector holds. -/
theorem thin_ticks_overflow :
    ValidTicks thinTicks ∧
      ¬∃ r, runReplay quietEnv ⟨.sync, .aggressive, 3000⟩ thinTicks = .ok r ∧
        r.latencyOverflow = false ∧ r.counters.venueBatchOverflows = 0 := by
  have valid : ValidTicks thinTicks := by decide
  refine ⟨valid, fun bounded => ?_⟩
  have fits := (run_bounded_iff quietEnv ⟨.sync, .aggressive, 3000⟩ valid (by decide)).1 bounded
  have rows : (stateAfter quietEnv ⟨.sync, .aggressive, 3000⟩ thinTicks.length
      thinTicks).record.events.length = 37 := by
    decide +kernel
  rw [rows] at fits
  exact absurd fits (by decide)

/-- Its first eight ticks have five five-row ticks and leave five rows free. -/
theorem bounded_of_fives_paid_thin :
    fives quietEnv ⟨.sync, .aggressive, 3000⟩ (thinTicks.take 8) = 5 ∧
      spares quietEnv ⟨.sync, .aggressive, 3000⟩ (thinTicks.take 8) = 5 ∧
      KeepsBounds quietEnv ⟨.sync, .aggressive, 3000⟩ (thinTicks.take 8) :=
  ⟨by decide +kernel, by decide +kernel,
    (bounded_of_fives_paid quietEnv ⟨.sync, .aggressive, 3000⟩ (thinTicks.take 8) (by decide)
      (by decide)).1 (by decide +kernel)⟩

/-- The condition is not necessary: after eleven such ticks a silent one trades the last
order whole, and the row it leaves free is not among the spare ones. -/
example :
    let ticks : List MarketTick := (List.range 11).map
      (fun i => ⟨1000 + 200 * i, 1000 + 200 * i, 99500, 99900, 1, 50, 1⟩) ++
        [⟨3200, 3200, 100100, 100200, 1, 50, 50⟩]
    let s := stateAfter quietEnv ⟨.sync, .aggressive, 3000⟩ 12 ticks
    fives quietEnv ⟨.sync, .aggressive, 3000⟩ ticks = 7 ∧
      spares quietEnv ⟨.sync, .aggressive, 3000⟩ ticks = 6 ∧
      s.record.events.length = 4 * ticks.length := by decide +kernel

end TradingKernel.ReplayBounds
