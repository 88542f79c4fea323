import TradingKernel.ReplayReconstruction

/-!
How much one tick can record: the samples it adds to each latency collector,
and the journal rows that each kind of venue event is worth.
-/

namespace TradingKernel.ReplayTiming
open Library OrderManager MockVenueGateway GatewayInvariant GatewayLink ReplayRunner ReplayRun
open ReplayPhases ReplayAgreement ReplayJournal

/-- How often some actions stop a clock for a collector. -/
def measured (collector : Collector) (actions : List Action) : Nat :=
  actions.count (.measure collector)

/-- The samples a tick may add to a collector besides those of its rows. -/
def tickLimit : Collector → Nat
  | .eventSink => 0
  | collector => collector.maxPerTick

/-- The rows a venue event is worth at most. -/
def eventRows (event : VenueEvent) : Nat :=
  match event.type with
  | .newAck => 1
  | .newReject => 2
  | .fill => 2
  | .cancelAck => 1
  | .cancelReject => 2
  | .expired => 1

def batchRows (events : List VenueEvent) : Nat := (events.map eventRows).sum

@[simp] theorem measured_nil (collector : Collector) : measured collector [] = 0 := rfl

@[simp] theorem measured_measure (collector other : Collector) (rest : List Action) :
    measured collector (.measure other :: rest) =
      measured collector rest + if other = collector then 1 else 0 := by
  simp [measured, List.count_cons]

@[simp] theorem measured_count (collector : Collector) (counter : Counter) (amount : Nat)
    (rest : List Action) :
    measured collector (.count counter amount :: rest) = measured collector rest := by
  simp [measured]

@[simp] theorem measured_emit (collector : Collector) (event : TradeEvent) (rest : List Action) :
    measured collector (.emit event :: rest) = measured collector rest := by
  simp [measured]

@[simp] theorem measured_append (collector : Collector) (first second : List Action) :
    measured collector (first ++ second) = measured collector first + measured collector second :=
  List.count_append

/-- The event sink's collector also takes one sample for every row. -/
theorem timed_measured (collector : Collector) (actions : List Action) :
    timed collector actions =
      measured collector actions +
        if collector = .eventSink then (emitted actions).length else 0 := by
  induction actions with
  | nil => simp
  | cons action rest ih =>
    cases action with
    | measure other =>
      simp only [timed_measure, measured_measure, emitted_measure, ih]
      omega
    | count counter amount => simp only [timed_count, measured_count, emitted_count, ih]
    | emit event =>
      simp only [timed_emit, measured_emit, emitted_emit, List.length_cons, ih]
      split_ifs <;> omega

theorem measured_transition (collector : Collector) (tsNs : TimestampNs)
    (source target : OrderState) (side : Side) :
    measured collector (emitTransition tsNs source target side) = 0 := by
  unfold emitTransition
  split_ifs <;> simp

theorem measured_venueReject (collector : Collector) (event : VenueEvent) (side : Side)
    (order : ManagedOrder) : measured collector (venueRejectActions event side order) = 0 := by
  unfold venueRejectActions
  cases event.type <;> simp

theorem measured_refused (collector : Collector) (outcome : VenueEventOutcome) :
    measured collector (refusedActions outcome) = 0 := by
  cases outcome <;> simp [refusedActions]

theorem measured_fill (collector : Collector) (fill : Fill) (tick : MarketTick)
    (objects : ReplayObjects) :
    measured collector (handleFill fill tick objects).actions =
      if collector = .accounting ∧ 0 < fill.quantity then 1 else 0 := by
  by_cases positive : 0 < fill.quantity
  · simp [handleFill_positive positive, positive, eq_comm]
  · rw [handleFill, if_pos (by omega)]
    simp [positive]

theorem transition_length (tsNs : TimestampNs) (source target : OrderState) (side : Side) :
    (emitted (emitTransition tsNs source target side)).length =
      if source = target then 0 else 1 := by
  unfold emitTransition
  split_ifs <;> rfl

section Events
variable {tick : MarketTick} {objects : ReplayObjects}

/-- Only a fill is accounted for, and what a venue event writes is bounded by its kind. -/
theorem event_measured (collector : Collector) (event : VenueEvent) (fallbackSide : Side) :
    measured collector (handleVenueEvent event fallbackSide tick objects).actions ≤
      if collector = .accounting then (fillEvents [event]).length else 0 := by
  rcases onVenueEvent_cases objects.orderManager event with
    ⟨fill, next, result, applies⟩ | ⟨outcome, refused, result⟩
  · rw [handleVenueEvent_applied applies]
    simp only [measured_append, measured_transition, measured_fill, measured_venueReject,
      Nat.zero_add, Nat.add_zero]
    cases applies with
    | fill kind state named positive bounded =>
      simp only [fillEvents_cons, kind, if_true, fillEvents_nil, List.length_singleton]
      split_ifs <;> simp_all
    | newAck kind state id => simp [Fill.empty]
    | newReject kind state => simp [Fill.empty]
    | cancelAck kind state named => simp [Fill.empty]
    | cancelReject kind state named => simp [Fill.empty]
    | expired kind state named => simp [Fill.empty]
  · rw [handleVenueEvent_refused refused result, measured_refused]
    exact Nat.zero_le _

/-- An applied event writes all its rows unless the order stays in its state. -/
theorem applied_rows {event : VenueEvent} {fill : Fill} {next : Manager}
    (applies : Applies objects.orderManager event fill next) (fallbackSide : Side) :
    (emitted (handleVenueEvent event fallbackSide tick objects).actions).length +
      (if objects.orderManager.state = next.state then 1 else 0) = eventRows event := by
  have rows : (emitted (handleVenueEvent event fallbackSide tick objects).actions).length =
      (if objects.orderManager.state = next.state then 0 else 1) +
        (if 0 < fill.quantity then 1 else 0) +
        (emitted (venueRejectActions event objects.orderManager.side next)).length := by
    rw [handleVenueEvent_applied applies]
    simp only [emitted_append, List.length_append, handleFill_rows, transition_length]
    congr 2
    split_ifs <;> rfl
  have kept : (if objects.orderManager.state = next.state then 0 else 1) +
      (if objects.orderManager.state = next.state then 1 else 0) = 1 := by
    split_ifs <;> rfl
  have worth : (if 0 < fill.quantity then 1 else 0) +
      (emitted (venueRejectActions event objects.orderManager.side next)).length + 1 =
        eventRows event := by
    cases applies with
    | fill kind state named positive bounded => simp [venueRejectActions, eventRows, kind, positive]
    | newAck kind state id => simp [venueRejectActions, eventRows, kind, Fill.empty]
    | newReject kind state => simp [venueRejectActions, eventRows, kind, Fill.empty]
    | cancelAck kind state named => simp [venueRejectActions, eventRows, kind, Fill.empty]
    | cancelReject kind state named => simp [venueRejectActions, eventRows, kind, Fill.empty]
    | expired kind state named => simp [venueRejectActions, eventRows, kind, Fill.empty]
  omega

theorem event_rows (event : VenueEvent) (fallbackSide : Side) :
    (emitted (handleVenueEvent event fallbackSide tick objects).actions).length ≤
      eventRows event := by
  rcases onVenueEvent_cases objects.orderManager event with
    ⟨fill, next, result, applies⟩ | ⟨outcome, refused, result⟩
  · have rows := @applied_rows tick objects event fill next applies fallbackSide
    omega
  · rw [handleVenueEvent_refused refused result, refused_silent]
    exact Nat.zero_le _

theorem batch_measured (collector : Collector) (events : List VenueEvent) :
    measured collector (handleBatch tick events objects).actions ≤
      if collector = .accounting then (fillEvents events).length else 0 := by
  induction events generalizing objects with
  | nil => simp [handleBatch]
  | cons event rest ih =>
    have first := @event_measured tick objects collector event objects.orderManager.side
    have others := @ih (handleVenueEvent event objects.orderManager.side tick objects).objects
    simp only [handleBatch, andThen_actions, measured_append]
    have split : (fillEvents (event :: rest)).length =
        (fillEvents [event]).length + (fillEvents rest).length := by
      simp only [fillEvents_cons, fillEvents_nil]
      split_ifs <;> simp [Nat.add_comm]
    split_ifs at first others ⊢ <;> omega

theorem batch_rows (events : List VenueEvent) :
    (emitted (handleBatch tick events objects).actions).length ≤ batchRows events := by
  induction events generalizing objects with
  | nil => simp [handleBatch]
  | cons event rest ih =>
    have first := @event_rows tick objects event objects.orderManager.side
    have others := @ih (handleVenueEvent event objects.orderManager.side tick objects).objects
    simp only [handleBatch, andThen_actions, emitted_append, List.length_append, batchRows,
      List.map_cons, List.sum_cons] at others ⊢
    omega

theorem batch_overflows (events : List VenueEvent) :
    counted .venueBatchOverflows (handleBatch tick events objects).actions = 0 := by
  induction events generalizing objects with
  | nil => simp [handleBatch]
  | cons event rest ih =>
    simp only [handleBatch, andThen_actions, counted_append, ih, Nat.add_zero]
    rcases onVenueEvent_cases objects.orderManager event with
      ⟨fill, next, result, applies⟩ | ⟨outcome, refused, result⟩
    · rw [handleVenueEvent_applied applies]
      simp [counted_transition, counted_fill, counted_venueReject]
    · rw [handleVenueEvent_refused refused result]
      cases outcome <;> simp [refusedActions]

end Events

theorem ticks_oneFill {gateway next : Gateway} {tick : MarketTick} {events : List VenueEvent}
    (ticks : Ticks gateway tick events next) : (fillEvents events).length ≤ 1 := by
  have matching : ∀ {gateway next : Gateway} {events : List VenueEvent},
      Matches gateway tick events next → (fillEvents events).length ≤ 1 := by
    intro gateway next events matched
    cases matched <;> simp
  cases ticks with
  | quiet early idle => simp
  | newReject due reject => simp
  | ioc due accepted style =>
    unfold iocEvents
    split_ifs <;> simp
  | passive due accepted style matched => simpa using matching matched
  | cancelReject active arrives rejects => simp
  | matching active answer matched => exact matching matched

section Phases
variable {objects : ReplayObjects}

theorem venuePhase_measured (sound : Sound objects) (tick : MarketTick) (collector : Collector) :
    measured collector (venuePhase tick objects).actions ≤
      if collector = .execution ∨ collector = .accounting then 1 else 0 := by
  obtain ⟨events, next, ticks, result⟩ := onTick_ticks sound.wellFormed.coherent tick
  have batch := @batch_measured tick { objects with gateway := next } collector events
  have one := ticks_oneFill ticks
  rw [venuePhase_eq, result]
  simp only [andThen_actions, measured_append, measured_count, measured_measure, measured_nil]
  cases collector <;> simp at batch ⊢ <;> omega

/-- The decision stops one clock for each component it asks. -/
theorem decisionPhase_measured (sound : Sound objects) (config : ReplayConfig)
    (tick : MarketTick) (collector : Collector) :
    measured collector (decisionPhase config tick objects).actions ≤
      if collector = .strategy ∨ collector = .risk ∨ collector = .execution then 1 else 0 := by
  obtain ⟨effect, decides, result⟩ := decisionPhase_decides sound config tick
  rw [result]
  cases decides <;> cases collector <;> simp

theorem cancelPhase_measured (config : ReplayConfig) (tick : MarketTick) (collector : Collector) :
    measured collector (cancelPhase config tick objects).actions = 0 := by
  rcases cancelPhase_cases config tick objects with ⟨_, _, _, result⟩ | result
  · simp [result]
  · simp [result]

/-- A tick records at most what its collectors were sized for, rows apart. -/
theorem tick_measured (sound : Sound objects) (config : ReplayConfig) {tick : MarketTick}
    (nonneg : NonNegative tick) (collector : Collector) :
    measured collector (tickEffect config tick objects).actions ≤ tickLimit collector := by
  have venue := venuePhase_measured (markObjects_sound sound tick) tick collector
  have cancel := @cancelPhase_measured
    (stopTimer (venuePhase tick (markObjects tick objects)).objects) config tick collector
  have decision := decisionPhase_measured ((sound.answered nonneg).canceled config tick).sound
    config tick collector
  rw [tickEffect_eq]
  simp only [ownPhase, andThen_actions, measured_append, measured_measure, measured_nil, cancel]
  cases collector <;> simp [tickLimit, Collector.maxPerTick] at venue decision ⊢ <;> omega

theorem cancelPhase_overflows (config : ReplayConfig) (tick : MarketTick) :
    counted .venueBatchOverflows (cancelPhase config tick objects).actions = 0 := by
  rcases cancelPhase_cases config tick objects with ⟨_, _, _, result⟩ | result
  · simp [result]
  · simp [result]

theorem decisionPhase_overflows (sound : Sound objects) (config : ReplayConfig)
    (tick : MarketTick) :
    counted .venueBatchOverflows (decisionPhase config tick objects).actions = 0 := by
  obtain ⟨effect, decides, result⟩ := decisionPhase_decides sound config tick
  rw [result]
  cases decides <;> simp

/-- The gateway's batch always has room. -/
theorem tick_overflows (sound : Sound objects) (config : ReplayConfig) {tick : MarketTick}
    (nonneg : NonNegative tick) :
    counted .venueBatchOverflows (tickEffect config tick objects).actions = 0 := by
  obtain ⟨events, next, ticks, result⟩ :=
    onTick_ticks (markObjects_sound sound tick).wellFormed.coherent tick
  have venue : counted .venueBatchOverflows (venuePhase tick (markObjects tick objects)).actions =
      0 := by
    rw [venuePhase_eq, result]
    simp [batch_overflows]
  have decision := decisionPhase_overflows ((sound.answered nonneg).canceled config tick).sound
    config tick
  rw [tickEffect_eq]
  simp [ownPhase, venue, cancelPhase_overflows, decision]

end Phases

end TradingKernel.ReplayTiming
