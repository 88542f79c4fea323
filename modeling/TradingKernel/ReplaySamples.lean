import TradingKernel.ReplayPhases

/-!
What the latency report counts. Every clock of the loop stands next to a
counter, so that the sizes of the six collectors can be read off the counters.
-/

namespace TradingKernel.ReplaySamples
open Library OrderManager Decision ReplayRunner ReplayRun ReplayPhases

/-- What each collector was asked to record in a replay of so many ticks. -/
def recordsOf (ticks : Nat) (counters : ReplayCounters) : Collector → Nat
  | .strategy => ticks
  | .risk => counters.strategySignals
  | .execution => ticks + (counters.strategySignals - counters.riskRejects)
  | .accounting => counters.fills
  | .eventSink => counters.acceptedEvents
  | .endToEnd => ticks

/-- The clocks that a part of the loop stops, next to what it counts; `venue` and
`decided` say whether it asks the gateway and the strategy. -/
structure Clocked (venue decided : Nat) (actions : List Action) : Prop where
  strategy : timed .strategy actions = decided
  risk : timed .risk actions = counted .strategySignals actions
  execution : timed .execution actions + counted .riskRejects actions =
    venue + counted .strategySignals actions
  rejects : counted .riskRejects actions ≤ counted .strategySignals actions
  accounting : timed .accounting actions = counted .fills actions
  eventSink : timed .eventSink actions = (emitted actions).length
  endToEnd : timed .endToEnd actions = 0

section Parts
variable {config : ReplayConfig} {tick : MarketTick} {objects : ReplayObjects}

theorem Clocked.append {venue decided venue' decided' : Nat} {first second : List Action}
    (left : Clocked venue decided first) (right : Clocked venue' decided' second) :
    Clocked (venue + venue') (decided + decided') (first ++ second) := by
  obtain ⟨strategy, risk, execution, rejects, accounting, eventSink, endToEnd⟩ := left
  obtain ⟨strategy', risk', execution', rejects', accounting', eventSink', endToEnd'⟩ := right
  constructor <;>
    simp only [timed_append, counted_append, emitted_append, List.length_append] <;> omega

theorem clocked_nil : Clocked 0 0 [] := by
  constructor <;> rfl

theorem transition_clocked (tsNs : TimestampNs) (source target : OrderState) (side : Side) :
    Clocked 0 0 (emitTransition tsNs source target side) := by
  unfold emitTransition
  split_ifs
  · exact clocked_nil
  · constructor <;> simp

theorem handleFill_clocked (fill : Fill) (tick : MarketTick) (objects : ReplayObjects) :
    Clocked 0 0 (handleFill fill tick objects).actions := by
  by_cases positive : 0 < fill.quantity
  · rw [handleFill_positive positive]
    constructor <;> simp
  · rw [handleFill, if_pos (by omega)]
    exact clocked_nil

theorem handleVenueEvent_clocked (event : VenueEvent) (fallbackSide : Side) (tick : MarketTick)
    (objects : ReplayObjects) :
    Clocked 0 0 (handleVenueEvent event fallbackSide tick objects).actions := by
  rcases onVenueEvent_cases objects.orderManager event with
    ⟨fill, next, result, applies⟩ | ⟨outcome, refused, result⟩
  · have rejected : Clocked 0 0
        (venueRejectActions event objects.orderManager.side next) := by
      unfold venueRejectActions
      cases event.type <;> constructor <;> simp
    rw [handleVenueEvent_applied applies]
    exact ((transition_clocked _ _ _ _).append (handleFill_clocked _ _ _)).append rejected
  · rw [handleVenueEvent_refused refused result]
    cases outcome <;> constructor <;> simp [refusedActions]

theorem handleBatch_clocked (tick : MarketTick) (events : List VenueEvent)
    (objects : ReplayObjects) : Clocked 0 0 (handleBatch tick events objects).actions := by
  induction events generalizing objects with
  | nil => exact clocked_nil
  | cons event rest ih =>
    rw [handleBatch, andThen_actions]
    exact (handleVenueEvent_clocked event _ tick objects).append (ih _)

theorem venuePhase_clocked (tick : MarketTick) (objects : ReplayObjects) :
    Clocked 1 0 (venuePhase tick objects).actions := by
  have asked : ∀ amount, Clocked 1 0 [.count .venueBatchOverflows amount, .measure .execution] := by
    intro amount
    constructor <;> simp
  rw [venuePhase_eq, andThen_actions]
  exact (asked _).append (handleBatch_clocked tick _ _)

theorem cancelPhase_clocked (config : ReplayConfig) (tick : MarketTick)
    (objects : ReplayObjects) : Clocked 0 0 (cancelPhase config tick objects).actions := by
  rcases cancelPhase_cases config tick objects with ⟨_, _, _, result⟩ | result
  · rw [result]
    constructor <;> simp
  · rw [result]
    exact clocked_nil

/-- Handing an order over stops no clock of its own. -/
theorem sendOrder_clocked (config : ReplayConfig) (tick : MarketTick)
    (request : MockVenueGateway.GatewayNewOrder) (objects : ReplayObjects) :
    Clocked 0 0 (sendOrder config tick request objects).actions := by
  simp only [sendOrder]
  cases (MockVenueGateway.sendNew objects.gateway request).1 with
  | true => exact clocked_nil
  | false =>
    rw [if_neg Bool.false_ne_true]
    exact handleVenueEvent_clocked _ _ _ _

theorem submitPhase_clocked (config : ReplayConfig) (tick : MarketTick) (order : OrderRequest)
    (objects : ReplayObjects) : Clocked 1 0 (submitPhase config tick order objects).actions := by
  have asked : Clocked 1 0 [.measure .execution] := by
    constructor <;> simp
  have counted : ∀ counter, counter ≠ .strategySignals → counter ≠ .riskRejects →
      counter ≠ .fills → Clocked 0 0 [.count counter 1] := by
    intro counter signals rejects fills
    constructor <;> simp [signals, rejects, fills]
  have localCount := counted .localSubmissions (by decide) (by decide) (by decide)
  have gatewayCount := counted .gatewaySubmissions (by decide) (by decide) (by decide)
  simp only [submitPhase]
  split_ifs
  · exact ((localCount.append (transition_clocked _ _ _ _)).append
      (gatewayCount.append (sendOrder_clocked _ _ _ _))).append asked
  · exact asked

/-- A signal is either refused by risk or stops the execution clock once more. -/
theorem decisionPhase_clocked (config : ReplayConfig) (tick : MarketTick)
    (objects : ReplayObjects) : Clocked 0 1 (decisionPhase config tick objects).actions := by
  rcases decisionPhase_cases config tick objects with
    ⟨_, result⟩ | ⟨_, _, result⟩ | ⟨_, _, result⟩
  · rw [result]
    constructor <;> simp
  · rw [result]
    constructor <;> simp
  · obtain ⟨strategy, risk, execution, rejects, accounting, eventSink, endToEnd⟩ :=
      submitPhase_clocked config tick (strategy.onTick tick).order objects
    rw [result]
    constructor <;>
      simp only [timed_measure, timed_count, counted_measure, counted_count, emitted_measure,
        emitted_count, reduceCtorEq, if_true, if_false] <;> omega

theorem ownPhase_clocked (config : ReplayConfig) (tick : MarketTick) (objects : ReplayObjects) :
    Clocked 0 1 (ownPhase config tick objects).actions :=
  (cancelPhase_clocked config tick _).append (decisionPhase_clocked config tick _)

/-- A tick stops what its parts stop, and then the loop clock. -/
theorem tickEffect_clocked (config : ReplayConfig) (tick : MarketTick)
    (objects : ReplayObjects) :
    ∃ actions, Clocked 1 1 actions ∧
      (tickEffect config tick objects).actions = actions ++ [.measure .endToEnd] := by
  have venue := venuePhase_clocked tick (markObjects tick objects)
  have own := ownPhase_clocked config tick (venuePhase tick (markObjects tick objects)).objects
  exact ⟨_, venue.append own, by rw [tickEffect_eq, andThen_actions]⟩

end Parts

section Run
variable {env : ReplayEnv} {config : ReplayConfig}

/-- The collectors hold what the counters say, after so many ticks of a replay. -/
structure Sampled (tickCount done : Nat) (record : ReplayRecord) : Prop where
  collects : Collects tickCount record.latencies (recordsOf done record.counters)
  rejects : record.counters.riskRejects ≤ record.counters.strategySignals

theorem initialState_sampled (tickCount : Nat) :
    Sampled tickCount 0 (initialState tickCount).record := by
  have none : recordsOf 0 .zero = fun _ => 0 := by
    funext collector
    cases collector <;> rfl
  constructor
  · show Collects tickCount (.allocate tickCount) (recordsOf 0 .zero)
    rw [none]
    exact allocate_collects tickCount
  · exact Nat.le_refl 0

theorem runTick_sampled {tickCount done : Nat} {s : ReplayState}
    (sampled : Sampled tickCount done s.record) (tick : MarketTick) :
    Sampled tickCount (done + 1) (runTick env config tick s).record := by
  obtain ⟨collects, rejects⟩ := sampled
  obtain ⟨actions, clocked, split⟩ := tickEffect_clocked config tick s.objects
  have performed : (runTick env config tick s).record =
      performAll env config s.record (actions ++ [.measure .endToEnd]) := by
    rw [← split]
    rfl
  have signals := performAll_get env config s.record (actions ++ [.measure .endToEnd])
    .strategySignals
  have refused := performAll_get env config s.record (actions ++ [.measure .endToEnd])
    .riskRejects
  have fills := performAll_get env config s.record (actions ++ [.measure .endToEnd]) .fills
  have accepted := performAll_acceptedEvents env config s.record
    (actions ++ [.measure .endToEnd])
  obtain ⟨strategy, risk, execution, fewer, accounting, eventSink, endToEnd⟩ := clocked
  simp only [counted_append, counted_measure, counted_nil, emitted_append, emitted_measure,
    emitted_nil, List.append_nil, Nat.add_zero, ReplayCounters.get]
    at signals refused fills accepted
  rw [performed]
  constructor
  · have records : recordsOf (done + 1)
        (performAll env config s.record (actions ++ [.measure .endToEnd])).counters =
        fun collector => recordsOf done s.record.counters collector +
          timed collector (actions ++ [.measure .endToEnd]) := by
      funext collector
      cases collector <;>
        simp only [recordsOf, timed_append, timed_measure, timed_nil, reduceCtorEq, if_true,
          if_false] <;> omega
    rw [records]
    exact performAll_collects collects _
  · omega

theorem run_sampled (tickCount : Nat) (ticks : List MarketTick) :
    Sampled tickCount ticks.length (stateAfter env config tickCount ticks).record := by
  induction ticks using List.reverseRecOn with
  | nil => exact initialState_sampled tickCount
  | append_singleton before tick ih =>
    rw [stateAfter_append, List.length_append]
    exact runTick_sampled ih tick

/-- What a collector asked to record so often keeps and loses. -/
theorem Sampled.kept {tickCount done : Nat} {record : ReplayRecord}
    (sampled : Sampled tickCount done record) (collector : Collector) :
    (record.latencies.get collector).sampleCount =
        min (recordsOf done record.counters collector) (tickCount * collector.maxPerTick) ∧
      (record.latencies.get collector).overflowCount =
        recordsOf done record.counters collector - tickCount * collector.maxPerTick := by
  have wellFormed := sampled.collects.wellFormed collector
  have capacity := sampled.collects.capacity collector
  have recorded := sampled.collects.recorded collector
  have lost := wellFormed.overflow
  have fits := wellFormed.fits
  rw [recorded, capacity] at lost
  rw [capacity] at fits
  rw [LatencyStats.recorded] at recorded
  constructor <;> omega

/-- The latency report of a replay counts what its counters count: the strategy and
the loop once a tick, risk once a signal, execution once a tick and once more for
every signal that risk let through, accounting once a fill and the sink once an
event. A collector keeps as many as it has room for, and counts the others. -/
theorem run_samples (env : ReplayEnv) (config : ReplayConfig) {ticks : List MarketTick}
    (some : ticks ≠ [])
    (oneSymbol : ticks.Pairwise (fun earlier later => earlier.symbolId = later.symbolId)) :
    ∃ outcome, runReplay env config ticks = .ok outcome ∧
      outcome.counters.riskRejects ≤ outcome.counters.strategySignals ∧
      ∀ collector,
        (outcome.latencies.get collector).sampleCount =
            min (recordsOf ticks.length outcome.counters collector)
              (ticks.length * collector.maxPerTick) ∧
          (outcome.latencies.get collector).overflowCount =
            recordsOf ticks.length outcome.counters collector -
              ticks.length * collector.maxPerTick := by
  have sampled := @run_sampled env config ticks.length ticks
  refine ⟨_, runReplay_run env config some oneSymbol, sampled.rejects, fun collector => ?_⟩
  have counters : recordsOf ticks.length (result (stateAfter env config ticks.length ticks)
        (stateAfter env config ticks.length ticks).record.persistedEvents
        (stateAfter env config ticks.length ticks).record.sinkFailed).counters collector =
      recordsOf ticks.length (stateAfter env config ticks.length ticks).record.counters
        collector := by
    cases collector <;> rfl
  rw [counters]
  exact sampled.kept collector

/-- A signal on the first of two ticks. -/
theorem run_samples_two :
    ∃ outcome,
      runReplay quietEnv ⟨.sync, .aggressive, 3000⟩
          [⟨1000, 1000, 99800, 99900, 1, 10, 10⟩, ⟨1200, 1200, 99900, 100100, 1, 10, 10⟩] =
        .ok outcome ∧
      outcome.counters.riskRejects ≤ outcome.counters.strategySignals ∧
      ∀ collector,
        (outcome.latencies.get collector).sampleCount =
            min (recordsOf 2 outcome.counters collector) (2 * collector.maxPerTick) ∧
          (outcome.latencies.get collector).overflowCount =
            recordsOf 2 outcome.counters collector - 2 * collector.maxPerTick :=
  run_samples quietEnv ⟨.sync, .aggressive, 3000⟩ (by decide) (by decide)

end Run

end TradingKernel.ReplaySamples
