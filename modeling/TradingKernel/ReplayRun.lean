import TradingKernel.ReplayRunner
import Mathlib.Algebra.BigOperators.Group.List.Basic

/-!
What a replay reports, read off the actions it performs. The environment only
decides the stored durations, what the sink persists and what the queue drops.
-/

namespace TradingKernel.ReplayRun
open Library ReplayRunner

/-- The events among some actions. -/
def emitted (actions : List Action) : List TradeEvent :=
  actions.filterMap fun
    | .emit event => some event
    | _ => none

/-- How much some actions add to a counter. -/
def counted (counter : Counter) (actions : List Action) : Nat :=
  (actions.map fun
    | .count other amount => if other = counter then amount else 0
    | _ => 0).sum

/-- How often some actions record into a collector. -/
def timed (collector : Collector) (actions : List Action) : Nat :=
  (actions.map fun
    | .measure other => if other = collector then 1 else 0
    | .emit _ => if collector = .eventSink then 1 else 0
    | _ => 0).sum

@[simp] theorem emitted_nil : emitted [] = [] := rfl

@[simp] theorem emitted_measure (collector : Collector) (rest : List Action) :
    emitted (.measure collector :: rest) = emitted rest := rfl

@[simp] theorem emitted_count (counter : Counter) (amount : Nat) (rest : List Action) :
    emitted (.count counter amount :: rest) = emitted rest := rfl

@[simp] theorem emitted_emit (event : TradeEvent) (rest : List Action) :
    emitted (.emit event :: rest) = event :: emitted rest := rfl

@[simp] theorem emitted_append (first second : List Action) :
    emitted (first ++ second) = emitted first ++ emitted second :=
  List.filterMap_append

@[simp] theorem counted_nil (counter : Counter) : counted counter [] = 0 := rfl

@[simp] theorem counted_measure (counter : Counter) (collector : Collector)
    (rest : List Action) : counted counter (.measure collector :: rest) = counted counter rest := by
  simp [counted]

@[simp] theorem counted_count (counter other : Counter) (amount : Nat) (rest : List Action) :
    counted counter (.count other amount :: rest) =
      (if other = counter then amount else 0) + counted counter rest := by
  simp [counted]

@[simp] theorem counted_emit (counter : Counter) (event : TradeEvent) (rest : List Action) :
    counted counter (.emit event :: rest) = counted counter rest := by
  simp [counted]

@[simp] theorem counted_append (counter : Counter) (first second : List Action) :
    counted counter (first ++ second) = counted counter first + counted counter second := by
  simp [counted]

@[simp] theorem timed_nil (collector : Collector) : timed collector [] = 0 := rfl

@[simp] theorem timed_measure (collector other : Collector) (rest : List Action) :
    timed collector (.measure other :: rest) =
      (if other = collector then 1 else 0) + timed collector rest := by
  simp [timed]

@[simp] theorem timed_count (collector : Collector) (counter : Counter) (amount : Nat)
    (rest : List Action) :
    timed collector (.count counter amount :: rest) = timed collector rest := by
  simp [timed]

@[simp] theorem timed_emit (collector : Collector) (event : TradeEvent) (rest : List Action) :
    timed collector (.emit event :: rest) =
      (if collector = .eventSink then 1 else 0) + timed collector rest := by
  simp [timed]

@[simp] theorem timed_append (collector : Collector) (first second : List Action) :
    timed collector (first ++ second) = timed collector first + timed collector second := by
  simp [timed]

theorem get_add (counters : ReplayCounters) (counter other : Counter) (amount : Nat) :
    (counters.add counter amount).get other =
      counters.get other + if counter = other then amount else 0 := by
  cases counter <;> cases other <;> rfl

theorem acceptedEvents_add (counters : ReplayCounters) (counter : Counter) (amount : Nat) :
    (counters.add counter amount).acceptedEvents = counters.acceptedEvents := by
  cases counter <;> rfl

theorem droppedEvents_add (counters : ReplayCounters) (counter : Counter) (amount : Nat) :
    (counters.add counter amount).droppedEvents = counters.droppedEvents := by
  cases counter <;> rfl

theorem get_record (latencies : ReplayLatencies) (collector other : Collector) (latencyNs : Int) :
    (latencies.record collector latencyNs).get other =
      if collector = other then ((latencies.get other).record latencyNs).2
      else latencies.get other := by
  cases collector <;> cases other <;> rfl

section
variable (env : ReplayEnv) (config : ReplayConfig)

/-- What delivery leaves alone: everything but the sink's and the queue's own figures. -/
theorem deliver_keeps (index : Nat) (record : ReplayRecord) :
    (deliver env config index record).events = record.events ∧
      (deliver env config index record).latencies = record.latencies ∧
      (deliver env config index record).counters.acceptedEvents =
        record.counters.acceptedEvents ∧
      ∀ counter, (deliver env config index record).counters.get counter =
        record.counters.get counter := by
  unfold deliver
  cases config.sinkMode with
  | sync => cases env.consume index <;> exact ⟨rfl, rfl, rfl, fun _ => rfl⟩
  | async =>
    cases env.push index with
    | true => exact ⟨rfl, rfl, rfl, fun _ => rfl⟩
    | false => exact ⟨rfl, rfl, rfl, fun counter => by cases counter <;> rfl⟩

theorem performAll_append (record : ReplayRecord) (first second : List Action) :
    performAll env config record (first ++ second) =
      performAll env config (performAll env config record first) second :=
  List.foldl_append

theorem perform_events (record : ReplayRecord) (action : Action) :
    (perform env config record action).events = record.events ++ emitted [action] := by
  cases action with
  | measure collector => simp [perform, recordLatency]
  | count counter amount => simp [perform]
  | emit event =>
    simp only [perform, emitEvent, recordLatency, emitted_emit, emitted_nil]
    exact (deliver_keeps env config _ _).1

theorem performAll_events (record : ReplayRecord) (actions : List Action) :
    (performAll env config record actions).events = record.events ++ emitted actions := by
  induction actions generalizing record with
  | nil => simp [performAll]
  | cons action rest ih =>
    calc (performAll env config (perform env config record action) rest).events
        = record.events ++ emitted [action] ++ emitted rest := by rw [ih, perform_events]
      _ = record.events ++ emitted (action :: rest) := by
        rw [List.append_assoc, ← emitted_append, List.singleton_append]

theorem perform_get (record : ReplayRecord) (action : Action) (counter : Counter) :
    (perform env config record action).counters.get counter =
      record.counters.get counter + counted counter [action] := by
  cases action with
  | measure collector => simp [perform, recordLatency]
  | count other amount => simp [perform, get_add]
  | emit event =>
    simp only [perform, emitEvent, recordLatency, counted_emit, counted_nil, Nat.add_zero]
    rw [(deliver_keeps env config _ _).2.2.2]
    cases counter <;> rfl

theorem performAll_get (record : ReplayRecord) (actions : List Action) (counter : Counter) :
    (performAll env config record actions).counters.get counter =
      record.counters.get counter + counted counter actions := by
  induction actions generalizing record with
  | nil => simp [performAll]
  | cons action rest ih =>
    have split := counted_append counter [action] rest
    rw [List.singleton_append] at split
    calc (performAll env config (perform env config record action) rest).counters.get counter
        = record.counters.get counter + counted counter [action] + counted counter rest := by
          rw [ih, perform_get]
      _ = _ := by rw [split, Nat.add_assoc]

theorem perform_acceptedEvents (record : ReplayRecord) (action : Action) :
    (perform env config record action).counters.acceptedEvents =
      record.counters.acceptedEvents + (emitted [action]).length := by
  cases action with
  | measure collector => simp [perform, recordLatency]
  | count other amount => simp [perform, acceptedEvents_add]
  | emit event =>
    simp only [perform, emitEvent, recordLatency, emitted_emit, emitted_nil, List.length_singleton]
    exact (deliver_keeps env config _ _).2.2.1

theorem performAll_acceptedEvents (record : ReplayRecord) (actions : List Action) :
    (performAll env config record actions).counters.acceptedEvents =
      record.counters.acceptedEvents + (emitted actions).length := by
  induction actions generalizing record with
  | nil => simp [performAll]
  | cons action rest ih =>
    have split := emitted_append [action] rest
    rw [List.singleton_append] at split
    calc (performAll env config (perform env config record action) rest).counters.acceptedEvents
        = record.counters.acceptedEvents + (emitted [action]).length + (emitted rest).length := by
          rw [ih, perform_acceptedEvents]
      _ = _ := by rw [split, List.length_append, Nat.add_assoc]

/-- In asynchronous mode the events the queue refuses are counted as dropped. -/
theorem performAll_dropped (async : config.sinkMode = .async) (record : ReplayRecord)
    (actions : List Action) :
    (performAll env config record actions).counters.droppedEvents =
      record.counters.droppedEvents +
        ((List.range' record.events.length (emitted actions).length).map env.push).count false := by
  induction actions generalizing record with
  | nil => simp [performAll]
  | cons action rest ih =>
    have events := perform_events env config record action
    apply (ih (perform env config record action)).trans
    cases action with
    | measure collector =>
      simp only [emitted_measure, emitted_nil, List.append_nil] at events ⊢
      rw [events]
      rfl
    | count counter amount =>
      simp only [emitted_count, emitted_nil, List.append_nil] at events ⊢
      rw [events]
      simp [perform, droppedEvents_add]
    | emit event =>
      have dropped : (perform env config record (.emit event)).counters.droppedEvents =
          record.counters.droppedEvents + [env.push record.events.length].count false := by
        cases taken : env.push record.events.length <;>
          simp [perform, emitEvent, recordLatency, deliver, async, taken]
      have split : (List.range' record.events.length
          (emitted (.emit event :: rest)).length).map env.push =
            [env.push record.events.length] ++
              (List.range' (record.events ++ emitted [.emit event]).length
                (emitted rest).length).map env.push := by
        simp [List.range'_succ]
      rw [events, dropped, split, List.count_append, Nat.add_assoc]

/-- Counters that agree but for what the side channel reports. -/
theorem counters_ext {first second : ReplayCounters}
    (counts : ∀ counter, first.get counter = second.get counter)
    (accepted : first.acceptedEvents = second.acceptedEvents) (persisted dropped : Nat) :
    { first with persistedEvents := persisted, droppedEvents := dropped } =
      { second with persistedEvents := persisted, droppedEvents := dropped } := by
  simp only [ReplayCounters.mk.injEq]
  exact ⟨counts .strategySignals, counts .localSubmissions, counts .gatewaySubmissions,
    counts .riskRejects, counts .venueRejects, counts .invalidVenueEvents, counts .fills, accepted,
    trivial, trivial, counts .venueBatchOverflows, counts .wrongStateEvents,
    counts .wrongOrderEvents, counts .invalidQuantityEvents, counts .invalidVenueOrderIdEvents,
    counts .accountingRejectedFills⟩

/-- A collector with room for `tickCount` ticks that has recorded `records` samples. -/
structure Collects (tickCount : Nat) (latencies : ReplayLatencies) (records : Collector → Nat) :
    Prop where
  wellFormed : ∀ collector, (latencies.get collector).WellFormed
  capacity : ∀ collector,
    (latencies.get collector).samples.length = tickCount * collector.maxPerTick
  recorded : ∀ collector, (latencies.get collector).recorded = records collector

variable {env config}

theorem allocate_collects (tickCount : Nat) :
    Collects tickCount (.allocate tickCount) (fun _ => 0) := by
  constructor
  · intro collector
    cases collector <;> exact LatencyStats.allocate_wellFormed _ _
  · intro collector
    cases collector <;> exact LatencyStats.capacity_allocate _ _
  · intro collector
    cases collector <;> rfl

/-- Where four samples a tick fit into a vector, a replay starts from initialised collectors. -/
theorem initializeLatencies_ok {maxSize tickCount : Nat} (fits : tickCount * 4 ≤ maxSize)
    (limit : maxSize ≤ LatencyStats.sizeMax) :
    initializeLatencies maxSize tickCount = .ok (initialState tickCount).record.latencies := by
  have each : ∀ (name : String) (collector : Collector),
      LatencyStats.initializeStats maxSize name tickCount collector.maxPerTick =
        .ok (.allocate tickCount collector.maxPerTick) := by
    intro name collector
    apply LatencyStats.initializeStats_ok name _ _ limit
    · cases collector <;> decide
    · calc
        tickCount * collector.maxPerTick ≤ tickCount * 4 :=
          Nat.mul_le_mul_left _ (by cases collector <;> decide)
        _ ≤ maxSize := fits
  simp only [initializeLatencies, each]
  rfl

theorem Collects.record {tickCount : Nat} {latencies : ReplayLatencies}
    {records : Collector → Nat} (collects : Collects tickCount latencies records)
    (collector : Collector) (latencyNs : Int) :
    Collects tickCount (latencies.record collector latencyNs)
      (fun other => records other + if collector = other then 1 else 0) := by
  constructor <;> intro other <;> rw [get_record] <;> split_ifs with same
  · exact LatencyStats.record_wellFormed (collects.wellFormed other) latencyNs
  · exact collects.wellFormed other
  · exact (LatencyStats.capacity_record _ _).trans (collects.capacity other)
  · exact collects.capacity other
  · rw [LatencyStats.recorded_record, collects.recorded]
  · exact collects.recorded other

theorem emitEvent_latencies (event : TradeEvent) (record : ReplayRecord) :
    ∃ latencyNs, (emitEvent env config event record).latencies =
      record.latencies.record .eventSink latencyNs := by
  simp only [emitEvent, recordLatency, (deliver_keeps env config _ _).2.1]
  exact ⟨_, rfl⟩

theorem perform_collects {tickCount : Nat} {record : ReplayRecord} {records : Collector → Nat}
    (collects : Collects tickCount record.latencies records) (action : Action) :
    Collects tickCount (perform env config record action).latencies
      (fun collector => records collector + timed collector [action]) := by
  cases action with
  | measure collector => simpa [perform, recordLatency] using collects.record collector _
  | count counter amount => simpa [perform] using collects
  | emit event =>
    obtain ⟨latencyNs, same⟩ := @emitEvent_latencies env config event record
    simp only [perform, same, timed_emit, timed_nil, Nat.add_zero]
    simpa [eq_comm] using collects.record .eventSink latencyNs

theorem performAll_collects {tickCount : Nat} {record : ReplayRecord} {records : Collector → Nat}
    (collects : Collects tickCount record.latencies records) (actions : List Action) :
    Collects tickCount (performAll env config record actions).latencies
      (fun collector => records collector + timed collector actions) := by
  induction actions generalizing record records with
  | nil => simpa [performAll] using collects
  | cons action rest ih =>
    have next := ih (@perform_collects env config _ _ _ collects action)
    have split := fun collector => timed_append collector [action] rest
    simp only [List.singleton_append] at split
    simp only [split, ← Nat.add_assoc]
    exact next

/-- The tick loop as a machine that answers each tick with its actions. -/
def machine (env : ReplayEnv) (config : ReplayConfig) :
    Machine ReplayState MarketTick (List Action) where
  step s tick := ((tickEffect config tick s.objects).actions, runTick env config tick s)

/-- All actions of a history, in order. -/
def actionsOf (past : List (MarketTick × List Action)) : List Action := past.flatMap Prod.snd

@[simp] theorem actionsOf_nil : actionsOf [] = [] := rfl

@[simp] theorem actionsOf_cons (first : MarketTick × List Action)
    (past : List (MarketTick × List Action)) :
    actionsOf (first :: past) = first.2 ++ actionsOf past := List.flatMap_cons

@[simp] theorem actionsOf_append (first second : List (MarketTick × List Action)) :
    actionsOf (first ++ second) = actionsOf first ++ actionsOf second := List.flatMap_append

/-- The state of a replay of `tickCount` ticks after some of them. -/
def stateAfter (env : ReplayEnv) (config : ReplayConfig) (tickCount : Nat)
    (ticks : List MarketTick) : ReplayState :=
  (machine env config).run (initialState tickCount) ticks

/-- The state between the venue part of a tick and the rest of it. -/
def stateAfterVenue (env : ReplayEnv) (config : ReplayConfig) (tick : MarketTick)
    (s : ReplayState) : ReplayState :=
  let effect := venuePhase tick (markObjects tick s.objects)
  ⟨effect.objects, performAll env config s.record effect.actions⟩

theorem stateAfter_append (env : ReplayEnv) (config : ReplayConfig) (tickCount : Nat)
    (before : List MarketTick) (tick : MarketTick) :
    stateAfter env config tickCount (before ++ [tick]) =
      runTick env config tick (stateAfter env config tickCount before) :=
  (machine env config).run_append _ before [tick]

theorem replayLoop_run (env : ReplayEnv) (config : ReplayConfig) {symbolId : Nat}
    (s : ReplayState) {ticks : List MarketTick}
    (oneSymbol : ∀ tick ∈ ticks, tick.symbolId = symbolId) :
    replayLoop env config symbolId s ticks = .ok ((machine env config).run s ticks) := by
  induction ticks generalizing s with
  | nil => rfl
  | cons tick rest ih =>
    have same : ¬tick.symbolId ≠ symbolId := not_not.2 (oneSymbol tick (by simp))
    rw [replayLoop, if_neg same]
    exact ih _ (fun other member => oneSymbol other (by simp [member]))

/-- On one symbol the loop runs to its end. -/
theorem replayTicks_run (env : ReplayEnv) (config : ReplayConfig) {ticks : List MarketTick}
    (some : ticks ≠ [])
    (oneSymbol : ticks.Pairwise (fun earlier later => earlier.symbolId = later.symbolId)) :
    replayTicks env config ticks = .ok (stateAfter env config ticks.length ticks) := by
  cases ticks with
  | nil => exact absurd rfl some
  | cons first rest =>
    apply replayLoop_run env config
    intro tick member
    rcases List.mem_cons.1 member with rfl | later
    · rfl
    · exact ((List.pairwise_cons.1 oneSymbol).1 tick later).symm

theorem runReplay_run (env : ReplayEnv) (config : ReplayConfig) {ticks : List MarketTick}
    (some : ticks ≠ [])
    (oneSymbol : ticks.Pairwise (fun earlier later => earlier.symbolId = later.symbolId)) :
    runReplay env config ticks =
      .ok (result (stateAfter env config ticks.length ticks)
        (stateAfter env config ticks.length ticks).record.persistedEvents
        (stateAfter env config ticks.length ticks).record.sinkFailed) := by
  rw [runReplay, replayTicks_run env config some oneSymbol]

theorem run_record (env : ReplayEnv) (config : ReplayConfig) (s : ReplayState)
    (ticks : List MarketTick) :
    ((machine env config).run s ticks).record =
      performAll env config s.record (actionsOf ((machine env config).history s ticks)) := by
  induction ticks generalizing s with
  | nil => rfl
  | cons tick rest ih =>
    rw [Machine.run_cons, ih, Machine.history_cons, actionsOf_cons, performAll_append]
    rfl

/-- Neither the sink mode nor the environment influences objects or actions. -/
theorem history_independent (env env' : ReplayEnv) (config : ReplayConfig)
    (mode : ReplaySinkMode) {s s' : ReplayState} (same : s.objects = s'.objects)
    (ticks : List MarketTick) :
    ((machine env' { config with sinkMode := mode }).run s' ticks).objects =
        ((machine env config).run s ticks).objects ∧
      (machine env' { config with sinkMode := mode }).history s' ticks =
        (machine env config).history s ticks := by
  induction ticks generalizing s s' with
  | nil => exact ⟨same.symm, rfl⟩
  | cons tick rest ih =>
    have effects : tickEffect { config with sinkMode := mode } tick s'.objects =
        tickEffect config tick s.objects := by
      rw [same]
      rfl
    have next : (runTick env config tick s).objects =
        (runTick env' { config with sinkMode := mode } tick s').objects := by
      simp only [runTick, effects]
    obtain ⟨objects, histories⟩ := ih next
    refine ⟨objects, ?_⟩
    simp only [Machine.history_cons]
    exact congrArg₂ List.cons (by simp only [machine, effects]) histories

/-- Replays of one tick list report the same but for durations and the side channel. -/
theorem stateAfter_independent (env env' : ReplayEnv) (config : ReplayConfig)
    (mode : ReplaySinkMode) (tickCount tickCount' : Nat) (ticks : List MarketTick) :
    let s := stateAfter env config tickCount ticks
    let s' := stateAfter env' { config with sinkMode := mode } tickCount' ticks
    s'.objects = s.objects ∧ s'.record.events = s.record.events ∧
      (∀ counter, s'.record.counters.get counter = s.record.counters.get counter) ∧
      s'.record.counters.acceptedEvents = s.record.counters.acceptedEvents := by
  obtain ⟨objects, histories⟩ := @history_independent env env' config mode
    (initialState tickCount) (initialState tickCount') rfl ticks
  refine ⟨objects, ?_, fun counter => ?_, ?_⟩
  · simp only [stateAfter, run_record, performAll_events, histories]
    rfl
  · simp only [stateAfter, run_record, performAll_get, histories]
    rfl
  · simp only [stateAfter, run_record, performAll_acceptedEvents, histories]
    rfl

/-- The events of a run are the emissions of its actions. -/
theorem stateAfter_events (env : ReplayEnv) (config : ReplayConfig) (tickCount : Nat)
    (ticks : List MarketTick) :
    (stateAfter env config tickCount ticks).record.events =
      emitted (actionsOf ((machine env config).history (initialState tickCount) ticks)) := by
  rw [stateAfter, run_record, performAll_events]
  exact List.nil_append _

theorem stateAfter_dropped (env : ReplayEnv) {config : ReplayConfig}
    (async : config.sinkMode = .async) (tickCount : Nat) (ticks : List MarketTick) :
    (stateAfter env config tickCount ticks).record.counters.droppedEvents =
      ((List.range' 0 (stateAfter env config tickCount ticks).record.events.length).map
        env.push).count false := by
  rw [stateAfter_events, stateAfter, run_record, performAll_dropped env config async]
  exact Nat.zero_add _

theorem stateAfter_accepted (env : ReplayEnv) (config : ReplayConfig) (tickCount : Nat)
    (ticks : List MarketTick) :
    (stateAfter env config tickCount ticks).record.counters.acceptedEvents =
      (stateAfter env config tickCount ticks).record.events.length := by
  rw [stateAfter, run_record, performAll_acceptedEvents, performAll_events]
  simp [initialState, ReplayCounters.zero]

end

/-- No duration is measured, and neither the sink nor the queue ever refuses. -/
def quietEnv : ReplayEnv := ⟨fun _ => 0, fun _ => true, fun _ => true⟩

end TradingKernel.ReplayRun
