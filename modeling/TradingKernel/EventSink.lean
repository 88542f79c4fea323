import TradingKernel.ReplayBounds
import TradingKernel.SinkProgress

/-!
A replay with a sink of its own state. The sink is called on the replay thread
or on the sink thread; either way the replay is the one of the runner, each
answer being what the sink gives at that point, and the sink ends up having
consumed a part of the events in order.
-/

namespace TradingKernel
open Library ReplayRunner ReplayRun AsyncSink

/-- The interface of a sink, with what `consume` changes in it. -/
structure ReplayEventSink (σ : Type) where
  consume : TradeEvent → σ → Bool × σ

namespace ReplayEventSink
variable {σ : Type} (sink : ReplayEventSink σ)

def consumeAll (events : List TradeEvent) (state : σ) : σ :=
  events.foldl (fun state event => (sink.consume event state).2) state

def replies : List TradeEvent → σ → List Bool
  | [], _ => []
  | event :: rest, state =>
    (sink.consume event state).1 :: replies rest (sink.consume event state).2

theorem consumeAll_snoc (events : List TradeEvent) (event : TradeEvent) (state : σ) :
    sink.consumeAll (events ++ [event]) state =
      (sink.consume event (sink.consumeAll events state)).2 := by
  rw [consumeAll, List.foldl_append]
  rfl

theorem replies_snoc (events : List TradeEvent) (event : TradeEvent) (state : σ) :
    sink.replies (events ++ [event]) state =
      sink.replies events state ++ [(sink.consume event (sink.consumeAll events state)).1] := by
  induction events generalizing state with
  | nil => rfl
  | cons first rest ih => exact congrArg (List.cons _) (ih (sink.consume first state).2)

theorem replies_length (events : List TradeEvent) (state : σ) :
    (sink.replies events state).length = events.length := by
  induction events generalizing state with
  | nil => rfl
  | cons event rest ih => exact congrArg Nat.succ (ih (sink.consume event state).2)

/-- The two threads of a replay together with the sink they feed. -/
structure State (σ : Type) where
  threads : AsyncSink.State
  state : σ

/-- The turn the threads really take: the sink answers for itself. -/
def answered (s : State σ) : Turn → Turn
  | .replay => .replay
  | .sink choice =>
    match s.threads.sink with
    | .consuming event => .sink (sink.consume event s.state).1
    | _ => .sink choice

def fed (s : State σ) : Turn → σ
  | .replay => s.state
  | .sink _ =>
    match s.threads.sink with
    | .consuming event => (sink.consume event s.state).2
    | _ => s.state

def machine : Machine (State σ) Turn Observation where
  step s turn :=
    let (observation, threads) := AsyncSink.machine.step s.threads (sink.answered s turn)
    (observation, ⟨threads, sink.fed s turn⟩)

/-- The schedule of the runner that a schedule with this sink amounts to. -/
def schedule (s : State σ) : List Turn → List Turn
  | [] => []
  | turn :: rest => sink.answered s turn :: schedule (sink.machine.step s turn).2 rest

section Threads

theorem run_threads (s : State σ) (turns : List Turn) :
    (sink.machine.run s turns).threads =
      AsyncSink.machine.run s.threads (sink.schedule s turns) := by
  induction turns generalizing s with
  | nil => rfl
  | cons turn rest ih => exact ih (sink.machine.step s turn).2

theorem schedule_append (s : State σ) (first second : List Turn) :
    sink.schedule s (first ++ second) =
      sink.schedule s first ++ sink.schedule (sink.machine.run s first) second := by
  induction first generalizing s with
  | nil => rfl
  | cons turn rest ih =>
    rw [List.cons_append, schedule, schedule, List.cons_append, ih, Machine.run_cons]

theorem schedule_counts (s : State σ) (turns : List Turn) :
    (sink.schedule s turns).countP SinkProgress.isReplay = turns.countP SinkProgress.isReplay ∧
      (sink.schedule s turns).countP SinkProgress.isSink =
        turns.countP SinkProgress.isSink := by
  have kind : ∀ s turn, SinkProgress.isReplay (sink.answered s turn) =
      SinkProgress.isReplay turn := by
    intro s turn
    cases turn with
    | replay => rfl
    | sink choice =>
      simp only [answered]
      split <;> rfl
  induction turns generalizing s with
  | nil => exact ⟨rfl, rfl⟩
  | cons turn rest ih =>
    obtain ⟨replays, sinks⟩ := ih (sink.machine.step s turn).2
    rw [schedule, List.countP_cons, List.countP_cons, List.countP_cons, List.countP_cons, replays,
      sinks, SinkProgress.isSink, SinkProgress.isSink, kind]
    exact ⟨rfl, rfl⟩

theorem stepReplay_consumption (s : AsyncSink.State) : consumption (stepReplay s).1 = none := by
  unfold stepReplay
  cases s.pending with
  | nil => rfl
  | cons event rest =>
    dsimp only
    split <;> rfl

/-- A turn either leaves the sink alone or is one consume with the sink's own answer. -/
theorem step_cases (s : State σ) (turn : Turn) :
    let observation := (AsyncSink.machine.step s.threads (sink.answered s turn)).1
    consumption observation = none ∧ sink.fed s turn = s.state ∨
      ∃ event, consumption observation = some (event, (sink.consume event s.state).1) ∧
        sink.fed s turn = (sink.consume event s.state).2 := by
  cases turn with
  | replay => exact .inl ⟨stepReplay_consumption s.threads, rfl⟩
  | sink choice =>
    cases stands : s.threads.sink with
    | consuming event =>
      refine .inr ⟨event, ?_, ?_⟩
      · simp [AsyncSink.machine, answered, stands, stepSink, consumption]
      · simp [fed, stands]
    | popping =>
      refine .inl ⟨?_, by simp [fed, stands]⟩
      cases outcome : (SpscRingBuffer.stepConsumer s.threads.queue).1 with
      | running | pushed | pushFailed | popped | popFailed =>
        simp [AsyncSink.machine, answered, stands, stepSink, outcome, consumption]
    | testDone | testEmpty | loadedHead | loadedTail | exited =>
      refine .inl ⟨?_, by simp [fed, stands]⟩
      simp [AsyncSink.machine, answered, stands, stepSink, consumption]

/-- The sink has consumed what the sink thread reports, and answered for itself. -/
theorem run_sink (s : State σ) (turns : List Turn) :
    let consumed := consumedOf (AsyncSink.machine.history s.threads (sink.schedule s turns))
    (sink.machine.run s turns).state = sink.consumeAll (consumed.map Prod.fst) s.state ∧
      consumed.map Prod.snd = sink.replies (consumed.map Prod.fst) s.state := by
  induction turns generalizing s with
  | nil => exact ⟨rfl, rfl⟩
  | cons turn rest ih =>
    obtain ⟨state, answers⟩ := ih (sink.machine.step s turn).2
    have next : (sink.machine.step s turn).2.state = sink.fed s turn := rfl
    have first : consumedOf (AsyncSink.machine.history s.threads
        (sink.schedule s (turn :: rest))) =
        (consumption (AsyncSink.machine.step s.threads (sink.answered s turn)).1).toList ++
          consumedOf (AsyncSink.machine.history (sink.machine.step s turn).2.threads
            (sink.schedule (sink.machine.step s turn).2 rest)) := by
      rw [schedule, Machine.history_cons, consumedOf, List.filterMap_cons]
      cases consumption (AsyncSink.machine.step s.threads (sink.answered s turn)).1 <;> rfl
    rw [next] at state answers
    intro consumed
    rw [show consumed = _ from first, Machine.run_cons]
    rcases sink.step_cases s turn with ⟨none, kept⟩ | ⟨event, some, consumes⟩
    · rw [none, Option.toList_none, List.nil_append]
      rw [kept] at state answers
      exact ⟨state, answers⟩
    · rw [some, Option.toList_some, List.singleton_append, List.map_cons, List.map_cons]
      rw [consumes] at state answers
      exact ⟨state, congrArg (List.cons _) answers⟩

theorem run_exits (events : List TradeEvent) (state : σ) (first second : List Turn)
    (pushing : 4 * events.length + 1 ≤ first.countP SinkProgress.isReplay)
    (draining : 8 * queueCapacity + 5 ≤ second.countP SinkProgress.isSink) :
    (sink.machine.run ⟨AsyncSink.start events, state⟩ (first ++ second)).threads.sink =
      .exited := by
  rw [run_threads, schedule_append]
  apply SinkProgress.run_exits
  · rw [(sink.schedule_counts _ first).1]
    exact pushing
  · rw [(sink.schedule_counts _ second).2]
    exact draining

end Threads

/-- The report of a synchronous replay agrees with the answers of its sink. -/
structure Answered (env : ReplayEnv) (record : ReplayRecord) : Prop where
  persisted : record.persistedEvents =
    ((List.range record.events.length).map env.consume).count true
  failed : record.sinkFailed = true ↔ false ∈ (List.range record.events.length).map env.consume
  noneDropped : record.counters.droppedEvents = 0

section Sync
variable {env : ReplayEnv} {config : ReplayConfig}

theorem perform_answered (sync : config.sinkMode = .sync) {record : ReplayRecord}
    (held : Answered env record) (action : Action) :
    Answered env (perform env config record action) := by
  cases action with
  | measure collector => exact ⟨held.persisted, held.failed, held.noneDropped⟩
  | count counter amount =>
    exact ⟨held.persisted, held.failed, (droppedEvents_add ..).trans held.noneDropped⟩
  | emit event =>
    have persisted := held.persisted
    have failed := held.failed
    have noneDropped := held.noneDropped
    cases answer : env.consume record.events.length with
    | true =>
      constructor <;> simp only [perform, emitEvent, recordLatency, deliver, sync, answer, if_true,
        List.length_append, List.length_singleton, List.range_succ, List.map_append, List.map_cons,
        List.map_nil, List.count_append, List.mem_append]
      · rw [persisted]
        rfl
      · simpa using failed
      · exact noneDropped
    | false =>
      constructor <;> simp only [perform, emitEvent, recordLatency, deliver, sync, answer,
        Bool.false_eq_true, if_false, List.length_append, List.length_singleton, List.range_succ,
        List.map_append, List.map_cons, List.map_nil, List.count_append, List.mem_append]
      · rw [persisted]
        rfl
      · simp
      · exact noneDropped

theorem stateAfter_answered (sync : config.sinkMode = .sync) (tickCount : Nat)
    (ticks : List MarketTick) : Answered env (stateAfter env config tickCount ticks).record := by
  rw [stateAfter, run_record, performAll]
  generalize actionsOf ((ReplayRun.machine env config).history (initialState tickCount) ticks) =
    actions
  have start : Answered env (initialState tickCount).record :=
    ⟨rfl, by simp [initialState], rfl⟩
  revert start
  generalize (initialState tickCount).record = record
  intro held
  induction actions generalizing record with
  | nil => exact held
  | cons action rest ih => exact ih _ (perform_answered sync held action)

end Sync

/-- What the replay thread observed of a synchronous sink: its answer to the n-th event. -/
def replied (env : ReplayEnv) (answers : List Bool) : ReplayEnv :=
  { env with consume := fun index => answers.getD index false }

/-- A replay that feeds a sink, `none` as long as the sink thread has not been
joined. What the replay emits depends on neither sink nor queue, so the sink is
called, and the turns of the threads are taken, on its events. -/
def runReplay (elapsed : Nat → Int) (config : ReplayConfig) (ticks : List MarketTick)
    (turns : List Turn) (state : σ) : Except String (Option (ReplayResult × σ)) :=
  let env : ReplayEnv := ⟨elapsed, fun _ => true, fun _ => true⟩
  match replayTicks env config ticks with
  | .error message => .error message
  | .ok emitting =>
    let events := emitting.record.events
    match config.sinkMode with
    | .sync =>
      match replayTicks (replied env (sink.replies events state)) config ticks with
      | .error message => .error message
      | .ok s =>
        .ok (some (result s s.record.persistedEvents s.record.sinkFailed,
          sink.consumeAll events state))
    | .async =>
      let start : State σ := ⟨AsyncSink.start events, state⟩
      let final := sink.machine.run start turns
      let past := AsyncSink.machine.history start.threads (sink.schedule start turns)
      if final.threads.sink = .exited then
        match replayTicks (observed env (offersOf past)) config ticks with
        | .error message => .error message
        | .ok s =>
          .ok (some (result s final.threads.persistedEvents final.threads.sinkFailed, final.state))
      else .ok none

/-- What a sink has received of a run's events, and what the result says about it. -/
structure Delivers (state : σ) (events : List TradeEvent) (r : ReplayResult) (after : σ)
    (consumed : List TradeEvent) : Prop where
  received : after = sink.consumeAll consumed state
  order : consumed.Sublist events
  dropped : events.length = consumed.length + r.counters.droppedEvents
  accepted : r.counters.acceptedEvents = events.length
  persisted : r.counters.persistedEvents = (sink.replies consumed state).count true
  failed : r.sinkFailed = true ↔ false ∈ sink.replies consumed state

/-- The figures of a result that depend on neither sink nor clock. -/
structure SameFigures (first second : ReplayResult) : Prop where
  counters : { first.counters with persistedEvents := 0, droppedEvents := 0 } =
    { second.counters with persistedEvents := 0, droppedEvents := 0 }
  position : first.position = second.position
  pnl : first.pnl = second.pnl
  order : first.order = second.order
  executionStats : first.executionStats = second.executionStats
  overflow : first.latencyOverflow = second.latencyOverflow

section Delivery
variable {sink} {elapsed : Nat → Int} {config : ReplayConfig} {ticks : List MarketTick}
  {turns : List Turn} {state after : σ} {r : ReplayResult}

theorem taken_sublist (offers : List (TradeEvent × Bool)) :
    (taken offers).Sublist (offers.map Prod.fst) :=
  (List.filter_sublist).map Prod.fst

theorem stateAfter_overflow (env env' : ReplayEnv) (config : ReplayConfig)
    (mode : ReplaySinkMode) (tickCount : Nat) (ticks : List MarketTick) :
    (stateAfter env' { config with sinkMode := mode } tickCount ticks).record.latencies.overflow =
      (stateAfter env config tickCount ticks).record.latencies.overflow := by
  have collects : ∀ env config, Collects tickCount
      (stateAfter env config tickCount ticks).record.latencies (fun collector => 0 + timed collector
        (actionsOf ((ReplayRun.machine env config).history (initialState tickCount) ticks))) := by
    intro env config
    rw [stateAfter, run_record]
    exact performAll_collects (allocate_collects tickCount) _
  have histories := (@history_independent env env' config mode (initialState tickCount)
    (initialState tickCount) rfl ticks).2
  have same := (ReplayBounds.overflow_iff (collects env' { config with sinkMode := mode })).trans
    (histories ▸ (ReplayBounds.overflow_iff (collects env config)).symm)
  rw [Bool.eq_iff_iff, ← not_iff_not, Bool.not_eq_true, Bool.not_eq_true]
  exact same

theorem result_figures (env : ReplayEnv) (config : ReplayConfig) (mode : ReplaySinkMode)
    (persisted : Nat) (failed : Bool) :
    SameFigures
      (result (stateAfter env { config with sinkMode := mode } ticks.length ticks) persisted failed)
      (result (stateAfter quietEnv config ticks.length ticks) 0 false) := by
  obtain ⟨objects, _, counts, accepted⟩ := stateAfter_independent quietEnv env config mode
    ticks.length ticks.length ticks
  constructor
  · exact counters_ext counts accepted 0 0
  · simp only [result, objects]
  · simp only [result, objects]
  · simp only [result, objects]
  · simp only [result, objects]
  · exact stateAfter_overflow quietEnv env config mode ticks.length ticks

/-- The events that a replay of some ticks emits, whatever its environment. -/
def eventsOf (config : ReplayConfig) (ticks : List MarketTick) : List TradeEvent :=
  (stateAfter quietEnv config ticks.length ticks).record.events

theorem stateAfter_eventsOf (env : ReplayEnv) (config : ReplayConfig) (ticks : List MarketTick) :
    (stateAfter env config ticks.length ticks).record.events = eventsOf config ticks :=
  (stateAfter_independent quietEnv env config config.sinkMode ticks.length ticks.length ticks).2.1

theorem eventsOf_mode (config : ReplayConfig) (mode : ReplaySinkMode) (ticks : List MarketTick) :
    eventsOf { config with sinkMode := mode } ticks = eventsOf config ticks :=
  (stateAfter_independent quietEnv quietEnv config mode ticks.length ticks.length ticks).2.1

theorem eventsOf_rows (config : ReplayConfig) {ticks : List MarketTick}
    (nonneg : ∀ tick ∈ ticks, NonNegative tick) :
    (eventsOf config ticks).length ≤ 5 * ticks.length := by
  have rows := ReplayBounds.run_rows quietEnv config nonneg
  have few := (ReplayBounds.fives_le quietEnv config nonneg).trans List.countP_le_length
  rw [eventsOf]
  omega

theorem Delivers.complete {events consumed : List TradeEvent}
    (delivers : sink.Delivers state events r after consumed)
    (none : r.counters.droppedEvents = 0) : consumed = events := by
  have lengths := delivers.dropped
  rw [none, Nat.add_zero] at lengths
  exact delivers.order.eq_of_length lengths.symm

theorem Delivers.persisted_all {events consumed : List TradeEvent}
    (delivers : sink.Delivers state events r after consumed) (works : r.sinkFailed = false) :
    r.counters.persistedEvents = consumed.length := by
  have answered : ∀ answer ∈ sink.replies consumed state, true = answer := by
    intro answer member
    by_contra other
    rw [eq_comm, Bool.not_eq_true] at other
    simp [delivers.failed.2 (other ▸ member)] at works
  rw [delivers.persisted, List.count_eq_length.2 answered, replies_length]

theorem sync_delivers (sync : config.sinkMode = .sync) (env : ReplayEnv) :
    let events := eventsOf config ticks
    let s := stateAfter (replied env (sink.replies events state)) config ticks.length ticks
    sink.Delivers state events (result s s.record.persistedEvents s.record.sinkFailed)
      (sink.consumeAll events state) events := by
  intro events s
  have held : Answered (replied env (sink.replies events state)) s.record :=
    stateAfter_answered sync ticks.length ticks
  have emitted : s.record.events = events := stateAfter_eventsOf _ config ticks
  have answers : (List.range s.record.events.length).map
      (replied env (sink.replies events state)).consume = sink.replies events state := by
    rw [emitted, ← sink.replies_length events state, List.range_eq_range']
    exact answers_read _
  have persisted := held.persisted
  have failed := held.failed
  rw [answers] at persisted failed
  constructor
  · rfl
  · exact List.Sublist.refl _
  · simp only [result, held.noneDropped, Nat.add_zero]
  · rw [← emitted]
    exact stateAfter_accepted _ config ticks.length ticks
  · exact persisted
  · exact failed

theorem async_delivers (async : config.sinkMode = .async) (env : ReplayEnv) :
    let start : State σ := ⟨AsyncSink.start (eventsOf config ticks), state⟩
    let final := sink.machine.run start turns
    let offers := offersOf (AsyncSink.machine.history start.threads (sink.schedule start turns))
    let s := stateAfter (observed env offers) config ticks.length ticks
    final.threads.sink = .exited →
      sink.Delivers state (eventsOf config ticks)
        (result s final.threads.persistedEvents final.threads.sinkFailed) final.state
        (taken offers) := by
  intro start final offers s exited
  have threads := sink.run_threads start turns
  obtain ⟨received, replies⟩ := sink.run_sink start turns
  have inv := run_inv (eventsOf config ticks) (sink.schedule start turns)
  rw [show final.threads = _ from threads] at exited
  obtain ⟨offered, drained⟩ := inv.drained exited
  have events : s.record.events = eventsOf config ticks :=
    stateAfter_eventsOf (observed env offers) config ticks
  have length : offers.length = (eventsOf config ticks).length := by
    rw [← offered, List.length_map]
  have dropped : s.record.counters.droppedEvents = (offers.map Prod.snd).count false := by
    have count : s.record.events.length = (offers.map Prod.snd).length := by
      rw [events, List.length_map, length]
    rw [stateAfter_dropped (observed env offers) async ticks.length ticks, count]
    exact congrArg (List.count false) (answers_read _)
  constructor
  · rw [← drained]
    exact received
  · rw [← offered]
    exact taken_sublist offers
  · simp only [result, dropped]
    rw [← length]
    exact taken_length offers
  · rw [← events]
    exact stateAfter_accepted (observed env offers) config ticks.length ticks
  · rw [← drained, ← replies, ← inv.persisted, ← threads]
    rfl
  · rw [← drained, ← replies, ← inv.failed, ← threads]
    rfl

/-- Whatever its mode, schedule, sink and clock, a finished replay has fed the
sink a part of its events in order, answers for what is missing, and shows the
figures of every other replay of the same ticks. -/
theorem runReplay_delivers (some : ticks ≠ [])
    (oneSymbol : ticks.Pairwise (fun earlier later => earlier.symbolId = later.symbolId))
    (ran : sink.runReplay elapsed config ticks turns state = .ok (.some (r, after))) :
    (∃ consumed, sink.Delivers state (eventsOf config ticks) r after consumed) ∧
      SameFigures r (result (stateAfter quietEnv config ticks.length ticks) 0 false) := by
  simp only [runReplay, replayTicks_run _ config some oneSymbol, stateAfter_eventsOf] at ran
  cases mode : config.sinkMode with
  | sync =>
    simp only [mode, Except.ok.injEq, Option.some.injEq, Prod.mk.injEq] at ran
    obtain ⟨rfl, rfl⟩ := ran
    exact ⟨⟨_, sync_delivers mode _⟩, result_figures _ config config.sinkMode _ _⟩
  | async =>
    simp only [mode] at ran
    split_ifs at ran with exited
    · simp only [Except.ok.injEq, Option.some.injEq, Prod.mk.injEq] at ran
      obtain ⟨rfl, rfl⟩ := ran
      exact ⟨⟨_, async_delivers mode _ exited⟩, result_figures _ config config.sinkMode _ _⟩
    · cases ran

theorem runReplay_sync (sync : config.sinkMode = .sync) (some : ticks ≠ [])
    (oneSymbol : ticks.Pairwise (fun earlier later => earlier.symbolId = later.symbolId))
    (ran : sink.runReplay elapsed config ticks turns state = .ok (.some (r, after))) :
    r.counters.droppedEvents = 0 := by
  simp only [runReplay, replayTicks_run _ config some oneSymbol, stateAfter_eventsOf, sync,
    Except.ok.injEq, Option.some.injEq, Prod.mk.injEq] at ran
  obtain ⟨rfl, rfl⟩ := ran
  exact (stateAfter_answered sync ticks.length ticks).noneDropped

/-- The collectors of a result overflow exactly beyond four rows a tick, its
batches never. -/
theorem SameFigures.overflow_iff (valid : ValidTicks ticks) (some : ticks ≠ [])
    (same : SameFigures r (result (stateAfter quietEnv config ticks.length ticks) 0 false)) :
    r.counters.venueBatchOverflows = 0 ∧
      (r.latencyOverflow = false ↔ (eventsOf config ticks).length ≤ 4 * ticks.length) := by
  have bounded := ReplayBounds.run_bounded_iff quietEnv config valid some
  have none : (stateAfter quietEnv config ticks.length ticks).record.counters.venueBatchOverflows =
      0 := by
    have counted := (ReplayBounds.run_measured quietEnv config ticks.length valid.nonNegative).2
    have gets := performAll_get quietEnv config (initialState ticks.length).record
      (actionsOf ((ReplayRun.machine quietEnv config).history (initialState ticks.length) ticks))
      .venueBatchOverflows
    rw [← run_record, counted] at gets
    exact gets
  refine ⟨(congrArg ReplayCounters.venueBatchOverflows same.counters).trans none, ?_⟩
  rw [same.overflow, eventsOf, ← bounded, runReplay_run quietEnv config some valid.oneSymbol]
  constructor
  · intro fits
    exact ⟨_, rfl, fits, none⟩
  · rintro ⟨r, ended, fits, _⟩
    obtain rfl := Except.ok.inj ended
    exact fits

theorem runReplay_collects (some : ticks ≠ [])
    (oneSymbol : ticks.Pairwise (fun earlier later => earlier.symbolId = later.symbolId))
    (ran : sink.runReplay elapsed config ticks turns state = .ok (.some (r, after))) :
    ∃ records, Collects ticks.length r.latencies records := by
  have collects : ∀ env, ∃ records, Collects ticks.length
      (stateAfter env config ticks.length ticks).record.latencies records := by
    intro env
    rw [stateAfter, run_record]
    exact ⟨_, performAll_collects (allocate_collects ticks.length) _⟩
  simp only [runReplay, replayTicks_run _ config some oneSymbol] at ran
  cases mode : config.sinkMode with
  | sync =>
    simp only [mode, Except.ok.injEq, Option.some.injEq, Prod.mk.injEq] at ran
    obtain ⟨rfl, rfl⟩ := ran
    exact collects _
  | async =>
    simp only [mode] at ran
    split_ifs at ran with exited
    · simp only [Except.ok.injEq, Option.some.injEq, Prod.mk.injEq] at ran
      obtain ⟨rfl, rfl⟩ := ran
      exact collects _
    · cases ran

theorem runReplay_ok (some : ticks ≠ [])
    (oneSymbol : ticks.Pairwise (fun earlier later => earlier.symbolId = later.symbolId)) :
    ∃ ended, sink.runReplay elapsed config ticks turns state = .ok ended := by
  simp only [runReplay, replayTicks_run _ config some oneSymbol]
  cases config.sinkMode with
  | sync => exact ⟨_, rfl⟩
  | async =>
    dsimp only
    split_ifs
    · exact ⟨_, rfl⟩
    · exact ⟨_, rfl⟩

/-- A replay ends at once with a synchronous sink, and otherwise after turns
enough for both threads. -/
theorem runReplay_ends (some : ticks ≠ [])
    (oneSymbol : ticks.Pairwise (fun earlier later => earlier.symbolId = later.symbolId))
    (first second : List Turn) (enough : config.sinkMode = .async →
      4 * (eventsOf config ticks).length + 1 ≤ first.countP SinkProgress.isReplay ∧
        8 * queueCapacity + 5 ≤ second.countP SinkProgress.isSink) :
    ∃ r after, sink.runReplay elapsed config ticks (first ++ second) state =
      .ok (.some (r, after)) := by
  simp only [runReplay, replayTicks_run _ config some oneSymbol, stateAfter_eventsOf]
  cases mode : config.sinkMode with
  | sync => exact ⟨_, _, rfl⟩
  | async =>
    obtain ⟨pushing, draining⟩ := enough mode
    have exited := sink.run_exits (eventsOf config ticks) state first second pushing draining
    simp only [exited, if_true]
    exact ⟨_, _, rfl⟩

end Delivery

end ReplayEventSink

end TradingKernel
