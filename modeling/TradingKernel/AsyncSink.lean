import TradingKernel.ReplayRun
import TradingKernel.SpscRingBuffer

/-!
The asynchronous side channel of a replay. The replay thread pushes every
emitted event and then sets `sink_done`; the sink thread drains the queue until
it has seen `sink_done` and, after that, an empty queue. A schedule interleaves
the atomic steps of both threads.
-/

namespace TradingKernel.AsyncSink
open Library ReplayRunner ReplayRun
open SpscRingBuffer (Outcome stepProducer stepConsumer)

def queueCapacity : Nat := 1024

/-- Where the sink thread stands. `empty()` loads both indices, in either order. -/
inductive SinkThread where
  | testDone
  | testEmpty
  | loadedHead (head : Fin (queueCapacity + 1))
  | loadedTail (tail : Fin (queueCapacity + 1))
  | popping
  | consuming (event : TradeEvent)
  | exited
  deriving DecidableEq

/-- The two threads: `pending` are the events the replay thread still has to push. -/
structure State where
  queue : SpscRingBuffer.State TradeEvent queueCapacity
  pending : List TradeEvent
  sinkDone : Bool
  sink : SinkThread
  persistedEvents : Nat
  sinkFailed : Bool

/-- What a step tells an observer: a finished push, or a finished consume. -/
inductive Observation where
  | running
  | offered (event : TradeEvent) (taken : Bool)
  | consumed (event : TradeEvent) (persisted : Bool)

/-- The choice decides what the sink thread leaves open: which index `empty()`
loads first, and what `consume` returns. -/
inductive Turn where
  | replay
  | sink (choice : Bool)

def blankEvent : TradeEvent := ⟨0, 0, 0, .fill, .buy, .none⟩

def start (events : List TradeEvent) : State where
  queue := SpscRingBuffer.create queueCapacity blankEvent
  pending := events
  sinkDone := false
  sink := .testDone
  persistedEvents := 0
  sinkFailed := false

/-- One step of the replay thread; with nothing left to push it sets `sink_done`. -/
def stepReplay (s : State) : Observation × State :=
  match s.pending with
  | [] => (.running, { s with sinkDone := true })
  | event :: rest =>
    let (outcome, queue) := stepProducer event s.queue
    match outcome with
    | .pushed _ => (.offered event true, { s with queue := queue, pending := rest })
    | .pushFailed _ => (.offered event false, { s with queue := queue, pending := rest })
    | _ => (.running, { s with queue := queue })

def stepSink (choice : Bool) (s : State) : Observation × State :=
  match s.sink with
  | .testDone => (.running, { s with sink := if s.sinkDone then .testEmpty else .popping })
  | .testEmpty =>
    (.running, { s with
      sink := if choice then .loadedHead s.queue.ring.head else .loadedTail s.queue.ring.tail })
  | .loadedHead head =>
    (.running, { s with sink := if head = s.queue.ring.tail then .exited else .popping })
  | .loadedTail tail =>
    (.running, { s with sink := if s.queue.ring.head = tail then .exited else .popping })
  | .popping =>
    let (outcome, queue) := stepConsumer s.queue
    match outcome with
    | .popped event => (.running, { s with queue := queue, sink := .consuming event })
    | .popFailed => (.running, { s with queue := queue, sink := .testDone })
    | _ => (.running, { s with queue := queue })
  | .consuming event =>
    (.consumed event choice, { s with
      sink := .testDone
      persistedEvents := if choice then s.persistedEvents + 1 else s.persistedEvents
      sinkFailed := s.sinkFailed || !choice })
  | .exited => (.running, s)

def machine : Machine State Turn Observation where
  step s
    | .replay => stepReplay s
    | .sink choice => stepSink choice s

def offer : Observation → Option (TradeEvent × Bool)
  | .offered event taken => some (event, taken)
  | _ => none

def consumption : Observation → Option (TradeEvent × Bool)
  | .consumed event persisted => some (event, persisted)
  | _ => none

def offersOf (past : List (Turn × Observation)) : List (TradeEvent × Bool) :=
  past.filterMap fun step => offer step.2

/-- The consumed events with the sink's answers, in order. -/
def consumedOf (past : List (Turn × Observation)) : List (TradeEvent × Bool) :=
  past.filterMap fun step => consumption step.2

def taken (offers : List (TradeEvent × Bool)) : List TradeEvent :=
  (offers.filter Prod.snd).map Prod.fst

/-- The event popped but not consumed yet. -/
def SinkThread.held : SinkThread → List TradeEvent
  | .consuming event => [event]
  | _ => []

/-- What the sink thread knows on its way out of the loop. -/
def Leaving (s : State) : SinkThread → Prop
  | .testEmpty => s.sinkDone = true
  | .loadedHead head => s.sinkDone = true ∧ head = s.queue.ring.head
  | .loadedTail tail => s.sinkDone = true ∧ tail = s.queue.ring.tail
  | .exited => s.sinkDone = true ∧ s.queue.ring.head = s.queue.ring.tail
  | _ => True

structure Inv (events : List TradeEvent) (offers consumed : List (TradeEvent × Bool))
    (s : State) : Prop where
  fifo : SpscRingBuffer.Inv (taken offers) (consumed.map Prod.fst ++ s.sink.held) s.queue
  offered : offers.map Prod.fst ++ s.pending = events
  pushing : s.queue.producer.pushing = none ∨ s.queue.producer.pushing = s.pending.head?
  done : s.sinkDone = true → s.pending = []
  leaving : Leaving s s.sink
  persisted : s.persistedEvents = (consumed.map Prod.snd).count true
  failed : s.sinkFailed = true ↔ false ∈ consumed.map Prod.snd

theorem start_inv (events : List TradeEvent) : Inv events [] [] (start events) :=
  ⟨SpscRingBuffer.create_inv blankEvent, rfl, .inl rfl, by simp [start], trivial, rfl,
    by simp [start]⟩

theorem taken_snoc (offers : List (TradeEvent × Bool)) (event : TradeEvent) (result : Bool) :
    taken (offers ++ [(event, result)]) = taken offers ++ if result then [event] else [] := by
  cases result <;> simp [taken]

section Steps
variable {events : List TradeEvent} {offers consumed : List (TradeEvent × Bool)} {s : State}

/-- Once `sink_done` is set, a turn of the replay thread changes nothing. -/
theorem stepReplay_finished (finished : s.pending = []) :
    stepReplay s = (.running, { s with sinkDone := true }) := by
  simp [stepReplay, finished]

theorem queue_fits : queueCapacity + 1 < 2 ^ 64 := by decide

/-- What the sink thread knows is not touched by a push. -/
theorem leaving_push {next : State} (inv : Inv events offers consumed s) {event : TradeEvent}
    {rest : List TradeEvent} (pending : s.pending = event :: rest) (same : next.sink = s.sink) :
    Leaving next next.sink := by
  have notDone : s.sinkDone ≠ true := by
    intro done
    rw [inv.done done] at pending
    simp at pending
  have leaving := inv.leaving
  rw [same]
  cases stands : s.sink <;> rw [stands] at leaving
  · trivial
  · exact absurd leaving notDone
  · exact absurd leaving.1 notDone
  · exact absurd leaving.1 notDone
  · trivial
  · trivial
  · exact absurd leaving.1 notDone

theorem stepReplay_inv (inv : Inv events offers consumed s) :
    Inv events (offers ++ (offer (stepReplay s).1).toList)
      (consumed ++ (consumption (stepReplay s).1).toList) (stepReplay s).2 := by
  cases pending : s.pending with
  | nil =>
    have leaving : Leaving { s with sinkDone := true } s.sink := by
      have held := inv.leaving
      cases stands : s.sink <;> rw [stands] at held
      · trivial
      · rfl
      · exact ⟨rfl, held.2⟩
      · exact ⟨rfl, held.2⟩
      · trivial
      · trivial
      · exact ⟨rfl, held.2⟩
    simp only [stepReplay_finished pending, offer, consumption, Option.toList_none, List.append_nil]
    exact ⟨inv.fifo, inv.offered, inv.pushing, fun _ => pending, leaving, inv.persisted,
      inv.failed⟩
  | cons event rest =>
    have step := SpscRingBuffer.stepProducer_inv inv.fifo queue_fits event
    have offering := inv.pushing
    have offered := inv.offered
    rw [pending, List.head?_cons] at offering
    rw [pending] at offered
    have notDone : s.sinkDone = true → rest = [] := by
      intro done
      rw [inv.done done] at pending
      simp at pending
    rcases SpscRingBuffer.stepProducer_cases offering with
      ⟨running, pushing⟩ | ⟨idle, taken | refused⟩
    · rw [running] at step
      simp only [stepReplay, pending, running, offer, consumption, Option.toList_none,
        List.append_nil]
      refine ⟨by simpa [Outcome.pushedValue] using step, ?_, .inr ?_, ?_, ?_, inv.persisted,
        inv.failed⟩
      · exact offered
      · exact pushing
      · exact fun done => by simpa [pending] using inv.done done
      · exact leaving_push inv pending rfl
    · rw [taken] at step
      simp only [stepReplay, pending, taken, offer, consumption, Option.toList_none,
        Option.toList_some, List.append_nil]
      refine ⟨?_, ?_, .inl idle, notDone, leaving_push inv pending rfl, inv.persisted,
        inv.failed⟩
      · rw [taken_snoc]
        exact step
      · simpa using offered
    · rw [refused] at step
      simp only [stepReplay, pending, refused, offer, consumption, Option.toList_none,
        Option.toList_some, List.append_nil]
      refine ⟨?_, ?_, .inl idle, notDone, leaving_push inv pending rfl, inv.persisted,
        inv.failed⟩
      · rw [taken_snoc]
        exact step
      · simpa using offered

/-- A step of the sink thread outside `try_pop` and `consume` only moves that thread. -/
theorem Inv.moveSink (inv : Inv events offers consumed s) {sink : SinkThread}
    (held : sink.held = s.sink.held) (leaving : Leaving s sink) :
    Inv events offers consumed { s with sink := sink } := by
  refine ⟨?_, inv.offered, inv.pushing, inv.done, ?_, inv.persisted, inv.failed⟩
  · simp only [held]
    exact inv.fifo
  · cases sink <;> exact leaving

/-- A step of `try_pop` leaves the thread with what it has popped so far. -/
theorem Inv.popSink (inv : Inv events offers consumed s) (stands : s.sink = .popping)
    {sink : SinkThread} (held : sink.held = (stepConsumer s.queue).1.poppedValue.toList)
    (leaving : Leaving { s with queue := (stepConsumer s.queue).2, sink := sink } sink) :
    Inv events offers consumed { s with queue := (stepConsumer s.queue).2, sink := sink } := by
  have fifo := inv.fifo
  rw [stands] at fifo
  have step := SpscRingBuffer.stepConsumer_inv fifo queue_fits
  have pushing := (SpscRingBuffer.stepConsumer_keeps s.queue).2
  refine ⟨?_, inv.offered, ?_, inv.done, leaving, inv.persisted, inv.failed⟩
  · rw [held]
    rwa [show SinkThread.popping.held = [] from rfl, List.append_nil] at step
  · simpa only [pushing] using inv.pushing

theorem stepSink_inv (inv : Inv events offers consumed s) (choice : Bool) :
    Inv events (offers ++ (offer (stepSink choice s).1).toList)
      (consumed ++ (consumption (stepSink choice s).1).toList) (stepSink choice s).2 := by
  have leaving := inv.leaving
  cases stands : s.sink with
  | testDone =>
    simp only [stepSink, stands, offer, consumption, Option.toList_none, List.append_nil]
    split_ifs with done
    · exact inv.moveSink (by rw [stands]; rfl) done
    · exact inv.moveSink (by rw [stands]; rfl) trivial
  | testEmpty =>
    rw [stands] at leaving
    simp only [stepSink, stands, offer, consumption, Option.toList_none, List.append_nil]
    cases choice with
    | true => exact inv.moveSink (by rw [stands]; rfl) ⟨leaving, rfl⟩
    | false => exact inv.moveSink (by rw [stands]; rfl) ⟨leaving, rfl⟩
  | loadedHead head =>
    rw [stands] at leaving
    simp only [stepSink, stands, offer, consumption, Option.toList_none, List.append_nil]
    split_ifs with empty
    · exact inv.moveSink (by rw [stands]; rfl) ⟨leaving.1, leaving.2.symm.trans empty⟩
    · exact inv.moveSink (by rw [stands]; rfl) trivial
  | loadedTail tail =>
    rw [stands] at leaving
    simp only [stepSink, stands, offer, consumption, Option.toList_none, List.append_nil]
    split_ifs with empty
    · exact inv.moveSink (by rw [stands]; rfl) ⟨leaving.1, empty.trans leaving.2⟩
    · exact inv.moveSink (by rw [stands]; rfl) trivial
  | popping =>
    cases outcome : (stepConsumer s.queue).1 with
    | popped event =>
      simp only [stepSink, stands, outcome, offer, consumption, Option.toList_none, List.append_nil]
      exact inv.popSink stands (by rw [outcome]; rfl) trivial
    | popFailed =>
      simp only [stepSink, stands, outcome, offer, consumption, Option.toList_none, List.append_nil]
      exact inv.popSink stands (by rw [outcome]; rfl) trivial
    | running =>
      simp only [stepSink, stands, outcome, offer, consumption, Option.toList_none, List.append_nil]
      exact inv.popSink stands (by rw [outcome]; rfl) trivial
    | pushed event =>
      simp only [stepSink, stands, outcome, offer, consumption, Option.toList_none, List.append_nil]
      exact inv.popSink stands (by rw [outcome]; rfl) trivial
    | pushFailed event =>
      simp only [stepSink, stands, outcome, offer, consumption, Option.toList_none, List.append_nil]
      exact inv.popSink stands (by rw [outcome]; rfl) trivial
  | consuming event =>
    have fifo := inv.fifo
    rw [stands] at fifo
    simp only [stepSink, stands, offer, consumption, Option.toList_none, Option.toList_some,
      List.append_nil]
    refine ⟨?_, inv.offered, inv.pushing, inv.done, trivial, ?_, ?_⟩
    · simpa [SinkThread.held] using fifo
    · cases choice <;> simp [inv.persisted, List.count_append]
    · cases choice <;> simp [inv.failed]
  | exited =>
    simp only [stepSink, stands, offer, consumption, Option.toList_none, List.append_nil]
    exact inv

end Steps

theorem offersOf_snoc (past : List (Turn × Observation)) (turn : Turn)
    (observation : Observation) :
    offersOf (past ++ [(turn, observation)]) = offersOf past ++ (offer observation).toList := by
  cases observation <;> simp [offersOf, offer]

theorem consumedOf_snoc (past : List (Turn × Observation)) (turn : Turn)
    (observation : Observation) :
    consumedOf (past ++ [(turn, observation)]) =
      consumedOf past ++ (consumption observation).toList := by
  cases observation <;> simp [consumedOf, consumption]

theorem run_inv (events : List TradeEvent) (schedule : List Turn) :
    Inv events (offersOf (machine.history (start events) schedule))
      (consumedOf (machine.history (start events) schedule))
      (machine.run (start events) schedule) := by
  refine machine.history_induction (fun _ => True)
    (motive := fun past s => Inv events (offersOf past) (consumedOf past) s) (start_inv events) ?_
    schedule (fun _ _ => trivial)
  intro past s turn inv _
  rw [offersOf_snoc, consumedOf_snoc]
  cases turn with
  | replay => exact stepReplay_inv inv
  | sink choice => exact stepSink_inv inv choice

/-- A sink thread that has left its loop has consumed everything the queue took. -/
theorem Inv.drained {events : List TradeEvent} {offers consumed : List (TradeEvent × Bool)}
    {s : State} (inv : Inv events offers consumed s) (exited : s.sink = .exited) :
    offers.map Prod.fst = events ∧ consumed.map Prod.fst = taken offers := by
  have leaving := inv.leaving
  have fifo := inv.fifo
  have offered := inv.offered
  rw [exited] at leaving fifo
  rw [inv.done leaving.1, List.append_nil] at offered
  simp only [SinkThread.held, List.append_nil] at fifo
  refine ⟨offered, ?_⟩
  have empty := leaving.2
  rw [fifo.head, fifo.tail] at empty
  exact fifo.order.eq_of_length (fifo.window.empty_iff.1 empty.symm)

/-- What the replay thread observed: the queue's answer to the n-th event. -/
def observed (env : ReplayEnv) (offers : List (TradeEvent × Bool)) : ReplayEnv :=
  { env with push := fun index => (offers.map Prod.snd).getD index false }

/-- An asynchronous result `r` beside the result `sync` of a synchronous run that
emitted `syncEvents`. -/
structure SideChannel (offers consumed : List (TradeEvent × Bool)) (syncEvents : List TradeEvent)
    (s : ReplayState) (r sync : ReplayResult) : Prop where
  offered : offers.map Prod.fst = s.record.events
  drained : consumed.map Prod.fst = taken offers
  balance : r.counters.acceptedEvents = consumed.length + r.counters.droppedEvents
  persisted : r.counters.persistedEvents = (consumed.map Prod.snd).count true
  failed : r.sinkFailed = true ↔ false ∈ consumed.map Prod.snd
  lossless : r.counters.droppedEvents = 0 → consumed.map Prod.fst = syncEvents
  position : r.position = sync.position
  pnl : r.pnl = sync.pnl
  order : r.order = sync.order
  executionStats : r.executionStats = sync.executionStats
  counters : { r.counters with persistedEvents := 0, droppedEvents := 0 } =
    { sync.counters with persistedEvents := 0, droppedEvents := 0 }

theorem answers_read (answers : List Bool) :
    (List.range' 0 answers.length).map (fun index => answers.getD index false) = answers := by
  apply List.ext_getElem
  · simp
  · intro index _ below
    simp [below]

theorem taken_length (offers : List (TradeEvent × Bool)) :
    offers.length = (taken offers).length + (offers.map Prod.snd).count false := by
  induction offers with
  | nil => rfl
  | cons first rest ih =>
    obtain ⟨event, result⟩ := first
    cases result with
    | true =>
      simp only [taken, List.filter_cons, if_true, List.map_cons, List.length_cons] at ih ⊢
      simp only [List.count_cons, ih]
      simp [Nat.add_right_comm]
    | false =>
      simp only [taken, List.filter_cons, List.map_cons, List.length_cons] at ih ⊢
      simp only [List.count_cons, ih]
      simp [Nat.add_assoc]

theorem taken_all {offers : List (TradeEvent × Bool)}
    (none : (offers.map Prod.snd).count false = 0) : taken offers = offers.map Prod.fst := by
  have all : ∀ offered ∈ offers, offered.2 = true := by
    intro offered member
    rw [List.count_eq_zero] at none
    by_contra refused
    exact none (List.mem_map.2 ⟨offered, member, by simpa using refused⟩)
  rw [taken, List.filter_eq_self.2 all]

/-- Whatever the schedule and the sink's answers, a sink thread that has exited
has consumed exactly the events the queue took, and the run's results are those
of the synchronous run. -/
theorem run_sideChannel (env syncEnv : ReplayEnv) (config : ReplayConfig)
    (async : config.sinkMode = .async) (ticks : List MarketTick) (some : ticks ≠ [])
    (oneSymbol : ticks.Pairwise (fun earlier later => earlier.symbolId = later.symbolId))
    (schedule : List Turn) :
    let events := (stateAfter env config ticks.length ticks).record.events
    let past := machine.history (start events) schedule
    let final := machine.run (start events) schedule
    final.sink = .exited →
      ∃ s t sync,
        replayTicks (observed env (offersOf past)) config ticks = .ok s ∧
        replayTicks syncEnv { config with sinkMode := .sync } ticks = .ok t ∧
        runReplay syncEnv { config with sinkMode := .sync } ticks = .ok sync ∧
        SideChannel (offersOf past) (consumedOf past) t.record.events s
          (result s final.persistedEvents final.sinkFailed) sync := by
  intro events past final exited
  obtain ⟨objects, emitted, counts, accepted⟩ := stateAfter_independent env
    (observed env (offersOf past)) config config.sinkMode ticks.length ticks.length ticks
  obtain ⟨syncObjects, syncEmitted, syncCounts, syncAccepted⟩ := stateAfter_independent env
    syncEnv config .sync ticks.length ticks.length ticks
  have inv := run_inv events schedule
  obtain ⟨offered, drained⟩ := inv.drained exited
  have length : (offersOf past).length = events.length := by
    rw [← offered, List.length_map]
  have dropped : (stateAfter (observed env (offersOf past)) config ticks.length
      ticks).record.counters.droppedEvents = ((offersOf past).map Prod.snd).count false := by
    have count : events.length = ((offersOf past).map Prod.snd).length := by
      rw [List.length_map, length]
    rw [stateAfter_dropped _ async, emitted, count]
    exact congrArg (List.count false) (answers_read _)
  have whole := taken_length (offersOf past)
  refine ⟨_, _, _, replayTicks_run (observed env (offersOf past)) config some oneSymbol,
    replayTicks_run syncEnv _ some oneSymbol, runReplay_run syncEnv _ some oneSymbol, ?_⟩
  constructor
  · exact offered.trans emitted.symm
  · exact drained
  · simp only [result, accepted, stateAfter_accepted, dropped]
    rw [← List.length_map Prod.fst, drained, ← whole, length]
  · exact inv.persisted
  · exact inv.failed
  · intro none
    simp only [result, dropped] at none
    rw [drained, taken_all none, offered, syncEmitted]
  · simp only [result, objects, syncObjects]
  · simp only [result, objects, syncObjects]
  · simp only [result, objects, syncObjects]
  · simp only [result, objects, syncObjects]
  · exact counters_ext (fun counter => (counts counter).trans (syncCounts counter).symm)
      (accepted.trans syncAccepted.symm) 0 0

/-- The threads take turns, and the sink's answers change. -/
def interleaved : List Turn :=
  (List.replicate 13 [.replay, .sink true, .replay, .sink true, .sink false, .sink true,
    .sink false]).flatten

/-- A submission, an order traded in part and the next submission. -/
theorem run_sideChannel_interleaved :
    let ticks : List MarketTick :=
      [⟨1000, 1000, 99500, 99900, 1, 50, 1⟩, ⟨1200, 1200, 99500, 99900, 1, 50, 1⟩]
    let events := (stateAfter quietEnv ⟨.async, .aggressive, 3000⟩ 2 ticks).record.events
    let past := machine.history (start events) interleaved
    let final := machine.run (start events) interleaved
    ∃ s t sync,
      replayTicks (observed quietEnv (offersOf past)) ⟨.async, .aggressive, 3000⟩ ticks = .ok s ∧
      replayTicks quietEnv ⟨.sync, .aggressive, 3000⟩ ticks = .ok t ∧
      runReplay quietEnv ⟨.sync, .aggressive, 3000⟩ ticks = .ok sync ∧
      SideChannel (offersOf past) (consumedOf past) t.record.events s
        (result s final.persistedEvents final.sinkFailed) sync :=
  run_sideChannel quietEnv quietEnv ⟨.async, .aggressive, 3000⟩ rfl
    [⟨1000, 1000, 99500, 99900, 1, 50, 1⟩, ⟨1200, 1200, 99500, 99900, 1, 50, 1⟩] (by decide)
    (by decide) interleaved (by decide +kernel)

end TradingKernel.AsyncSink
