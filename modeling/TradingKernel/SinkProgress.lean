import TradingKernel.AsyncSink

/-!
Why an asynchronous replay ends. A push never waits, so the replay thread
finishes within a fixed number of its own turns whatever the sink thread does;
and once `sink_done` is set every turn of the sink thread uses up some of its
remaining work, so that the join of the two threads always returns.
-/

namespace TradingKernel.SinkProgress
open Library ReplayRunner AsyncSink
open SpscRingBuffer (Outcome Producer stepProducer stepConsumer)

def isReplay : Turn → Bool
  | .replay => true
  | .sink _ => false

def isSink (turn : Turn) : Bool := !isReplay turn

/-- The events in the queue, read off its two indices. -/
def queued (s : State) : Nat := distance s.queue.ring.tail s.queue.ring.head

def progress : Producer TradeEvent queueCapacity → Nat
  | .idle => 0
  | .loadedHead _ _ => 1
  | .ready _ _ => 2
  | .written _ _ => 3

/-- The turns the replay thread still needs: four for each event, one to set `sink_done`. -/
def replayWork (s : State) : Nat :=
  4 * s.pending.length - progress s.queue.producer + if s.sinkDone then 0 else 1

/-- The turns the sink thread still needs after `sink_done`: eight for each
queued event, and those of the iteration it is in. -/
def sinkWork (s : State) : Nat :=
  match s.sink with
  | .exited => 0
  | .loadedHead _ => 8 * queued s + 1
  | .loadedTail _ => 8 * queued s + 1
  | .testEmpty => 8 * queued s + 2
  | .testDone => 8 * queued s + 3
  | .consuming _ => 8 * queued s + 4
  | .popping =>
    match s.queue.consumer with
    | .idle => if queued s = 0 then 5 else 8 * queued s
    | .loadedTail _ => if queued s = 0 then 4 else 8 * queued s - 1
    | .ready _ => 8 * queued s - 2
    | .read _ _ => 8 * queued s - 3

structure Reached (events : List TradeEvent) (s : State) : Prop where
  inv : ∃ offers consumed, Inv events offers consumed s
  idle : s.sink ≠ .popping → s.queue.consumer = .idle

theorem start_reached (events : List TradeEvent) : Reached events (start events) :=
  ⟨⟨[], [], start_inv events⟩, fun _ => rfl⟩

/-- A turn of the replay thread sets `sink_done`, goes on with a push or ends one. -/
inductive Replays (s : State) : State → Prop where
  | done : s.pending = [] → Replays s { s with sinkDone := true }
  | loads {event : TradeEvent} {rest : List TradeEvent} : s.pending = event :: rest →
      s.queue.producer = .idle →
      Replays s { s with queue := { s.queue with producer := .loadedHead event s.queue.ring.head } }
  | refused {event value : TradeEvent} {rest : List TradeEvent} {head : Fin (queueCapacity + 1)} :
      s.pending = event :: rest → s.queue.producer = .loadedHead value head →
      SpscRingBuffer.increment head = s.queue.ring.tail →
      Replays s { s with queue := { s.queue with producer := .idle }, pending := rest }
  | ready {event value : TradeEvent} {rest : List TradeEvent} {head : Fin (queueCapacity + 1)} :
      s.pending = event :: rest → s.queue.producer = .loadedHead value head →
      Replays s { s with queue := { s.queue with producer := .ready value head } }
  | writes {event value : TradeEvent} {rest : List TradeEvent} {head : Fin (queueCapacity + 1)}
      {buffer : Vector TradeEvent (queueCapacity + 1)} : s.pending = event :: rest →
      s.queue.producer = .ready value head →
      Replays s { s with queue := { s.queue with
        ring := { s.queue.ring with buffer := buffer }
        producer := .written value head } }
  | pushed {event value : TradeEvent} {rest : List TradeEvent} {head : Fin (queueCapacity + 1)} :
      s.pending = event :: rest → s.queue.producer = .written value head →
      Replays s { s with
        queue := { s.queue with
          ring := { s.queue.ring with head := SpscRingBuffer.increment head }
          producer := .idle }
        pending := rest }

theorem stepReplay_replays (s : State) : Replays s (stepReplay s).2 := by
  cases pending : s.pending with
  | nil =>
    rw [stepReplay_finished pending]
    exact .done pending
  | cons event rest =>
    cases stands : s.queue.producer with
    | idle =>
      simp only [stepReplay, pending, stepProducer, stands]
      rw [← pending]
      exact .loads pending stands
    | loadedHead value head =>
      by_cases full : SpscRingBuffer.increment head = s.queue.ring.tail
      · simp only [stepReplay, pending, stepProducer, stands, if_pos full]
        exact .refused pending stands full
      · simp only [stepReplay, pending, stepProducer, stands, if_neg full]
        rw [← pending]
        exact .ready pending stands
    | ready value head =>
      simp only [stepReplay, pending, stepProducer, stands]
      rw [← pending]
      exact .writes pending stands
    | written value head =>
      simp only [stepReplay, pending, stepProducer, stands]
      exact .pushed pending stands

section Steps
variable {events : List TradeEvent} {s next : State}

theorem Replays.sink (replays : Replays s next) :
    next.sink = s.sink ∧ next.queue.consumer = s.queue.consumer := by
  cases replays <;> exact ⟨rfl, rfl⟩

theorem inv_queued {offers consumed : List (TradeEvent × Bool)}
    (inv : Inv events offers consumed s) :
    queued s = (taken offers).length - (consumed.map Prod.fst ++ s.sink.held).length := by
  rw [queued, inv.fifo.head, inv.fifo.tail, inv.fifo.window.distance_slot]

theorem Reached.replay (reached : Reached events s) : Reached events (stepReplay s).2 := by
  obtain ⟨⟨offers, consumed, inv⟩, idle⟩ := reached
  obtain ⟨sink, consumer⟩ := (stepReplay_replays s).sink
  refine ⟨⟨_, _, stepReplay_inv inv⟩, ?_⟩
  rw [sink, consumer]
  exact idle

/-- No turn of the replay thread is wasted while it has work. -/
theorem Reached.replayWork (reached : Reached events s) :
    replayWork (stepReplay s).2 ≤ replayWork s - 1 := by
  obtain ⟨⟨offers, consumed, inv⟩, _⟩ := reached
  have replays := stepReplay_replays s
  generalize (stepReplay s).2 = next at replays
  have pushing := inv.pushing
  cases replays with
  | done finished =>
    rw [finished] at pushing
    have idle : s.queue.producer = .idle := by
      cases stands : s.queue.producer <;> simp [stands, Producer.pushing] at pushing ⊢
    simp [SinkProgress.replayWork, finished, idle, progress]
  | loads pending stands =>
    simp only [SinkProgress.replayWork, pending, stands, progress, List.length_cons]
    omega
  | refused pending stands full =>
    simp only [SinkProgress.replayWork, pending, stands, progress, List.length_cons]
    omega
  | ready pending stands =>
    simp only [SinkProgress.replayWork, pending, stands, progress, List.length_cons]
    omega
  | writes pending stands =>
    simp only [SinkProgress.replayWork, pending, stands, progress, List.length_cons]
    omega
  | pushed pending stands =>
    simp only [SinkProgress.replayWork, pending, stands, progress, List.length_cons]
    omega

theorem Reached.sink (reached : Reached events s) (choice : Bool) :
    Reached events (stepSink choice s).2 := by
  obtain ⟨⟨offers, consumed, inv⟩, idle⟩ := reached
  refine ⟨⟨_, _, stepSink_inv inv choice⟩, ?_⟩
  cases stands : s.sink with
  | popping =>
    intro left
    cases consumer : s.queue.consumer with
    | idle => simp [stepSink, stands, stepConsumer, consumer] at left
    | loadedTail tail =>
      by_cases empty : tail = s.queue.ring.head
      · simp [stepSink, stands, stepConsumer, consumer, empty]
      · simp [stepSink, stands, stepConsumer, consumer, empty] at left
    | ready tail => simp [stepSink, stands, stepConsumer, consumer] at left
    | read value tail => simp [stepSink, stands, stepConsumer, consumer]
  | testDone | testEmpty | loadedHead | loadedTail | consuming | exited =>
    intro _
    simp only [stepSink, stands]
    exact idle (by simp [stands])

theorem queued_eq_zero {offers consumed : List (TradeEvent × Bool)}
    (inv : Inv events offers consumed s) :
    queued s = 0 ↔ s.queue.ring.tail = s.queue.ring.head := by
  have window := inv.fifo.window
  have ordered := window.ordered
  rw [inv_queued inv, inv.fifo.head, inv.fifo.tail, window.empty_iff]
  omega

/-- A turn spent in `try_pop` uses up work: it finds the queue empty, or it goes
on with taking an event out of it. -/
theorem popping_sinkWork {offers consumed : List (TradeEvent × Bool)}
    (inv : Inv events offers consumed s) (stands : s.sink = .popping) (choice : Bool) :
    sinkWork (stepSink choice s).2 ≤ sinkWork s - 1 := by
  have nonempty := queued_eq_zero inv
  have held := inv.fifo.consumer
  have length := inv_queued inv
  have nextLength := inv_queued (stepSink_inv inv choice)
  cases consumer : s.queue.consumer with
  | idle =>
    simp only [sinkWork, stepSink, stands, stepConsumer, consumer]
    change (if queued s = 0 then 4 else 8 * queued s - 1) ≤ _
    split_ifs <;> omega
  | loadedTail tail =>
    rw [consumer] at held
    by_cases empty : tail = s.queue.ring.head
    · have zero : queued s = 0 := nonempty.2 (Eq.trans held.symm empty)
      simp only [sinkWork, stepSink, stands, stepConsumer, consumer, if_pos empty]
      change 8 * queued s + 3 ≤ _
      rw [zero, if_pos rfl]
    · have some : queued s ≠ 0 := fun zero => empty (Eq.trans held (nonempty.1 zero))
      simp only [sinkWork, stepSink, stands, stepConsumer, consumer, if_neg empty]
      change 8 * queued s - 2 ≤ _
      rw [if_neg some]
      omega
  | ready tail =>
    simp only [sinkWork, stepSink, stands, stepConsumer, consumer]
    change 8 * queued s - 3 ≤ _
    omega
  | read value tail =>
    rw [consumer] at held
    obtain ⟨below, _⟩ := List.getElem?_eq_some_iff.1 held.2
    have left : queued (stepSink choice s).2 = queued s - 1 := by
      rw [nextLength, length]
      simp [stepSink, stands, stepConsumer, consumer, offer, consumption, SinkThread.held]
      omega
    have lands : (stepSink choice s).2.sink = .consuming value := by
      simp [stepSink, stands, stepConsumer, consumer]
    simp only [sinkWork, lands, left, stands, consumer]
    omega

/-- After `sink_done`, every turn of the sink thread brings it closer to its exit. -/
theorem Reached.sinkWork (reached : Reached events s) (done : s.sinkDone = true) (choice : Bool) :
    sinkWork (stepSink choice s).2 ≤ sinkWork s - 1 := by
  obtain ⟨⟨offers, consumed, inv⟩, idle⟩ := reached
  have nonempty := queued_eq_zero inv
  have leaving := inv.leaving
  cases stands : s.sink with
  | testDone => simp [SinkProgress.sinkWork, stepSink, stands, done, queued]
  | testEmpty => cases choice <;> simp [SinkProgress.sinkWork, stepSink, stands, queued]
  | loadedHead head =>
    rw [stands] at leaving
    by_cases empty : head = s.queue.ring.tail
    · simp [SinkProgress.sinkWork, stepSink, stands, empty]
    · have some : queued s ≠ 0 := fun zero => empty (leaving.2.trans (nonempty.1 zero).symm)
      have consumer := idle (by simp [stands])
      simp only [SinkProgress.sinkWork, stepSink, stands, if_neg empty, consumer]
      change (if queued s = 0 then 5 else 8 * queued s) ≤ _
      rw [if_neg some]
      omega
  | loadedTail tail =>
    rw [stands] at leaving
    by_cases empty : s.queue.ring.head = tail
    · simp [SinkProgress.sinkWork, stepSink, stands, empty]
    · have some : queued s ≠ 0 := fun zero => empty ((nonempty.1 zero).symm.trans leaving.2.symm)
      have consumer := idle (by simp [stands])
      simp only [SinkProgress.sinkWork, stepSink, stands, if_neg empty, consumer]
      change (if queued s = 0 then 5 else 8 * queued s) ≤ _
      rw [if_neg some]
      omega
  | popping => exact popping_sinkWork inv stands choice
  | consuming event => simp [SinkProgress.sinkWork, stepSink, stands, queued]
  | exited => simp [SinkProgress.sinkWork, stepSink, stands]

/-- The sink thread leaves the replay thread's own data alone. -/
theorem stepSink_replay (s : State) (choice : Bool) :
    (stepSink choice s).2.pending = s.pending ∧
      (stepSink choice s).2.sinkDone = s.sinkDone ∧
      (stepSink choice s).2.queue.producer = s.queue.producer := by
  cases stands : s.sink with
  | popping =>
    have kept := (SpscRingBuffer.stepConsumer_keeps s.queue).2
    cases outcome : (stepConsumer s.queue).1 with
    | running | pushed | pushFailed | popped | popFailed =>
      simp only [stepSink, stands, outcome, kept, and_self]
  | testDone | testEmpty | loadedHead | loadedTail | consuming | exited =>
    rw [stepSink, stands]
    exact ⟨rfl, rfl, rfl⟩

theorem queued_le (s : State) : queued s ≤ queueCapacity :=
  Nat.le_of_lt_succ (Nat.mod_lt _ (Nat.succ_pos queueCapacity))

theorem sinkWork_le (s : State) : sinkWork s ≤ 8 * queueCapacity + 5 := by
  have length := queued_le s
  cases stands : s.sink with
  | popping =>
    cases consumer : s.queue.consumer <;> simp only [sinkWork, stands, consumer] <;>
      (try split_ifs) <;> omega
  | testDone | testEmpty | loadedHead | loadedTail | consuming | exited =>
    simp only [sinkWork, stands]
    omega

/-- A sink thread without work left has exited. -/
theorem Reached.exited (reached : Reached events s) (spent : SinkProgress.sinkWork s = 0) :
    s.sink = .exited := by
  obtain ⟨⟨offers, consumed, inv⟩, _⟩ := reached
  have length := inv_queued inv
  cases stands : s.sink with
  | popping =>
    have held := inv.fifo.consumer
    rw [stands] at held length
    cases consumer : s.queue.consumer with
    | idle =>
      simp only [SinkProgress.sinkWork, stands, consumer] at spent
      split_ifs at spent
      omega
    | loadedTail tail =>
      simp only [SinkProgress.sinkWork, stands, consumer] at spent
      split_ifs at spent
      omega
    | ready tail =>
      rw [consumer] at held
      have some := held.2
      simp only [SinkProgress.sinkWork, stands, consumer] at spent
      omega
    | read value tail =>
      rw [consumer] at held
      obtain ⟨some, _⟩ := List.getElem?_eq_some_iff.1 held.2
      simp only [SinkProgress.sinkWork, stands, consumer] at spent
      omega
  | exited => rfl
  | testDone | testEmpty | loadedHead | loadedTail | consuming =>
    simp only [SinkProgress.sinkWork, stands] at spent
    omega

end Steps

theorem step_reached {events : List TradeEvent} (s : State) (turn : Turn)
    (reached : Reached events s) : Reached events (machine.step s turn).2 := by
  cases turn with
  | replay => exact reached.replay
  | sink choice => exact reached.sink choice

theorem run_reached (events : List TradeEvent) (schedule : List Turn) :
    Reached events (machine.run (start events) schedule) :=
  machine.run_invariant (Reached events) (fun _ => True) (start_reached events)
    (fun s turn reached _ => step_reached s turn reached) schedule (fun _ _ => trivial)

/-- Pushing is wait-free: the replay thread is done after a number of its own
turns that depends on its events alone. -/
theorem replay_finishes (events : List TradeEvent) (schedule : List Turn)
    (enough : 4 * events.length + 1 ≤ schedule.countP isReplay) :
    (machine.run (start events) schedule).sinkDone = true := by
  have work := machine.run_measure_le (Reached events) isReplay replayWork step_reached (by
    intro s turn reached
    cases turn with
    | replay => exact reached.replayWork
    | sink choice =>
      obtain ⟨pending, done, producer⟩ := stepSink_replay s choice
      simp only [machine, isReplay, replayWork, pending, done, producer]
      exact le_refl _) (start_reached events) schedule
  have initial : replayWork (start events) = 4 * events.length + 1 := rfl
  by_contra unfinished
  rw [initial, replayWork, if_neg unfinished] at work
  omega

/-- The sink thread leaves its loop once the replay thread is done and the sink
thread has had turns enough to empty a full queue. -/
theorem run_exits (events : List TradeEvent) (first second : List Turn)
    (pushing : 4 * events.length + 1 ≤ first.countP isReplay)
    (draining : 8 * queueCapacity + 5 ≤ second.countP isSink) :
    (machine.run (start events) (first ++ second)).sink = .exited := by
  have done := replay_finishes events first pushing
  have reached := run_reached events first
  have work := machine.run_measure_le (fun s => Reached events s ∧ s.sinkDone = true) isSink
    sinkWork (by
      rintro s turn ⟨reached, done⟩
      refine ⟨step_reached s turn reached, ?_⟩
      cases turn with
      | replay =>
        obtain ⟨offers, consumed, inv⟩ := reached.inv
        simp only [machine, stepReplay_finished (inv.done done)]
      | sink choice =>
        simp only [machine]
        rw [(stepSink_replay s choice).2.1]
        exact done) (by
      rintro s turn ⟨reached, done⟩
      cases turn with
      | replay =>
        obtain ⟨offers, consumed, inv⟩ := reached.inv
        simp only [machine, stepReplay_finished (inv.done done)]
        exact le_refl _
      | sink choice => exact reached.sinkWork done choice) ⟨reached, done⟩ second
  have bound := sinkWork_le (machine.run (start events) first)
  apply (run_reached events (first ++ second)).exited
  rw [Machine.run_append]
  omega

/-- The join of both threads returns. Whatever the schedule, as soon as the
replay thread has had four turns for each event and one more, and after that
the sink thread enough turns to empty a full queue, the sink thread has left
its loop and consumed exactly the events the queue took. -/
theorem sink_exits (events : List TradeEvent) (first second : List Turn)
    (pushing : 4 * events.length + 1 ≤ first.countP isReplay)
    (draining : 8 * queueCapacity + 5 ≤ second.countP isSink) :
    let past := machine.history (start events) (first ++ second)
    (machine.run (start events) first).sinkDone = true ∧
      (machine.run (start events) (first ++ second)).sink = .exited ∧
      (offersOf past).map Prod.fst = events ∧
      (consumedOf past).map Prod.fst = taken (offersOf past) := by
  intro past
  have exited := run_exits events first second pushing draining
  obtain ⟨offered, drained⟩ := (run_inv events (first ++ second)).drained exited
  exact ⟨replay_finishes events first pushing, exited, offered, drained⟩

/-- The rows of an order that is filled at once. -/
def filledRows : List TradeEvent :=
  [⟨1000, 0, 1, .omsTransition, .buy, .none⟩, ⟨1200, 1, 2, .omsTransition, .buy, .none⟩,
    ⟨1200, 2, 5, .omsTransition, .buy, .none⟩, ⟨1200, 99900, 50, .fill, .buy, .none⟩]

theorem sink_exits_filled :
    let second := List.replicate 8197 (Turn.sink true)
    let past := machine.history (start filledRows) (interleaved ++ second)
    (machine.run (start filledRows) interleaved).sinkDone = true ∧
      (machine.run (start filledRows) (interleaved ++ second)).sink = .exited ∧
      (offersOf past).map Prod.fst = filledRows ∧
      (consumedOf past).map Prod.fst = taken (offersOf past) :=
  sink_exits filledRows interleaved (List.replicate 8197 (.sink true)) (by decide)
    (List.countP_replicate.symm ▸ by decide)

section Drops
variable {events : List TradeEvent} {offers consumed : List (TradeEvent × Bool)} {s : State}

/-- A refused push has found the queue full. -/
theorem refused_full (inv : Inv events offers consumed s) {event : TradeEvent}
    (refused : (stepReplay s).1 = .offered event false) : queued s = queueCapacity := by
  cases pending : s.pending with
  | nil => simp [stepReplay_finished pending] at refused
  | cons first rest =>
    cases stands : s.queue.producer with
    | loadedHead value head =>
      by_cases full : SpscRingBuffer.increment head = s.queue.ring.tail
      · have lengths := (inv.fifo.pushFails queue_fits stands).1 full
        rw [inv_queued inv]
        omega
      · simp [stepReplay, pending, stepProducer, stands, full] at refused
    | idle => simp [stepReplay, pending, stepProducer, stands] at refused
    | ready value head => simp [stepReplay, pending, stepProducer, stands] at refused
    | written value head => simp [stepReplay, pending, stepProducer, stands] at refused

theorem stepSink_offer (s : State) (choice : Bool) : offer (stepSink choice s).1 = none := by
  cases stands : s.sink with
  | popping =>
    cases outcome : (stepConsumer s.queue).1 with
    | running | pushed | pushFailed | popped | popFailed => simp [stepSink, stands, outcome, offer]
  | testDone | testEmpty | loadedHead | loadedTail | consuming | exited =>
    simp [stepSink, stands, offer]

/-- Drops need a queue that was full. -/
def FullOnce (offers : List (TradeEvent × Bool)) : Prop :=
  (offers.map Prod.snd).count false = 0 ∨ queueCapacity ≤ (taken offers).length

theorem stepReplay_fullOnce (inv : Inv events offers consumed s) (full : FullOnce offers) :
    FullOnce (offers ++ (offer (stepReplay s).1).toList) := by
  cases observation : (stepReplay s).1 with
  | running => simpa [offer] using full
  | consumed event persisted => simpa [offer] using full
  | offered event result =>
    simp only [offer, Option.toList_some, FullOnce, taken_snoc, List.map_append, List.map_cons,
      List.map_nil, List.count_append, List.length_append]
    cases result with
    | true => exact full.imp (fun none => by simp [none]) (fun some => Nat.le_add_right_of_le some)
    | false =>
      right
      have length := inv_queued inv
      rw [refused_full inv observation] at length
      simp only [Bool.false_eq_true, if_false, List.length_nil]
      omega

end Drops

theorem run_fullOnce (events : List TradeEvent) (schedule : List Turn) :
    FullOnce (offersOf (machine.history (start events) schedule)) := by
  refine (machine.history_induction (fun _ => True)
    (motive := fun past s => Inv events (offersOf past) (consumedOf past) s ∧
      FullOnce (offersOf past)) ⟨start_inv events, .inl rfl⟩ ?_ schedule (fun _ _ => trivial)).2
  rintro past s turn ⟨inv, full⟩ _
  rw [offersOf_snoc, consumedOf_snoc]
  cases turn with
  | replay => exact ⟨stepReplay_inv inv, stepReplay_fullOnce inv full⟩
  | sink choice =>
    refine ⟨stepSink_inv inv choice, ?_⟩
    simp only [machine, stepSink_offer]
    simpa using full

/-- What an asynchronous replay can lose. A push is refused only while the queue
holds its full capacity of events, so every schedule drops at most the events
beyond that capacity, and a short replay drops none. -/
theorem run_drops (events : List TradeEvent) (schedule : List Turn) :
    ((offersOf (machine.history (start events) schedule)).map Prod.snd).count false ≤
        events.length - queueCapacity ∧
      ∀ before after event, schedule = before ++ .replay :: after →
        (stepReplay (machine.run (start events) before)).1 = .offered event false →
          queued (machine.run (start events) before) = queueCapacity := by
  constructor
  · have lengths := congrArg List.length (run_inv events schedule).offered
    have split := taken_length (offersOf (machine.history (start events) schedule))
    rw [List.length_append, List.length_map] at lengths
    rcases run_fullOnce events schedule with none | some
    · omega
    · omega
  · intro before after event _ refused
    exact refused_full (run_inv events before) refused

end TradingKernel.SinkProgress
