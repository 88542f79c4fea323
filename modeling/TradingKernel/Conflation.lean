import TradingKernel.ReplayAgreement

/-!
Market data that changes nothing. A tick is inert for a replay if it carries no
signal, comes before everything the venue and the cancel timer wait for, and
shows the resting order no quantity. Inert ticks are the ones that leave the
objects as they were, and a feed without them is replayed to the same report.
-/

namespace TradingKernel.Conflation
open Library OrderManager MockVenueGateway GatewayInvariant GatewayLink ReplayRunner ReplayRun
open ReplayPhases ReplayAgreement
open AccountingEngine (Engine markToMarket refreshDerived)
open ExecutionSimulator (CancelDue passiveFillQty isMarketable visibleOppositeQty reachableQty
  queueConsumed queueAfter afterQueue)

/-- The active order gets nothing from this tick, and no cancel of it is due. -/
structure OrderWaits (gateway : Gateway) (tick : MarketTick) : Prop where
  unarrived : ¬CancelArrives gateway tick
  unreached : isMarketable gateway.execution tick = true →
    visibleOppositeQty gateway.execution tick = 0
  early : ¬CancelDue gateway.execution tick

instance (gateway : Gateway) (tick : MarketTick) : Decidable (OrderWaits gateway tick) :=
  decidable_of_iff (¬CancelArrives gateway tick ∧
      (isMarketable gateway.execution tick = true →
        visibleOppositeQty gateway.execution tick = 0) ∧
      ¬CancelDue gateway.execution tick)
    ⟨fun ⟨unarrived, unreached, early⟩ => ⟨unarrived, unreached, early⟩,
      fun ⟨unarrived, unreached, early⟩ => ⟨unarrived, unreached, early⟩⟩

/-- Nothing happens on this tick. The cancel timer may have run out if the venue
would not take a cancel. -/
structure Inert (config : ReplayConfig) (tick : MarketTick) (objects : ReplayObjects) :
    Prop where
  silent : (strategy.onTick tick).hasOrder = false
  unanswered : ¬AckDue objects.gateway tick
  waits : objects.gateway.activeOrder.active = true → OrderWaits objects.gateway tick
  untimed : ReplayRunner.CancelDue config tick objects →
    objects.gateway.activeOrder.active = true → objects.gateway.activeOrder.cancelSent = true

instance (config : ReplayConfig) (tick : MarketTick) (objects : ReplayObjects) :
    Decidable (Inert config tick objects) :=
  decidable_of_iff ((strategy.onTick tick).hasOrder = false ∧ ¬AckDue objects.gateway tick ∧
      (objects.gateway.activeOrder.active = true → OrderWaits objects.gateway tick) ∧
      (ReplayRunner.CancelDue config tick objects →
        objects.gateway.activeOrder.active = true →
          objects.gateway.activeOrder.cancelSent = true))
    ⟨fun ⟨silent, unanswered, waits, untimed⟩ => ⟨silent, unanswered, waits, untimed⟩,
      fun ⟨silent, unanswered, waits, untimed⟩ => ⟨silent, unanswered, waits, untimed⟩⟩

def idleActions : List Action :=
  [.count .venueBatchOverflows 0, .measure .execution, .measure .strategy, .measure .endToEnd]

section Venue
variable {gateway : Gateway} {tick : MarketTick}

/-- A quote without quantity leaves the queue where it is. -/
theorem queue_unreached {sim : ExecutionSimulator.Simulator}
    (unreached : isMarketable sim tick = true → visibleOppositeQty sim tick = 0) :
    reachableQty sim tick ≤ 0 ∧ afterQueue sim tick = sim := by
  cases market : isMarketable sim tick with
  | false => simp [reachableQty, afterQueue, queueAfter, market]
  | true =>
    have nothing := unreached market
    have consumed : queueConsumed sim tick = 0 := by
      simp only [queueConsumed, nothing]
      split_ifs <;> omega
    simp [reachableQty, afterQueue, queueAfter, market, nothing, consumed]

theorem onTick_waits (wellFormed : WellFormed gateway)
    (unanswered : ¬AckDue gateway tick)
    (waits : gateway.activeOrder.active = true → OrderWaits gateway tick) :
    MockVenueGateway.onTick gateway tick = (.empty, gateway) := by
  obtain ⟨events, next, ticks, result⟩ := onTick_ticks wellFormed.coherent tick
  rw [result]
  cases ticks with
  | quiet _ idle => rfl
  | newReject due reject => exact absurd due unanswered
  | ioc due accepted style => exact absurd due unanswered
  | passive due accepted style matched => exact absurd due unanswered
  | cancelReject active arrives rejects => exact absurd arrives (waits active).unarrived
  | matching active answer matched =>
    obtain ⟨unarrived, unreached, early⟩ := waits active
    obtain ⟨nothing, kept⟩ := queue_unreached unreached
    rw [forwarded, if_neg unarrived] at matched
    cases matched with
    | fills reach fills => omega
    | cancelAcked reach due => exact absurd due early
    | waits reach late =>
      rw [kept]
      rfl

/-- An order gets nothing only from ticks it waits through. -/
theorem orderWaits_of_kept {sim : ExecutionSimulator.Simulator} (nonneg : NonNegative tick)
    (reach : reachableQty sim tick ≤ 0) (kept : afterQueue sim tick = sim)
    (market : isMarketable sim tick = true) : visibleOppositeQty sim tick = 0 := by
  have queue : queueAfter sim tick = sim.restingOrder.queueAheadQty :=
    congrArg (fun sim => sim.restingOrder.queueAheadQty) kept
  have some : 0 ≤ visibleOppositeQty sim tick := nonneg.oppositeQty _
  simp only [queueAfter, reachableQty, market, if_true] at queue reach
  omega

/-- A venue that a tick leaves as it was had nothing due. -/
theorem waits_of_onTick (wellFormed : WellFormed gateway) (nonneg : NonNegative tick)
    (kept : (MockVenueGateway.onTick gateway tick).2 = gateway) :
    ¬AckDue gateway tick ∧
      (gateway.activeOrder.active = true → OrderWaits gateway tick) := by
  obtain ⟨events, next, ticks, result⟩ := onTick_ticks wellFormed.coherent tick
  rw [result] at kept
  dsimp only at kept
  cases ticks with
  | quiet unanswered idle =>
    refine ⟨unanswered, fun active => ?_⟩
    rw [idle] at active
    cases active
  | newReject due reject =>
    have gone := congrArg (fun gateway => gateway.pendingNew.active) kept
    rw [due.1] at gone
    cases gone
  | ioc due accepted style =>
    have gone := congrArg (fun gateway => gateway.pendingNew.active) kept
    rw [due.1] at gone
    cases gone
  | passive due accepted style matched =>
    have gone := congrArg (fun gateway => gateway.nextVenueOrderId) kept
    have counted : next.nextVenueOrderId = gateway.nextVenueOrderId + 1 := by
      cases matched <;> rfl
    omega
  | cancelReject active arrives rejects =>
    have gone := congrArg (fun gateway => gateway.activeOrder.cancelRejectOnceDone) kept
    rw [rejects.1] at gone
    cases gone
  | matching active answer matched =>
    refine ⟨wellFormed.coherent.notDue active tick, fun _ => ?_⟩
    have unarrived : ¬CancelArrives gateway tick := by
      intro arrives
      have gone := congrArg (fun gateway => gateway.activeOrder.cancelSent) kept
      rw [forwarded, if_pos arrives] at matched
      rw [arrives.1] at gone
      cases matched <;> cases gone
    rw [forwarded, if_neg unarrived] at matched
    have positive := (wellFormed.leaves active).2
    cases matched with
    | fills reach fills =>
      have gone := congrArg (fun gateway => gateway.activeOrder.leavesQty) kept
      have some : 0 < passiveFillQty gateway.execution tick := lt_min positive reach
      dsimp only at gone
      omega
    | cancelAcked reach due =>
      have gone := congrArg (fun gateway => gateway.activeOrder.active) kept
      rw [active] at gone
      cases gone
    | waits reach late =>
      have same : afterQueue gateway.execution tick = gateway.execution :=
        congrArg (fun gateway => gateway.execution) kept
      exact ⟨unarrived, orderWaits_of_kept nonneg reach same, late⟩

end Venue

/-- The timer of an order that has ended at the venue does not run. -/
def TimerStops (objects : ReplayObjects) : Prop :=
  objects.orderManager.state = .filled ∨ objects.orderManager.state = .canceled ∨
    objects.orderManager.state = .expired → objects.passiveSubmitTs = -1

theorem TimerStops.stopped {objects : ReplayObjects} (stops : TimerStops objects) :
    stopTimer objects = objects := by
  unfold stopTimer
  split_ifs with ended
  · rw [← stops ended]
  · rfl

theorem stopTimer_stops (objects : ReplayObjects) : TimerStops (stopTimer objects) := by
  unfold stopTimer
  split_ifs with ended
  · exact fun _ => rfl
  · exact fun later => absurd later ended

section Own
variable {config : ReplayConfig} {tick : MarketTick} {objects : ReplayObjects}

theorem tick_timerStops (sound : Sound objects) (nonneg : NonNegative tick) :
    TimerStops (tickEffect config tick objects).objects := by
  have answered := sound.answered nonneg
  rw [tickEffect_eq]
  generalize (venuePhase tick (markObjects tick objects)) = venue at answered ⊢
  have stops := stopTimer_stops venue.objects
  have canceled : TimerStops (cancelPhase config tick (stopTimer venue.objects)).objects := by
    rcases cancelPhase_cases config tick (stopTimer venue.objects) with
      ⟨_, _, _, result⟩ | result
    · rw [result]
      rintro (ended | ended | ended) <;> cases ended
    · rw [result]
      exact stops
  obtain ⟨effect, decides, decided⟩ :=
    decisionPhase_decides (answered.canceled config tick).sound config tick
  rw [andThen_objects, ownPhase, andThen_objects, decided]
  cases decides with
  | noSignal quiet => exact canceled
  | riskReject signal refused => exact canceled
  | busy signal live => exact canceled
  | submits signal accepted free => rintro (ended | ended | ended) <;> cases ended

/-- The timer acts if it has run out and the venue takes the cancel. -/
theorem cancelPhase_sends (due : ReplayRunner.CancelDue config tick objects)
    (active : objects.gateway.activeOrder.active = true)
    (unsent : objects.gateway.activeOrder.cancelSent = false) :
    emitted (cancelPhase config tick objects).actions ≠ [] := by
  have live := due.2.1
  have moves : objects.orderManager.state ≠ .pendingCancel := by
    rcases live with state | state <;> simp [state]
  have asks : ¬(objects.orderManager.state ≠ .acked ∧
      objects.orderManager.state ≠ .partiallyFilled) := by
    rcases live with state | state <;> simp [state]
  rcases requestCancel_cases objects.orderManager with ⟨_, requested⟩ | ⟨notAcked, notPartial, _⟩
  · simp [cancelPhase, due, submitCancelRequest, asks, sendCancel, active, unsent, requested,
      emitTransition, moves]
  · exact absurd ⟨notAcked, notPartial⟩ asks

theorem tickEffect_inert (sound : Sound objects) (stops : TimerStops objects)
    (inert : Inert config tick objects) :
    tickEffect config tick objects = ⟨markObjects tick objects, idleActions⟩ := by
  have waits := onTick_waits sound.wellFormed inert.unanswered inert.waits
  have venue : venuePhase tick (markObjects tick objects) =
      ⟨markObjects tick objects, [.count .venueBatchOverflows 0, .measure .execution]⟩ := by
    have same : MockVenueGateway.onTick (markObjects tick objects).gateway tick =
        (.empty, (markObjects tick objects).gateway) := waits
    rw [venuePhase_eq, same]
    rfl
  have marked : TimerStops (markObjects tick objects) := stops
  have canceled : cancelPhase config tick (markObjects tick objects) =
      ⟨markObjects tick objects, []⟩ := by
    rcases cancelPhase_cases config tick (markObjects tick objects) with
      ⟨due, active, unsent, _⟩ | result
    · have sent : (markObjects tick objects).gateway.activeOrder.cancelSent = true :=
        inert.untimed due active
      rw [unsent] at sent
      cases sent
    · exact result
  have decided : decisionPhase config tick (markObjects tick objects) =
      ⟨markObjects tick objects, [.measure .strategy]⟩ := by
    simp [decisionPhase, inert.silent]
  simp only [tickEffect_eq, venue, ownPhase, Effect.andThen, marked.stopped, canceled, decided]
  rfl

/-- A timer and a decision that report nothing have left all but the timer alone. -/
theorem ownPhase_idle (rows : emitted (ownPhase config tick objects).actions = [])
    (signals : counted .strategySignals (ownPhase config tick objects).actions = 0) :
    (strategy.onTick tick).hasOrder = false ∧
      (ownPhase config tick objects).objects = stopTimer objects ∧
      (ReplayRunner.CancelDue config tick (stopTimer objects) →
        objects.gateway.activeOrder.active = true →
          objects.gateway.activeOrder.cancelSent = true) := by
  have gateway := (stopTimer_keeps objects).1
  simp only [ownPhase, andThen_actions, emitted_append, List.append_eq_nil_iff, counted_append,
    Nat.add_eq_zero_iff] at rows signals
  have canceled : cancelPhase config tick (stopTimer objects) = ⟨stopTimer objects, []⟩ := by
    rcases cancelPhase_cases config tick (stopTimer objects) with ⟨_, _, _, result⟩ | result
    · rw [result] at rows
      cases rows.1
    · exact result
  rw [canceled] at signals
  have silent : (strategy.onTick tick).hasOrder = false := by
    rcases decisionPhase_cases config tick (stopTimer objects) with
      ⟨quiet, _⟩ | ⟨_, _, result⟩ | ⟨_, _, result⟩
    · exact quiet
    · simp [result] at signals
    · simp [result] at signals
  refine ⟨silent, ?_, fun due active => ?_⟩
  · simp [ownPhase, canceled, decisionPhase, silent]
  · by_contra unsent
    rw [← gateway] at active unsent
    exact cancelPhase_sends due active (by simpa using unsent) rows.1

/-- Inert ticks are the ones that only move the mark and take their time. -/
theorem inert_iff (sound : Sound objects) (stops : TimerStops objects)
    (nonneg : NonNegative tick) :
    Inert config tick objects ↔
      tickEffect config tick objects = ⟨markObjects tick objects, idleActions⟩ := by
  refine ⟨tickEffect_inert sound stops, fun idle => ?_⟩
  obtain ⟨venueGateway, _⟩ := venuePhase_objects tick (markObjects tick objects)
  rw [tickEffect_eq] at idle
  injection idle with kept acts
  have rows := congrArg emitted acts
  have signals := congrArg (counted .strategySignals) acts
  generalize venuePhase tick (markObjects tick objects) = venue at *
  simp only [andThen_actions, idleActions, emitted_append, emitted_measure, emitted_count,
    emitted_nil, counted_append, counted_measure, counted_count, counted_nil,
    List.append_eq_nil_iff, Nat.add_eq_zero_iff, reduceCtorEq, if_false, and_true,
    Nat.add_zero] at rows signals
  obtain ⟨silent, left, untimed⟩ := @ownPhase_idle config tick venue.objects rows.2 signals.2
  have stopped : stopTimer venue.objects = markObjects tick objects := left.symm.trans kept
  have gateway : venue.objects.gateway = objects.gateway := by
    rw [← (stopTimer_keeps venue.objects).1, stopped]
    rfl
  rw [gateway] at venueGateway untimed
  rw [stopped] at untimed
  obtain ⟨unanswered, waits⟩ := waits_of_onTick sound.wellFormed nonneg venueGateway.symm
  exact ⟨silent, unanswered, waits, untimed⟩

end Own

/-- The ticks that are not inert where they come. -/
def conflate (config : ReplayConfig) : ReplayObjects → List MarketTick → List MarketTick
  | _, [] => []
  | objects, tick :: rest =>
    let kept := conflate config (tickEffect config tick objects).objects rest
    if Inert config tick objects then kept else tick :: kept

/-- Reports that agree but for the measured durations. -/
structure SameReport (record other : ReplayRecord) : Prop where
  counters : other.counters = record.counters
  events : other.events = record.events
  persistedEvents : other.persistedEvents = record.persistedEvents
  sinkFailed : other.sinkFailed = record.sinkFailed

/-- States that the next mark makes one, and that have reported the same. -/
structure Alike (s other : ReplayState) : Prop where
  objects : ∀ tick, markObjects tick other.objects = markObjects tick s.objects
  record : SameReport s.record other.record

section Run
variable {env : ReplayEnv} {config : ReplayConfig}

theorem perform_same {record other : ReplayRecord} (same : SameReport record other)
    (action : Action) :
    SameReport (perform env config record action) (perform env config other action) := by
  obtain ⟨counters, events, persistedEvents, sinkFailed⟩ := same
  cases action with
  | measure collector => exact ⟨counters, events, persistedEvents, sinkFailed⟩
  | count counter amount =>
    refine ⟨?_, events, persistedEvents, sinkFailed⟩
    exact congrArg (fun counters => counters.add counter amount) counters
  | emit event =>
    simp only [perform, emitEvent, recordLatency, deliver, events]
    cases config.sinkMode with
    | sync =>
      cases env.consume record.events.length <;>
        constructor <;> simp [counters, persistedEvents, sinkFailed]
    | async =>
      cases env.push record.events.length <;>
        constructor <;> simp [counters, persistedEvents, sinkFailed]

theorem performAll_same {record other : ReplayRecord} (same : SameReport record other)
    (actions : List Action) :
    SameReport (performAll env config record actions) (performAll env config other actions) := by
  induction actions generalizing record other with
  | nil => exact same
  | cons action rest ih => exact ih (perform_same same action)

theorem tickEffect_alike {objects other : ReplayObjects}
    (alike : ∀ tick, markObjects tick other = markObjects tick objects) (tick : MarketTick) :
    tickEffect config tick other = tickEffect config tick objects := by
  unfold tickEffect
  rw [alike tick]

theorem runTick_alike {s other : ReplayState} (alike : Alike s other) (tick : MarketTick) :
    (runTick env config tick other).objects = (runTick env config tick s).objects ∧
      Alike (runTick env config tick s) (runTick env config tick other) := by
  have effect := @tickEffect_alike config _ _ alike.objects tick
  have same := @performAll_same env config _ _ alike.record
    (tickEffect config tick s.objects).actions
  simp only [runTick, effect]
  exact ⟨trivial, fun _ => rfl, same⟩

theorem runTick_inert {s other : ReplayState} (sound : Sound s.objects)
    (stops : TimerStops s.objects) (alike : Alike s other) {tick : MarketTick}
    (inert : Inert config tick s.objects) : Alike (runTick env config tick s) other := by
  simp only [runTick, tickEffect_inert sound stops inert]
  constructor
  · intro later
    have again := AccountingEngine.markToMarket_overwrites s.objects.accounting tick.mid later.mid
    rw [alike.objects later]
    simp only [markObjects, again]
  · obtain ⟨counters, events, persistedEvents, sinkFailed⟩ := alike.record
    exact ⟨counters, events, persistedEvents, sinkFailed⟩

/-- No kept tick could have been left out as well: each one does something where
it comes in the shorter feed. -/
theorem conflate_acts {s other : ReplayState} (sound : Sound s.objects)
    (stops : TimerStops s.objects) (alike : Alike s other) {ticks : List MarketTick}
    (nonneg : ∀ tick ∈ ticks, NonNegative tick) :
    ∀ earlier tick later, conflate config s.objects ticks = earlier ++ tick :: later →
      tickEffect config tick ((machine env config).run other earlier).objects ≠
        ⟨markObjects tick ((machine env config).run other earlier).objects, idleActions⟩ := by
  induction ticks generalizing s other with
  | nil =>
    intro earlier tick later split
    simp [conflate] at split
  | cons first rest ih =>
    obtain ⟨positive, others⟩ := List.forall_mem_cons.1 nonneg
    have nextSound := tickEffect_sound sound config positive
    have nextStops := @tick_timerStops config _ _ sound positive
    rw [conflate]
    split_ifs with inert
    · exact @ih (runTick env config first s) other nextSound nextStops
        (runTick_inert sound stops alike inert) others
    · rw [Machine.splits_cons fun earlier tick =>
        tickEffect config tick ((machine env config).run other earlier).objects ≠
          ⟨markObjects tick ((machine env config).run other earlier).objects, idleActions⟩]
      constructor
      · rw [Machine.run_nil, tickEffect_alike alike.objects, alike.objects first]
        exact fun idle => inert ((inert_iff sound stops positive).2 idle)
      · exact @ih (runTick env config first s) (runTick env config first other) nextSound nextStops
          (runTick_alike alike first).2 others

end Run

end TradingKernel.Conflation
