import Mathlib.Tactic.FinCases
import TradingKernel.ReplayPhases

/-!
Gateway and order manager along a whole replay. Both sides stay linked on
every valid input; they agree after every step exactly as long as no cancel
answer is overtaken by a partial fill.
-/

namespace TradingKernel.ReplayAgreement
open Library OrderManager MockVenueGateway GatewayInvariant GatewayLink ReplayRunner ReplayRun
open ReplayPhases Decision

/-- The joint invariant of a replay's gateway and order manager. -/
structure Sound (objects : ReplayObjects) : Prop where
  wellFormed : WellFormed objects.gateway
  latency : 0 < objects.gateway.execution.cancelLatencyNs
  linked : Linked objects.gateway objects.orderManager

/-- Both sides hold the same order, or none. -/
def InStep (objects : ReplayObjects) : Prop := Paired objects.gateway objects.orderManager

/-- A part of the loop keeps the invariant, and keeps both sides in step. -/
structure Keeps (objects next : ReplayObjects) : Prop where
  sound : Sound next
  inStep : InStep objects → InStep next

theorem Keeps.trans {first second third : ReplayObjects} (left : Keeps first second)
    (right : Keeps second third) : Keeps first third :=
  ⟨right.sound, fun held => right.inStep (left.inStep held)⟩

/-- Only gateway and order manager matter. -/
theorem keeps_same {objects next : ReplayObjects} (sound : Sound objects)
    (gateway : next.gateway = objects.gateway)
    (orderManager : next.orderManager = objects.orderManager) : Keeps objects next := by
  obtain ⟨wellFormed, latency, linked⟩ := sound
  constructor
  · constructor
    · rwa [gateway]
    · rwa [gateway]
    · rwa [gateway, orderManager]
  · intro held
    rwa [InStep, gateway, orderManager]

theorem initialObjects_sound : Sound initialObjects :=
  ⟨create_wellFormed _ _, by decide, .inl (.free rfl rfl rfl)⟩

/-- A linked gateway is free when the order manager has no live order. -/
theorem Sound.gatewayFree {objects : ReplayObjects} (sound : Sound objects)
    (free : objects.orderManager.state.isLive = false) :
    objects.gateway.pendingNew.active = false ∧ objects.gateway.activeOrder.active = false := by
  rcases sound.linked with paired | stranded
  · cases paired with
    | free unpending idle notLive => exact ⟨unpending, idle⟩
    | pending pending requests => simp [requests.state, OrderState.isLive] at free
    | active active serves => simp [serves_live serves] at free
  · exact ⟨stranded.unpending, stranded.idle⟩

theorem Sound.serves {objects : ReplayObjects} (sound : Sound objects)
    (active : objects.gateway.activeOrder.active = true) :
    Serves objects.gateway objects.orderManager := by
  rcases sound.linked with paired | stranded
  · exact paired_active sound.wellFormed paired active
  · simp [stranded.idle] at active

theorem Sound.requests {objects : ReplayObjects} (sound : Sound objects) {tick : MarketTick}
    (due : AckDue objects.gateway tick) :
    Requests objects.gateway.pendingNew.request objects.orderManager := by
  rcases sound.linked with paired | stranded
  · exact paired_due sound.wellFormed paired due
  · exact absurd due.1 (by simp [stranded.unpending])

theorem sendCancel_serves {gateway : Gateway} {order : Manager} (serves : Serves gateway order)
    (active : gateway.activeOrder.active = true) (requestTsNs : TimestampNs) :
    Paired (sendCancel gateway requestTsNs).2 { order with state := .pendingCancel } := by
  rcases sendCancel_cases gateway requestTsNs with ⟨_, _, result⟩ | ⟨_, result⟩
  · rw [result]
    exact .active active ⟨.inr (.inr rfl), serves.client, serves.venue, serves.side, serves.leaves,
      by simp⟩
  · rw [result]
    exact .active active ⟨.inr (.inr rfl), serves.client, serves.venue, serves.side, serves.leaves,
      by simp⟩

theorem sendCancel_latency (gateway : Gateway) (requestTsNs : TimestampNs) :
    (sendCancel gateway requestTsNs).2.execution = gateway.execution := by
  rcases sendCancel_cases gateway requestTsNs with ⟨_, _, result⟩ | ⟨_, result⟩ <;> rw [result]

theorem cancelPhase_keeps {objects : ReplayObjects} (sound : Sound objects)
    (config : ReplayConfig) (tick : MarketTick) :
    Keeps objects (cancelPhase config tick objects).objects := by
  rcases cancelPhase_cases config tick objects with ⟨due, active, unsent, result⟩ | result
  · rw [result]
    have after := sendCancel_serves (sound.serves active) active tick.receiveTsNs
    refine ⟨⟨sendCancel_wellFormed sound.wellFormed _, ?_, .inl after⟩, fun _ => after⟩
    simp only [sendCancel_latency]
    exact sound.latency
  · rw [result]
    exact ⟨sound, id⟩

theorem Sound.timed {objects : ReplayObjects} (sound : Sound objects) :
    Keeps objects (stopTimer objects) := by
  obtain ⟨gateway, orderManager, _, _⟩ := stopTimer_keeps objects
  exact keeps_same sound gateway orderManager

theorem Sound.canceled {objects : ReplayObjects} (sound : Sound objects) (config : ReplayConfig)
    (tick : MarketTick) : Keeps objects (cancelPhase config tick (stopTimer objects)).objects :=
  sound.timed.trans (cancelPhase_keeps sound.timed.sound config tick)

theorem requested_wellFormed {gateway : Gateway} (wellFormed : WellFormed gateway)
    {request : GatewayNewOrder} (unpending : gateway.pendingNew.active = false)
    (idle : gateway.activeOrder.active = false) (positive : 0 < request.quantity) :
    WellFormed (requested gateway request) := by
  have result := sendNew_wellFormed wellFormed request
  rwa [sendNew_free unpending idle positive] at result

/-- A submission that finds the order manager free is taken by the gateway. -/
theorem submitPhase_sound {objects : ReplayObjects} (sound : Sound objects)
    (config : ReplayConfig) (tick : MarketTick) {order : OrderRequest}
    (positive : 0 < order.quantity) (free : objects.orderManager.state.isLive = false) :
    submitPhase config tick order objects =
      ⟨{ submittedObjects config tick order objects with
          gateway := requested objects.gateway (gatewayRequest config tick objects.clientOrderId
            (orderToSend config tick order))
          passiveSubmitTs := if config.executionStyle = .passive then tick.receiveTsNs
            else objects.passiveSubmitTs },
        [.count .localSubmissions 1,
          .emit ⟨tick.receiveTsNs, OrderState.idle.code, OrderState.pendingNewAck.code,
            .omsTransition, order.side, .none⟩,
          .count .gatewaySubmissions 1, .measure .execution]⟩ := by
  obtain ⟨unpending, idle⟩ := sound.gatewayFree free
  have some : 0 < (gatewayRequest config tick objects.clientOrderId
      (orderToSend config tick order)).quantity := by
    have quantity := (orderToSend_quantity config tick order).1
    simp only [gatewayRequest]
    omega
  rw [submitPhase_free config tick free positive,
    @sendOrder_free config tick _ (submittedObjects config tick order objects) unpending idle some]
  rfl

theorem signal_quantity {tick : MarketTick} (signal : (strategy.onTick tick).hasOrder = true) :
    (strategy.onTick tick).order.quantity = 50 :=
  Strategy.onTick_quantity signal

/-- Everything the decision part of a tick can do while both sides are linked. -/
inductive Decides (config : ReplayConfig) (tick : MarketTick) (objects : ReplayObjects) :
    Effect → Prop where
  | noSignal : (strategy.onTick tick).hasOrder = false →
      Decides config tick objects ⟨objects, [.measure .strategy]⟩
  | riskReject : (strategy.onTick tick).hasOrder = true →
      (risk.evaluate objects.accounting.positionState
        (strategy.onTick tick).order).accepted = false →
      Decides config tick objects
        ⟨objects, [.measure .strategy, .count .strategySignals 1, .measure .risk,
          .count .riskRejects 1,
          .emit ⟨tick.receiveTsNs, 0, (strategy.onTick tick).order.quantity, .riskReject,
            (strategy.onTick tick).order.side, (risk.evaluate objects.accounting.positionState
              (strategy.onTick tick).order).rejectReason⟩]⟩
  | busy : (strategy.onTick tick).hasOrder = true →
      objects.orderManager.state.isLive = true →
      Decides config tick objects
        ⟨{ objects with clientOrderId := objects.clientOrderId + 1 },
          [.measure .strategy, .count .strategySignals 1, .measure .risk, .measure .execution]⟩
  | submits : (strategy.onTick tick).hasOrder = true →
      (risk.evaluate objects.accounting.positionState
        (strategy.onTick tick).order).accepted = true →
      objects.orderManager.state.isLive = false →
      Decides config tick objects
        ⟨{ submittedObjects config tick (strategy.onTick tick).order objects with
            gateway := requested objects.gateway (gatewayRequest config tick objects.clientOrderId
              (orderToSend config tick (strategy.onTick tick).order))
            passiveSubmitTs := if config.executionStyle = .passive then tick.receiveTsNs
              else objects.passiveSubmitTs },
          [.measure .strategy, .count .strategySignals 1, .measure .risk,
            .count .localSubmissions 1,
            .emit ⟨tick.receiveTsNs, OrderState.idle.code, OrderState.pendingNewAck.code,
              .omsTransition, (strategy.onTick tick).order.side, .none⟩,
            .count .gatewaySubmissions 1, .measure .execution]⟩

theorem decisionPhase_decides {objects : ReplayObjects} (sound : Sound objects)
    (config : ReplayConfig) (tick : MarketTick) :
    ∃ effect, Decides config tick objects effect ∧
      decisionPhase config tick objects = effect := by
  rcases decisionPhase_cases config tick objects with
    ⟨quiet, result⟩ | ⟨signal, refused, result⟩ | ⟨signal, accepted, result⟩
  · exact ⟨_, .noSignal quiet, result⟩
  · exact ⟨_, .riskReject signal refused, result⟩
  · have quantity := signal_quantity signal
    cases live : objects.orderManager.state.isLive with
    | true =>
      rw [submitPhase_live config tick _ live] at result
      exact ⟨_, .busy signal live, result⟩
    | false =>
      rw [submitPhase_sound sound config tick (by omega) live] at result
      exact ⟨_, .submits signal accepted live, result⟩

theorem decisionPhase_keeps {objects : ReplayObjects} (sound : Sound objects)
    (config : ReplayConfig) (tick : MarketTick) :
    Keeps objects (decisionPhase config tick objects).objects := by
  obtain ⟨effect, decides, result⟩ := decisionPhase_decides sound config tick
  rw [result]
  cases decides with
  | noSignal quiet => exact ⟨sound, id⟩
  | riskReject signal refused => exact ⟨sound, id⟩
  | busy signal live => exact keeps_same sound rfl rfl
  | submits signal accepted live =>
    obtain ⟨unpending, idle⟩ := sound.gatewayFree live
    have quantity := signal_quantity signal
    have same := (orderToSend_quantity config tick (strategy.onTick tick).order).1
    have paired : Paired (requested objects.gateway (gatewayRequest config tick
        objects.clientOrderId (orderToSend config tick (strategy.onTick tick).order)))
        (submittedOrder objects.clientOrderId
          (orderToSend config tick (strategy.onTick tick).order)) :=
      .pending rfl ⟨rfl, rfl, rfl, rfl⟩
    refine ⟨⟨requested_wellFormed sound.wellFormed unpending idle ?_, sound.latency, .inl paired⟩,
      fun _ => paired⟩
    simp only [gatewayRequest]
    omega

theorem ownPhase_keeps {objects : ReplayObjects} (sound : Sound objects)
    (config : ReplayConfig) (tick : MarketTick) :
    Keeps objects (ownPhase config tick objects).objects := by
  have cancel := sound.canceled config tick
  exact cancel.trans (decisionPhase_keeps cancel.sound config tick)

/-- The venue part keeps the link; it keeps both sides in step unless a cancel
answer is overtaken, in which case that answer is the whole batch. -/
theorem venuePhase_keeps {objects : ReplayObjects} (sound : Sound objects) {tick : MarketTick}
    (nonneg : NonNegative tick) :
    Sound (venuePhase tick objects).objects ∧
      (InStep objects → ¬Overtaken objects.gateway objects.orderManager tick →
        InStep (venuePhase tick objects).objects) := by
  obtain ⟨events, next, ticks, result⟩ := onTick_ticks sound.wellFormed.coherent tick
  obtain ⟨gateway, orderManager, _, _⟩ := venuePhase_objects tick objects
  rw [result] at gateway orderManager
  constructor
  · constructor
    · rw [gateway]
      exact ticks.wellFormed sound.wellFormed nonneg
    · have fixed := congrArg (·.2.2.1) (onTick_settings objects.gateway tick)
      rw [result] at fixed
      rw [gateway]
      exact sound.latency.trans_eq fixed.symm
    · rw [gateway, orderManager]
      exact (tick_linked ticks sound.linked sound.wellFormed sound.latency nonneg).1
  · intro paired inTime
    rw [InStep, gateway, orderManager]
    exact (tick_paired ticks paired sound.wellFormed sound.latency nonneg inTime).2

theorem markObjects_sound {objects : ReplayObjects} (sound : Sound objects) (tick : MarketTick) :
    Sound (markObjects tick objects) :=
  ⟨sound.wellFormed, sound.latency, sound.linked⟩

theorem Sound.answered {objects : ReplayObjects} (sound : Sound objects) {tick : MarketTick}
    (nonneg : NonNegative tick) : Sound (venuePhase tick (markObjects tick objects)).objects :=
  (venuePhase_keeps (markObjects_sound sound tick) nonneg).1

theorem tickEffect_sound {objects : ReplayObjects} (sound : Sound objects)
    (config : ReplayConfig) {tick : MarketTick} (nonneg : NonNegative tick) :
    Sound (tickEffect config tick objects).objects := by
  rw [tickEffect_eq]
  exact (ownPhase_keeps (sound.answered nonneg) config tick).sound

/-- Gateway and order manager are linked in every state of every replay. -/
theorem run_sound (env : ReplayEnv) (config : ReplayConfig) (tickCount : Nat)
    {ticks : List MarketTick} (nonneg : ∀ tick ∈ ticks, NonNegative tick) :
    Sound (stateAfter env config tickCount ticks).objects :=
  (machine env config).run_invariant (fun s => Sound s.objects) NonNegative
    initialObjects_sound (fun _ _ sound nonneg => tickEffect_sound sound config nonneg) ticks nonneg

/-- The counters of venue events the order manager refuses. -/
def refusals : List Counter :=
  [.invalidVenueEvents, .wrongStateEvents, .wrongOrderEvents, .invalidQuantityEvents,
    .invalidVenueOrderIdEvents]

/-- Some actions that count no refused venue event. -/
def Unrefused (actions : List Action) : Prop := ∀ counter ∈ refusals, counted counter actions = 0

theorem unrefused_append {first second : List Action} (left : Unrefused first)
    (right : Unrefused second) : Unrefused (first ++ second) := by
  intro counter member
  rw [counted_append, left counter member, right counter member]

theorem unrefused_transition (tsNs : TimestampNs) (source target : OrderState) (side : Side) :
    Unrefused (emitTransition tsNs source target side) := by
  intro counter member
  unfold emitTransition
  split_ifs <;> simp

theorem unrefused_fill (fill : Fill) (tick : MarketTick) (objects : ReplayObjects) :
    Unrefused (handleFill fill tick objects).actions := by
  intro counter member
  have other : counter ≠ .fills := by
    rintro rfl
    simp [refusals] at member
  by_cases positive : 0 < fill.quantity
  · simp [handleFill_positive positive, other.symm]
  · rw [handleFill, if_pos (by omega)]
    rfl

theorem unrefused_reject (event : VenueEvent) (side : Side) (order : ManagedOrder) :
    Unrefused (venueRejectActions event side order) := by
  intro counter member
  have other : counter ≠ .venueRejects := by
    rintro rfl
    simp [refusals] at member
  unfold venueRejectActions
  cases event.type <;> simp [other.symm]

/-- A batch whose events are all applied counts no refusal. -/
theorem handleBatch_unrefused (tick : MarketTick) {events : List VenueEvent}
    {objects : ReplayObjects} (accepts : Accepts objects.orderManager events) :
    Unrefused (handleBatch tick events objects).actions := by
  induction events generalizing objects with
  | nil => exact fun _ _ => rfl
  | cons event rest ih =>
    rcases onVenueEvent_cases objects.orderManager event with
      ⟨fill, next, result, applies⟩ | ⟨outcome, refused, result⟩
    · have order := (handleVenueEvent_objects event objects.orderManager.side tick objects).2
      rw [result] at order
      dsimp only at order
      have tail := (accepts_cons applies rest).1 accepts
      rw [← order] at tail
      apply unrefused_append _ (ih tail)
      rw [handleVenueEvent_applied applies]
      exact unrefused_append (unrefused_append (unrefused_transition _ _ _ _)
        (unrefused_fill _ _ _)) (unrefused_reject _ _ _)
    · have applied := accepts _ List.mem_cons_self
      rw [result] at applied
      exact absurd applied refused

theorem handleBatch_refused {event : VenueEvent} {objects : ReplayObjects}
    {outcome : VenueEventOutcome} (refused : outcome ≠ .applied)
    (result : onVenueEvent objects.orderManager event =
      (outcome, Fill.empty, objects.orderManager)) (tick : MarketTick) :
    handleBatch tick [event] objects = ⟨objects, refusedActions outcome⟩ := by
  simp [handleBatch, Effect.andThen, handleVenueEvent_refused refused result]

theorem ownPhase_unrefused {objects : ReplayObjects} (sound : Sound objects)
    (config : ReplayConfig) (tick : MarketTick) :
    Unrefused (ownPhase config tick objects).actions := by
  apply unrefused_append
  · rcases cancelPhase_cases config tick (stopTimer objects) with ⟨_, _, _, result⟩ | result
    · rw [result]
      exact fun _ _ => by simp
    · rw [result]
      exact fun _ _ => rfl
  · intro counter member
    obtain ⟨effect, decides, result⟩ :=
      decisionPhase_decides (sound.canceled config tick).sound config tick
    rw [result]
    cases decides with
    | noSignal quiet => simp
    | riskReject signal refused => fin_cases member <;> simp
    | busy signal live => fin_cases member <;> simp
    | submits signal accepted live => fin_cases member <;> simp

/-- Gateway and order manager agree, and every event so far was applied. -/
structure Agrees (s : ReplayState) : Prop where
  holding : (s.objects.gateway.pendingNew.active = true ∨
      s.objects.gateway.activeOrder.active = true) ↔
    s.objects.orderManager.state.isLive = true
  sameOrder : s.objects.gateway.activeOrder.active = true →
    s.objects.gateway.activeOrder.venueOrderId = s.objects.orderManager.venueOrderId ∧
      s.objects.gateway.activeOrder.leavesQty = s.objects.orderManager.leavesQty
  applied : s.record.counters.wrongStateEvents = 0 ∧ s.record.counters.wrongOrderEvents = 0 ∧
    s.record.counters.invalidQuantityEvents = 0 ∧
    s.record.counters.invalidVenueOrderIdEvents = 0

/-- The invariant of the runs on which both sides stay in step. -/
structure Settled (s : ReplayState) : Prop where
  sound : Sound s.objects
  inStep : InStep s.objects
  applied : ∀ counter ∈ refusals, s.record.counters.get counter = 0

theorem Settled.agrees {s : ReplayState} (settled : Settled s) : Agrees s := by
  have paired := settled.inStep
  constructor
  · cases paired with
    | free unpending idle notLive => simp [unpending, idle, notLive]
    | pending pending requests => simp [pending, requests.state, OrderState.isLive]
    | active active serves => simp [active, serves_live serves]
  · intro active
    have serves := paired_active settled.sound.wellFormed paired active
    exact ⟨serves.venue.symm, serves.leaves.symm⟩
  · exact ⟨settled.applied .wrongStateEvents (by simp [refusals]),
      settled.applied .wrongOrderEvents (by simp [refusals]),
      settled.applied .invalidQuantityEvents (by simp [refusals]),
      settled.applied .invalidVenueOrderIdEvents (by simp [refusals])⟩

variable {env : ReplayEnv} {config : ReplayConfig}

/-- Performing actions that count no refusal leaves those counters alone. -/
theorem performAll_applied {record : ReplayRecord} {actions : List Action}
    (unrefused : Unrefused actions)
    (applied : ∀ counter ∈ refusals, record.counters.get counter = 0) :
    ∀ counter ∈ refusals, (performAll env config record actions).counters.get counter = 0 := by
  intro counter member
  rw [performAll_get, applied counter member, unrefused counter member]

theorem venue_settled {s : ReplayState} {tick : MarketTick} (settled : Settled s)
    (nonneg : NonNegative tick)
    (inTime : ¬Overtaken s.objects.gateway s.objects.orderManager tick) :
    Settled (stateAfterVenue env config tick s) := by
  have sound := markObjects_sound settled.sound tick
  obtain ⟨after, paired⟩ := venuePhase_keeps sound nonneg
  refine ⟨after, paired settled.inStep inTime, ?_⟩
  apply performAll_applied _ settled.applied
  obtain ⟨events, next, ticks, result⟩ := onTick_ticks sound.wellFormed.coherent tick
  have accepts := (tick_paired ticks settled.inStep sound.wellFormed sound.latency nonneg inTime).1
  rw [venuePhase_eq, result, andThen_actions]
  apply unrefused_append
  · intro counter member
    fin_cases member <;> simp
  · exact handleBatch_unrefused tick accepts

theorem tick_settled {s : ReplayState} {tick : MarketTick} (settled : Settled s)
    (nonneg : NonNegative tick)
    (inTime : ¬Overtaken s.objects.gateway s.objects.orderManager tick) :
    Settled (runTick env config tick s) := by
  have venue := @venue_settled env config s tick settled nonneg inTime
  have own := ownPhase_keeps venue.sound config tick
  have unrefused := ownPhase_unrefused venue.sound config tick
  have split : runTick env config tick s =
      ⟨(ownPhase config tick (stateAfterVenue env config tick s).objects).objects,
        performAll env config (stateAfterVenue env config tick s).record
          ((ownPhase config tick (stateAfterVenue env config tick s).objects).actions ++
            [.measure .endToEnd])⟩ := by
    simp only [runTick, tickEffect_eq, stateAfterVenue, andThen_actions, andThen_objects,
      List.append_assoc, performAll_append]
  rw [split]
  refine ⟨own.sound, own.inStep venue.inStep, ?_⟩
  apply performAll_applied (unrefused_append unrefused _) venue.applied
  exact fun _ _ => by simp

theorem overtaken_disagrees {s : ReplayState} {tick : MarketTick} (settled : Settled s)
    (overtaken : Overtaken s.objects.gateway s.objects.orderManager tick) :
    ¬Agrees (stateAfterVenue env config tick s) := by
  have sound := markObjects_sound settled.sound tick
  obtain ⟨events, next, ticks, result⟩ := onTick_ticks sound.wellFormed.coherent tick
  obtain ⟨⟨event, rfl, kind, refused⟩, _⟩ :=
    tick_overtaken ticks settled.inStep sound.wellFormed sound.latency overtaken
  intro agrees
  have before := settled.applied .wrongStateEvents (by simp [refusals])
  have after : (stateAfterVenue env config tick s).record.counters.get .wrongStateEvents = 0 :=
    agrees.applied.1
  have handled := @handleBatch_refused event { markObjects tick s.objects with
    gateway := (MockVenueGateway.onTick (markObjects tick s.objects).gateway tick).2 } .wrongState
    (by decide) refused tick
  rw [stateAfterVenue, performAll_get, before, venuePhase_eq, andThen_actions, result] at after
  rw [result] at handled
  simp [handled, refusedActions] at after

/-- Both sides agree after every venue batch and every tick of a replay if and
only if no tick answers a cancel that a partial fill has overtaken. Deadlines are
exact integers here; `run_in_range_iff` says when their sums stay in their type. -/
theorem agrees_iff_never_overtaken (env : ReplayEnv) (config : ReplayConfig)
    (ticks : List MarketTick) (nonneg : ∀ tick ∈ ticks, NonNegative tick) :
    (∀ before tick after, ticks = before ++ tick :: after →
        Agrees (stateAfterVenue env config tick (stateAfter env config ticks.length before)) ∧
          Agrees (stateAfter env config ticks.length (before ++ [tick]))) ↔
      ∀ before tick after, ticks = before ++ tick :: after →
        ¬Overtaken (stateAfter env config ticks.length before).objects.gateway
          (stateAfter env config ticks.length before).objects.orderManager tick := by
  have start : Settled (initialState ticks.length) :=
    ⟨initialObjects_sound, .free rfl rfl rfl, fun counter _ => by cases counter <;> rfl⟩
  have runs := (machine env config).safe_iff_guarded Settled NonNegative
    (fun s tick => Agrees (stateAfterVenue env config tick s) ∧
      Agrees (runTick env config tick s))
    (fun s tick => ¬Overtaken s.objects.gateway s.objects.orderManager tick)
    (fun s tick settled nonneg inTime =>
      have venue := venue_settled settled nonneg inTime
      have tick := tick_settled settled nonneg inTime
      ⟨⟨venue.agrees, tick.agrees⟩, tick⟩)
    (fun s tick settled nonneg overtaken agrees =>
      overtaken_disagrees settled (not_not.1 overtaken) agrees.1)
    start ticks nonneg
  simp only [stateAfter_append]
  exact runs

/-- Two partial fills arrive while the cancel of a passive order is under way;
the second one also overtakes the cancel that the first one provoked. -/
def overtakenTicks : List MarketTick :=
  [⟨1000, 1000, 99900, 100000, 1, 0, 10⟩,
    ⟨1200, 1200, 99900, 100100, 1, 0, 10⟩,
    ⟨1400, 1400, 99900, 100100, 1, 0, 10⟩,
    ⟨1500, 1500, 99800, 99900, 1, 0, 1⟩,
    ⟨1600, 1600, 99800, 99900, 1, 0, 1⟩,
    ⟨2400, 2400, 99900, 100100, 1, 0, 10⟩]

theorem overtaken_cancel_disagrees :
    ValidTicks overtakenTicks ∧
      ¬∀ before tick after, overtakenTicks = before ++ tick :: after →
        Agrees (stateAfterVenue quietEnv ⟨.sync, .passive, 0⟩ tick
            (stateAfter quietEnv ⟨.sync, .passive, 0⟩ overtakenTicks.length before)) ∧
          Agrees (stateAfter quietEnv ⟨.sync, .passive, 0⟩ overtakenTicks.length
            (before ++ [tick])) := by
  refine ⟨by decide, fun all => ?_⟩
  have agrees := (all (overtakenTicks.take 5) ⟨2400, 2400, 99900, 100100, 1, 0, 10⟩ [] rfl).2
  have refused : (stateAfter quietEnv ⟨.sync, .passive, 0⟩ overtakenTicks.length
      (overtakenTicks.take 5 ++
        [⟨2400, 2400, 99900, 100100, 1, 0, 10⟩])).record.counters.wrongStateEvents = 1 := by
    decide +kernel
  have none := agrees.applied.1
  omega

/-- The same replay up to its first fill. -/
theorem agrees_iff_never_overtaken_firstFill :
    (∀ before tick after, overtakenTicks.take 4 = before ++ tick :: after →
        Agrees (stateAfterVenue quietEnv ⟨.sync, .passive, 0⟩ tick
            (stateAfter quietEnv ⟨.sync, .passive, 0⟩ (overtakenTicks.take 4).length before)) ∧
          Agrees (stateAfter quietEnv ⟨.sync, .passive, 0⟩ (overtakenTicks.take 4).length
            (before ++ [tick]))) ↔
      ∀ before tick after, overtakenTicks.take 4 = before ++ tick :: after →
        ¬Overtaken
          (stateAfter quietEnv ⟨.sync, .passive, 0⟩ (overtakenTicks.take 4).length
            before).objects.gateway
          (stateAfter quietEnv ⟨.sync, .passive, 0⟩ (overtakenTicks.take 4).length
            before).objects.orderManager tick :=
  agrees_iff_never_overtaken quietEnv ⟨.sync, .passive, 0⟩ (overtakenTicks.take 4)
    (fun tick member => by fin_cases member <;> exact ⟨by decide, by decide⟩)

end TradingKernel.ReplayAgreement
