import TradingKernel.CancelTimer
import TradingKernel.PassiveProfit

/-!
How a replay comes to rest. An order the strategy stops renewing is brought to
its end by the clock alone: the venue answers it, the timer cancels it, the venue
may reject the first cancel, and the next one takes effect. No deadline ever lies
further ahead than the venue's latencies, so spaced ticks count the steps down.
-/

namespace TradingKernel.WindDown
open Library OrderManager MockVenueGateway GatewayInvariant GatewayLink ReplayRunner ReplayRun
open ReplayPhases ReplayAgreement ReplayTranslation PassiveProfit HeldOrders
open ExecutionSimulator (CancelDue reachableQty)

/-- All that the venue has announced at this time is due within its latencies. -/
structure Deadlines (now : TimestampNs) (gateway : Gateway) : Prop where
  latencies : settings gateway = settings MockVenueGateway.fresh
  pending : gateway.pendingNew.active = true → gateway.pendingNew.ackReadyTsNs ≤ now + 200
  sent : gateway.activeOrder.cancelSent = true → gateway.activeOrder.cancelSendTsNs ≤ now + 200
  canceling : gateway.execution.restingOrder.cancelPending = true →
    gateway.execution.restingOrder.cancelEffectiveTsNs ≤ now + 1000

/-- An order manager that waits for a cancel has one under way. -/
def Asked (gateway : Gateway) (order : Manager) : Prop :=
  order.state = .pendingCancel → gateway.activeOrder.cancelSent = true ∨
    gateway.execution.restingOrder.cancelPending = true

section Venue
variable {gateway next : Gateway} {tick : MarketTick} {events : List VenueEvent}
  {now : TimestampNs}

theorem Deadlines.latency (deadlines : Deadlines now gateway) :
    gateway.newAckLatencyNs = 200 ∧ gateway.cancelSendLatencyNs = 200 ∧
      gateway.execution.cancelLatencyNs = 1000 := by
  have same := deadlines.latencies
  simp only [settings, Prod.mk.injEq] at same
  exact ⟨same.1, same.2.1, same.2.2.1⟩

theorem matches_deadlines (matched : Matches gateway tick events next)
    (deadlines : Deadlines now gateway) (settled : settings next = settings gateway) :
    Deadlines now next := by
  obtain ⟨latencies, pending, sent, canceling⟩ := deadlines
  cases matched with
  | fills reach fills =>
    refine ⟨settled.trans latencies, pending, sent, ?_⟩
    simp only [fills.resting, ExecutionSimulator.RestingOrder.afterFill]
    intro both
    exact canceling (Bool.and_eq_true_iff.1 both).1
  | cancelAcked reach due =>
    exact ⟨settled.trans latencies, pending, sent, fun still => by cases still⟩
  | waits reach early => exact ⟨settled.trans latencies, pending, sent, canceling⟩

theorem forwarded_settings (gateway : Gateway) (tick : MarketTick) :
    settings (forwarded gateway tick) = settings gateway := by
  unfold forwarded
  split_ifs
  · unfold ExecutionSimulator.requestCancel
    split_ifs <;> rfl
  · rfl

/-- A forwarded cancel takes effect after the venue's own latency. -/
theorem forwarded_deadlines (deadlines : Deadlines now gateway) (reached : tick.receiveTsNs ≤ now) :
    Deadlines now (forwarded gateway tick) := by
  have same := (forwarded_settings gateway tick).trans deadlines.latencies
  have keeps := ExecutionSimulator.requestCancel_restingOrder gateway.execution tick.receiveTsNs
  by_cases arrives : CancelArrives gateway tick
  · rw [forwarded, if_pos arrives] at same ⊢
    refine ⟨same, deadlines.pending, (fun still => by cases still), ?_⟩
    simp only [keeps]
    split_ifs
    · intro _
      rw [deadlines.latency.2.2]
      linarith
    · exact deadlines.canceling
  · rw [forwarded, if_neg arrives]
    exact deadlines

theorem ticks_deadlines (ticks : Ticks gateway tick events next)
    (deadlines : Deadlines now gateway) (settled : settings next = settings gateway)
    (reached : tick.receiveTsNs ≤ now) : Deadlines now next := by
  cases ticks with
  | quiet due idle => exact deadlines
  | newReject due reject =>
    exact ⟨deadlines.latencies, nofun, deadlines.sent, deadlines.canceling⟩
  | ioc due accepted style =>
    refine ⟨settled.trans deadlines.latencies, nofun, nofun, ?_⟩
    rw [iocDone_resting]
    exact deadlines.canceling
  | passive due accepted style matched =>
    have begun : Deadlines now (acknowledged gateway tick) :=
      ⟨deadlines.latencies, nofun, nofun, nofun⟩
    exact matches_deadlines matched begun settled
  | cancelReject active arrives rejects =>
    exact ⟨deadlines.latencies, deadlines.pending, nofun, deadlines.canceling⟩
  | matching active answer matched =>
    apply matches_deadlines matched (forwarded_deadlines deadlines reached)
    rw [settled, forwarded_settings]

end Venue

/-- An order that still waits for its cancel has seen nothing applied. -/
theorem applyEvents_waits {order : Manager} {events : List VenueEvent}
    (waits : (applyEvents order events).state = .pendingCancel) :
    applyEvents order events = order := by
  induction events generalizing order with
  | nil => rfl
  | cons event rest ih =>
    rw [applyEvents_cons] at waits ⊢
    have kept := ih waits
    rcases onVenueEvent_cases order event with ⟨fill, next, result, applies⟩ | ⟨_, _, result⟩
    · rw [kept, result] at waits
      exact absurd waits (applies_noCancel applies)
    · rw [kept, result]

theorem forwarded_asked {gateway : Gateway} {order : Manager} (asked : Asked gateway order)
    (resting : gateway.execution.restingOrder.active = true) (tick : MarketTick) :
    Asked (forwarded gateway tick) order := by
  intro waits
  unfold forwarded
  split_ifs with arrives
  · refine .inr ?_
    rw [ExecutionSimulator.requestCancel_restingOrder]
    cases pending : gateway.execution.restingOrder.cancelPending <;> simp [resting, pending]
  · exact asked waits

/-- An answered cancel is no longer waited for. -/
theorem ticks_asked {objects : ReplayObjects} (sound : Sound objects)
    (asked : Asked objects.gateway objects.orderManager) {next : Gateway} {tick : MarketTick}
    {events : List VenueEvent} (ticks : Ticks objects.gateway tick events next) :
    Asked next (applyEvents objects.orderManager events) := by
  intro waits
  have kept := applyEvents_waits waits
  have state : objects.orderManager.state = .pendingCancel := kept ▸ waits
  have unanswered : ∀ {event fill after}, Applies objects.orderManager event fill after →
      events ≠ [event] := by
    rintro event fill after applies rfl
    rw [applyEvents_applied applies, applyEvents_nil] at waits
    exact applies_noCancel applies waits
  have early : ¬AckDue objects.gateway tick := by
    intro due
    rw [(sound.requests due).state] at state
    cases state
  cases ticks with
  | quiet due idle => exact asked state
  | newReject due reject => exact absurd due early
  | ioc due accepted style => exact absurd due early
  | passive due accepted style matched => exact absurd due early
  | cancelReject active arrives rejects =>
    have serves := sound.serves active
    exact absurd rfl (unanswered (.cancelReject rfl state
      ⟨(sound.wellFormed.activeId active).1, serves.venue.symm⟩))
  | matching active answer matched =>
    have serves := forwarded_serves (sound.serves active) tick
    have wellFormed := forwarded_wellFormed sound.wellFormed answer
    have still := (forwarded_active objects.gateway tick).trans active
    have id := (wellFormed.activeId still).1
    cases matched with
    | fills reach fills =>
      obtain ⟨positive, bounded⟩ := passiveFillQty_bounds wellFormed still reach
      exact absurd rfl (unanswered (@fill_applies _ _ serves wellFormed still ⟨.fill, _, _, _, _⟩
        rfl rfl positive bounded))
    | cancelAcked reach due =>
      exact absurd rfl (unanswered (.cancelAck rfl state ⟨id, serves.venue.symm⟩))
    | waits reach unripe =>
      exact forwarded_asked asked (sound.wellFormed.resting.trans active) tick state

structure Punctual (now : TimestampNs) (objects : ReplayObjects) : Prop where
  deadlines : Deadlines now objects.gateway
  asked : Asked objects.gateway objects.orderManager

/-- What a replay asks for: its own style, and a passive order at a signal price. -/
def Sent (config : ReplayConfig) (request : GatewayNewOrder) : Prop :=
  request.style = config.executionStyle ∧
    (request.style = .passive → AtSignal request.side request.limitPrice)

section Tick
variable {config : ReplayConfig} {objects : ReplayObjects} {tick : MarketTick}
  {now : TimestampNs}

theorem venue_punctual (sound : Sound objects) (punctual : Punctual now objects)
    (reached : tick.receiveTsNs ≤ now) :
    Punctual now (venuePhase tick (markObjects tick objects)).objects := by
  obtain ⟨events, next, ticks, result⟩ := onTick_ticks sound.wellFormed.coherent tick
  obtain ⟨gateway, orderManager, _, _⟩ := venuePhase_objects tick (markObjects tick objects)
  have settled := MockVenueGateway.onTick_settings objects.gateway tick
  have same : (markObjects tick objects).gateway = objects.gateway := rfl
  rw [result] at settled
  rw [same, result] at gateway orderManager
  constructor
  · rw [gateway]
    exact ticks_deadlines ticks punctual.deadlines settled reached
  · rw [gateway, orderManager]
    exact ticks_asked sound punctual.asked ticks

theorem own_punctual (sound : Sound objects) (punctual : Punctual now objects)
    (reached : tick.receiveTsNs ≤ now) (config : ReplayConfig) :
    Punctual now (ownPhase config tick objects).objects := by
  obtain ⟨gateway, orderManager, _, _⟩ := stopTimer_keeps objects
  have canceled : Punctual now (cancelPhase config tick (stopTimer objects)).objects := by
    rcases cancelPhase_cases config tick (stopTimer objects) with
      ⟨due, active, unsent, result⟩ | result
    · rw [gateway] at active unsent
      rcases sendCancel_cases objects.gateway tick.receiveTsNs with ⟨_, _, sent⟩ | ⟨refused, _⟩
      · rw [result, gateway, sent]
        obtain ⟨latencies, pending, _, canceling⟩ := punctual.deadlines
        refine ⟨⟨latencies, pending, fun _ => ?_, canceling⟩, fun _ => .inl rfl⟩
        have latency := punctual.deadlines.latency.2.1
        dsimp only
        rw [latency]
        linarith
      · rcases refused with idle | twice
        · simp [idle] at active
        · simp [twice] at unsent
    · rw [result]
      constructor
      · rw [gateway]
        exact punctual.deadlines
      · rw [gateway, orderManager]
        exact punctual.asked
  obtain ⟨effect, decides, decided⟩ := decisionPhase_decides (sound.canceled config tick).sound
    config tick
  rw [ownPhase, andThen_objects, decided]
  cases decides with
  | noSignal quiet => exact canceled
  | riskReject signal refused => exact canceled
  | busy signal live => exact ⟨canceled.deadlines, canceled.asked⟩
  | submits signal accepted free =>
    obtain ⟨latencies, pending, sent, canceling⟩ := canceled.deadlines
    have latency := canceled.deadlines.latency.1
    refine ⟨⟨latencies, fun _ => ?_, sent, canceling⟩, fun waits => by cases waits⟩
    simp only [requested, gatewayRequest, latency]
    linarith

theorem tick_punctual (sound : Sound objects) (punctual : Punctual now objects)
    (nonneg : NonNegative tick) (reached : tick.receiveTsNs ≤ now) (config : ReplayConfig) :
    Punctual now (tickEffect config tick objects).objects := by
  rw [tickEffect_eq]
  exact own_punctual (sound.answered nonneg) (venue_punctual sound punctual reached) reached config

end Tick

/-- How many spaced ticks without a signal end the gateway's order: its answer,
the first cancel, a second one where the first is rejected, its arrival, its effect. -/
def ticksLeft (gateway : Gateway) : Nat :=
  if gateway.pendingNew.active then if gateway.pendingNew.request.style = .passive then 4 else 1
  else if !gateway.activeOrder.active then 0
  else if gateway.execution.restingOrder.cancelPending then 1
  else
    (if gateway.activeOrder.cancelSent then 0 else 1) +
      if RejectsCancel gateway.activeOrder then 3 else 2

theorem ticksLeft_le (gateway : Gateway) : ticksLeft gateway ≤ 4 := by
  unfold ticksLeft
  split_ifs <;> omega

/-- The active order could be canceled, and has not been. -/
structure Unasked (gateway : Gateway) : Prop where
  active : gateway.activeOrder.active = true
  unsent : gateway.activeOrder.cancelSent = false
  unpending : gateway.execution.restingOrder.cancelPending = false

section Quiet
variable {config : ReplayConfig} {gateway next : Gateway} {tick : MarketTick}
  {events : List VenueEvent} {now : TimestampNs}

/-- A quote without a signal does not reach an order priced at one. -/
theorem reachable_silent (silent : (strategy.onTick tick).hasOrder = false)
    {sim : ExecutionSimulator.Simulator}
    (price : AtSignal sim.restingOrder.side sim.restingOrder.price) :
    reachableQty sim tick = 0 := by
  unfold Decision.Strategy.onTick at silent
  split_ifs at silent with low high
  have quiet : ExecutionSimulator.isMarketable sim tick = false := by
    unfold ExecutionSimulator.isMarketable
    split_ifs
    · rfl
    · cases side : sim.restingOrder.side with
      | buy =>
        have cheap := price.buys side
        exact decide_eq_false fun crossed => low (crossed.trans cheap)
      | sell =>
        have dear := price.sells side
        exact decide_eq_false fun crossed => high (dear.trans crossed)
  simp [reachableQty, quiet]

/-- Without reachable quantity, matching waits or acknowledges a cancel. -/
theorem matches_silent (matched : Matches gateway tick events next)
    (unreached : reachableQty gateway.execution tick = 0) :
    (CancelDue gateway.execution tick ∧ next.activeOrder.active = false) ∨
      (¬CancelDue gateway.execution tick ∧ next.activeOrder = gateway.activeOrder ∧
        next.execution.restingOrder.cancelPending =
          gateway.execution.restingOrder.cancelPending) := by
  cases matched with
  | fills reach fills => omega
  | cancelAcked reach due => exact .inl ⟨due, rfl⟩
  | waits reach early => exact .inr ⟨early, rfl, rfl⟩

theorem ticksLeft_idle (unpending : gateway.pendingNew.active = false)
    (idle : gateway.activeOrder.active = false) : ticksLeft gateway = 0 := by
  simp [ticksLeft, unpending, idle]

theorem ticksLeft_active (unpending : gateway.pendingNew.active = false)
    (active : gateway.activeOrder.active = true) :
    ticksLeft gateway =
      if gateway.execution.restingOrder.cancelPending then 1
      else
        (if gateway.activeOrder.cancelSent then 0 else 1) +
          if RejectsCancel gateway.activeOrder then 3 else 2 := by
  simp [ticksLeft, unpending, active]

/-- An active order that no quote reaches ends, has its cancel forwarded, or could
be canceled. -/
theorem matching_descends (coherent : Coherent gateway) (deadlines : Deadlines now gateway)
    (held : HoldsOnly (Sent config) gateway) (active : gateway.activeOrder.active = true)
    (answer : CancelArrives gateway tick → ¬RejectsCancel gateway.activeOrder)
    (matched : Matches (forwarded gateway tick) tick events next)
    (silent : (strategy.onTick tick).hasOrder = false) (late : now + 1000 ≤ tick.receiveTsNs) :
    next.pendingNew.active = false ∧
      (ticksLeft next ≤ ticksLeft gateway - 1 ∨
        Unasked next ∧ ticksLeft next ≤ ticksLeft gateway) := by
  have unpending := coherent.notPending active
  have unreached : reachableQty (forwarded gateway tick).execution tick = 0 := by
    rw [forwarded_reachable]
    apply reachable_silent silent
    obtain ⟨request, ⟨_, atSignal⟩, passive, side, limit⟩ := held.active active
    rw [(coherent.order active).1, (coherent.order active).2, side, limit]
    exact atSignal passive
  have nextUnpending : next.pendingNew.active = false := by
    rw [matches_pendingNew matched, forwarded_pendingNew]
    exact unpending
  refine ⟨nextUnpending, ?_⟩
  rcases matches_silent matched unreached with ⟨_, idle⟩ | ⟨early, order, pending⟩
  · rw [ticksLeft_idle nextUnpending idle]
    exact .inl (Nat.zero_le _)
  have fresh : gateway.execution.restingOrder.cancelPending = false := by
    by_contra canceling
    have holds : gateway.execution.restingOrder.cancelPending = true := by simpa using canceling
    have latency : 0 < gateway.execution.cancelLatencyNs := by
      rw [deadlines.latency.2.2]
      decide
    exact early ((forwarded_cancelDue latency tick).2
      ⟨holds, (deadlines.canceling holds).trans late⟩)
  have nextActive : next.activeOrder.active = true := by
    rw [order, forwarded_active, active]
  by_cases arrives : CancelArrives gateway tick
  · have resting := coherent.resting.trans active
    rw [forwarded, if_pos arrives, ExecutionSimulator.requestCancel_restingOrder,
      if_pos ⟨resting, fresh⟩] at pending
    rw [ticksLeft_active nextUnpending nextActive, ticksLeft_active unpending active]
    simp [pending, fresh, arrives.1, answer arrives]
  · have unsent : gateway.activeOrder.cancelSent = false := by
      by_contra sent
      have holds : gateway.activeOrder.cancelSent = true := by simpa using sent
      exact arrives ⟨holds, (deadlines.sent holds).trans (by linarith)⟩
    rw [forwarded, if_neg arrives] at order pending
    refine .inr ⟨⟨nextActive, ?_, pending.trans fresh⟩, ?_⟩
    · rw [order]
      exact unsent
    · rw [ticksLeft_active nextUnpending nextActive, ticksLeft_active unpending active, order,
        pending]

/-- A silent tick that comes late enough takes a step, or leaves it to the timer. -/
theorem ticks_descend (ticks : Ticks gateway tick events next) (coherent : Coherent gateway)
    (held : HoldsOnly (Sent config) gateway) (deadlines : Deadlines now gateway)
    (silent : (strategy.onTick tick).hasOrder = false) (late : now + 1000 ≤ tick.receiveTsNs) :
    next.pendingNew.active = false ∧
      (ticksLeft next ≤ ticksLeft gateway - 1 ∨
        Unasked next ∧ ticksLeft next ≤ ticksLeft gateway) := by
  cases ticks with
  | quiet early idle =>
    have unpending : gateway.pendingNew.active = false := by
      by_contra pending
      have active : gateway.pendingNew.active = true := by simpa using pending
      exact early ⟨active, (deadlines.pending active).trans (by linarith)⟩
    rw [ticksLeft_idle unpending idle]
    exact ⟨unpending, .inl (Nat.le_refl 0)⟩
  | newReject due reject =>
    have none := @ticksLeft_idle { gateway with
      pendingNew := { gateway.pendingNew with active := false } } rfl (coherent.exclusive due.1)
    rw [none]
    exact ⟨rfl, .inl (Nat.zero_le _)⟩
  | ioc due accepted style =>
    have none := @ticksLeft_idle (iocDone gateway tick) rfl rfl
    rw [none]
    exact ⟨rfl, .inl (Nat.zero_le _)⟩
  | passive due accepted style matched =>
    have unreached := @reachable_silent tick silent (acknowledged gateway tick).execution
      ((held.pending due.1).2 style)
    have left : ticksLeft gateway = 4 := by simp [ticksLeft, due.1, style]
    refine ⟨(congrArg PendingNew.active (matches_pendingNew matched)).trans rfl, .inr ⟨?_, ?_⟩⟩
    · rcases matches_silent matched unreached with ⟨canceled, _⟩ | ⟨_, order, pending⟩
      · cases canceled.1
      · exact ⟨congrArg ActiveOrder.active order, congrArg ActiveOrder.cancelSent order, pending⟩
    · rw [left]
      exact ticksLeft_le next
  | cancelReject active arrives rejects =>
    have unpending := coherent.notPending active
    have fresh : gateway.execution.restingOrder.cancelPending = false := by
      by_contra pending
      have done := coherent.rejectFirst active (by simpa using pending) rejects.2
      simp [rejects.1] at done
    refine ⟨unpending, .inr ⟨⟨active, rfl, fresh⟩, ?_⟩⟩
    have after := @ticksLeft_active { gateway with activeOrder := { gateway.activeOrder with
      cancelSent := false
      cancelRejectOnceDone := true } } unpending active
    rw [after, ticksLeft_active unpending active]
    simp [fresh, arrives.1, rejects.1, rejects.2, RejectsCancel]
  | matching active answer matched =>
    exact matching_descends coherent deadlines held active answer matched silent late

end Quiet

/-- Sending a cancel is the step that an unasked order waits for. -/
theorem sendCancel_left {gateway : Gateway} (unpending : gateway.pendingNew.active = false)
    (requestTsNs : TimestampNs) :
    ticksLeft (sendCancel gateway requestTsNs).2 ≤ ticksLeft gateway ∧
      (Unasked gateway → ticksLeft (sendCancel gateway requestTsNs).2 ≤ ticksLeft gateway - 1) := by
  rcases sendCancel_cases gateway requestTsNs with ⟨active, unsent, result⟩ | ⟨refused, result⟩
  · have after := @ticksLeft_active { gateway with activeOrder := { gateway.activeOrder with
      cancelSent := true
      cancelSendTsNs := requestTsNs + gateway.cancelSendLatencyNs } } unpending active
    have same : RejectsCancel { gateway.activeOrder with
        cancelSent := true
        cancelSendTsNs := requestTsNs + gateway.cancelSendLatencyNs } ↔
          RejectsCancel gateway.activeOrder := Iff.rfl
    rw [result, after, ticksLeft_active unpending active]
    simp only [same, if_true]
    constructor
    · split_ifs <;> omega
    · intro unasked
      simp only [unasked.unpending, unasked.unsent, Bool.false_eq_true, if_false]
      omega
  · rw [result]
    refine ⟨Nat.le_refl _, fun unasked => ?_⟩
    rcases refused with idle | sent
    · simp [unasked.active] at idle
    · simp [unasked.unsent] at sent

section Own
variable {config : ReplayConfig} {objects : ReplayObjects} {tick : MarketTick}
  {now : TimestampNs}

theorem tickEffect_silent (config : ReplayConfig) (objects : ReplayObjects)
    (silent : (strategy.onTick tick).hasOrder = false) :
    (tickEffect config tick objects).objects =
      (cancelPhase config tick
        (stopTimer (venuePhase tick (markObjects tick objects)).objects)).objects := by
  rw [tickEffect_eq]
  simp only [ownPhase, andThen_objects]
  rcases decisionPhase_cases config tick (cancelPhase config tick
      (stopTimer (venuePhase tick (markObjects tick objects)).objects)).objects with
    ⟨_, result⟩ | ⟨signal, _⟩ | ⟨signal, _⟩
  · rw [result]
  · simp [silent] at signal
  · simp [silent] at signal

/-- The order manager would let an unasked order be canceled. -/
theorem cancelable_of_unasked {gateway : Gateway} {order : Manager} (serves : Serves gateway order)
    (asked : Asked gateway order) (unasked : Unasked gateway) :
    order.state = .acked ∨ order.state = .partiallyFilled := by
  rcases serves.state with acked | part | waits
  · exact .inl acked
  · exact .inr part
  · rcases asked waits with sent | pending
    · simp [unasked.unsent] at sent
    · simp [unasked.unpending] at pending

/-- Every silent tick that comes late enough brings the order one step closer to its end. -/
theorem tick_descends (sound : Sound objects) (punctual : Punctual now objects)
    (held : HoldsOnly (Sent config) objects.gateway) (nonneg : NonNegative tick)
    (started : config.executionStyle = .passive → objects.orderManager.state.isLive = true →
      0 ≤ objects.passiveSubmitTs ∧ objects.passiveSubmitTs ≤ now)
    (silent : (strategy.onTick tick).hasOrder = false) (late : now + 1000 ≤ tick.receiveTsNs)
    (old : now + config.passiveCancelAfterNs ≤ tick.receiveTsNs) :
    ticksLeft (tickEffect config tick objects).objects.gateway ≤ ticksLeft objects.gateway - 1 := by
  obtain ⟨events, next, ticks, result⟩ := onTick_ticks sound.wellFormed.coherent tick
  obtain ⟨gateway, orderManager, _, passiveSubmitTs⟩ :=
    venuePhase_objects tick (markObjects tick objects)
  have same := CancelTimer.venuePhase_sameOrder tick (markObjects tick objects)
  have answered := sound.answered nonneg
  have asked := ticks_asked sound punctual.asked ticks
  obtain ⟨unpending, descends⟩ := ticks_descend ticks sound.wellFormed.coherent held
    punctual.deadlines silent late
  have marked : (markObjects tick objects).gateway = objects.gateway := rfl
  rw [marked, result] at gateway orderManager
  dsimp only at gateway orderManager
  rw [tickEffect_silent config objects silent]
  generalize (venuePhase tick (markObjects tick objects)).objects = venue at *
  obtain ⟨left, sends⟩ := sendCancel_left unpending tick.receiveTsNs
  obtain ⟨keptGateway, keptOrder, _, _⟩ := stopTimer_keeps venue
  by_cases unasked : Unasked next
  · have style : config.executionStyle = .passive := by
      cases style : config.executionStyle with
      | passive => rfl
      | aggressive =>
        have idle := (ticks_holdsOnly ticks sound.wellFormed.coherent held).1.idle
          fun _ sent => sent.1.trans style
        simp [unasked.active] at idle
    have active : venue.gateway.activeOrder.active = true := gateway ▸ unasked.active
    have unsent : venue.gateway.activeOrder.cancelSent = false := gateway ▸ unasked.unsent
    have venueAsked : Asked venue.gateway venue.orderManager := by
      rw [gateway, orderManager]
      exact asked
    have state := cancelable_of_unasked (answered.serves active) venueAsked (gateway ▸ unasked)
    obtain ⟨live, timer⟩ := same.live (OrderState.live_of_cancelable state)
    obtain ⟨positive, earlier⟩ := started style live
    have timed : venue.passiveSubmitTs = objects.passiveSubmitTs := timer
    have ripe : Ripe config tick venue := by
      refine ⟨style, state, ?_, active, unsent⟩
      rw [timed]
      linarith
    rw [stopTimer_open state, cancelPhase_fires ripe (timed ▸ positive), gateway]
    have step := sends unasked
    rcases descends with fewer | ⟨_, most⟩
    · exact left.trans fewer
    · exact step.trans (Nat.sub_le_sub_right most 1)
  · rcases descends with fewer | ⟨waits, _⟩
    · rcases cancelPhase_cases config tick (stopTimer venue) with ⟨_, _, _, sent⟩ | kept
      · rw [sent, keptGateway, gateway]
        exact left.trans fewer
      · rw [kept, keptGateway, gateway]
        exact fewer
    · exact absurd waits unasked

end Own

section Run
variable {env : ReplayEnv} {config : ReplayConfig} {tickCount : Nat}

theorem run_punctual {ticks : List MarketTick} {now : TimestampNs}
    (nonneg : ∀ tick ∈ ticks, NonNegative tick)
    (reached : ∀ tick ∈ ticks, tick.receiveTsNs ≤ now) :
    Punctual now (stateAfter env config tickCount ticks).objects := by
  have start : Punctual now (initialState tickCount).objects :=
    ⟨⟨rfl, nofun, nofun, nofun⟩, nofun⟩
  have both := (machine env config).run_invariant
    (fun s => Sound s.objects ∧ Punctual now s.objects)
    (fun tick => NonNegative tick ∧ tick.receiveTsNs ≤ now) (s := initialState tickCount)
    ⟨initialObjects_sound, start⟩ ?_ ticks
    (fun tick member => ⟨nonneg tick member, reached tick member⟩)
  · exact both.2
  · rintro s tick ⟨sound, punctual⟩ ⟨nonneg, reached⟩
    exact ⟨tickEffect_sound sound config nonneg,
      tick_punctual sound punctual nonneg reached config⟩

theorem run_held {ticks : List MarketTick} (valid : ∀ tick ∈ ticks, ValidTick tick) :
    HoldsOnly (Sent config) (stateAfter env config tickCount ticks).objects.gateway :=
  run_holdsOnly (fun _ valid => valid.nonNegative)
    (fun _ valid signal _ => ⟨rfl, fun passive => orderToSend_atSignal passive valid signal⟩)
    tickCount valid

theorem run_started {ticks : List MarketTick} {now : TimestampNs}
    (nonneg : ∀ tick ∈ ticks, NonNegative tick) (clock : ∀ tick ∈ ticks, 0 ≤ tick.receiveTsNs)
    (reached : ∀ tick ∈ ticks, tick.receiveTsNs ≤ now)
    (passive : config.executionStyle = .passive)
    (live : (stateAfter env config tickCount ticks).objects.orderManager.state.isLive = true) :
    0 ≤ (stateAfter env config tickCount ticks).objects.passiveSubmitTs ∧
      (stateAfter env config tickCount ticks).objects.passiveSubmitTs ≤ now := by
  have timed := @CancelTimer.run_timed env config tickCount ticks nonneg
  obtain ⟨earlier, origin, between, split, _, timer⟩ := timed.timer passive live
  have member : origin ∈ ticks := by
    rw [split]
    simp
  rw [timer]
  exact ⟨clock origin member, reached origin member⟩

/-- Far enough apart for every latency of the venue, and for the cancel timer. -/
def Spaced (config : ReplayConfig) (earlier later : MarketTick) : Prop :=
  earlier.receiveTsNs + 1000 ≤ later.receiveTsNs ∧
    earlier.receiveTsNs + config.passiveCancelAfterNs ≤ later.receiveTsNs

instance (config : ReplayConfig) (earlier later : MarketTick) :
    Decidable (Spaced config earlier later) :=
  inferInstanceAs (Decidable (_ ∧ _))

/-- Spaced silent ticks count the steps down. -/
theorem run_left {earlier after : List MarketTick} {origin : MarketTick}
    (valid : ValidTicks (earlier ++ origin :: after))
    (clock : ∀ tick ∈ earlier ++ origin :: after, 0 ≤ tick.receiveTsNs)
    (silent : ∀ tick ∈ after, (strategy.onTick tick).hasOrder = false)
    (spaced : (origin :: after).IsChain (Spaced config)) :
    ticksLeft (stateAfter env config tickCount (earlier ++ origin :: after)).objects.gateway ≤
      ticksLeft (stateAfter env config tickCount (earlier ++ [origin])).objects.gateway -
        after.length := by
  induction after generalizing earlier origin with
  | nil => exact Nat.le_refl _
  | cons tick rest ih =>
    have shape : earlier ++ origin :: tick :: rest = earlier ++ [origin] ++ tick :: rest := by simp
    rw [shape] at valid clock ⊢
    obtain ⟨apart, later⟩ := List.isChain_cons_cons.1 spaced
    have counted := ih valid clock (fun other member => silent other (by simp [member])) later
    have before : ∀ other ∈ earlier ++ [origin], other ∈ earlier ++ [origin] ++ tick :: rest :=
      fun other member => List.mem_append_left _ member
    have nonneg : ∀ other ∈ earlier ++ [origin], NonNegative other :=
      fun other member => (valid.rows other (before other member)).nonNegative
    have reached : ∀ other ∈ earlier ++ [origin], other.receiveTsNs ≤ origin.receiveTsNs := by
      intro other member
      rcases List.mem_append.1 member with old | last
      · exact (List.pairwise_append.1 (List.pairwise_append.1 valid.ordered).1).2.2 other old
          origin (List.mem_singleton_self origin)
      · rw [List.mem_singleton.1 last]
    have step := tick_descends (run_sound env config tickCount nonneg)
      (run_punctual nonneg reached)
      (run_held fun other member => valid.rows other (before other member))
      (valid.rows tick (by simp)).nonNegative
      (run_started nonneg (fun other member => clock other (before other member)) reached)
      (silent tick (by simp)) apart.1 apart.2
    have next : (stateAfter env config tickCount (earlier ++ [origin] ++ [tick])).objects =
        (tickEffect config tick
          (stateAfter env config tickCount (earlier ++ [origin])).objects).objects := by
      rw [stateAfter_append]
      rfl
    rw [← next] at step
    rw [List.length_cons]
    omega

/-- The ticks it can take: an aggressive order needs its answer only. -/
def settlingTicks : ExecutionStyle → Nat
  | .aggressive => 1
  | .passive => 4

theorem ticksLeft_held {gateway : Gateway} (held : HoldsOnly (Sent config) gateway) :
    ticksLeft gateway ≤ settlingTicks config.executionStyle := by
  cases style : config.executionStyle with
  | passive => exact ticksLeft_le gateway
  | aggressive =>
    have idle := held.idle fun _ sent => sent.1.trans style
    unfold ticksLeft
    split_ifs with waits passive
    · simp [(held.pending waits).1, style] at passive
    · exact Nat.le_refl 1
    · exact Nat.zero_le 1
    all_goals simp_all

theorem idle_of_ticksLeft {gateway : Gateway} (none : ticksLeft gateway = 0) :
    gateway.pendingNew.active = false ∧ gateway.activeOrder.active = false := by
  cases pending : gateway.pendingNew.active with
  | true =>
    simp only [ticksLeft, pending, if_true] at none
    split_ifs at none
  | false =>
    cases active : gateway.activeOrder.active with
    | true =>
      rw [ticksLeft_active pending active] at none
      split_ifs at none
    | false => exact ⟨rfl, rfl⟩

/-- The venue holds no order. The order manager's has ended too, unless the venue
closed it behind its back. -/
structure AtRest (objects : ReplayObjects) : Prop where
  pending : objects.gateway.pendingNew.active = false
  active : objects.gateway.activeOrder.active = false
  resting : objects.gateway.execution.restingOrder.active = false
  order : objects.orderManager.state.isLive = false ∨
    Stranded objects.gateway objects.orderManager

/-- A replay winds itself down. Whatever it has done before, four ticks without a
signal that are spaced by the cancel timer and the venue's latencies leave no
order at the venue, and one such tick does for aggressive orders. -/
theorem run_winds_down (env : ReplayEnv) (config : ReplayConfig) (tickCount : Nat)
    (earlier : List MarketTick) (origin : MarketTick) (after : List MarketTick)
    (valid : ValidTicks (earlier ++ origin :: after))
    (clock : ∀ tick ∈ earlier ++ origin :: after, 0 ≤ tick.receiveTsNs)
    (silent : ∀ tick ∈ after, (strategy.onTick tick).hasOrder = false)
    (spaced : (origin :: after).IsChain (Spaced config))
    (enough : settlingTicks config.executionStyle ≤ after.length) :
    AtRest (stateAfter env config tickCount (earlier ++ origin :: after)).objects := by
  have before : ∀ tick ∈ earlier ++ [origin], tick ∈ earlier ++ origin :: after := by
    intro tick member
    rcases List.mem_append.1 member with old | last
    · exact List.mem_append_left _ old
    · rw [List.mem_singleton.1 last]
      simp
  have beforeHeld := @run_held env config tickCount _
    (fun tick member => valid.rows tick (before tick member))
  have most := ticksLeft_held beforeHeld
  have left := @run_left env config tickCount _ _ _ valid clock silent spaced
  obtain ⟨pending, active⟩ := idle_of_ticksLeft (show ticksLeft (stateAfter env config tickCount
    (earlier ++ origin :: after)).objects.gateway = 0 by omega)
  have sound := run_sound env config tickCount valid.nonNegative
  refine ⟨pending, active, sound.wellFormed.resting.trans active, ?_⟩
  rcases sound.linked with paired | stranded
  · cases paired with
    | free unpending idle ended => exact .inl ended
    | pending waits requests => simp [pending] at waits
    | active serving serves => simp [active] at serving
  · exact .inr stranded

theorem run_winds_down_unfilled :
    AtRest (stateAfter quietEnv ⟨.sync, .passive, 300⟩ 5
      ([] ++ ⟨1000, 1000, 99900, 100000, 1, 0, 10⟩ ::
        [⟨2000, 2000, 100100, 100200, 1, 10, 10⟩, ⟨3000, 3000, 100100, 100200, 1, 10, 10⟩,
          ⟨4000, 4000, 100100, 100200, 1, 10, 10⟩,
          ⟨5000, 5000, 100100, 100200, 1, 10, 10⟩])).objects :=
  run_winds_down quietEnv ⟨.sync, .passive, 300⟩ 5 [] _ _
    ⟨by decide, by decide, by decide⟩ (by decide) (by decide) (by decide) (by decide)

end Run

end TradingKernel.WindDown
