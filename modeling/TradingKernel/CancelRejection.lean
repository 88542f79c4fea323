import TradingKernel.GatewayGrammar

/-!
What a rejected cancel costs. Up to the tick that carries the reject, a gateway
with the cancel and one without it do the same; on that tick the rejecting
gateway returns before it matches, so the two part exactly when the tick would
have traded with the resting order or with the queue ahead of it.
-/

namespace TradingKernel.CancelRejection
open Library MockVenueGateway GatewayInvariant GatewayGrammar
open OrderManager (VenueEvent)
open ExecutionSimulator (Simulator isMarketable visibleOppositeQty reachableQty queueAfter
  queueConsumed)

def Reply.fills : Reply → List VenueEvent
  | .batch batch => ofType .fill batch.events
  | .accepted _ => []

/-- The fill events of each of some ticks in a row. -/
def tickFills (gateway : Gateway) (ticks : List MarketTick) : List (List VenueEvent) :=
  (machine.history gateway (ticks.map .onTick)).map fun step => Reply.fills step.2

def runTicks (gateway : Gateway) (ticks : List MarketTick) : Gateway :=
  machine.run gateway (ticks.map .onTick)

/-- The cancel makes no difference to matching on these ticks. -/
def Unaffected (gateway : Gateway) (requestTsNs : TimestampNs) (ticks : List MarketTick) : Prop :=
  tickFills (sendCancel gateway requestTsNs).2 ticks = tickFills gateway ticks ∧
    (runTicks (sendCancel gateway requestTsNs).2 ticks).execution =
      (runTicks gateway ticks).execution

/-- The tick answers the cancel with a reject. -/
def Rejects (gateway : Gateway) (tick : MarketTick) : Prop :=
  ∃ event ∈ (onTick gateway tick).1.events, event.type = .cancelReject

/-- The tick would trade with the resting order or with the queue ahead of it. -/
def WouldTrade (sim : Simulator) (tick : MarketTick) : Prop :=
  isMarketable sim tick = true ∧ 0 < visibleOppositeQty sim tick

instance (sim : Simulator) (tick : MarketTick) : Decidable (WouldTrade sim tick) :=
  inferInstanceAs (Decidable (_ ∧ _))

/-- The gateway with a cancel on its way that reaches the venue at `sendTsNs`. -/
def marked (gateway : Gateway) (sendTsNs : TimestampNs) : Gateway :=
  { gateway with activeOrder := { gateway.activeOrder with
    cancelSent := true
    cancelSendTsNs := sendTsNs } }

@[simp] theorem runTicks_nil (gateway : Gateway) : runTicks gateway [] = gateway := rfl

@[simp] theorem runTicks_cons (gateway : Gateway) (tick : MarketTick) (rest : List MarketTick) :
    runTicks gateway (tick :: rest) = runTicks (onTick gateway tick).2 rest := rfl

theorem runTicks_append (gateway : Gateway) (first second : List MarketTick) :
    runTicks gateway (first ++ second) = runTicks (runTicks gateway first) second := by
  rw [runTicks, List.map_append, machine.run_append]
  rfl

@[simp] theorem tickFills_nil (gateway : Gateway) : tickFills gateway [] = [] := rfl

@[simp] theorem tickFills_cons (gateway : Gateway) (tick : MarketTick) (rest : List MarketTick) :
    tickFills gateway (tick :: rest) =
      ofType .fill (onTick gateway tick).1.events :: tickFills (onTick gateway tick).2 rest := rfl

theorem tickFills_append (gateway : Gateway) (first second : List MarketTick) :
    tickFills gateway (first ++ second) =
      tickFills gateway first ++ tickFills (runTicks gateway first) second := by
  rw [tickFills, List.map_append, machine.history_append, List.map_append]
  rfl

theorem runTicks_coherent {gateway : Gateway} (coherent : Coherent gateway)
    (ticks : List MarketTick) : Coherent (runTicks gateway ticks) := by
  induction ticks generalizing gateway with
  | nil => exact coherent
  | cons tick rest ih => exact ih (onTick_coherent coherent tick)

/-- A cancel is on its way to the venue for an order that is still active. -/
def InFlight (gateway : Gateway) : Prop :=
  gateway.activeOrder.active = true ∧ gateway.activeOrder.cancelSent = true

theorem matches_cancelSent {gateway next : Gateway} {tick : MarketTick}
    {events : List VenueEvent} (matched : Matches gateway tick events next) :
    next.activeOrder.cancelSent = gateway.activeOrder.cancelSent := by
  cases matched <;> rfl

/-- Ticks send no cancels, and one that arrives is no longer on its way. -/
theorem onTick_inFlight {gateway : Gateway} (coherent : Coherent gateway) {tick : MarketTick}
    (after : InFlight (onTick gateway tick).2) :
    InFlight gateway ∧ ¬CancelArrives gateway tick := by
  obtain ⟨events, next, ticks, result⟩ := onTick_ticks coherent tick
  rw [result] at after
  obtain ⟨active, sent⟩ := after
  cases ticks with
  | quiet early idle => simp [idle] at active
  | newReject due reject => exact absurd due (coherent.notDue active tick)
  | ioc due accepted style => cases active
  | passive due accepted style matched => cases (matches_cancelSent matched).symm.trans sent
  | cancelReject _ arrives rejects => cases sent
  | matching active answer matched =>
    rw [matches_cancelSent matched, forwarded] at sent
    split_ifs at sent with arrives
    exact ⟨⟨active, sent⟩, arrives⟩

theorem runTicks_inFlight {gateway : Gateway} (coherent : Coherent gateway)
    {ticks : List MarketTick} (after : InFlight (runTicks gateway ticks)) : InFlight gateway := by
  induction ticks generalizing gateway with
  | nil => exact after
  | cons tick rest ih =>
    exact (onTick_inFlight coherent (ih (onTick_coherent coherent tick) after)).1

theorem closeActiveOrderIfDone_marked (gateway : Gateway) (sendTsNs : TimestampNs) :
    closeActiveOrderIfDone (marked gateway sendTsNs) =
      marked (closeActiveOrderIfDone gateway) sendTsNs := by
  unfold closeActiveOrderIfDone
  by_cases done : (gateway.activeOrder.active && gateway.activeOrder.leavesQty = 0 &&
      !gateway.execution.restingOrder.active) = true
  · rw [if_pos done]
    exact if_pos done
  · rw [if_neg done]
    exact if_neg done

/-- The gateway between the simulator's report and the closing check. -/
def reported (gateway : Gateway) (tick : MarketTick) : Gateway :=
  { gateway with
    activeOrder := { gateway.activeOrder with
      leavesQty := (ExecutionSimulator.onTick gateway.execution tick).1.leavesQty }
    execution := (ExecutionSimulator.onTick gateway.execution tick).2 }

theorem matchResting_busy {gateway : Gateway}
    (busy : (gateway.activeOrder.active || gateway.execution.restingOrder.active) = true)
    (tick : MarketTick) (batch : VenueEventBatch) :
    matchResting gateway tick batch =
      (applyExecutionReport (reported gateway tick) batch
        (ExecutionSimulator.onTick gateway.execution tick).1 tick.receiveTsNs,
        closeActiveOrderIfDone (reported gateway tick)) :=
  if_pos busy

/-- Matching does not look at the cancel flags. -/
theorem matchResting_marked (gateway : Gateway) (sendTsNs : TimestampNs) (tick : MarketTick)
    (batch : VenueEventBatch) :
    matchResting (marked gateway sendTsNs) tick batch =
      ((matchResting gateway tick batch).1,
        marked (matchResting gateway tick batch).2 sendTsNs) := by
  by_cases busy : (gateway.activeOrder.active || gateway.execution.restingOrder.active) = true
  · have other := @matchResting_busy (marked gateway sendTsNs) busy tick batch
    rw [matchResting_busy busy, other, ← closeActiveOrderIfDone_marked]
    rfl
  · rw [matchResting, matchResting, if_neg busy]
    exact if_neg busy

/-- With nothing pending and no cancel on its way, a tick only matches. -/
theorem onTick_plain {gateway : Gateway} (unpending : gateway.pendingNew.active = false)
    (unsent : gateway.activeOrder.cancelSent = false) (tick : MarketTick) :
    onTick gateway tick = matchResting gateway tick .empty := by
  simp [onTick, cancelAndMatch, unpending, unsent]

/-- Until the cancel arrives, both gateways do the same. -/
theorem onTick_marked {gateway : Gateway} {sendTsNs : TimestampNs} {tick : MarketTick}
    (unpending : gateway.pendingNew.active = false)
    (unsent : gateway.activeOrder.cancelSent = false) (early : tick.receiveTsNs < sendTsNs) :
    onTick (marked gateway sendTsNs) tick =
      ((onTick gateway tick).1, marked (onTick gateway tick).2 sendTsNs) := by
  have late : ¬sendTsNs ≤ tick.receiveTsNs := Int.not_le.2 early
  rw [onTick_plain unpending unsent, ← matchResting_marked]
  simp [onTick, cancelAndMatch, marked, unpending, late]

theorem matchResting_keeps (gateway : Gateway) (tick : MarketTick) (batch : VenueEventBatch) :
    (matchResting gateway tick batch).2.pendingNew = gateway.pendingNew ∧
      (matchResting gateway tick batch).2.activeOrder.cancelSent =
        gateway.activeOrder.cancelSent ∧
      (matchResting gateway tick batch).2.activeOrder.side = gateway.activeOrder.side ∧
      (matchResting gateway tick batch).2.activeOrder.limitPrice =
        gateway.activeOrder.limitPrice := by
  simp only [matchResting, closeActiveOrderIfDone]
  split_ifs <;> exact ⟨rfl, rfl, rfl, rfl⟩

/-- The two gateways stay in lockstep while the cancel is on its way. -/
theorem runTicks_marked {gateway : Gateway} {sendTsNs : TimestampNs} {ticks : List MarketTick}
    (coherent : Coherent (marked gateway sendTsNs)) (unpending : gateway.pendingNew.active = false)
    (unsent : gateway.activeOrder.cancelSent = false)
    (inFlight : InFlight (runTicks (marked gateway sendTsNs) ticks)) :
    runTicks (marked gateway sendTsNs) ticks = marked (runTicks gateway ticks) sendTsNs ∧
      tickFills (marked gateway sendTsNs) ticks = tickFills gateway ticks := by
  induction ticks generalizing gateway with
  | nil => exact ⟨rfl, rfl⟩
  | cons tick rest ih =>
    have next := onTick_coherent coherent tick
    have still : InFlight (onTick (marked gateway sendTsNs) tick).2 := by
      apply runTicks_inFlight next
      exact inFlight
    obtain ⟨sent, early⟩ := onTick_inFlight coherent still
    have before : tick.receiveTsNs < sendTsNs := by
      by_contra late
      exact early ⟨rfl, Int.not_lt.1 late⟩
    have lockstep := onTick_marked unpending unsent before
    obtain ⟨pendingNew, cancelSent, _, _⟩ := matchResting_keeps gateway tick .empty
    rw [← onTick_plain unpending unsent tick] at pendingNew cancelSent
    rw [lockstep] at next
    rw [runTicks_cons, lockstep] at inFlight ⊢
    obtain ⟨runs, fills⟩ := ih next (by rw [pendingNew, unpending]) (by rw [cancelSent, unsent])
      inFlight
    exact ⟨runs, by rw [tickFills_cons, tickFills_cons, lockstep, fills]⟩

/-- Ticks that only match keep the terms of the active order. -/
theorem runTicks_keeps {gateway : Gateway} (unpending : gateway.pendingNew.active = false)
    (unsent : gateway.activeOrder.cancelSent = false) (ticks : List MarketTick) :
    (runTicks gateway ticks).activeOrder.cancelSent = false ∧
      (runTicks gateway ticks).activeOrder.side = gateway.activeOrder.side ∧
      (runTicks gateway ticks).activeOrder.limitPrice = gateway.activeOrder.limitPrice := by
  induction ticks generalizing gateway with
  | nil => exact ⟨unsent, rfl, rfl⟩
  | cons tick rest ih =>
    have keeps := matchResting_keeps gateway tick .empty
    rw [← onTick_plain unpending unsent tick] at keeps
    obtain ⟨pendingNew, cancelSent, side, limitPrice⟩ := keeps
    have later := ih (by rw [pendingNew, unpending]) (by rw [cancelSent, unsent])
    rwa [side, limitPrice] at later

theorem marked_coherent {gateway : Gateway} (coherent : Coherent gateway)
    (sendTsNs : TimestampNs) : Coherent (marked gateway sendTsNs) :=
  { coherent with }

/-- A batch with a cancel reject holds nothing else, and the tick stops there. -/
theorem onTick_rejects {gateway : Gateway} (coherent : Coherent gateway) {tick : MarketTick}
    (rejects : Rejects gateway tick) :
    InFlight gateway ∧ RejectsCancel gateway.activeOrder ∧
      ofType .fill (onTick gateway tick).1.events = [] ∧
      (onTick gateway tick).2.execution = gateway.execution := by
  obtain ⟨event, member, kind⟩ := rejects
  obtain ⟨events, next, ticks, result⟩ := onTick_ticks coherent tick
  have noReject : ∀ {gateway events}, Matches gateway tick events next → event ∈ events →
      event.type ≠ .cancelReject := by
    intro gateway events matched member
    cases matched with
    | fills reach fills => simp [List.mem_singleton.1 member]
    | cancelAcked reach due => simp [List.mem_singleton.1 member]
    | waits reach early => cases member
  rw [result] at member ⊢
  cases ticks with
  | quiet early idle => cases member
  | newReject due reject => simp [List.mem_singleton.1 member] at kind
  | ioc due accepted style => rcases mem_iocEvents member with rfl | rfl | rfl <;> cases kind
  | passive due accepted style matched =>
    rcases List.mem_cons.1 member with rfl | rest
    · cases kind
    · exact absurd kind (noReject matched rest)
  | cancelReject active arrives rejects => exact ⟨⟨active, arrives.1⟩, rejects, rfl, rfl⟩
  | matching active answer matched => exact absurd kind (noReject matched member)

section
variable {sim : Simulator} {tick : MarketTick}

/-- What a tick does to a resting order depends on the order's terms only. -/
theorem wouldTrade_congr {other : Simulator}
    (active : sim.restingOrder.active = other.restingOrder.active)
    (side : sim.restingOrder.side = other.restingOrder.side)
    (price : sim.restingOrder.price = other.restingOrder.price) :
    WouldTrade sim tick ↔ WouldTrade other tick := by
  simp only [WouldTrade, isMarketable, visibleOppositeQty, active, side, price]

theorem wouldTrade_of_reachable (visible : 0 ≤ visibleOppositeQty sim tick)
    (reach : 0 < reachableQty sim tick) : WouldTrade sim tick := by
  simp only [reachableQty, queueConsumed] at reach
  split_ifs at reach with market <;> first | exact ⟨market, by omega⟩ | omega

/-- A tick without reachable liquidity moves the queue exactly when it would trade. -/
theorem afterQueue_eq_iff (visible : 0 ≤ visibleOppositeQty sim tick)
    (reach : reachableQty sim tick ≤ 0) :
    ExecutionSimulator.afterQueue sim tick = sim ↔ ¬WouldTrade sim tick := by
  have queue : ExecutionSimulator.afterQueue sim tick = sim ↔
      queueAfter sim tick = sim.restingOrder.queueAheadQty := by
    constructor
    · exact fun same => congrArg (·.restingOrder.queueAheadQty) same
    · intro same
      simp [ExecutionSimulator.afterQueue, same]
  rw [queue]
  simp only [reachableQty, queueConsumed] at reach
  simp only [WouldTrade, queueAfter, queueConsumed]
  split_ifs at reach ⊢ with market ahead short
  · simp only [market, true_and]
    omega
  · simp only [market, true_and]
    omega
  · simp only [market, true_and]
    omega
  · simp [market]

end

/-- On the tick that carries the reject, the two gateways agree exactly when
the other one finds nothing to match. -/
theorem reject_agrees_iff {gateway : Gateway} {sendTsNs : TimestampNs} {last : MarketTick}
    (coherent : Coherent gateway) (unsent : gateway.activeOrder.cancelSent = false)
    (nonneg : NonNegative last) (rejects : Rejects (marked gateway sendTsNs) last) :
    (ofType .fill (onTick (marked gateway sendTsNs) last).1.events =
          ofType .fill (onTick gateway last).1.events ∧
        (onTick (marked gateway sendTsNs) last).2.execution =
          (onTick gateway last).2.execution) ↔
      ¬WouldTrade gateway.execution last := by
  obtain ⟨⟨active, _⟩, odd, noFill, unmoved⟩ :=
    onTick_rejects (marked_coherent coherent sendTsNs) rejects
  change gateway.activeOrder.active = true at active
  change RejectsCancel gateway.activeOrder at odd
  have visible : 0 ≤ visibleOppositeQty gateway.execution last :=
    nonneg.oppositeQty gateway.execution.restingOrder.side
  have notDue := coherent.notDue active last
  obtain ⟨events, next, ticks, result⟩ := onTick_ticks coherent last
  rw [noFill, unmoved, result]
  cases ticks with
  | quiet early idle => simp [idle] at active
  | newReject due reject => exact absurd due notDue
  | ioc due accepted style => exact absurd due notDue
  | passive due accepted style matched => exact absurd due notDue
  | cancelReject _ arrives _ => exact absurd arrives.1 (by simp [unsent])
  | matching _ answer matched =>
    have stays : forwarded gateway last = gateway :=
      if_neg fun arrives => absurd arrives.1 (by simp [unsent])
    rw [stays] at matched
    cases matched with
    | fills reach fills =>
      have trades := wouldTrade_of_reachable visible reach
      simp [ofType_cons, trades]
    | cancelAcked reach due =>
      have done := coherent.rejectFirst active due.1 odd.2
      simp [odd.1] at done
    | waits reach early =>
      rw [← afterQueue_eq_iff visible reach]
      simp [marked, eq_comm]

/-- A rejected cancel leaves matching alone exactly when the tick that carries
the reject would not trade with the resting order or its queue. -/
theorem reject_unaffected_iff (newAckLatencyNs cancelSendLatencyNs : TimestampNs)
    (calls : List Call) (requestTsNs : TimestampNs) (before : List MarketTick) (last : MarketTick)
    (accepted : (sendCancel (machine.run (create newAckLatencyNs cancelSendLatencyNs) calls)
      requestTsNs).1 = true)
    (nonneg : NonNegative last)
    (rejects : Rejects (runTicks (sendCancel (machine.run
      (create newAckLatencyNs cancelSendLatencyNs) calls) requestTsNs).2 before) last) :
    Unaffected (machine.run (create newAckLatencyNs cancelSendLatencyNs) calls) requestTsNs
        (before ++ [last]) ↔
      ¬WouldTrade (machine.run (create newAckLatencyNs cancelSendLatencyNs) calls).execution
        last := by
  have coherent := run_coherent newAckLatencyNs cancelSendLatencyNs calls
  generalize machine.run (create newAckLatencyNs cancelSendLatencyNs) calls = gateway at *
  rcases sendCancel_cases gateway requestTsNs with ⟨active, unsent, result⟩ | ⟨_, result⟩
  · have sent : (sendCancel gateway requestTsNs).2 =
        marked gateway (requestTsNs + gateway.cancelSendLatencyNs) := by rw [result]; rfl
    have unpending := coherent.notPending active
    have mark := marked_coherent coherent (requestTsNs + gateway.cancelSendLatencyNs)
    rw [sent] at rejects
    obtain ⟨inFlight, _⟩ := onTick_rejects (runTicks_coherent mark before) rejects
    obtain ⟨lockstep, fills⟩ := runTicks_marked mark unpending unsent inFlight
    obtain ⟨stillUnsent, side, price⟩ := runTicks_keeps unpending unsent before
    have after := runTicks_coherent coherent before
    rw [lockstep] at rejects inFlight
    have stillActive : (runTicks gateway before).activeOrder.active = true := inFlight.1
    have terms : WouldTrade gateway.execution last ↔
        WouldTrade (runTicks gateway before).execution last := by
      apply wouldTrade_congr
      · rw [coherent.resting, after.resting, active, stillActive]
      · rw [(coherent.order active).1, (after.order stillActive).1, side]
      · rw [(coherent.order active).2, (after.order stillActive).2, price]
    rw [terms, ← reject_agrees_iff after stillUnsent nonneg rejects, Unaffected, sent,
      tickFills_append, tickFills_append, runTicks_append, runTicks_append, lockstep, fills]
    simp
  · simp [result] at accepted

/-- Order 100001 trades 2 of its 5 while the cancel is on its way; the tick that
carries the reject offers it nothing. -/
theorem reject_unaffected_quietTick :
    Unaffected
      (machine.run (create 200 200)
        [.sendNew ⟨1, .buy, 1, 100000, .aggressive, 0⟩,
          .onTick ⟨200, 200, 99900, 100000, 1, 10, 20⟩,
          .sendNew ⟨2, .buy, 5, 99950, .passive, 300⟩,
          .onTick ⟨500, 500, 99900, 100000, 1, 10, 20⟩])
      600 ([⟨700, 700, 99900, 99950, 1, 10, 12⟩] ++ [⟨800, 800, 99900, 100000, 1, 10, 20⟩]) :=
  (reject_unaffected_iff 200 200 _ 600 [⟨700, 700, 99900, 99950, 1, 10, 12⟩] _ (by decide)
    ⟨by decide, by decide⟩ ⟨⟨.cancelReject, 800, 100001, 0, 0⟩, by decide, rfl⟩).2 (by decide)

/-- The same cancel on a tick that would have filled the order: without it the
order trades its 5, with it the tick returns before matching. -/
theorem reject_affects_marketableTick :
    ¬∀ (calls : List Call) (requestTsNs : TimestampNs) (before : List MarketTick)
      (last : MarketTick), (sendCancel (machine.run (create 200 200) calls) requestTsNs).1 = true →
      (∀ tick ∈ before ++ [last], NonNegative tick) →
      Rejects (runTicks (sendCancel (machine.run (create 200 200) calls) requestTsNs).2 before)
        last →
      Unaffected (machine.run (create 200 200) calls) requestTsNs (before ++ [last]) := by
  intro all
  have same := all
    [.sendNew ⟨1, .buy, 1, 100000, .aggressive, 0⟩,
      .onTick ⟨200, 200, 99900, 100000, 1, 10, 20⟩,
      .sendNew ⟨2, .buy, 5, 99950, .passive, 300⟩,
      .onTick ⟨500, 500, 99900, 100000, 1, 10, 20⟩]
    600 [] ⟨800, 800, 99800, 99950, 1, 10, 20⟩ (by decide)
    (List.forall_mem_singleton.2 ⟨by decide, by decide⟩)
    ⟨⟨.cancelReject, 800, 100001, 0, 0⟩, by decide, rfl⟩
  exact absurd same.1 (by decide)

end TradingKernel.CancelRejection
