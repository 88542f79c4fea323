import TradingKernel.GatewayGrammar

/-!
Latencies of the mock venue. A new order is answered by its first due tick and
by nothing earlier; an answer to a cancel never arrives before the cancel that
asked for it has covered its way to the venue.
-/

namespace TradingKernel.GatewayTiming
open Library MockVenueGateway GatewayInvariant GatewayGrammar
open OrderManager (VenueEvent)
open ExecutionSimulator (CancelDue)

/-- The answers to new orders among some events. -/
def newAnswers (events : List VenueEvent) : List VenueEvent :=
  ofType .newAck events ++ ofType .newReject events

@[simp] theorem newAnswers_nil : newAnswers [] = [] := rfl

theorem newAnswers_cons (event : VenueEvent) (events : List VenueEvent) :
    (newAnswers (event :: events)).length =
      (if event.type = .newAck ∨ event.type = .newReject then 1 else 0) +
        (newAnswers events).length := by
  cases kind : event.type <;> simp [newAnswers, ofType_cons, kind] <;> omega

theorem matches_newAnswers {gateway next : Gateway} {tick : MarketTick}
    {events : List VenueEvent} (matched : Matches gateway tick events next) :
    (newAnswers events).length = 0 := by
  cases matched <;> simp [newAnswers_cons]

/-- A due tick answers the pending order once, any other tick answers none. -/
theorem ticks_newAnswers {gateway next : Gateway} {tick : MarketTick} {events : List VenueEvent}
    (ticks : Ticks gateway tick events next) (coherent : Coherent gateway) :
    (newAnswers events).length = if AckDue gateway tick then 1 else 0 := by
  cases ticks with
  | quiet early idle => rw [if_neg early, newAnswers_nil, List.length_nil]
  | newReject due reject => simp [newAnswers_cons, due]
  | ioc due accepted style =>
    rw [if_pos due, iocEvents]
    split_ifs <;> simp [newAnswers_cons]
  | passive due accepted style matched =>
    simp [newAnswers_cons, matches_newAnswers matched, due]
  | cancelReject active arrives rejects => simp [newAnswers_cons, coherent.notDue active]
  | matching active answer matched =>
    simp [matches_newAnswers matched, coherent.notDue active]

theorem ticks_unpending {gateway next : Gateway} {tick : MarketTick} {events : List VenueEvent}
    (ticks : Ticks gateway tick events next) (coherent : Coherent gateway)
    (due : AckDue gateway tick) : next.pendingNew.active = false := by
  cases ticks with
  | quiet early idle => exact absurd due early
  | newReject _ reject => rfl
  | ioc _ accepted style => rfl
  | passive _ accepted style matched => exact congrArg (·.active) (matches_pendingNew matched)
  | cancelReject active arrives rejects => exact absurd due (coherent.notDue active tick)
  | matching active answer matched => exact absurd due (coherent.notDue active tick)

/-- The reply of a call that found nothing to do. -/
def Silent : Reply → Prop
  | .accepted ok => ok = false
  | .batch batch => batch = .empty

/-- The call is a tick at or after `ready`. -/
def Due (ready : TimestampNs) : Call → Prop
  | .onTick tick => ready ≤ tick.receiveTsNs
  | _ => False

/-- Until a due tick arrives, a pending order keeps the gateway exactly as it is. -/
theorem pending_waits {gateway : Gateway} (coherent : Coherent gateway)
    (pending : gateway.pendingNew.active = true) {call : Call}
    (early : ¬Due gateway.pendingNew.ackReadyTsNs call) :
    Silent (machine.step gateway call).1 ∧ (machine.step gateway call).2 = gateway := by
  cases call with
  | sendNew request =>
    rcases sendNew_cases gateway request with ⟨_, unpending, _⟩ | ⟨_, result⟩
    · simp [pending] at unpending
    · simp [machine, result, Silent]
  | sendCancel requestTsNs =>
    rcases sendCancel_cases gateway requestTsNs with ⟨active, _⟩ | ⟨_, result⟩
    · simp [coherent.exclusive pending] at active
    · simp [machine, result, Silent]
  | onTick tick =>
    have notDue : ¬AckDue gateway tick := fun due => early due.2
    obtain ⟨events, next, ticks, result⟩ := onTick_ticks coherent tick
    simp only [machine, result]
    cases ticks with
    | quiet _ idle => exact ⟨rfl, rfl⟩
    | newReject due reject => exact absurd due notDue
    | ioc due accepted style => exact absurd due notDue
    | passive due accepted style matched => exact absurd due notDue
    | cancelReject active arrives rejects => simp [coherent.exclusive pending] at active
    | matching active answer matched => simp [coherent.exclusive pending] at active

theorem run_waits {gateway : Gateway} (coherent : Coherent gateway)
    (pending : gateway.pendingNew.active = true) {middle : List Call}
    (early : ∀ call ∈ middle, ¬Due gateway.pendingNew.ackReadyTsNs call) :
    machine.run gateway middle = gateway ∧
      ∀ step ∈ machine.history gateway middle, Silent step.2 := by
  induction middle with
  | nil => exact ⟨rfl, by simp⟩
  | cons call rest ih =>
    obtain ⟨silent, same⟩ := pending_waits coherent pending (early call (by simp))
    obtain ⟨runs, others⟩ := ih fun other member => early other (by simp [member])
    rw [machine.run_cons, machine.history_cons, same]
    exact ⟨runs, List.forall_mem_cons.2 ⟨silent, others⟩⟩

/-- What an active order's cancel flags say about the cancels that were made:
`made id deadline` is that one for the order has covered its way by `deadline`. -/
structure Cancels (made : Int → TimestampNs → Prop) (gateway : Gateway) : Prop where
  sent : gateway.activeOrder.active = true → gateway.activeOrder.cancelSent = true →
    made gateway.activeOrder.venueOrderId gateway.activeOrder.cancelSendTsNs
  forwarded : gateway.activeOrder.active = true →
    gateway.execution.restingOrder.cancelPending = true →
      made gateway.activeOrder.venueOrderId
        (gateway.execution.restingOrder.cancelEffectiveTsNs - gateway.execution.cancelLatencyNs)

section
variable {made : Int → TimestampNs → Prop} {gateway next : Gateway} {tick : MarketTick}
  {events : List VenueEvent}

theorem Cancels.weaken {wider : Int → TimestampNs → Prop} (cancels : Cancels made gateway)
    (weaker : ∀ venueOrderId deadline, made venueOrderId deadline → wider venueOrderId deadline) :
    Cancels wider gateway :=
  ⟨fun active sent => weaker _ _ (cancels.sent active sent),
    fun active pending => weaker _ _ (cancels.forwarded active pending)⟩

theorem Cancels.idle (inactive : gateway.activeOrder.active = false) : Cancels made gateway := by
  constructor
  · simp [inactive]
  · simp [inactive]

/-- Forwarding a cancel hands its deadline to the simulator. -/
theorem forwarded_cancels (cancels : Cancels made gateway)
    (later : ∀ {venueOrderId : Int} {deadline after : TimestampNs}, deadline ≤ after →
      made venueOrderId deadline → made venueOrderId after)
    (tick : MarketTick) : Cancels made (forwarded gateway tick) := by
  unfold forwarded
  split_ifs with arrives
  · constructor
    · simp
    · intro active pending
      simp only [ExecutionSimulator.requestCancel_cancelLatency,
        ExecutionSimulator.requestCancel_restingOrder] at pending ⊢
      split_ifs at pending ⊢ with fresh
      · apply later _ (cancels.sent active arrives.1)
        exact le_of_le_of_eq arrives.2 (Int.add_sub_cancel ..).symm
      · exact cancels.forwarded active pending
  · exact cancels

theorem matches_cancels (matched : Matches gateway tick events next)
    (cancels : Cancels made gateway) (active : gateway.activeOrder.active = true) :
    Cancels made next := by
  cases matched with
  | fills reach fills =>
    constructor
    · exact fun _ => cancels.sent active
    · intro _ pending
      simp only [fills.resting, fills.cancelLatency, ExecutionSimulator.RestingOrder.afterFill]
        at pending ⊢
      exact cancels.forwarded active (Bool.and_elim_left pending)
  | cancelAcked reach due => exact .idle rfl
  | waits reach early => exact ⟨cancels.sent, cancels.forwarded⟩

theorem ticks_cancels (ticks : Ticks gateway tick events next) (cancels : Cancels made gateway)
    (coherent : Coherent gateway)
    (later : ∀ {venueOrderId : Int} {deadline after : TimestampNs}, deadline ≤ after →
      made venueOrderId deadline → made venueOrderId after) : Cancels made next := by
  cases ticks with
  | quiet early idle => exact cancels
  | newReject due reject => exact .idle (coherent.exclusive due.1)
  | ioc due accepted style => exact .idle rfl
  | passive due accepted style matched =>
    apply matches_cancels matched _ rfl
    constructor
    · simp [acknowledged]
    · simp [acknowledged]
  | cancelReject active arrives rejects =>
    constructor
    · simp
    · exact cancels.forwarded
  | matching active answer matched =>
    exact matches_cancels matched (forwarded_cancels cancels later tick)
      ((forwarded_active gateway tick).trans active)

/-- An answer to a cancel comes no earlier than some cancel of its order allows. -/
structure Honest (made : Int → TimestampNs → Prop) (cancelLatencyNs : TimestampNs)
    (tick : MarketTick) (event : VenueEvent) : Prop where
  atTick : event.tsNs = tick.receiveTsNs
  rejected : event.type = .cancelReject → made event.venueOrderId tick.receiveTsNs
  acked : event.type = .cancelAck →
    made event.venueOrderId (tick.receiveTsNs - cancelLatencyNs)

theorem matches_honest (matched : Matches gateway tick events next)
    (active : gateway.activeOrder.active = true) (cancels : Cancels made gateway)
    (later : ∀ {venueOrderId : Int} {deadline after : TimestampNs}, deadline ≤ after →
      made venueOrderId deadline → made venueOrderId after) :
    ∀ event ∈ events, Honest made gateway.execution.cancelLatencyNs tick event := by
  intro event member
  cases matched with
  | fills reach fills =>
    rw [List.mem_singleton.1 member]
    exact ⟨rfl, by simp, by simp⟩
  | cancelAcked reach due =>
    rw [List.mem_singleton.1 member]
    have arrived := later (Int.sub_le_sub_right due.2 gateway.execution.cancelLatencyNs)
      (cancels.forwarded active due.1)
    exact ⟨rfl, by simp, fun _ => arrived⟩
  | waits reach early => cases member

theorem ticks_honest (ticks : Ticks gateway tick events next) (cancels : Cancels made gateway)
    (later : ∀ {venueOrderId : Int} {deadline after : TimestampNs}, deadline ≤ after →
      made venueOrderId deadline → made venueOrderId after) :
    ∀ event ∈ events, Honest made gateway.execution.cancelLatencyNs tick event := by
  intro event member
  cases ticks with
  | quiet early idle => cases member
  | newReject due reject =>
    rw [List.mem_singleton.1 member]
    exact ⟨rfl, by simp, by simp⟩
  | ioc due accepted style =>
    rcases mem_iocEvents member with rfl | rfl | rfl
    · exact ⟨rfl, by simp, by simp⟩
    · exact ⟨rfl, by simp, by simp⟩
    · exact ⟨rfl, by simp, by simp⟩
  | passive due accepted style matched =>
    rcases List.mem_cons.1 member with rfl | rest
    · exact ⟨rfl, by simp, by simp⟩
    · have none : Cancels made (acknowledged gateway tick) :=
        ⟨by simp [acknowledged], by simp [acknowledged]⟩
      exact matches_honest matched rfl none later event rest
  | cancelReject active arrives rejects =>
    rw [List.mem_singleton.1 member]
    exact ⟨rfl, fun _ => later arrives.2 (cancels.sent active arrives.1), by simp⟩
  | matching active answer matched =>
    rw [← forwarded_cancelLatency gateway tick]
    exact matches_honest matched ((forwarded_active gateway tick).trans active)
      (forwarded_cancels cancels later tick) later event member

end

/-- A cancel of the order was accepted and has covered its way by `deadline`. -/
def CancelMade (start : Gateway) (before : List Call) (venueOrderId : Int)
    (deadline : TimestampNs) : Prop :=
  ∃ earlier requestTsNs middle, before = earlier ++ .sendCancel requestTsNs :: middle ∧
    (sendCancel (machine.run start earlier) requestTsNs).1 = true ∧
    (machine.run start earlier).activeOrder.venueOrderId = venueOrderId ∧
    requestTsNs + start.cancelSendLatencyNs ≤ deadline

/-- The last accepted order of the run, still without a due tick; its answer is
due at `ready`. -/
def Unanswered (start : Gateway) (before : List Call) (ready : TimestampNs) : Prop :=
  ∃ earlier request middle, before = earlier ++ .sendNew request :: middle ∧
    (sendNew (machine.run start earlier) request).1 = true ∧
    request.submitTsNs + start.newAckLatencyNs = ready ∧
    ∀ call ∈ middle, ¬Due ready call

section
variable {start : Gateway} {before : List Call}

theorem CancelMade.later {venueOrderId : Int} {deadline after : TimestampNs}
    (later : deadline ≤ after) (made : CancelMade start before venueOrderId deadline) :
    CancelMade start before venueOrderId after := by
  obtain ⟨earlier, requestTsNs, middle, split, accepted, named, early⟩ := made
  exact ⟨earlier, requestTsNs, middle, split, accepted, named, early.trans later⟩

theorem CancelMade.extend (call : Call) (venueOrderId : Int) (deadline : TimestampNs)
    (made : CancelMade start before venueOrderId deadline) :
    CancelMade start (before ++ [call]) venueOrderId deadline := by
  obtain ⟨earlier, requestTsNs, middle, split, rest⟩ := made
  exact ⟨earlier, requestTsNs, middle ++ [call], by simp [split], rest⟩

theorem Unanswered.extend {ready : TimestampNs} (unanswered : Unanswered start before ready)
    {call : Call} (early : ¬Due ready call) : Unanswered start (before ++ [call]) ready := by
  obtain ⟨earlier, request, middle, split, accepted, answer, waits⟩ := unanswered
  refine ⟨earlier, request, middle ++ [call], by simp [split], accepted, answer, ?_⟩
  exact List.forall_mem_append.2 ⟨waits, List.forall_mem_singleton.2 early⟩

end

/-- How a reachable gateway depends on the calls that led to it. -/
structure Timed (start : Gateway) (before : List Call) (gateway : Gateway) : Prop where
  coherent : Coherent gateway
  fixed : settings gateway = settings start
  pending : gateway.pendingNew.active = true →
    Unanswered start before gateway.pendingNew.ackReadyTsNs
  cancels : Cancels (CancelMade start before) gateway

theorem onTick_unpending {gateway : Gateway} (coherent : Coherent gateway) {tick : MarketTick}
    (pending : (onTick gateway tick).2.pendingNew.active = true) :
    ¬AckDue gateway tick ∧ (onTick gateway tick).2.pendingNew = gateway.pendingNew := by
  obtain ⟨events, next, ticks, result⟩ := onTick_ticks coherent tick
  rw [result] at pending ⊢
  have early : ¬AckDue gateway tick := fun due => by
    simp [ticks_unpending ticks coherent due] at pending
  refine ⟨early, ?_⟩
  cases ticks with
  | quiet _ idle => rfl
  | newReject due reject => exact absurd due early
  | ioc due accepted style => exact absurd due early
  | passive due accepted style matched => exact absurd due early
  | cancelReject active arrives rejects => rfl
  | matching active answer matched =>
    exact (matches_pendingNew matched).trans (forwarded_pendingNew gateway tick)

section
variable {start : Gateway} {before : List Call}

theorem sendNew_timed (timed : Timed start before (machine.run start before))
    (request : GatewayNewOrder) :
    Timed start (before ++ [.sendNew request])
      (sendNew (machine.run start before) request).2 := by
  have coherent := sendNew_coherent timed.coherent request
  have latency : (machine.run start before).newAckLatencyNs = start.newAckLatencyNs :=
    congrArg (·.1) timed.fixed
  have cancels := timed.cancels.weaken (CancelMade.extend (.sendNew request))
  rcases sendNew_cases (machine.run start before) request with
    ⟨_, _, idle, result⟩ | ⟨_, result⟩
  · have accepted := congrArg (·.1) result
    rw [result] at coherent ⊢
    refine ⟨coherent, timed.fixed, fun _ => ?_, .idle idle⟩
    exact ⟨before, request, [], rfl, accepted, by simp only [latency], by simp⟩
  · rw [result] at coherent ⊢
    refine ⟨coherent, timed.fixed, fun pending => ?_, cancels⟩
    exact (timed.pending pending).extend (fun due => due)

theorem sendCancel_timed (timed : Timed start before (machine.run start before))
    (requestTsNs : TimestampNs) :
    Timed start (before ++ [.sendCancel requestTsNs])
      (sendCancel (machine.run start before) requestTsNs).2 := by
  have coherent := sendCancel_coherent timed.coherent requestTsNs
  have latency : (machine.run start before).cancelSendLatencyNs = start.cancelSendLatencyNs :=
    congrArg (·.2.1) timed.fixed
  have cancels := timed.cancels.weaken (CancelMade.extend (.sendCancel requestTsNs))
  have extend : (machine.run start before).pendingNew.active = true →
      Unanswered start (before ++ [.sendCancel requestTsNs])
        (machine.run start before).pendingNew.ackReadyTsNs :=
    fun pending => (timed.pending pending).extend fun due => due
  rcases sendCancel_cases (machine.run start before) requestTsNs with
    ⟨active, _, result⟩ | ⟨_, result⟩
  · have accepted := congrArg (·.1) result
    rw [result] at coherent ⊢
    refine ⟨coherent, timed.fixed, extend, ⟨fun _ _ => ?_, fun active => ?_⟩⟩
    · exact ⟨before, requestTsNs, [], rfl, accepted, rfl, by simp only [latency, le_refl]⟩
    · exact cancels.forwarded active
  · rw [result] at coherent ⊢
    exact ⟨coherent, timed.fixed, extend, cancels⟩

theorem onTick_timed (timed : Timed start before (machine.run start before))
    (tick : MarketTick) :
    Timed start (before ++ [.onTick tick]) (onTick (machine.run start before) tick).2 := by
  have fixed := (onTick_settings (machine.run start before) tick).trans timed.fixed
  have coherent := onTick_coherent timed.coherent tick
  have cancels := timed.cancels.weaken (CancelMade.extend (.onTick tick))
  refine ⟨coherent, fixed, ?_, ?_⟩
  · intro pending
    obtain ⟨early, same⟩ := onTick_unpending timed.coherent pending
    rw [same] at pending ⊢
    exact (timed.pending pending).extend fun due => early ⟨pending, due⟩
  · obtain ⟨events, next, ticks, result⟩ := onTick_ticks timed.coherent tick
    rw [result]
    exact ticks_cancels ticks cancels timed.coherent CancelMade.later

end

theorem run_timed (newAckLatencyNs cancelSendLatencyNs : TimestampNs) (calls : List Call) :
    Timed (create newAckLatencyNs cancelSendLatencyNs) calls
      (machine.run (create newAckLatencyNs cancelSendLatencyNs) calls) := by
  apply machine.run_snoc_induction (fun _ => True)
    (motive := Timed (create newAckLatencyNs cancelSendLatencyNs))
  · refine ⟨(create_wellFormed _ _).coherent, rfl, ?_, .idle rfl⟩
    simp [create]
  · intro before call timed _
    cases call with
    | sendNew request => exact sendNew_timed timed request
    | sendCancel requestTsNs => exact sendCancel_timed timed requestTsNs
    | onTick tick => exact onTick_timed timed tick
  · exact fun _ _ => trivial

/-- After an accepted order nothing happens before the first tick at or after
`ready`, and that tick brings the order's only answer. -/
structure AnswersNew (gateway : Gateway) (ready : TimestampNs) (rest : List Call) : Prop where
  waits : ∀ middle after, rest = middle ++ after → (∀ call ∈ middle, ¬Due ready call) →
    machine.run gateway middle = gateway ∧
      ∀ step ∈ machine.history gateway middle, Silent step.2
  answers : ∀ middle tick after, rest = middle ++ .onTick tick :: after →
    (∀ call ∈ middle, ¬Due ready call) → ready ≤ tick.receiveTsNs →
      (newAnswers (onTick (machine.run gateway middle) tick).1.events).length = 1 ∧
        (onTick (machine.run gateway middle) tick).2.pendingNew.active = false

/-- Every answer of a run comes in its time. -/
structure Timely (start : Gateway) (calls : List Call) : Prop where
  answered : ∀ before request rest, calls = before ++ .sendNew request :: rest →
    (sendNew (machine.run start before) request).1 = true →
      AnswersNew (sendNew (machine.run start before) request).2
        (request.submitTsNs + start.newAckLatencyNs) rest
  asked : ∀ before tick after, calls = before ++ .onTick tick :: after →
    newAnswers (onTick (machine.run start before) tick).1.events ≠ [] →
      ∃ ready, Unanswered start before ready ∧ ready ≤ tick.receiveTsNs
  cancels : ∀ before tick after, calls = before ++ .onTick tick :: after →
    ∀ event ∈ (onTick (machine.run start before) tick).1.events,
      Honest (CancelMade start before) start.execution.cancelLatencyNs tick event

theorem pending_answersNew {gateway : Gateway} (coherent : Coherent gateway)
    (pending : gateway.pendingNew.active = true) (rest : List Call) :
    AnswersNew gateway gateway.pendingNew.ackReadyTsNs rest := by
  constructor
  · exact fun middle after _ early => run_waits coherent pending early
  · intro middle tick after _ early late
    have due : AckDue gateway tick := ⟨pending, late⟩
    obtain ⟨events, next, ticks, result⟩ := onTick_ticks coherent tick
    rw [(run_waits coherent pending early).1, result]
    refine ⟨?_, ticks_unpending ticks coherent due⟩
    rw [ticks_newAnswers ticks coherent, if_pos due]

/-- Whatever is called on a gateway and in whatever order, its answers come in time. -/
theorem run_timely (newAckLatencyNs cancelSendLatencyNs : TimestampNs) (calls : List Call) :
    Timely (create newAckLatencyNs cancelSendLatencyNs) calls := by
  have timed := run_timed newAckLatencyNs cancelSendLatencyNs
  generalize create newAckLatencyNs cancelSendLatencyNs = start at timed ⊢
  constructor
  · intro before request rest _ accepted
    have coherent := sendNew_coherent (timed before).coherent request
    have latency : (machine.run start before).newAckLatencyNs = start.newAckLatencyNs :=
      congrArg (·.1) (timed before).fixed
    rcases sendNew_cases (machine.run start before) request with
      ⟨_, _, _, result⟩ | ⟨_, result⟩
    · rw [result] at coherent ⊢
      rw [← latency]
      exact pending_answersNew coherent rfl rest
    · simp [result] at accepted
  · intro before tick after _ some
    obtain ⟨events, next, ticks, result⟩ := onTick_ticks (timed before).coherent tick
    rw [result] at some
    have due : AckDue (machine.run start before) tick := by
      by_contra early
      have none := ticks_newAnswers ticks (timed before).coherent
      rw [if_neg early, List.length_eq_zero_iff] at none
      exact some none
    exact ⟨_, (timed before).pending due.1, due.2⟩
  · intro before tick after _
    obtain ⟨events, next, ticks, result⟩ := onTick_ticks (timed before).coherent tick
    have latency : (machine.run start before).execution.cancelLatencyNs =
        start.execution.cancelLatencyNs := congrArg (·.2.2.1) (timed before).fixed
    rw [result, ← latency]
    exact ticks_honest ticks (timed before).cancels CancelMade.later

end TradingKernel.GatewayTiming
