import TradingKernel.ReplayTranslation

/-!
The loop's cancel timer. One variable serves every order of a replay, yet while
an order is live it holds that order's own submission time, so a passive order
is canceled by the first tick that finds it old enough and free to cancel.
-/

namespace TradingKernel.CancelTimer
open Library OrderManager MockVenueGateway GatewayLink ReplayRunner ReplayRun ReplayPhases
open ReplayAgreement ReplayTranslation

/-- The objects still hold the same order, and its timer while it is live. -/
structure SameOrder (objects next : ReplayObjects) : Prop where
  client : next.orderManager.clientOrderId = objects.orderManager.clientOrderId
  counter : objects.clientOrderId ≤ next.clientOrderId
  live : next.orderManager.state.isLive = true → objects.orderManager.state.isLive = true ∧
    next.passiveSubmitTs = objects.passiveSubmitTs

/-- The objects hold a new order, submitted on the tick. -/
structure NewOrder (config : ReplayConfig) (tick : MarketTick) (objects next : ReplayObjects) :
    Prop where
  client : objects.clientOrderId ≤ next.orderManager.clientOrderId
  counter : next.orderManager.clientOrderId < next.clientOrderId
  timer : config.executionStyle = .passive → next.passiveSubmitTs = tick.receiveTsNs

section
variable {objects middle next : ReplayObjects}

theorem SameOrder.refl (objects : ReplayObjects) : SameOrder objects objects :=
  ⟨rfl, Int.le_refl _, fun live => ⟨live, rfl⟩⟩

theorem SameOrder.trans (first : SameOrder objects middle) (second : SameOrder middle next) :
    SameOrder objects next := by
  refine ⟨second.client.trans first.client, first.counter.trans second.counter, ?_⟩
  intro live
  obtain ⟨liveMiddle, timer⟩ := second.live live
  obtain ⟨liveFirst, timerFirst⟩ := first.live liveMiddle
  exact ⟨liveFirst, timer.trans timerFirst⟩

end

theorem venuePhase_sameOrder (tick : MarketTick) (objects : ReplayObjects) :
    SameOrder objects (venuePhase tick objects).objects := by
  obtain ⟨_, orderManager, clientOrderId, passiveSubmitTs⟩ := venuePhase_objects tick objects
  obtain ⟨client, live⟩ := applyEvents_sameOrder objects.orderManager
    (MockVenueGateway.onTick objects.gateway tick).1.events
  constructor
  · rw [orderManager, client]
  · exact clientOrderId.ge
  · rw [orderManager]
    exact fun after => ⟨live after, passiveSubmitTs⟩

theorem stopTimer_sameOrder (objects : ReplayObjects) : SameOrder objects (stopTimer objects) := by
  unfold stopTimer
  split_ifs with ended
  · refine ⟨rfl, Int.le_refl _, fun live => ?_⟩
    rcases ended with state | state | state <;> simp [state, OrderState.isLive] at live
  · exact .refl objects

theorem cancelPhase_sameOrder (config : ReplayConfig) (tick : MarketTick)
    (objects : ReplayObjects) : SameOrder objects (cancelPhase config tick objects).objects := by
  rcases cancelPhase_cases config tick objects with ⟨due, _, _, result⟩ | result
  · rw [result]
    exact ⟨rfl, Int.le_refl _, fun _ => ⟨OrderState.live_of_cancelable due.2.1, rfl⟩⟩
  · rw [result]
    exact .refl objects

theorem decisionPhase_order {objects : ReplayObjects} (sound : Sound objects)
    (config : ReplayConfig) (tick : MarketTick) :
    SameOrder objects (decisionPhase config tick objects).objects ∨
      NewOrder config tick objects (decisionPhase config tick objects).objects := by
  obtain ⟨effect, decides, result⟩ := decisionPhase_decides sound config tick
  rw [result]
  cases decides with
  | noSignal quiet => exact .inl (.refl objects)
  | riskReject signal refused => exact .inl (.refl objects)
  | busy signal live => exact .inl ⟨rfl, Int.le_add_one (Int.le_refl _), fun _ => ⟨live, rfl⟩⟩
  | submits signal accepted free =>
    refine .inr ⟨Int.le_refl _, Int.lt_succ _, fun passive => ?_⟩
    simp [passive]

theorem tickEffect_order {objects : ReplayObjects} (sound : Sound objects)
    (config : ReplayConfig) {tick : MarketTick} (nonneg : NonNegative tick) :
    SameOrder objects (tickEffect config tick objects).objects ∨
      NewOrder config tick objects (tickEffect config tick objects).objects := by
  have answered := sound.answered nonneg
  have canceled := (answered.canceled config tick).sound
  have marked : SameOrder objects (markObjects tick objects) :=
    ⟨rfl, Int.le_refl _, fun live => ⟨live, rfl⟩⟩
  have before := ((marked.trans (venuePhase_sameOrder tick _)).trans
    (stopTimer_sameOrder _)).trans (cancelPhase_sameOrder config tick _)
  rw [tickEffect_eq]
  rcases decisionPhase_order canceled config tick with same | new
  · exact .inl (before.trans same)
  · exact .inr ⟨before.counter.trans new.client, new.counter, new.timer⟩

/-- The timer part journals a cancel exactly for a ripe order with a running timer. -/
theorem cancelPhase_row_iff (config : ReplayConfig) (tick : MarketTick)
    (objects : ReplayObjects) :
    (∃ row ∈ emitted (cancelPhase config tick (stopTimer objects)).actions, IsCancelRow row) ↔
      Ripe config tick objects ∧ 0 ≤ objects.passiveSubmitTs := by
  by_cases fires : Ripe config tick objects ∧ 0 ≤ objects.passiveSubmitTs
  · rw [stopTimer_open fires.1.state, cancelPhase_fires fires.1 fires.2]
    simp [fires, IsCancelRow, cancelRow]
  · have waits : ¬(Ripe config tick (stopTimer objects) ∧
        0 ≤ (stopTimer objects).passiveSubmitTs) := by
      rintro ⟨ripe, started⟩
      have state := ripe.state
      rw [(stopTimer_keeps objects).2.1] at state
      rw [stopTimer_open state] at ripe started
      exact fires ⟨ripe, started⟩
    rw [cancelPhase_waits waits]
    simp [fires]

/-- Neither the venue's answers nor a decision journal a cancel request. -/
theorem tickEffect_row_iff (config : ReplayConfig) (tick : MarketTick)
    (objects : ReplayObjects) :
    (∃ row ∈ emitted (tickEffect config tick objects).actions, IsCancelRow row) ↔
      Ripe config tick (venuePhase tick (markObjects tick objects)).objects ∧
        0 ≤ (venuePhase tick (markObjects tick objects)).objects.passiveSubmitTs := by
  have venue : ∀ row ∈ emitted (venuePhase tick (markObjects tick objects)).actions,
      ¬IsCancelRow row := by
    rw [venuePhase_eq, andThen_actions]
    exact handleBatch_noCancel tick _ _
  have decision := decisionPhase_noCancel config tick (cancelPhase config tick
    (stopTimer (venuePhase tick (markObjects tick objects)).objects)).objects
  rw [← cancelPhase_row_iff, tickEffect_eq]
  simp only [ownPhase, andThen_actions, emitted_append, emitted_measure, emitted_nil,
    List.append_nil]
  constructor
  · rintro ⟨row, member, cancels⟩
    rcases List.mem_append.1 member with old | own
    · exact absurd cancels (venue row old)
    · rcases List.mem_append.1 own with timer | new
      · exact ⟨row, timer, cancels⟩
      · exact absurd cancels (decision row new)
  · rintro ⟨row, member, cancels⟩
    exact ⟨row, List.mem_append_right _ (List.mem_append_left _ member), cancels⟩

section
variable (env : ReplayEnv) (config : ReplayConfig) (tickCount : Nat)

def rowsOn (before : List MarketTick) (tick : MarketTick) : List TradeEvent :=
  (stateAfter env config tickCount (before ++ [tick])).record.events.drop
    (stateAfter env config tickCount before).record.events.length

/-- The order manager took up the order with this client id on the tick after `earlier`. -/
def SubmittedOn (earlier : List MarketTick) (origin : MarketTick) (clientOrderId : Int) : Prop :=
  (stateAfter env config tickCount earlier).objects.orderManager.clientOrderId ≠ clientOrderId ∧
    (stateAfter env config tickCount (earlier ++ [origin])).objects.orderManager.clientOrderId =
      clientOrderId

/-- After the venue part of the tick, the order is old enough and free to cancel. -/
def FallsDue (before : List MarketTick) (tick : MarketTick) : Prop :=
  let venue := (stateAfterVenue env config tick (stateAfter env config tickCount before)).objects
  (venue.orderManager.state = .acked ∨ venue.orderManager.state = .partiallyFilled) ∧
    venue.gateway.activeOrder.active = true ∧ venue.gateway.activeOrder.cancelSent = false ∧
    ∃ earlier origin between, before = earlier ++ origin :: between ∧
      SubmittedOn env config tickCount earlier origin venue.orderManager.clientOrderId ∧
      tick.receiveTsNs - origin.receiveTsNs ≥ config.passiveCancelAfterNs

theorem rowsOn_eq (before : List MarketTick) (tick : MarketTick) :
    rowsOn env config tickCount before tick =
      emitted (tickEffect config tick
        (stateAfter env config tickCount before).objects).actions := by
  rw [rowsOn, stateAfter_append, runTick, performAll_events, List.drop_left]

/-- The timer of a live order is the time of the tick that submitted it. -/
structure Timed (before : List MarketTick) (objects : ReplayObjects) : Prop where
  sound : Sound objects
  numbered : objects.orderManager.clientOrderId < objects.clientOrderId
  timer : config.executionStyle = .passive → objects.orderManager.state.isLive = true →
    ∃ earlier origin between, before = earlier ++ origin :: between ∧
      SubmittedOn env config tickCount earlier origin objects.orderManager.clientOrderId ∧
      objects.passiveSubmitTs = origin.receiveTsNs

end

section
variable {env : ReplayEnv} {config : ReplayConfig} {tickCount : Nat}

theorem timed_tick {before : List MarketTick} {tick : MarketTick}
    (timed : Timed env config tickCount before (stateAfter env config tickCount before).objects)
    (nonneg : NonNegative tick) :
    Timed env config tickCount (before ++ [tick])
      (stateAfter env config tickCount (before ++ [tick])).objects := by
  have next : (stateAfter env config tickCount (before ++ [tick])).objects =
      (tickEffect config tick (stateAfter env config tickCount before).objects).objects := by
    rw [stateAfter_append]
    rfl
  have numbered := timed.numbered
  rcases tickEffect_order timed.sound config nonneg with same | new
  · rw [← next] at same
    refine ⟨next ▸ tickEffect_sound timed.sound config nonneg, ?_, ?_⟩
    · rw [same.client]
      exact numbered.trans_le same.counter
    · intro passive live
      obtain ⟨liveBefore, timer⟩ := same.live live
      obtain ⟨earlier, origin, between, split, submitted, started⟩ :=
        timed.timer passive liveBefore
      rw [same.client, timer]
      exact ⟨earlier, origin, between ++ [tick], by simp [split], submitted, started⟩
  · rw [← next] at new
    refine ⟨next ▸ tickEffect_sound timed.sound config nonneg, new.counter, ?_⟩
    intro passive _
    refine ⟨before, tick, [], rfl, ⟨?_, rfl⟩, new.timer passive⟩
    exact (numbered.trans_le new.client).ne

theorem run_timed {ticks : List MarketTick} (nonneg : ∀ tick ∈ ticks, NonNegative tick) :
    Timed env config tickCount ticks (stateAfter env config tickCount ticks).objects := by
  apply (machine env config).run_snoc_induction NonNegative
    (motive := fun before s => Timed env config tickCount before s.objects)
  · exact ⟨initialObjects_sound, Int.zero_lt_one, fun _ live => by cases live⟩
  · intro before tick timed nonneg
    have next := timed_tick timed nonneg
    rwa [stateAfter_append] at next
  · exact nonneg

theorem clientOrderId_mono {before more : List MarketTick}
    (nonneg : ∀ tick ∈ before ++ more, NonNegative tick) :
    (stateAfter env config tickCount before).objects.orderManager.clientOrderId ≤
      (stateAfter env config tickCount (before ++ more)).objects.orderManager.clientOrderId := by
  induction more using List.reverseRecOn with
  | nil => rw [List.append_nil]
  | append_singleton rest tick ih =>
    rw [← List.append_assoc] at nonneg ⊢
    obtain ⟨earlier, last⟩ := List.forall_mem_append.1 nonneg
    have timed := @run_timed env config tickCount (before ++ rest) earlier
    apply (ih earlier).trans
    rw [stateAfter_append]
    rcases tickEffect_order timed.sound config (last tick (List.mem_singleton_self tick)) with
      same | new
    · exact same.client.ge
    · exact (timed.numbered.trans_le new.client).le

/-- An order that was taken up on one tick is not taken up again later. -/
theorem submittedOn_once {ticks earlier gap rest : List MarketTick} {origin later : MarketTick}
    {clientOrderId : Int} (nonneg : ∀ tick ∈ ticks, NonNegative tick)
    (split : ticks = earlier ++ origin :: gap ++ later :: rest)
    (first : SubmittedOn env config tickCount earlier origin clientOrderId) :
    ¬SubmittedOn env config tickCount (earlier ++ origin :: gap) later clientOrderId := by
  rintro ⟨other, again⟩
  have shape : earlier ++ origin :: gap = earlier ++ [origin] ++ gap := by simp
  rw [shape] at split other again
  have before : ∀ tick ∈ earlier ++ [origin] ++ gap, NonNegative tick := fun tick member =>
    nonneg tick (split ▸ List.mem_append_left _ member)
  have through : ∀ tick ∈ earlier ++ [origin] ++ gap ++ [later], NonNegative tick := by
    apply List.forall_mem_append.2 ⟨before, List.forall_mem_singleton.2 (nonneg later _)⟩
    simp [split]
  have lower := @clientOrderId_mono env config tickCount (earlier ++ [origin]) gap before
  have upper := @clientOrderId_mono env config tickCount _ _ through
  rw [first.2] at lower
  rw [again] at upper
  exact other (Int.le_antisymm upper lower)

theorem submittedOn_unique {ticks earlier earlier' rest rest' : List MarketTick}
    {origin origin' : MarketTick} {clientOrderId : Int}
    (nonneg : ∀ tick ∈ ticks, NonNegative tick) (split : ticks = earlier ++ origin :: rest)
    (split' : ticks = earlier' ++ origin' :: rest')
    (submitted : SubmittedOn env config tickCount earlier origin clientOrderId)
    (submitted' : SubmittedOn env config tickCount earlier' origin' clientOrderId) :
    earlier = earlier' ∧ origin = origin' := by
  rcases List.append_eq_append_iff.1 (split.symm.trans split') with
    ⟨gap, longer, tail⟩ | ⟨gap, longer, tail⟩
  · cases gap with
    | nil => exact ⟨by simp [longer], (List.cons.inj tail).1⟩
    | cons tick more =>
      obtain ⟨rfl, _⟩ := List.cons.inj tail
      rw [longer] at split' submitted'
      exact absurd submitted' (submittedOn_once nonneg split' submitted)
  · cases gap with
    | nil => exact ⟨by simp [longer], (List.cons.inj tail).1.symm⟩
    | cons tick more =>
      obtain ⟨rfl, _⟩ := List.cons.inj tail
      rw [longer] at split submitted
      exact absurd submitted (submittedOn_once nonneg split submitted')

theorem rowsOn_iff {before : List MarketTick} {tick : MarketTick}
    (nonneg : ∀ other ∈ before, NonNegative other)
    (clock : ∀ other ∈ before, 0 ≤ other.receiveTsNs)
    (passive : config.executionStyle = .passive) :
    (∃ row ∈ rowsOn env config tickCount before tick, IsCancelRow row) ↔
      FallsDue env config tickCount before tick := by
  have timed := @run_timed env config tickCount before nonneg
  have same := venuePhase_sameOrder tick
    (markObjects tick (stateAfter env config tickCount before).objects)
  -- A live order's timer is the time it was submitted, on the tick that did so.
  have origin : ∀ {earlier origin between}, before = earlier ++ origin :: between →
      SubmittedOn env config tickCount earlier origin
        (stateAfter env config tickCount before).objects.orderManager.clientOrderId →
      (stateAfter env config tickCount before).objects.orderManager.state.isLive = true →
      (stateAfter env config tickCount before).objects.passiveSubmitTs = origin.receiveTsNs := by
    intro earlier origin between split submitted live
    obtain ⟨earlier', origin', between', split', submitted', timer⟩ := timed.timer passive live
    obtain ⟨_, rfl⟩ := submittedOn_unique nonneg split split' submitted submitted'
    exact timer
  rw [rowsOn_eq, tickEffect_row_iff]
  constructor
  · rintro ⟨⟨_, state, rested, active, unsent⟩, _⟩
    obtain ⟨live, timer⟩ := same.live (OrderState.live_of_cancelable state)
    obtain ⟨earlier, first, between, split, submitted, started⟩ := timed.timer passive live
    refine ⟨state, active, unsent, earlier, first, between, split, ?_, ?_⟩
    · exact same.client.symm ▸ submitted
    · rw [timer] at rested
      exact started ▸ rested
  · rintro ⟨state, active, unsent, earlier, first, between, split, submitted, rested⟩
    obtain ⟨live, timer⟩ := same.live (OrderState.live_of_cancelable state)
    have started := origin split (same.client ▸ submitted) live
    have running : (venuePhase tick (markObjects tick
        (stateAfter env config tickCount before).objects)).objects.passiveSubmitTs =
          first.receiveTsNs := timer.trans started
    refine ⟨⟨passive, state, ?_, active, unsent⟩, ?_⟩
    · rw [running]
      exact rested
    · rw [running]
      exact clock first (by simp [split])

end

/-- When a replay asks for cancels; every order that could be canceled has
exactly one tick that submitted it. -/
structure TimerLaw (env : ReplayEnv) (config : ReplayConfig) (ticks : List MarketTick) :
    Prop where
  passive : config.executionStyle = .passive → ∀ before tick after,
    ticks = before ++ tick :: after →
      ((∃ row ∈ rowsOn env config ticks.length before tick, IsCancelRow row) ↔
        FallsDue env config ticks.length before tick)
  origin : config.executionStyle = .passive → ∀ before tick after,
    ticks = before ++ tick :: after →
      let order := (stateAfterVenue env config tick
        (stateAfter env config ticks.length before)).objects.orderManager
      order.state = .acked ∨ order.state = .partiallyFilled →
        ∃ earlier origin between, before = earlier ++ origin :: between ∧
          SubmittedOn env config ticks.length earlier origin order.clientOrderId
  oneOrigin : ∀ {earlier earlier' rest rest' origin origin' clientOrderId},
    ticks = earlier ++ origin :: rest → ticks = earlier' ++ origin' :: rest' →
      SubmittedOn env config ticks.length earlier origin clientOrderId →
      SubmittedOn env config ticks.length earlier' origin' clientOrderId →
        earlier = earlier' ∧ origin = origin'
  aggressive : config.executionStyle = .aggressive → ∀ before tick after,
    ticks = before ++ tick :: after →
      ∀ row ∈ rowsOn env config ticks.length before tick, ¬IsCancelRow row

/-- Every passive order is canceled by the first tick that finds it due, on its own timer. -/
theorem run_cancelTimer (env : ReplayEnv) (config : ReplayConfig) (ticks : List MarketTick)
    (valid : ValidTicks ticks) (clock : ∀ tick ∈ ticks, 0 ≤ tick.receiveTsNs) :
    TimerLaw env config ticks := by
  have nonneg := valid.nonNegative
  have earlier : ∀ {before tick after}, ticks = before ++ tick :: after →
      Timed env config ticks.length before (stateAfter env config ticks.length before).objects :=
    fun split => run_timed fun other member => nonneg other (split ▸ List.mem_append_left _ member)
  constructor
  · intro passive before tick after split
    apply rowsOn_iff _ _ passive
    · exact fun other member => nonneg other (split ▸ List.mem_append_left _ member)
    · exact fun other member => clock other (split ▸ List.mem_append_left _ member)
  · intro passive before tick after split order state
    have same := venuePhase_sameOrder tick
      (markObjects tick (stateAfter env config ticks.length before).objects)
    obtain ⟨live, _⟩ := same.live (OrderState.live_of_cancelable state)
    obtain ⟨first, origin, between, split, submitted, _⟩ := (earlier split).timer passive live
    exact ⟨first, origin, between, split, same.client.symm ▸ submitted⟩
  · exact fun split split' => submittedOn_unique nonneg split split'
  · intro aggressive before tick after split row member cancels
    have ripe := (tickEffect_row_iff config tick _).1
      ⟨row, rowsOn_eq env config ticks.length before tick ▸ member, cancels⟩
    have passive := ripe.1.style
    rw [aggressive] at passive
    cases passive

/-- A passive order submitted at time 0, and the tick that cancels it. -/
theorem run_cancelTimer_passive :
    TimerLaw quietEnv ⟨.sync, .passive, 300⟩
      [⟨0, 0, 99900, 100000, 1, 0, 10⟩, ⟨310, 310, 99900, 100100, 1, 0, 10⟩] :=
  run_cancelTimer quietEnv ⟨.sync, .passive, 300⟩ _ (by decide) (by decide)

end TradingKernel.CancelTimer
