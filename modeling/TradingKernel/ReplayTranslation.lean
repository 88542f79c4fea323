import TradingKernel.ReplayAgreement
import TradingKernel.TimeShift

/-!
A replay of later ticks. All timing of the venue depends on differences of
timestamps only; the loop's own cancel timer keeps `-1` for "no timer" and so
ignores orders submitted before time zero. A replay and its later copy agree
exactly as long as that makes no difference to any due cancel.
-/

namespace TradingKernel.ReplayTranslation
open Library OrderManager MockVenueGateway ReplayRunner ReplayRun ReplayPhases TimeShift

abbrev shiftRow (d : Int) (row : TradeEvent) : TradeEvent := { row with tsNs := row.tsNs + d }

def shiftAction (d : Int) : Action → Action
  | .emit event => .emit (shiftRow d event)
  | .measure collector => .measure collector
  | .count counter amount => .count counter amount

/-- Only a fill that trades something carries a time. -/
def laterFill (d : Int) (fill : Fill) : Fill := if fill.quantity ≤ 0 then fill else shiftFill d fill

/-- Objects with another gateway and another timer. -/
abbrev retimeObjects (objects : ReplayObjects) (gateway : Gateway)
    (passiveSubmitTs : TimestampNs) : ReplayObjects :=
  { objects with gateway := gateway, passiveSubmitTs := passiveSubmitTs }

/-- The second objects are the first ones, `d` later; the timer counts while a
passive order is live. -/
inductive LaterObjects (config : ReplayConfig) (d : Int) (objects : ReplayObjects) :
    ReplayObjects → Prop where
  | mk {gateway : Gateway} {passiveSubmitTs : TimestampNs} :
      LaterGateway d objects.gateway gateway →
      (config.executionStyle = .passive → objects.orderManager.state.isLive = true →
        passiveSubmitTs = objects.passiveSubmitTs + d) →
      LaterObjects config d objects (retimeObjects objects gateway passiveSubmitTs)

structure LaterEffect (config : ReplayConfig) (d : Int) (effect later : Effect) : Prop where
  objects : LaterObjects config d effect.objects later.objects
  actions : later.actions = effect.actions.map (shiftAction d)

theorem LaterEffect.andThen {config : ReplayConfig} {d : Int} {effect later : Effect}
    (shifted : LaterEffect config d effect later) {next laterNext : ReplayObjects → Effect}
    (rest : LaterEffect config d (next effect.objects) (laterNext later.objects)) :
    LaterEffect config d (effect.andThen next) (later.andThen laterNext) := by
  refine ⟨rest.objects, ?_⟩
  rw [andThen_actions, andThen_actions, shifted.actions, rest.actions, List.map_append]

theorem onVenueEvent_later (d : Int) (order : Manager) (event : VenueEvent) :
    onVenueEvent order (shiftEvent d event) =
      ((onVenueEvent order event).1, laterFill d (onVenueEvent order event).2.1,
        (onVenueEvent order event).2.2) := by
  cases kind : event.type <;> simp only [onVenueEvent, kind, refuse] <;> split_ifs <;>
    simp_all [laterFill, Fill.empty]

theorem handleFill_later (d : Int) (fill : Fill) (tick : MarketTick) (objects : ReplayObjects)
    (gateway : Gateway) (passiveSubmitTs : TimestampNs) :
    handleFill (laterFill d fill) (shiftTick d tick)
        (retimeObjects objects gateway passiveSubmitTs) =
      ⟨retimeObjects (handleFill fill tick objects).objects gateway passiveSubmitTs,
        (handleFill fill tick objects).actions.map (shiftAction d)⟩ := by
  by_cases positive : 0 < fill.quantity
  · have traded : laterFill d fill = shiftFill d fill := by
      rw [laterFill, if_neg (by omega)]
    rw [traded, handleFill_positive positive,
      handleFill_positive (show 0 < (shiftFill d fill).quantity from positive)]
    rfl
  · have nothing : fill.quantity ≤ 0 := by omega
    rw [laterFill, if_pos nothing, handleFill, if_pos nothing, handleFill, if_pos nothing]
    rfl

theorem emitTransition_later (d : Int) (tsNs : TimestampNs) (source target : OrderState)
    (side : Side) :
    emitTransition (tsNs + d) source target side =
      (emitTransition tsNs source target side).map (shiftAction d) := by
  unfold emitTransition
  split_ifs <;> rfl

theorem venueReject_later (d : Int) (event : VenueEvent) (side : Side) (order : ManagedOrder) :
    venueRejectActions (shiftEvent d event) side order =
      (venueRejectActions event side order).map (shiftAction d) := by
  cases kind : event.type <;> simp [venueRejectActions, kind, shiftAction]

theorem refused_later (d : Int) (outcome : VenueEventOutcome) :
    (refusedActions outcome).map (shiftAction d) = refusedActions outcome := by
  cases outcome <;> rfl

section Phases
variable {config : ReplayConfig} {d : Int} {objects later : ReplayObjects}
  (shifted : LaterObjects config d objects later) (tick : MarketTick)
include shifted

theorem handleVenueEvent_later (event : VenueEvent) (fallbackSide : Side) :
    LaterEffect config d (handleVenueEvent event fallbackSide tick objects)
      (handleVenueEvent (shiftEvent d event) fallbackSide (shiftTick d tick) later) := by
  cases shifted with
  | @mk gateway passiveSubmitTs venue timer =>
    rcases onVenueEvent_cases objects.orderManager event with
      ⟨fill, next, result, applies⟩ | ⟨outcome, refused, result⟩
    · have filled := handleFill_later d fill tick { objects with orderManager := next } gateway
        passiveSubmitTs
      obtain ⟨same, order⟩ := handleFill_sameVenue fill tick { objects with orderManager := next }
      simp only [handleVenueEvent, onVenueEvent_later, result, if_true, filled]
      refine ⟨.mk ?_ ?_, ?_⟩
      · rw [same.gateway]
        exact venue
      · intro passive _
        rw [same.passiveSubmitTs]
        exact timer passive applies.live
      · rw [List.map_append, List.map_append, ← emitTransition_later, ← venueReject_later]
    · have same := onVenueEvent_later d objects.orderManager event
      rw [result] at same
      change onVenueEvent (retimeObjects objects gateway passiveSubmitTs).orderManager _ = _ at same
      rw [handleVenueEvent_refused refused result, handleVenueEvent_refused refused same]
      exact ⟨.mk venue timer, (refused_later d outcome).symm⟩

theorem handleBatch_later (events : List VenueEvent) :
    LaterEffect config d (handleBatch tick events objects)
      (handleBatch (shiftTick d tick) (events.map (shiftEvent d)) later) := by
  induction events generalizing objects later with
  | nil =>
    refine ⟨shifted, ?_⟩
    rfl
  | cons event rest ih =>
    have side : later.orderManager.side = objects.orderManager.side := by
      cases shifted
      rfl
    have first := handleVenueEvent_later shifted tick event objects.orderManager.side
    simp only [handleBatch, List.map_cons, side]
    exact first.andThen (ih first.objects)

theorem markObjects_later :
    LaterObjects config d (markObjects tick objects) (markObjects (shiftTick d tick) later) := by
  cases shifted with
  | mk venue timer => exact .mk venue timer

theorem venuePhase_later :
    LaterEffect config d (venuePhase tick objects) (venuePhase (shiftTick d tick) later) := by
  cases shifted with
  | @mk gateway passiveSubmitTs venue timer =>
    obtain ⟨batch, next⟩ := gatewayTick_later venue tick
    rw [venuePhase_eq, venuePhase_eq, batch]
    have asked : LaterEffect config d
        ⟨{ objects with gateway := (MockVenueGateway.onTick objects.gateway tick).2 },
          [.count .venueBatchOverflows
            (MockVenueGateway.onTick objects.gateway tick).1.overflowCount, .measure .execution]⟩
        ⟨retimeObjects objects (MockVenueGateway.onTick gateway (shiftTick d tick)).2
            passiveSubmitTs,
          [.count .venueBatchOverflows
            (MockVenueGateway.onTick objects.gateway tick).1.overflowCount,
            .measure .execution]⟩ :=
      ⟨.mk next timer, rfl⟩
    exact asked.andThen (handleBatch_later asked.objects tick _)

theorem stopTimer_later : LaterObjects config d (stopTimer objects) (stopTimer later) := by
  cases shifted with
  | mk venue timer =>
    unfold stopTimer
    split_ifs with stopped
    · refine .mk venue ?_
      intro _ live
      rcases stopped with state | state | state <;> simp [state, OrderState.isLive] at live
    · exact .mk venue timer

end Phases

/-- A passive order has rested long enough and both sides could take its cancel. -/
structure Ripe (config : ReplayConfig) (tick : MarketTick) (objects : ReplayObjects) : Prop where
  style : config.executionStyle = .passive
  state : objects.orderManager.state = .acked ∨ objects.orderManager.state = .partiallyFilled
  rested : tick.receiveTsNs - objects.passiveSubmitTs ≥ config.passiveCancelAfterNs
  active : objects.gateway.activeOrder.active = true
  unsent : objects.gateway.activeOrder.cancelSent = false

/-- A ripe order whose submission time and its later copy lie on different
sides of time zero. -/
def Torn (config : ReplayConfig) (d : Int) (tick : MarketTick) (objects : ReplayObjects) : Prop :=
  Ripe config tick objects ∧ ¬(0 ≤ objects.passiveSubmitTs ↔ 0 ≤ objects.passiveSubmitTs + d)

/-- The cancel of the timer, as it is journaled. -/
def cancelRow (tick : MarketTick) (order : ManagedOrder) : TradeEvent :=
  ⟨tick.receiveTsNs, order.state.code, OrderState.pendingCancel.code, .omsTransition, order.side,
    .none⟩

/-- The timer part acts exactly on ripe orders that were not submitted before time zero. -/
theorem cancelPhase_fires {config : ReplayConfig} {tick : MarketTick} {objects : ReplayObjects}
    (ripe : Ripe config tick objects) (started : 0 ≤ objects.passiveSubmitTs) :
    cancelPhase config tick objects =
      ⟨{ objects with
          gateway := (sendCancel objects.gateway tick.receiveTsNs).2
          orderManager := { objects.orderManager with state := .pendingCancel } },
        [.emit (cancelRow tick objects.orderManager)]⟩ := by
  have due : CancelDue config tick objects := ⟨ripe.style, ripe.state, started, ripe.rested⟩
  have taken : (submitCancelRequest objects.gateway objects.orderManager tick.receiveTsNs).1 =
      true := by
    rcases ripe.state with state | state <;>
      simp [submitCancelRequest, sendCancel, requestCancel, state, ripe.active, ripe.unsent]
  have moves : objects.orderManager.state ≠ .pendingCancel := by
    rcases ripe.state with state | state <;> simp [state]
  rcases submitCancelRequest_cases objects.gateway objects.orderManager tick.receiveTsNs with
    ⟨_, _, _, result⟩ | result
  · simp [cancelPhase, due, result, emitTransition, moves, cancelRow]
  · rw [result] at taken
    cases taken

theorem cancelPhase_waits {config : ReplayConfig} {tick : MarketTick} {objects : ReplayObjects}
    (waits : ¬(Ripe config tick objects ∧ 0 ≤ objects.passiveSubmitTs)) :
    cancelPhase config tick objects = ⟨objects, []⟩ := by
  rcases cancelPhase_cases config tick objects with ⟨due, active, unsent, _⟩ | result
  · exact absurd ⟨⟨due.1, due.2.1, due.2.2.2, active, unsent⟩, due.2.2.1⟩ waits
  · exact result

section Phases
variable {config : ReplayConfig} {d : Int} {objects later : ReplayObjects}
  (shifted : LaterObjects config d objects later) (tick : MarketTick)
include shifted

theorem ripe_later :
    (Ripe config (shiftTick d tick) later ↔ Ripe config tick objects) ∧
      (Ripe config tick objects → later.passiveSubmitTs = objects.passiveSubmitTs + d) := by
  cases shifted with
  | @mk gateway passiveSubmitTs venue timer =>
    have running : config.executionStyle = .passive →
        objects.orderManager.state = .acked ∨ objects.orderManager.state = .partiallyFilled →
          passiveSubmitTs = objects.passiveSubmitTs + d :=
      fun passive state => timer passive (OrderState.live_of_cancelable state)
    have same : gateway.activeOrder.active = objects.gateway.activeOrder.active ∧
        gateway.activeOrder.cancelSent = objects.gateway.activeOrder.cancelSent := by
      cases venue
      exact ⟨rfl, rfl⟩
    refine ⟨⟨?_, ?_⟩, fun ripe => running ripe.style ripe.state⟩
    · rintro ⟨style, state, rested, active, unsent⟩
      have moved := running style state
      refine ⟨style, state, ?_, same.1 ▸ active, same.2 ▸ unsent⟩
      simp only [moved, add_sub_add_right_eq_sub] at rested
      exact rested
    · rintro ⟨style, state, rested, active, unsent⟩
      have moved := running style state
      refine ⟨style, state, ?_, same.1.trans active, same.2.trans unsent⟩
      simp only [moved, add_sub_add_right_eq_sub]
      exact rested

theorem cancelPhase_later (whole : ¬Torn config d tick objects) :
    LaterEffect config d (cancelPhase config tick objects)
      (cancelPhase config (shiftTick d tick) later) := by
  obtain ⟨ripe, moved⟩ := ripe_later shifted tick
  by_cases fires : Ripe config tick objects ∧ 0 ≤ objects.passiveSubmitTs
  · have laterStarted : 0 ≤ later.passiveSubmitTs := by
      rw [moved fires.1]
      by_contra before
      exact whole ⟨fires.1, fun same => before (same.1 fires.2)⟩
    rw [cancelPhase_fires fires.1 fires.2, cancelPhase_fires (ripe.2 fires.1) laterStarted]
    cases shifted with
    | mk venue timer =>
      refine ⟨.mk (sendCancel_later venue tick.receiveTsNs).2 ?_, rfl⟩
      intro passive _
      exact timer passive (OrderState.live_of_cancelable fires.1.state)
  · have laterWaits : ¬(Ripe config (shiftTick d tick) later ∧ 0 ≤ later.passiveSubmitTs) := by
      rintro ⟨laterRipe, laterStarted⟩
      have now := ripe.1 laterRipe
      rw [moved now] at laterStarted
      exact whole ⟨now, fun same => fires ⟨now, same.2 laterStarted⟩⟩
    rw [cancelPhase_waits fires, cancelPhase_waits laterWaits]
    exact ⟨shifted, rfl⟩

end Phases

/-- A new order that the gateway refuses is rejected on the spot. -/
theorem handleVenueEvent_newReject (objects : ReplayObjects)
    (state : objects.orderManager.state = .pendingNewAck) (tsNs : TimestampNs)
    (fallbackSide : Side) (tick : MarketTick) :
    handleVenueEvent ⟨.newReject, tsNs, 0, 0, 0⟩ fallbackSide tick objects =
      ⟨{ objects with orderManager := { objects.orderManager with state := .rejected } },
        emitTransition tsNs objects.orderManager.state .rejected objects.orderManager.side ++
          venueRejectActions ⟨.newReject, tsNs, 0, 0, 0⟩ objects.orderManager.side
            { objects.orderManager with state := .rejected }⟩ := by
  rw [handleVenueEvent_applied (.newReject rfl state)]
  simp [handleFill, Fill.empty]

theorem sendOrder_later (config : ReplayConfig) {d : Int} (objects : ReplayObjects)
    {gateway : Gateway} (venue : LaterGateway d objects.gateway gateway)
    (state : objects.orderManager.state = .pendingNewAck) (passiveSubmitTs : TimestampNs)
    (tick : MarketTick) (request : GatewayNewOrder) :
    LaterEffect config d (sendOrder config tick request objects)
      (sendOrder config (shiftTick d tick)
        { request with submitTsNs := request.submitTsNs + d }
        (retimeObjects objects gateway passiveSubmitTs)) := by
  obtain ⟨accepted, next⟩ := sendNew_later venue request
  simp only [sendOrder, accepted]
  split_ifs with taken passive
  · exact ⟨.mk next (fun _ _ => rfl), rfl⟩
  · exact ⟨.mk next (fun style => absurd style passive), rfl⟩
  · rw [handleVenueEvent_newReject { objects with gateway := (sendNew objects.gateway request).2 }
        state,
      handleVenueEvent_newReject (retimeObjects objects _ passiveSubmitTs) state]
    refine ⟨.mk next (by simp [OrderState.isLive]), ?_⟩
    rw [List.map_append, ← emitTransition_later, ← venueReject_later]

theorem stopTimer_open {objects : ReplayObjects}
    (state : objects.orderManager.state = .acked ∨ objects.orderManager.state = .partiallyFilled) :
    stopTimer objects = objects := by
  rcases state with state | state <;> simp [stopTimer, state]

section Phases
variable {config : ReplayConfig} {d : Int} {objects later : ReplayObjects}
  (shifted : LaterObjects config d objects later) (tick : MarketTick)
include shifted

theorem submitPhase_later (order : OrderRequest) :
    LaterEffect config d (submitPhase config tick order objects)
      (submitPhase config (shiftTick d tick) order later) := by
  cases shifted with
  | @mk gateway passiveSubmitTs venue timer =>
    have sameOrder : orderToSend config (shiftTick d tick) order = orderToSend config tick order :=
      rfl
    simp only [submitPhase, sameOrder, submitNew_eq]
    generalize orderToSend config tick order = order
    by_cases free : 0 < order.quantity ∧ objects.orderManager.state.isLive = false
    · have sent := sendOrder_later config { objects with
          clientOrderId := objects.clientOrderId + 1
          orderManager := ⟨objects.clientOrderId, 0, order.side, order.limitPrice, order.quantity,
            0, order.quantity, .pendingNewAck⟩ } venue rfl passiveSubmitTs tick
        (gatewayRequest config tick objects.clientOrderId order)
      simp only [if_pos free, if_true]
      refine ⟨sent.objects, ?_⟩
      simp only [List.map_append, List.map_cons, List.map_nil, ← sent.actions,
        ← emitTransition_later]
      rfl
    · simp only [if_neg free, Bool.false_eq_true, if_false]
      refine ⟨.mk venue ?_, rfl⟩
      intro passive live
      apply timer passive
      split_ifs at live with terminal
      · cases live
      · exact live

theorem decisionPhase_later :
    LaterEffect config d (decisionPhase config tick objects)
      (decisionPhase config (shiftTick d tick) later) := by
  have sameSignal : strategy.onTick (shiftTick d tick) = strategy.onTick tick := rfl
  have submitted := submitPhase_later shifted tick (strategy.onTick tick).order
  have position : later.accounting = objects.accounting := by
    cases shifted
    rfl
  simp only [decisionPhase, sameSignal, position]
  split_ifs with signal accepted
  · exact LaterEffect.andThen ⟨shifted, rfl⟩ submitted
  · exact LaterEffect.andThen ⟨shifted, rfl⟩ ⟨shifted, rfl⟩
  · exact ⟨shifted, rfl⟩

theorem ownPhase_later (whole : ¬Torn config d tick objects) :
    LaterEffect config d (ownPhase config tick objects)
      (ownPhase config (shiftTick d tick) later) := by
  have wholeStopped : ¬Torn config d tick (stopTimer objects) := by
    rintro ⟨ripe, sides⟩
    have state := ripe.state
    rw [(stopTimer_keeps objects).2.1] at state
    rw [stopTimer_open state] at ripe sides
    exact whole ⟨ripe, sides⟩
  have canceled := cancelPhase_later (stopTimer_later shifted) tick wholeStopped
  exact canceled.andThen (decisionPhase_later canceled.objects tick)

end Phases

/-- The tick tears the cancel of the order it finds after its venue part. -/
def TornTick (config : ReplayConfig) (d : Int) (tick : MarketTick) (objects : ReplayObjects) :
    Prop :=
  Torn config d tick (venuePhase tick (markObjects tick objects)).objects

theorem tickEffect_later {config : ReplayConfig} {d : Int} {objects later : ReplayObjects}
    (shifted : LaterObjects config d objects later) {tick : MarketTick}
    (whole : ¬TornTick config d tick objects) :
    LaterEffect config d (tickEffect config tick objects)
      (tickEffect config (shiftTick d tick) later) := by
  have venue := venuePhase_later (markObjects_later shifted tick) tick
  have all := venue.andThen (ownPhase_later venue.objects tick whole)
  rw [tickEffect_eq, tickEffect_eq]
  refine ⟨all.objects, ?_⟩
  rw [List.map_append, all.actions]
  rfl

theorem emitted_later (d : Int) (actions : List Action) :
    emitted (actions.map (shiftAction d)) = (emitted actions).map (shiftRow d) := by
  induction actions with
  | nil => rfl
  | cons action rest ih => cases action <;> simp [shiftAction, ih]

abbrev shiftRecord (d : Int) (record : ReplayRecord) : ReplayRecord :=
  { record with events := record.events.map (shiftRow d) }

theorem perform_later (env : ReplayEnv) (config : ReplayConfig) (d : Int) (record : ReplayRecord)
    (action : Action) :
    perform env config (shiftRecord d record) (shiftAction d action) =
      shiftRecord d (perform env config record action) := by
  cases action with
  | measure collector => rfl
  | count counter amount => rfl
  | emit event =>
    simp only [perform, shiftAction, emitEvent, recordLatency, deliver, List.length_map]
    split
    · split_ifs <;> simp
    · split_ifs <;> simp

theorem performAll_later (env : ReplayEnv) (config : ReplayConfig) (d : Int)
    (record : ReplayRecord) (actions : List Action) :
    performAll env config (shiftRecord d record) (actions.map (shiftAction d)) =
      shiftRecord d (performAll env config record actions) := by
  induction actions generalizing record with
  | nil => rfl
  | cons action rest ih =>
    have first := perform_later env config d record action
    rw [List.map_cons]
    simp only [performAll, List.foldl_cons] at ih ⊢
    rw [first, ih]

/-- The second replay is the first one, `d` later. -/
structure LaterState (config : ReplayConfig) (d : Int) (s later : ReplayState) : Prop where
  objects : LaterObjects config d s.objects later.objects
  record : later.record = shiftRecord d s.record

theorem runTick_later (env : ReplayEnv) {config : ReplayConfig} {d : Int} {s later : ReplayState}
    (shifted : LaterState config d s later) {tick : MarketTick}
    (whole : ¬TornTick config d tick s.objects) :
    LaterState config d (runTick env config tick s)
      (runTick env config (shiftTick d tick) later) := by
  have effect := tickEffect_later shifted.objects whole
  refine ⟨effect.objects, ?_⟩
  simp only [runTick, effect.actions, shifted.record, performAll_later]

theorem initialState_later (config : ReplayConfig) (d : Int) (tickCount : Nat) :
    LaterState config d (initialState tickCount) (initialState tickCount) := by
  have simulator : LaterSim d ExecutionSimulator.fresh ExecutionSimulator.fresh :=
    @LaterSim.mk d ExecutionSimulator.fresh 0 0 (fun active => by cases active)
      (fun pending => by cases pending)
  have gateway : LaterGateway d MockVenueGateway.fresh MockVenueGateway.fresh :=
    @LaterGateway.mk d MockVenueGateway.fresh _ 0 0 0 simulator (fun active => by cases active)
      (fun sent => by cases sent)
  exact ⟨@LaterObjects.mk config d initialObjects _ (-1) gateway (fun _ live => by cases live), rfl⟩

theorem run_later (env : ReplayEnv) {config : ReplayConfig} {d : Int} {s later : ReplayState}
    (shifted : LaterState config d s later) (ticks : List MarketTick)
    (whole : ∀ before tick after, ticks = before ++ tick :: after →
      ¬TornTick config d tick ((machine env config).run s before).objects) :
    LaterState config d ((machine env config).run s ticks)
      ((machine env config).run later (ticks.map (shiftTick d))) :=
  (machine env config).run_lockstep (machine env config) (shiftTick d) (LaterState config d)
    (fun s tick => ¬TornTick config d tick s.objects)
    (fun _ _ _ shifted whole => runTick_later env shifted whole) shifted ticks whole

/-- A row that journals a cancel request. -/
def IsCancelRow (row : TradeEvent) : Prop :=
  row.kind = .omsTransition ∧ row.quantity = OrderState.pendingCancel.code

/-- Some rows, if there are any, do not start with a cancel request. -/
def Quiet (rows : List TradeEvent) : Prop := ∀ row, rows.head? = some row → ¬IsCancelRow row

/-- Rows that are quiet, and leave the timer stopped when there are none. -/
structure StaysQuiet (rows : List TradeEvent) (objects : ReplayObjects) : Prop where
  quiet : Quiet rows
  stopped : rows = [] → objects.passiveSubmitTs < 0

theorem quiet_append {first second : List TradeEvent} (quiet : Quiet first)
    (rest : first = [] → Quiet second) : Quiet (first ++ second) := by
  cases first with
  | nil => exact rest rfl
  | cons row more => exact quiet

theorem quiet_of_forall {rows : List TradeEvent} (none : ∀ row ∈ rows, ¬IsCancelRow row) :
    Quiet rows := fun row first => none row (List.mem_of_head? first)

theorem code_ne_pendingCancel {state : OrderState} (other : state ≠ .pendingCancel) :
    state.code ≠ OrderState.pendingCancel.code := by
  cases state <;> simp_all [OrderState.code]

/-- No venue event leads into a cancel request. -/
theorem applies_noCancel {order next : Manager} {event : VenueEvent} {fill : Fill}
    (applies : Applies order event fill next) : next.state ≠ .pendingCancel := by
  cases applies with
  | newAck => simp
  | newReject => simp
  | fill =>
    simp only [stateAfterFill]
    split_ifs <;> simp
  | cancelAck => simp
  | cancelReject =>
    simp only [stateAfterCancelReject]
    split_ifs <;> simp
  | expired => simp

theorem handleVenueEvent_noCancel (event : VenueEvent) (fallbackSide : Side) (tick : MarketTick)
    (objects : ReplayObjects) :
    ∀ row ∈ emitted (handleVenueEvent event fallbackSide tick objects).actions,
      ¬IsCancelRow row := by
  rcases onVenueEvent_cases objects.orderManager event with
    ⟨fill, next, result, applies⟩ | ⟨outcome, refused, result⟩
  · have moves := code_ne_pendingCancel (applies_noCancel applies)
    rw [handleVenueEvent_applied applies]
    simp only [emitted_append]
    refine List.forall_mem_append.2 ⟨List.forall_mem_append.2 ⟨?_, ?_⟩, ?_⟩
    · unfold emitTransition
      split_ifs
      · simp
      · simp [IsCancelRow, moves]
    · by_cases positive : 0 < fill.quantity
      · rw [handleFill_positive positive]
        simp [IsCancelRow]
      · rw [handleFill, if_pos (by omega)]
        simp
    · cases kind : event.type <;> simp [venueRejectActions, kind, IsCancelRow]
  · rw [handleVenueEvent_refused refused result]
    cases outcome <;> simp [refusedActions]

theorem handleBatch_noCancel (tick : MarketTick) (events : List VenueEvent)
    (objects : ReplayObjects) :
    ∀ row ∈ emitted (handleBatch tick events objects).actions, ¬IsCancelRow row := by
  induction events generalizing objects with
  | nil => simp [handleBatch]
  | cons event rest ih =>
    simp only [handleBatch, andThen_actions, emitted_append]
    exact List.forall_mem_append.2 ⟨handleVenueEvent_noCancel event _ tick objects, ih _⟩

/-- Neither does handing an order to the gateway, even where it is refused. -/
theorem sendOrder_noCancel (config : ReplayConfig) (tick : MarketTick) (request : GatewayNewOrder)
    (objects : ReplayObjects) :
    ∀ row ∈ emitted (sendOrder config tick request objects).actions, ¬IsCancelRow row := by
  simp only [sendOrder]
  by_cases accepted : (sendNew objects.gateway request).1 = true
  · simp [accepted]
  · rw [if_neg accepted]
    exact handleVenueEvent_noCancel _ _ tick _

theorem decisionPhase_noCancel (config : ReplayConfig) (tick : MarketTick)
    (objects : ReplayObjects) :
    ∀ row ∈ emitted (decisionPhase config tick objects).actions, ¬IsCancelRow row := by
  rcases decisionPhase_cases config tick objects with
    ⟨_, result⟩ | ⟨_, _, result⟩ | ⟨signal, _, result⟩
  · simp [result]
  · simp [result, IsCancelRow]
  · rw [result]
    have positive : 0 < (strategy.onTick tick).order.quantity := by
      rw [Decision.Strategy.onTick_quantity signal]
      decide
    cases live : objects.orderManager.state.isLive with
    | true =>
      rw [submitPhase_live config tick _ live]
      simp
    | false =>
      rw [submitPhase_free config tick live positive]
      have sent := sendOrder_noCancel config tick
        (gatewayRequest config tick objects.clientOrderId
          (orderToSend config tick (strategy.onTick tick).order))
        (submittedObjects config tick (strategy.onTick tick).order objects)
      simpa [IsCancelRow, OrderState.code] using sent

theorem decisionPhase_quiet (config : ReplayConfig) (tick : MarketTick) {objects : ReplayObjects}
    (stopped : objects.passiveSubmitTs < 0) :
    StaysQuiet (emitted (decisionPhase config tick objects).actions)
      (decisionPhase config tick objects).objects := by
  refine ⟨quiet_of_forall (decisionPhase_noCancel config tick objects), fun silent => ?_⟩
  rcases decisionPhase_cases config tick objects with
    ⟨_, result⟩ | ⟨_, _, result⟩ | ⟨signal, _, result⟩
  · rw [result]
    exact stopped
  · simp [result] at silent
  · rw [result] at silent ⊢
    have positive : 0 < (strategy.onTick tick).order.quantity := by
      rw [Decision.Strategy.onTick_quantity signal]
      decide
    cases live : objects.orderManager.state.isLive with
    | true =>
      rw [submitPhase_live config tick _ live]
      exact stopped
    | false =>
      rw [submitPhase_free config tick live positive] at silent
      simp at silent

/-- While the timer is stopped, the loop asks for no cancel before it has
submitted something. -/
theorem ownPhase_quiet (config : ReplayConfig) (tick : MarketTick) {objects : ReplayObjects}
    (stopped : objects.passiveSubmitTs < 0) :
    StaysQuiet (emitted (ownPhase config tick objects).actions)
      (ownPhase config tick objects).objects := by
  have still : (stopTimer objects).passiveSubmitTs < 0 := by
    unfold stopTimer
    split_ifs
    · exact neg_one_lt_zero
    · exact stopped
  rw [ownPhase, cancelPhase_waits fun due => not_le.2 still due.2]
  exact decisionPhase_quiet config tick still

theorem tickEffect_quiet (config : ReplayConfig) (tick : MarketTick) {objects : ReplayObjects}
    (stopped : objects.passiveSubmitTs < 0) :
    StaysQuiet (emitted (tickEffect config tick objects).actions)
      (tickEffect config tick objects).objects := by
  obtain ⟨_, _, _, timer⟩ := venuePhase_objects tick (markObjects tick objects)
  have own := @ownPhase_quiet config tick (venuePhase tick (markObjects tick objects)).objects
    (timer ▸ stopped)
  have venue : Quiet (emitted (venuePhase tick (markObjects tick objects)).actions) := by
    apply quiet_of_forall
    rw [venuePhase_eq, andThen_actions]
    exact handleBatch_noCancel tick _ _
  rw [tickEffect_eq]
  simp only [andThen_actions, andThen_objects, emitted_append, emitted_measure, emitted_nil,
    List.append_nil]
  refine ⟨quiet_append venue fun _ => own.quiet, ?_⟩
  intro silent
  exact own.stopped (List.append_eq_nil_iff.1 silent).2

theorem run_quiet (env : ReplayEnv) (config : ReplayConfig) {s : ReplayState}
    (stopped : s.objects.passiveSubmitTs < 0) (ticks : List MarketTick) :
    Quiet (emitted (actionsOf ((machine env config).history s ticks))) := by
  induction ticks generalizing s with
  | nil => simp [Quiet]
  | cons tick rest ih =>
    have first := tickEffect_quiet config tick stopped
    rw [Machine.history_cons, actionsOf_cons, emitted_append]
    exact quiet_append first.quiet fun silent => ih (first.stopped silent)

theorem quiet_map (d : Int) (rows : List TradeEvent) :
    Quiet (rows.map (shiftRow d)) ↔ Quiet rows := by
  cases rows <;> simp [Quiet, IsCancelRow]

/-- The rows a run writes from the own part of its first tick on. -/
def ownRows (env : ReplayEnv) (config : ReplayConfig) (s : ReplayState) (tick : MarketTick)
    (rest : List MarketTick) : List TradeEvent :=
  emitted (ownPhase config tick (venuePhase tick (markObjects tick s.objects)).objects).actions ++
    emitted (actionsOf ((machine env config).history (runTick env config tick s) rest))

theorem run_ownRows (env : ReplayEnv) (config : ReplayConfig) (s : ReplayState)
    (tick : MarketTick) (rest : List MarketTick) :
    ((machine env config).run s (tick :: rest)).record.events =
      s.record.events ++ emitted (venuePhase tick (markObjects tick s.objects)).actions ++
        ownRows env config s tick rest := by
  have first : ((machine env config).step s tick).1 = (tickEffect config tick s.objects).actions :=
    rfl
  rw [run_record, performAll_events, Machine.history_cons, actionsOf_cons, emitted_append, first,
    tickEffect_eq]
  simp only [andThen_actions, emitted_append, emitted_measure, emitted_nil, List.append_nil,
    List.append_assoc, ownRows]
  rfl

/-- When the venue part leaves a ripe order, the next row is its cancel or none
for a while, as the timer has it. -/
theorem ownRows_quiet_iff (env : ReplayEnv) {config : ReplayConfig} {s : ReplayState}
    {tick : MarketTick}
    (ripe : Ripe config tick (venuePhase tick (markObjects tick s.objects)).objects)
    (rest : List MarketTick) :
    Quiet (ownRows env config s tick rest) ↔
      (venuePhase tick (markObjects tick s.objects)).objects.passiveSubmitTs < 0 := by
  constructor
  · intro quiet
    by_contra started
    have fires := cancelPhase_fires ripe (not_lt.1 started)
    rw [ownRows, ownPhase, stopTimer_open ripe.state, fires] at quiet
    exact quiet (cancelRow tick _) rfl ⟨rfl, rfl⟩
  · intro stopped
    have own := ownPhase_quiet config tick stopped
    refine quiet_append own.quiet fun silent => run_quiet env config ?_ rest
    simp only [runTick, tickEffect_eq]
    exact own.stopped silent

/-- A torn tick journals a cancel in one of the two runs, and the other one has
no such row next. -/
theorem torn_diverges (env : ReplayEnv) {config : ReplayConfig} {d : Int} {s later : ReplayState}
    (shifted : LaterState config d s later) {tick : MarketTick}
    (torn : TornTick config d tick s.objects) (rest : List MarketTick) :
    ((machine env config).run later ((tick :: rest).map (shiftTick d))).record.events ≠
      ((machine env config).run s (tick :: rest)).record.events.map (shiftRow d) := by
  intro same
  obtain ⟨ripe, sides⟩ := torn
  have venue := venuePhase_later (markObjects_later shifted.objects tick) tick
  obtain ⟨ripeLater, moved⟩ := ripe_later venue.objects tick
  have rows := emitted_later d (venuePhase tick (markObjects tick s.objects)).actions
  rw [List.map_cons, run_ownRows, run_ownRows, venue.actions, shifted.record, rows,
    List.map_append, List.map_append] at same
  have own := List.append_cancel_left same
  have first := ownRows_quiet_iff env ripe rest
  have second := ownRows_quiet_iff env (ripeLater.2 ripe) (rest.map (shiftTick d))
  rw [own, quiet_map, first, moved ripe] at second
  exact sides (by simpa only [not_lt] using not_congr second)

/-- A run and its later copy write the same rows exactly while no tick is torn. -/
theorem events_later_iff (env : ReplayEnv) {config : ReplayConfig} {d : Int}
    {s later : ReplayState} (shifted : LaterState config d s later) (ticks : List MarketTick) :
    ((machine env config).run later (ticks.map (shiftTick d))).record.events =
        ((machine env config).run s ticks).record.events.map (shiftRow d) ↔
      ∀ before tick after, ticks = before ++ tick :: after →
        ¬TornTick config d tick ((machine env config).run s before).objects := by
  constructor
  · intro same
    induction ticks generalizing s later with
    | nil => simp
    | cons first rest ih =>
      have whole : ¬TornTick config d first s.objects := by
        intro torn
        exact torn_diverges env shifted torn rest same
      rw [Machine.splits_cons fun before tick =>
        ¬TornTick config d tick ((machine env config).run s before).objects]
      exact ⟨whole, ih (runTick_later env shifted whole) same⟩
  · intro whole
    rw [(run_later env shifted ticks whole).record]

/-- Everything a report says but the durations and the side channel. -/
structure SameReport (r later : ReplayResult) : Prop where
  counters : later.counters = r.counters
  position : later.position = r.position
  pnl : later.pnl = r.pnl
  order : later.order = r.order
  executionStats : later.executionStats = r.executionStats

/-- A replay of ticks `d` later writes the same events that much later, and reports the same. -/
def TranslationInvariant (env : ReplayEnv) (config : ReplayConfig) (d : Int)
    (ticks : List MarketTick) : Prop :=
  ∃ s later r laterReport,
    replayTicks env config ticks = .ok s ∧
    replayTicks env config (ticks.map (shiftTick d)) = .ok later ∧
    runReplay env config ticks = .ok r ∧
    runReplay env config (ticks.map (shiftTick d)) = .ok laterReport ∧
    later.record.events = s.record.events.map (shiftRow d) ∧ SameReport r laterReport

theorem LaterState.report {config : ReplayConfig} {d : Int} {s later : ReplayState}
    (shifted : LaterState config d s later) :
    SameReport (result s s.record.persistedEvents s.record.sinkFailed)
      (result later later.record.persistedEvents later.record.sinkFailed) := by
  obtain ⟨objects, record⟩ := later
  obtain ⟨same, rfl⟩ := shifted
  cases same with
  | mk venue timer =>
    cases venue with
    | mk execution ackReady cancelSend => exact ⟨rfl, rfl, rfl, rfl, execution.same.2⟩

/-- A replay does not depend on where its clock starts if and only if no cancel
falls due for an order that one of the two clocks submits before time zero and
the other one does not. -/
theorem run_translation_iff (env : ReplayEnv) (config : ReplayConfig) (d : Int)
    (ticks : List MarketTick) (valid : ValidTicks ticks) (some : ticks ≠ []) :
    TranslationInvariant env config d ticks ↔
      ∀ before tick after, ticks = before ++ tick :: after →
        ¬TornTick config d tick (stateAfter env config ticks.length before).objects := by
  have start := initialState_later config d ticks.length
  have laterSome : ticks.map (shiftTick d) ≠ [] := by simpa using some
  have laterSymbol : (ticks.map (shiftTick d)).Pairwise
      fun earlier later => earlier.symbolId = later.symbolId :=
    List.pairwise_map.2 valid.oneSymbol
  have runs := replayTicks_run env config some valid.oneSymbol
  have reports := runReplay_run env config some valid.oneSymbol
  have laterRuns := replayTicks_run env config laterSome laterSymbol
  have laterReports := runReplay_run env config laterSome laterSymbol
  rw [List.length_map] at laterRuns laterReports
  constructor
  · rintro ⟨s, later, _, _, finished, laterFinished, _, _, rows, _⟩
    obtain rfl := Except.ok.inj (runs.symm.trans finished)
    obtain rfl := Except.ok.inj (laterRuns.symm.trans laterFinished)
    exact (events_later_iff env start ticks).1 rows
  · intro whole
    have shifted := run_later env start ticks whole
    refine ⟨_, _, _, _, runs, laterRuns, reports, laterReports, ?_, ?_⟩
    · exact (events_later_iff env start ticks).2 whole
    · exact shifted.report

/-- A passive order submitted before time zero, and the tick that would cancel it. -/
def negativeTicks : List MarketTick :=
  [⟨-10, -10, 99900, 100000, 1, 0, 10⟩, ⟨300, 300, 99900, 100100, 1, 0, 10⟩]

/-- Ten nanoseconds later the same order is submitted at time zero and canceled. -/
theorem negative_submission_never_canceled :
    ValidTicks negativeTicks ∧ negativeTicks ≠ [] ∧
      ¬TranslationInvariant quietEnv ⟨.sync, .passive, 0⟩ 10 negativeTicks := by
  have valid : ValidTicks negativeTicks := by decide
  refine ⟨valid, by decide, ?_⟩
  rintro ⟨s, later, _, _, finished, laterFinished, _, _, rows, _⟩
  have runs := replayTicks_run quietEnv ⟨.sync, .passive, 0⟩ (by decide) valid.oneSymbol
  have laterRuns : replayTicks quietEnv ⟨.sync, .passive, 0⟩ (negativeTicks.map (shiftTick 10)) =
      .ok (stateAfter quietEnv ⟨.sync, .passive, 0⟩ 2 (negativeTicks.map (shiftTick 10))) :=
    replayTicks_run quietEnv _ (by decide) (by decide)
  obtain rfl := Except.ok.inj (runs.symm.trans finished)
  obtain rfl := Except.ok.inj (laterRuns.symm.trans laterFinished)
  have fewer : (stateAfter quietEnv ⟨.sync, .passive, 0⟩ 2 negativeTicks).record.events.length =
      2 := by
    decide +kernel
  have more : (stateAfter quietEnv ⟨.sync, .passive, 0⟩ 2
      (negativeTicks.map (shiftTick 10))).record.events.length = 3 := by
    decide +kernel
  have same := congrArg List.length rows
  rw [List.length_map, more] at same
  exact absurd (same.trans fewer) (by decide)

/-- The same replay on a clock that starts later still. -/
theorem run_translation_iff_positive :
    TranslationInvariant quietEnv ⟨.sync, .passive, 0⟩ 10 (negativeTicks.map (shiftTick 10)) ↔
      ∀ before tick after, negativeTicks.map (shiftTick 10) = before ++ tick :: after →
        ¬TornTick ⟨.sync, .passive, 0⟩ 10 tick
          (stateAfter quietEnv ⟨.sync, .passive, 0⟩ (negativeTicks.map (shiftTick 10)).length
            before).objects :=
  run_translation_iff quietEnv ⟨.sync, .passive, 0⟩ 10 _ (by decide) (by decide)

end TradingKernel.ReplayTranslation
