import TradingKernel.ReplayAgreement

/-!
The event journal as the record of a replay: every gateway fill appears in it
exactly once, and positions, profit, the order's path and the counters can be
read back from its rows.
-/

namespace TradingKernel.ReplayJournal
open Library OrderManager MockVenueGateway GatewayInvariant GatewayLink ReplayRunner ReplayRun
open ReplayPhases ReplayAgreement
open AccountingEngine (Engine Refreshed applyFill markToMarket refreshDerived nextOpenCost)

def rowsOf (kind : EventKind) (journal : List TradeEvent) : List TradeEvent :=
  journal.filter (fun row => row.kind = kind)

/-- The fill that a fill row records. -/
def rowFill (row : TradeEvent) : Fill := ⟨row.tsNs, row.price, row.quantity, row.side⟩

/-- Applies the fill rows of a journal in order. -/
def bookRows (engine : Engine) (journal : List TradeEvent) : Engine :=
  ((rowsOf .fill journal).map rowFill).foldl (fun engine fill => (applyFill engine fill).2) engine

/-- The engine that a journal describes. -/
def rebuild (journal : List TradeEvent) : Engine := bookRows AccountingEngine.fresh journal

/-- The row of a new local submission. -/
def IsSubmission (row : TradeEvent) : Prop :=
  row.kind = .omsTransition ∧ row.price = OrderState.idle.code ∧
    row.quantity = OrderState.pendingNewAck.code

instance (row : TradeEvent) : Decidable (IsSubmission row) :=
  inferInstanceAs (Decidable (_ ∧ _))

def submissions (journal : List TradeEvent) : List TradeEvent :=
  journal.filter (fun row => IsSubmission row)

def countFill (total : Int) (row : TradeEvent) : Int :=
  if IsSubmission row then 0 else if row.kind = .fill then total + row.quantity else total

/-- The quantity of the fill rows after the last submission row. -/
def filledSinceSubmission (journal : List TradeEvent) : Int := journal.foldl countFill 0

/-- Where the next transition starts: a terminal order is replaced. -/
def restart (state : OrderState) : OrderState := if state.isTerminal then .idle else state

/-- The transition rows of a journal lead from one order state to another. -/
inductive Path : OrderState → List TradeEvent → OrderState → Prop where
  | done (state : OrderState) : Path state [] state
  | other {source target : OrderState} {row : TradeEvent} {rest : List TradeEvent} :
      row.kind ≠ .omsTransition → Path source rest target → Path source (row :: rest) target
  | step {source middle target : OrderState} {row : TradeEvent} {rest : List TradeEvent} :
      row.kind = .omsTransition → row.price = (restart source).code →
      row.quantity = middle.code → Path middle rest target → Path source (row :: rest) target

/-- The side of the order that a gateway tick serves. -/
def servedSide (gateway : Gateway) (tick : MarketTick) : Side :=
  if AckDue gateway tick then gateway.pendingNew.request.side else gateway.activeOrder.side

def fillRow (side : Side) (event : VenueEvent) : TradeEvent :=
  ⟨event.tsNs, event.fillPrice, event.fillQty, .fill, side, .none⟩

def fillEvents (events : List VenueEvent) : List VenueEvent :=
  events.filter (fun event => event.type = .fill)

/-- The fills the gateway emits on a tick, as journal rows. -/
def venueFills (gateway : Gateway) (tick : MarketTick) : List TradeEvent :=
  (fillEvents (MockVenueGateway.onTick gateway tick).1.events).map
    (fillRow (servedSide gateway tick))

/-- The fills the gateway emits during a replay. -/
def gatewayFills (env : ReplayEnv) (config : ReplayConfig) :
    ReplayState → List MarketTick → List TradeEvent
  | _, [] => []
  | s, tick :: rest =>
    venueFills s.objects.gateway tick ++ gatewayFills env config (runTick env config tick s) rest

/-- Every fill of a batch is applied by the order manager and taken by accounting. -/
def FillsTaken (tick : MarketTick) : List VenueEvent → ReplayObjects → Prop
  | [], _ => True
  | event :: rest, objects =>
    (event.type = .fill →
        (onVenueEvent objects.orderManager event).1 = .applied ∧
          (onVenueEvent objects.orderManager event).2.1 =
            rowFill (fillRow objects.orderManager.side event) ∧
          (applyFill objects.accounting
            (rowFill (fillRow objects.orderManager.side event))).1 = true) ∧
      FillsTaken tick rest
        (handleVenueEvent event objects.orderManager.side tick objects).objects

theorem Path.append {source middle target : OrderState} {first second : List TradeEvent}
    (left : Path source first middle) (right : Path middle second target) :
    Path source (first ++ second) target := by
  induction left with
  | done state => exact right
  | other kind _ ih => exact .other kind (ih right)
  | step kind start finish _ ih => exact .step kind start finish (ih right)

@[simp] theorem rowsOf_append (kind : EventKind) (first second : List TradeEvent) :
    rowsOf kind (first ++ second) = rowsOf kind first ++ rowsOf kind second :=
  List.filter_append first second

@[simp] theorem submissions_append (first second : List TradeEvent) :
    submissions (first ++ second) = submissions first ++ submissions second :=
  List.filter_append first second

theorem bookRows_append (engine : Engine) (first second : List TradeEvent) :
    bookRows engine (first ++ second) = bookRows (bookRows engine first) second := by
  simp [bookRows]

/-- Two engines with the same source of truth. -/
structure SameBooks (first second : Engine) : Prop where
  netQty : first.positionState.netQty = second.positionState.netQty
  cash : first.pnlState.cash = second.pnlState.cash
  openCost : first.openCost = second.openCost

theorem SameBooks.trans {first second third : Engine} (left : SameBooks first second)
    (right : SameBooks second third) : SameBooks first third :=
  ⟨left.netQty.trans right.netQty, left.cash.trans right.cash, left.openCost.trans right.openCost⟩

/-- Marking shows nothing but the source of truth and the mark. -/
theorem SameBooks.mark {first second : Engine} (same : SameBooks first second)
    (midPrice : Price) : markToMarket first midPrice = markToMarket second midPrice := by
  obtain ⟨⟨net, avg⟩, ⟨realized, unrealized, cash⟩, cost, mark⟩ := first
  obtain ⟨⟨net', avg'⟩, ⟨realized', unrealized', cash'⟩, cost', mark'⟩ := second
  obtain ⟨rfl, rfl, rfl⟩ := same
  simp only [markToMarket, refreshDerived]
  by_cases flat : net = 0
  · simp only [flat, if_true]
  · simp only [flat, if_false]

theorem SameBooks.applyFill {first second : Engine} (same : SameBooks first second)
    (fill : Fill) :
    SameBooks (AccountingEngine.applyFill first fill).2
      (AccountingEngine.applyFill second fill).2 := by
  unfold AccountingEngine.applyFill
  split_ifs with empty
  · exact same
  · constructor
    · simp [same.netQty]
    · simp [same.cash]
    · simp [AccountingEngine.refreshDerived_openCost, same.netQty, same.openCost]

theorem SameBooks.bookRows {first second : Engine} (same : SameBooks first second)
    (journal : List TradeEvent) :
    SameBooks (ReplayJournal.bookRows first journal) (ReplayJournal.bookRows second journal) := by
  unfold ReplayJournal.bookRows
  generalize (rowsOf .fill journal).map rowFill = fills
  induction fills generalizing first second with
  | nil => exact same
  | cons fill rest ih => exact ih (same.applyFill fill)

/-- Marking a refreshed engine leaves its source of truth alone. -/
theorem mark_sameBooks {engine : Engine} (refreshed : Refreshed engine) (midPrice : Price) :
    SameBooks (markToMarket engine midPrice) engine := by
  have cost := AccountingEngine.refreshDerived_openCost engine
  rw [refreshed] at cost
  constructor
  · simp [markToMarket]
  · simp [markToMarket]
  · simp only [markToMarket, AccountingEngine.refreshDerived_openCost]
    exact cost.symm

/-- What the rows of a part of the loop say about the objects it changes. -/
structure Journals (tsNs : TimestampNs) (objects : ReplayObjects) (effect : Effect) : Prop where
  path : Path objects.orderManager.state (emitted effect.actions)
    effect.objects.orderManager.state
  filled : (emitted effect.actions).foldl countFill objects.orderManager.cumQty =
    effect.objects.orderManager.cumQty
  books : SameBooks effect.objects.accounting
    (bookRows objects.accounting (emitted effect.actions))
  refreshed : Refreshed effect.objects.accounting
  atTick : ∀ row ∈ emitted effect.actions, row.tsNs = tsNs
  fills : counted .fills effect.actions = (rowsOf .fill (emitted effect.actions)).length
  riskRejects : counted .riskRejects effect.actions =
    (rowsOf .riskReject (emitted effect.actions)).length
  venueRejects : counted .venueRejects effect.actions =
    (rowsOf .venueReject (emitted effect.actions)).length
  submissions : counted .localSubmissions effect.actions =
    (submissions (emitted effect.actions)).length
  noneRejected : counted .accountingRejectedFills effect.actions = 0

theorem Journals.andThen {tsNs : TimestampNs} {objects : ReplayObjects} {effect : Effect}
    {next : ReplayObjects → Effect} (first : Journals tsNs objects effect)
    (second : Journals tsNs effect.objects (next effect.objects)) :
    Journals tsNs objects (effect.andThen next) := by
  constructor
  · simpa using first.path.append second.path
  · simp only [andThen_actions, emitted_append, List.foldl_append, first.filled]
    exact second.filled
  · simp only [andThen_actions, andThen_objects, emitted_append, bookRows_append]
    exact second.books.trans (first.books.bookRows _)
  · exact second.refreshed
  · intro row member
    simp only [andThen_actions, emitted_append, List.mem_append] at member
    rcases member with old | new
    · exact first.atTick row old
    · exact second.atTick row new
  · simp [first.fills, second.fills]
  · simp [first.riskRejects, second.riskRejects]
  · simp [first.venueRejects, second.venueRejects]
  · simp [first.submissions, second.submissions]
  · simp [first.noneRejected, second.noneRejected]

theorem Journals.congr {tsNs : TimestampNs} {objects same : ReplayObjects} {effect : Effect}
    (journals : Journals tsNs same effect) (orderManager : same.orderManager = objects.orderManager)
    (accounting : same.accounting = objects.accounting) : Journals tsNs objects effect := by
  obtain ⟨path, filled, books, refreshed, atTick, fills, riskRejects, venueRejects, submissions,
    noneRejected⟩ := journals
  rw [orderManager] at path filled
  rw [accounting] at books
  exact ⟨path, filled, books, refreshed, atTick, fills, riskRejects, venueRejects, submissions,
    noneRejected⟩

/-- Stopping a clock leaves no row. -/
theorem Journals.measured {tsNs : TimestampNs} {objects : ReplayObjects} {effect : Effect}
    (journals : Journals tsNs objects effect) (collector : Collector) :
    Journals tsNs objects ⟨effect.objects, effect.actions ++ [.measure collector]⟩ := by
  obtain ⟨path, filled, books, refreshed, atTick, fills, riskRejects, venueRejects, submissions,
    noneRejected⟩ := journals
  constructor <;> simp only [emitted_append, counted_append, emitted_measure, emitted_nil,
    counted_measure, counted_nil, List.append_nil, Nat.add_zero] <;> assumption

/-- A part without rows that leaves the order's progress and the books alone. -/
theorem journals_silent {tsNs : TimestampNs} {objects : ReplayObjects} {effect : Effect}
    (refreshed : Refreshed objects.accounting)
    (accounting : effect.objects.accounting = objects.accounting)
    (state : effect.objects.orderManager.state = objects.orderManager.state)
    (cumQty : effect.objects.orderManager.cumQty = objects.orderManager.cumQty)
    (silent : emitted effect.actions = [])
    (uncounted : ∀ counter ∈ [Counter.fills, .riskRejects, .venueRejects, .localSubmissions,
      .accountingRejectedFills], counted counter effect.actions = 0) :
    Journals tsNs objects effect := by
  constructor <;> try rw [silent]
  · rw [state]
    exact .done _
  · exact cumQty.symm
  · rw [accounting]
    exact ⟨rfl, rfl, rfl⟩
  · rwa [accounting]
  · simp
  · exact uncounted .fills (by simp)
  · exact uncounted .riskRejects (by simp)
  · exact uncounted .venueRejects (by simp)
  · exact uncounted .localSubmissions (by simp)
  · exact uncounted .accountingRejectedFills (by simp)

theorem path_others (state : OrderState) {rows : List TradeEvent}
    (others : ∀ row ∈ rows, row.kind ≠ .omsTransition) : Path state rows state := by
  induction rows with
  | nil => exact .done state
  | cons row rest ih =>
    exact .other (others row (by simp)) (ih (fun other member => others other (by simp [member])))

/-- A transition of a live order is one step of the path. -/
theorem path_transition {source : OrderState} (live : source.isLive = true) (tsNs : TimestampNs)
    (target : OrderState) (side : Side) :
    Path source (emitted (emitTransition tsNs source target side)) target := by
  have started : restart source = source := by
    simp [restart, OrderState.not_terminal_of_live live]
  unfold emitTransition
  split_ifs with same
  · rw [same]
    exact .done target
  · exact .step rfl (by rw [started]) rfl (.done target)

theorem transition_rows (tsNs : TimestampNs) (source target : OrderState) (side : Side) :
    ∀ row ∈ emitted (emitTransition tsNs source target side),
      row.kind = .omsTransition ∧ row.price = source.code ∧ row.tsNs = tsNs := by
  unfold emitTransition
  split_ifs <;> simp

theorem transition_countFill {source : OrderState} (live : source.isLive = true)
    (tsNs : TimestampNs) (target : OrderState) (side : Side) (total : Int) :
    (emitted (emitTransition tsNs source target side)).foldl countFill total = total ∧
      submissions (emitted (emitTransition tsNs source target side)) = [] := by
  have busy : source.code ≠ OrderState.idle.code := by
    cases source <;> simp_all [OrderState.isLive, OrderState.code]
  unfold emitTransition
  split_ifs
  · exact ⟨rfl, rfl⟩
  · simp [countFill, submissions, IsSubmission, busy]

/-- What an applied event does to the filled quantity and to its fill's stamp. -/
theorem applies_fill {order next : Manager} {event : VenueEvent} {fill : Fill}
    (applies : Applies order event fill next) :
    next.cumQty = order.cumQty + fill.quantity ∧ 0 ≤ fill.quantity ∧
      (0 < fill.quantity → fill.tsNs = event.tsNs) := by
  cases applies with
  | fill kind state named positive bounded => exact ⟨rfl, positive.le, fun _ => rfl⟩
  | newAck kind state id => simp [Fill.empty]
  | newReject kind state => simp [Fill.empty]
  | cancelAck kind state named => simp [Fill.empty]
  | cancelReject kind state named => simp [Fill.empty]
  | expired kind state named => simp [Fill.empty]

theorem handleFill_rows (fill : Fill) (tick : MarketTick) (objects : ReplayObjects) :
    emitted (handleFill fill tick objects).actions =
      if 0 < fill.quantity then
        [⟨fill.tsNs, fill.price, fill.quantity, .fill, fill.side, .none⟩] else [] := by
  split_ifs with positive
  · simp [handleFill_positive positive]
  · rw [handleFill, if_pos (by omega)]
    rfl

/-- The books after a fill row are the books after the fill. -/
theorem handleFill_books {objects : ReplayObjects} (refreshed : Refreshed objects.accounting)
    (fill : Fill) (tick : MarketTick) :
    SameBooks (handleFill fill tick objects).objects.accounting
        (bookRows objects.accounting (emitted (handleFill fill tick objects).actions)) ∧
      Refreshed (handleFill fill tick objects).objects.accounting := by
  rw [handleFill_rows]
  split_ifs with positive
  · rw [handleFill_positive positive]
    have after := AccountingEngine.applyFill_refreshed refreshed fill
    exact ⟨mark_sameBooks after tick.mid, AccountingEngine.markToMarket_refreshed _ _⟩
  · rw [handleFill, if_pos (by omega)]
    exact ⟨⟨rfl, rfl, rfl⟩, refreshed⟩

theorem venueReject_rows (event : VenueEvent) (side : Side) (order : ManagedOrder) :
    ∀ row ∈ emitted (venueRejectActions event side order),
      row.kind = .venueReject ∧ row.tsNs = event.tsNs := by
  unfold venueRejectActions
  cases event.type <;> simp

theorem rowsOf_none {kind : EventKind} {rows : List TradeEvent}
    (others : ∀ row ∈ rows, row.kind ≠ kind) : rowsOf kind rows = [] := by
  simpa [rowsOf] using others

theorem bookRows_none {engine : Engine} {rows : List TradeEvent} (none : rowsOf .fill rows = []) :
    bookRows engine rows = engine := by
  rw [bookRows, none]
  rfl

theorem submissions_none {rows : List TradeEvent}
    (others : ∀ row ∈ rows, row.kind ≠ .omsTransition) : submissions rows = [] := by
  rw [submissions, List.filter_eq_nil_iff]
  intro row member
  simp [IsSubmission, others row member]

theorem countFill_others {rows : List TradeEvent} (total : Int)
    (others : ∀ row ∈ rows, row.kind = .venueReject ∨ row.kind = .riskReject) :
    rows.foldl countFill total = total := by
  induction rows generalizing total with
  | nil => rfl
  | cons row rest ih =>
    have same : countFill total row = total := by
      rcases others row (by simp) with kind | kind <;> simp [countFill, IsSubmission, kind]
    rw [List.foldl_cons, same]
    exact ih total (fun other member => others other (by simp [member]))

theorem counted_transition (counter : Counter) (tsNs : TimestampNs) (source target : OrderState)
    (side : Side) : counted counter (emitTransition tsNs source target side) = 0 := by
  unfold emitTransition
  split_ifs <;> simp

theorem counted_fill (counter : Counter) (fill : Fill) (tick : MarketTick)
    (objects : ReplayObjects) :
    counted counter (handleFill fill tick objects).actions =
      if counter = .fills ∧ 0 < fill.quantity then 1 else 0 := by
  by_cases positive : 0 < fill.quantity
  · simp [handleFill_positive positive, positive, eq_comm]
  · rw [handleFill, if_pos (by omega)]
    simp [positive]

theorem counted_venueReject (counter : Counter) (event : VenueEvent) (side : Side)
    (order : ManagedOrder) :
    counted counter (venueRejectActions event side order) =
      if counter = .venueRejects then
        (rowsOf .venueReject (emitted (venueRejectActions event side order))).length else 0 := by
  unfold venueRejectActions
  cases event.type <;> simp [rowsOf, eq_comm]

/-- An applied venue event is journaled completely. -/
theorem applied_journals {objects : ReplayObjects} {event : VenueEvent} {fill : Fill}
    {next : Manager} (refreshed : Refreshed objects.accounting)
    (applies : Applies objects.orderManager event fill next) (fallbackSide : Side)
    (tick : MarketTick) :
    Journals event.tsNs objects (handleVenueEvent event fallbackSide tick objects) := by
  have live := applies.live
  obtain ⟨cumQty, nonneg, stamp⟩ := applies_fill applies
  obtain ⟨same, order⟩ := handleFill_sameVenue fill tick { objects with orderManager := next }
  have fillRows := handleFill_rows fill tick { objects with orderManager := next }
  have rejectRows := venueReject_rows event objects.orderManager.side next
  have moveRows := transition_rows event.tsNs objects.orderManager.state next.state
    objects.orderManager.side
  have moves := fun total => transition_countFill live event.tsNs next.state
    objects.orderManager.side total
  obtain ⟨books, booked⟩ := @handleFill_books { objects with orderManager := next } refreshed fill
    tick
  have filledRows : ∀ row ∈ emitted (handleFill fill tick
      { objects with orderManager := next }).actions, row.kind = .fill ∧ row.tsNs = event.tsNs := by
    rw [fillRows]
    split_ifs with positive
    · simpa using stamp positive
    · simp
  have movedOf := fun kind (other : EventKind.omsTransition ≠ kind) =>
    rowsOf_none fun row member => (moveRows row member).1.trans_ne other
  have filledOf := fun kind (other : EventKind.fill ≠ kind) =>
    rowsOf_none fun row member => (filledRows row member).1.trans_ne other
  have rejectedOf := fun kind (other : EventKind.venueReject ≠ kind) =>
    rowsOf_none fun row member => (rejectRows row member).1.trans_ne other
  have counts := fun counter => And.intro
    (counted_transition counter event.tsNs objects.orderManager.state next.state
      objects.orderManager.side)
    (And.intro (counted_fill counter fill tick { objects with orderManager := next })
      (counted_venueReject counter event objects.orderManager.side next))
  rw [handleVenueEvent_applied applies]
  constructor
  · simp only [emitted_append, order]
    refine ((path_transition live _ _ _).append (path_others _ ?_)).append (path_others _ ?_)
    · exact fun row member => by simp [(filledRows row member).1]
    · exact fun row member => by simp [(rejectRows row member).1]
  · simp only [emitted_append, List.foldl_append, (moves _).1, order]
    rw [countFill_others _ (fun row member => .inl (rejectRows row member).1), fillRows, cumQty]
    split_ifs with positive
    · simp [countFill, IsSubmission]
    · rw [List.foldl_nil]
      omega
  · simp only [emitted_append, bookRows_append]
    rw [bookRows_none (movedOf .fill (by decide)), bookRows_none (rejectedOf .fill (by decide))]
    exact books
  · exact booked
  · intro row member
    simp only [emitted_append, List.mem_append] at member
    rcases member with (moved | filled) | rejected
    · exact (moveRows row moved).2.2
    · exact (filledRows row filled).2
    · exact (rejectRows row rejected).2
  · simp only [counted_append, counts, emitted_append, rowsOf_append, movedOf .fill (by decide),
      rejectedOf .fill (by decide), fillRows]
    split_ifs <;> simp_all [rowsOf]
  · simp [counts, movedOf .riskReject (by decide), filledOf .riskReject (by decide),
      rejectedOf .riskReject (by decide)]
  · simp [counts, movedOf .venueReject (by decide), filledOf .venueReject (by decide)]
  · have noFill := submissions_none fun row member =>
      (filledRows row member).1.trans_ne (show EventKind.fill ≠ .omsTransition by decide)
    have noReject := submissions_none fun row member =>
      (rejectRows row member).1.trans_ne (show EventKind.venueReject ≠ .omsTransition by decide)
    simp [counts, (moves 0).2, noFill, noReject]
  · simp [counts]

theorem refused_silent (outcome : VenueEventOutcome) : emitted (refusedActions outcome) = [] := by
  cases outcome <;> rfl

theorem event_journals {objects : ReplayObjects} (refreshed : Refreshed objects.accounting)
    (event : VenueEvent) (fallbackSide : Side) (tick : MarketTick) :
    Journals event.tsNs objects (handleVenueEvent event fallbackSide tick objects) := by
  rcases onVenueEvent_cases objects.orderManager event with
    ⟨fill, next, result, applies⟩ | ⟨outcome, refused, result⟩
  · exact applied_journals refreshed applies fallbackSide tick
  · rw [handleVenueEvent_refused refused result]
    apply journals_silent refreshed rfl rfl rfl (refused_silent outcome)
    intro counter member
    cases outcome <;> fin_cases member <;> simp [refusedActions]

theorem batch_journals {objects : ReplayObjects} (refreshed : Refreshed objects.accounting)
    (tick : MarketTick) {tsNs : TimestampNs} {events : List VenueEvent}
    (atTick : ∀ event ∈ events, event.tsNs = tsNs) :
    Journals tsNs objects (handleBatch tick events objects) := by
  induction events generalizing objects with
  | nil => exact journals_silent refreshed rfl rfl rfl rfl (fun _ _ => rfl)
  | cons event rest ih =>
    have first := event_journals refreshed event objects.orderManager.side tick
    rw [atTick event (by simp)] at first
    exact first.andThen
      (ih first.refreshed (fun other member => atTick other (by simp [member])))

/-- All events of a tick carry its receive timestamp. -/
theorem ticks_atTick {gateway next : Gateway} {tick : MarketTick} {events : List VenueEvent}
    (ticks : Ticks gateway tick events next) : ∀ event ∈ events, event.tsNs = tick.receiveTsNs := by
  have matching : ∀ {gateway next : Gateway} {events : List VenueEvent},
      Matches gateway tick events next → ∀ event ∈ events, event.tsNs = tick.receiveTsNs := by
    intro gateway next events matched
    cases matched <;> simp
  cases ticks with
  | quiet early idle => simp
  | newReject due reject => simp
  | ioc due accepted style =>
    unfold iocEvents
    split_ifs <;> simp
  | passive due accepted style matched => simpa using matching matched
  | cancelReject active arrives rejects => simp
  | matching active answer matched => exact matching matched

theorem venue_journals {objects : ReplayObjects} (sound : Sound objects)
    (refreshed : Refreshed objects.accounting) (tick : MarketTick) :
    Journals tick.receiveTsNs objects (venuePhase tick objects) := by
  obtain ⟨events, next, ticks, result⟩ := onTick_ticks sound.wellFormed.coherent tick
  rw [venuePhase_eq, result]
  refine Journals.andThen (journals_silent refreshed rfl rfl rfl rfl ?_)
    (@batch_journals { objects with gateway := next } refreshed tick _ _ (ticks_atTick ticks))
  intro counter member
  fin_cases member <;> simp

theorem cancel_journals {objects : ReplayObjects} (refreshed : Refreshed objects.accounting)
    (config : ReplayConfig) (tick : MarketTick) :
    Journals tick.receiveTsNs objects (cancelPhase config tick objects) := by
  rcases cancelPhase_cases config tick objects with ⟨due, _, _, result⟩ | result
  · rw [result]
    have live := OrderState.live_of_cancelable due.2.1
    have moves : objects.orderManager.state ≠ .pendingCancel := by
      rcases due.2.1 with state | state <;> simp [state]
    have path := path_transition live tick.receiveTsNs .pendingCancel objects.orderManager.side
    obtain ⟨filled, none⟩ := transition_countFill live tick.receiveTsNs .pendingCancel
      objects.orderManager.side objects.orderManager.cumQty
    rw [emitTransition, if_neg moves] at path filled none
    exact ⟨path, filled, ⟨rfl, rfl, rfl⟩, refreshed, by simp, rfl, rfl, rfl, by rw [none]; rfl, rfl⟩
  · rw [result]
    exact journals_silent refreshed rfl rfl rfl rfl (fun _ _ => rfl)

/-- A submission replaces the finished order and starts a new path. -/
theorem decision_journals {objects : ReplayObjects} (sound : Sound objects)
    (refreshed : Refreshed objects.accounting) (config : ReplayConfig) (tick : MarketTick) :
    Journals tick.receiveTsNs objects (decisionPhase config tick objects) := by
  obtain ⟨effect, decides, result⟩ := decisionPhase_decides sound config tick
  rw [result]
  cases decides with
  | noSignal quiet => exact journals_silent refreshed rfl rfl rfl rfl (fun _ _ => by simp)
  | busy signal live =>
    apply journals_silent refreshed rfl rfl rfl rfl
    intro counter member
    fin_cases member <;> simp
  | riskReject signal refused =>
    constructor
    · exact .other (by simp) (.done _)
    · simp [countFill, IsSubmission]
    · exact ⟨rfl, rfl, rfl⟩
    · exact refreshed
    · simp
    · simp [rowsOf]
    · simp [rowsOf]
    · simp [rowsOf]
    · simp [submissions, IsSubmission]
    · simp
  | submits signal accepted live =>
    have started : restart objects.orderManager.state = .idle := by
      cases state : objects.orderManager.state <;>
        simp_all [restart, OrderState.isTerminal, OrderState.isLive]
    have row : IsSubmission ⟨tick.receiveTsNs, OrderState.idle.code,
        OrderState.pendingNewAck.code, .omsTransition, (strategy.onTick tick).order.side,
        .none⟩ := ⟨rfl, rfl, rfl⟩
    constructor
    · exact .step rfl (by rw [started]) rfl (.done _)
    · simp [countFill, row, submittedObjects, submittedOrder]
    · exact ⟨rfl, rfl, rfl⟩
    · exact refreshed
    · simp
    · simp [rowsOf]
    · simp [rowsOf]
    · simp [rowsOf]
    · simp [submissions, row]
    · simp

/-- The rows of a whole tick describe what it did. -/
theorem tick_journals {objects : ReplayObjects} (sound : Sound objects)
    (config : ReplayConfig) {tick : MarketTick} (nonneg : NonNegative tick) :
    Journals tick.receiveTsNs (markObjects tick objects) (tickEffect config tick objects) := by
  have marked : Refreshed (markObjects tick objects).accounting :=
    AccountingEngine.markToMarket_refreshed _ _
  have venue := venue_journals (markObjects_sound sound tick) marked tick
  obtain ⟨_, orderManager, accounting, _⟩ :=
    stopTimer_keeps (venuePhase tick (markObjects tick objects)).objects
  have timerRefreshed :
      Refreshed (stopTimer (venuePhase tick (markObjects tick objects)).objects).accounting := by
    rw [accounting]
    exact venue.refreshed
  have cancel := cancel_journals timerRefreshed config tick
  have decision := decision_journals ((sound.answered nonneg).canceled config tick).sound
    cancel.refreshed config tick
  have own := (cancel.andThen decision).congr orderManager accounting
  rw [tickEffect_eq]
  exact (venue.andThen own).measured .endToEnd

@[simp] theorem fillEvents_cons (event : VenueEvent) (rest : List VenueEvent) :
    fillEvents (event :: rest) =
      if event.type = .fill then event :: fillEvents rest else fillEvents rest := by
  simp [fillEvents, List.filter_cons]

@[simp] theorem fillEvents_nil : fillEvents [] = [] := rfl

/-- An applied event returns a fill exactly when it is one. -/
theorem applies_fillRow {order next : Manager} {event : VenueEvent} {fill : Fill}
    (applies : Applies order event fill next) :
    (if 0 < fill.quantity then
      [(⟨fill.tsNs, fill.price, fill.quantity, .fill, fill.side, .none⟩ : TradeEvent)] else []) =
        (fillEvents [event]).map (fillRow order.side) ∧ next.side = order.side := by
  cases applies with
  | fill kind state named positive bounded => simp [kind, positive, fillRow]
  | newAck kind state id => simp [kind, Fill.empty]
  | newReject kind state => simp [kind, Fill.empty]
  | cancelAck kind state named => simp [kind, Fill.empty]
  | cancelReject kind state named => simp [kind, Fill.empty]
  | expired kind state named => simp [kind, Fill.empty]

theorem event_fillRows {objects : ReplayObjects} {event : VenueEvent} {fill : Fill}
    {next : Manager} (applies : Applies objects.orderManager event fill next)
    (fallbackSide : Side) (tick : MarketTick) :
    rowsOf .fill (emitted (handleVenueEvent event fallbackSide tick objects).actions) =
      (fillEvents [event]).map (fillRow objects.orderManager.side) := by
  have moved := rowsOf_none fun row member =>
    (transition_rows event.tsNs objects.orderManager.state next.state objects.orderManager.side row
      member).1.trans_ne (show EventKind.omsTransition ≠ .fill by decide)
  have rejected := rowsOf_none fun row member =>
    (venueReject_rows event objects.orderManager.side next row member).1.trans_ne
      (show EventKind.venueReject ≠ .fill by decide)
  rw [handleVenueEvent_applied applies]
  simp only [emitted_append, rowsOf_append, moved, rejected, handleFill_rows,
    List.nil_append, List.append_nil]
  rw [← (applies_fillRow applies).1]
  split_ifs <;> simp [rowsOf]

/-- The fill rows of a batch that is applied are its fills. -/
theorem batch_fillRows {objects : ReplayObjects} (tick : MarketTick) {events : List VenueEvent}
    (accepts : Accepts objects.orderManager events) :
    rowsOf .fill (emitted (handleBatch tick events objects).actions) =
        (fillEvents events).map (fillRow objects.orderManager.side) ∧
      FillsTaken tick events objects := by
  induction events generalizing objects with
  | nil => exact ⟨rfl, trivial⟩
  | cons event rest ih =>
    rcases onVenueEvent_cases objects.orderManager event with
      ⟨fill, next, result, applies⟩ | ⟨outcome, refused, result⟩
    · have order := (handleVenueEvent_objects event objects.orderManager.side tick objects).2
      rw [result] at order
      dsimp only at order
      have tail := (accepts_cons applies rest).1 accepts
      rw [← order] at tail
      obtain ⟨rows, taken⟩ := ih tail
      have first := event_fillRows applies objects.orderManager.side tick
      constructor
      · simp only [handleBatch, andThen_actions, emitted_append, rowsOf_append, first, rows, order,
          (applies_fillRow applies).2]
        simp only [fillEvents_cons]
        split_ifs <;> simp
      · refine ⟨?_, taken⟩
        intro kind
        rw [result]
        cases applies with
        | fill _ state named positive bounded =>
          exact ⟨rfl, rfl, (AccountingEngine.applyFill_accepted _ _).2 positive⟩
        | newAck other state id => simp [kind] at other
        | newReject other state => simp [kind] at other
        | cancelAck other state named => simp [kind] at other
        | cancelReject other state named => simp [kind] at other
        | expired other state named => simp [kind] at other
    · have applied := accepts _ List.mem_cons_self
      rw [result] at applied
      exact absurd applied refused

/-- Fills reach the order manager under the side the gateway serves. -/
theorem served_side {objects : ReplayObjects} (sound : Sound objects) {tick : MarketTick}
    {events : List VenueEvent} {next : Gateway} (ticks : Ticks objects.gateway tick events next) :
    fillEvents events = [] ∨ objects.orderManager.side = servedSide objects.gateway tick := by
  have paired : ∀ tickDue : AckDue objects.gateway tick,
      objects.orderManager.side = servedSide objects.gateway tick := by
    intro due
    rw [servedSide, if_pos due]
    exact (sound.requests due).side
  have held : objects.gateway.activeOrder.active = true →
      objects.orderManager.side = servedSide objects.gateway tick := by
    intro active
    have notDue : ¬AckDue objects.gateway tick := fun due =>
      absurd due.1 (by simp [sound.wellFormed.notPending active])
    rw [servedSide, if_neg notDue]
    exact (sound.serves active).side
  cases ticks with
  | quiet early idle => exact .inl rfl
  | newReject due reject => exact .inl rfl
  | ioc due accepted style => exact .inr (paired due)
  | passive due accepted style matched => exact .inr (paired due)
  | cancelReject active arrives rejects => exact .inr (held active)
  | matching active answer matched => exact .inr (held active)

/-- The fill rows of a tick's venue part are the gateway's fills, all of them taken. -/
theorem venue_fillRows {objects : ReplayObjects} (sound : Sound objects) {tick : MarketTick}
    (nonneg : NonNegative tick) :
    rowsOf .fill (emitted (venuePhase tick objects).actions) =
        venueFills objects.gateway tick ∧
      FillsTaken tick (MockVenueGateway.onTick objects.gateway tick).1.events
        { objects with gateway := (MockVenueGateway.onTick objects.gateway tick).2 } := by
  obtain ⟨events, next, ticks, result⟩ := onTick_ticks sound.wellFormed.coherent tick
  have linked := tick_linked ticks sound.linked sound.wellFormed sound.latency nonneg
  simp only [venuePhase_eq, andThen_actions, venueFills, result, emitted_append, emitted_count,
    emitted_measure, emitted_nil, List.nil_append]
  rcases linked.2 with accepts | ⟨event, rfl, kind, refused⟩
  · obtain ⟨rows, taken⟩ := @batch_fillRows { objects with gateway := next } tick events accepts
    refine ⟨?_, taken⟩
    rw [rows]
    rcases served_side sound ticks with none | side
    · rw [none]
      rfl
    · rw [← side]
  · have silent := @handleBatch_refused event { objects with gateway := next } .wrongState
      (by decide) refused tick
    rw [silent]
    exact ⟨by simp [kind, refused_silent, rowsOf], fun fill => absurd fill kind, trivial⟩

theorem own_fillRows {objects : ReplayObjects} (sound : Sound objects) (config : ReplayConfig)
    (tick : MarketTick) :
    rowsOf .fill (emitted (ownPhase config tick objects).actions) = [] ∧
      (ownPhase config tick objects).objects.gateway.execution = objects.gateway.execution := by
  have gateway := (stopTimer_keeps objects).1
  have cancel : rowsOf .fill (emitted (cancelPhase config tick (stopTimer objects)).actions) = [] ∧
      (cancelPhase config tick (stopTimer objects)).objects.gateway.execution =
        objects.gateway.execution := by
    rcases cancelPhase_cases config tick (stopTimer objects) with ⟨_, _, _, result⟩ | result
    · rw [result]
      refine ⟨by simp [rowsOf], ?_⟩
      rw [← gateway]
      exact sendCancel_latency _ _
    · rw [result]
      exact ⟨rfl, by rw [gateway]⟩
  have decision : rowsOf .fill (emitted (decisionPhase config tick
      (cancelPhase config tick (stopTimer objects)).objects).actions) = [] ∧
      (decisionPhase config tick
        (cancelPhase config tick (stopTimer objects)).objects).objects.gateway.execution =
        (cancelPhase config tick (stopTimer objects)).objects.gateway.execution := by
    obtain ⟨effect, decides, result⟩ :=
      decisionPhase_decides (sound.canceled config tick).sound config tick
    rw [result]
    cases decides with
    | noSignal quiet => exact ⟨rfl, rfl⟩
    | riskReject signal refused => exact ⟨by simp [rowsOf], rfl⟩
    | busy signal live => exact ⟨rfl, rfl⟩
    | submits signal accepted live => exact ⟨by simp [rowsOf], rfl⟩
  simp only [ownPhase, andThen_actions, andThen_objects, emitted_append, rowsOf_append, cancel.1,
    decision.1, decision.2, cancel.2, List.append_nil, and_self]

/-- How many fills the simulator has made. -/
def fillCount (stats : ExecutionSimulator.ExecutionStats) : Int :=
  stats.aggressiveFillCount + stats.passiveFillCount

/-- The simulator counts exactly the fills the gateway emits. -/
theorem ticks_fillCount {gateway next : Gateway} {tick : MarketTick} {events : List VenueEvent}
    (ticks : Ticks gateway tick events next) :
    fillCount next.execution.stats =
      fillCount gateway.execution.stats + ((fillEvents events).length : Int) := by
  have matching : ∀ {gateway next : Gateway} {events : List VenueEvent},
      Matches gateway tick events next → fillCount next.execution.stats =
        fillCount gateway.execution.stats + ((fillEvents events).length : Int) := by
    intro gateway next events matched
    cases matched with
    | fills reach fills => exact fills.fillCount
    | cancelAcked reach due => exact (Int.add_zero _).symm
    | waits reach early => exact (Int.add_zero _).symm
  cases ticks with
  | quiet early idle => exact (Int.add_zero _).symm
  | newReject due reject => exact (Int.add_zero _).symm
  | ioc due accepted style =>
    unfold iocEvents
    by_cases reach : 0 < iocFillQty gateway.pendingNew.request tick
    · have trades := (ExecutionSimulator.aggressiveFill_trades gateway.execution reach).fillCount
      simp only [if_pos reach]
      split_ifs
      · simpa [iocDone, fillCount] using trades
      · simpa [iocDone, fillCount] using trades
    · have quiet := @ExecutionSimulator.aggressiveFill_quiet gateway.execution tick
        (orderRequest gateway.pendingNew.request) (by simpa [iocFillQty] using reach)
      simp only [if_neg reach, iocDone, quiet]
      split_ifs <;> simp
  | passive due accepted style matched =>
    have counted := matching matched
    simpa [acknowledged] using counted
  | cancelReject active arrives rejects => exact (Int.add_zero _).symm
  | matching active answer matched =>
    rw [matching matched]
    unfold forwarded ExecutionSimulator.requestCancel
    split_ifs <;> rfl

end TradingKernel.ReplayJournal
