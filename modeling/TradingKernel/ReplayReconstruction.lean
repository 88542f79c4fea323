import TradingKernel.ReplayJournal

/-!
The result of a whole replay, read back from its journal: the invariant that
ties the rows written so far to the state reached so far, kept by every tick.
-/

namespace TradingKernel.ReplayReconstruction
open Library OrderManager MockVenueGateway GatewayInvariant ReplayRunner ReplayRun
open ReplayPhases ReplayAgreement ReplayJournal
open AccountingEngine (Refreshed markToMarket)

/-- What the rows written so far say about the state reached so far. -/
structure Journaled (fills : List TradeEvent) (s : ReplayState) : Prop where
  path : Path .idle s.record.events s.objects.orderManager.state
  filled : filledSinceSubmission s.record.events = s.objects.orderManager.cumQty
  books : SameBooks s.objects.accounting (rebuild s.record.events)
  refreshed : Refreshed s.objects.accounting
  fillRows : rowsOf .fill s.record.events = fills
  simulated : (s.record.counters.fills : Int) = fillCount s.objects.gateway.execution.stats
  fills : s.record.counters.fills = (rowsOf .fill s.record.events).length
  riskRejects : s.record.counters.riskRejects = (rowsOf .riskReject s.record.events).length
  venueRejects : s.record.counters.venueRejects = (rowsOf .venueReject s.record.events).length
  submissions : s.record.counters.localSubmissions = (submissions s.record.events).length
  accepted : s.record.counters.acceptedEvents = s.record.events.length
  noneRejected : s.record.counters.accountingRejectedFills = 0

/-- A result that can be read back from a journal and the last mid price. -/
structure Reconstructs (journal : List TradeEvent) (midPrice : Price) (r : ReplayResult) :
    Prop where
  position : r.position = (markToMarket (rebuild journal) midPrice).positionState
  pnl : r.pnl = (markToMarket (rebuild journal) midPrice).pnlState
  path : Path .idle journal r.order.state
  filled : filledSinceSubmission journal = r.order.cumQty
  ordered : journal.Pairwise (fun earlier later => earlier.tsNs ≤ later.tsNs)
  fills : r.counters.fills = (rowsOf .fill journal).length
  simulated : (r.counters.fills : Int) =
    r.executionStats.aggressiveFillCount + r.executionStats.passiveFillCount
  riskRejects : r.counters.riskRejects = (rowsOf .riskReject journal).length
  venueRejects : r.counters.venueRejects = (rowsOf .venueReject journal).length
  submissions : r.counters.localSubmissions = (submissions journal).length
  accepted : r.counters.acceptedEvents = journal.length
  noneRejected : r.counters.accountingRejectedFills = 0

section Marks
variable {tick : MarketTick} {objects : ReplayObjects}

/-- Every engine a tick leaves behind is marked at its mid price. -/
theorem handleFill_marked (marked : objects.accounting.markPrice = tick.mid) (fill : Fill) :
    (handleFill fill tick objects).objects.accounting.markPrice = tick.mid := by
  by_cases positive : 0 < fill.quantity
  · rw [handleFill_positive positive]
    exact AccountingEngine.markToMarket_markPrice _ _
  · rw [handleFill, if_pos (by omega)]
    exact marked

theorem handleVenueEvent_marked (marked : objects.accounting.markPrice = tick.mid)
    (event : VenueEvent) (fallbackSide : Side) :
    (handleVenueEvent event fallbackSide tick objects).objects.accounting.markPrice =
      tick.mid := by
  rcases onVenueEvent_cases objects.orderManager event with
    ⟨fill, next, result, applies⟩ | ⟨outcome, refused, result⟩
  · rw [handleVenueEvent_applied applies]
    exact @handleFill_marked tick { objects with orderManager := next } marked fill
  · rw [handleVenueEvent_refused refused result]
    exact marked

theorem handleBatch_marked (marked : objects.accounting.markPrice = tick.mid)
    (events : List VenueEvent) :
    (handleBatch tick events objects).objects.accounting.markPrice = tick.mid := by
  induction events generalizing objects with
  | nil => exact marked
  | cons event rest ih => exact ih (handleVenueEvent_marked marked event _)

/-- After the venue part, a tick leaves accounting alone. -/
theorem ownPhase_accounting (sound : Sound objects) (config : ReplayConfig) :
    (ownPhase config tick objects).objects.accounting = objects.accounting := by
  obtain ⟨_, _, accounting, _⟩ := stopTimer_keeps objects
  have cancel : (cancelPhase config tick (stopTimer objects)).objects.accounting =
      objects.accounting := by
    rcases cancelPhase_cases config tick (stopTimer objects) with ⟨_, _, _, result⟩ | result
    · rw [result]
      exact accounting
    · rw [result]
      exact accounting
  rw [ownPhase, andThen_objects, ← cancel]
  obtain ⟨effect, decides, result⟩ :=
    decisionPhase_decides (sound.canceled config tick).sound config tick
  rw [result]
  cases decides with
  | noSignal quiet => rfl
  | riskReject signal refused => rfl
  | busy signal live => rfl
  | submits signal accepted live => rfl

theorem tickEffect_marked (sound : Sound objects) (config : ReplayConfig)
    (nonneg : NonNegative tick) :
    (tickEffect config tick objects).objects.accounting.markPrice = tick.mid := by
  rw [tickEffect_eq]
  simp only [andThen_objects]
  rw [ownPhase_accounting (sound.answered nonneg), venuePhase_eq, andThen_objects]
  apply handleBatch_marked
  exact AccountingEngine.markToMarket_markPrice _ _

/-- The fill rows of a tick are the gateway's fills, and the simulator counts them. -/
theorem tick_fillRows (sound : Sound objects) (config : ReplayConfig)
    (nonneg : NonNegative tick) :
    rowsOf .fill (emitted (tickEffect config tick objects).actions) =
        venueFills objects.gateway tick ∧
      fillCount (tickEffect config tick objects).objects.gateway.execution.stats =
        fillCount objects.gateway.execution.stats +
          ((venueFills objects.gateway tick).length : Int) := by
  have venue := (venue_fillRows (markObjects_sound sound tick) nonneg).1
  have own := own_fillRows (sound.answered nonneg) config tick
  obtain ⟨events, next, ticks, result⟩ := onTick_ticks sound.wellFormed.coherent tick
  have gateway := (venuePhase_objects tick (markObjects tick objects)).1
  rw [tickEffect_eq]
  constructor
  · simp only [andThen_actions, emitted_append, rowsOf_append, venue, own.1, emitted_measure,
      emitted_nil, List.append_nil]
    rfl
  · simp only [andThen_objects]
    rw [own.2, gateway, show (markObjects tick objects).gateway = objects.gateway from rfl,
      venueFills, result, List.length_map]
    exact ticks_fillCount ticks

end Marks

section
variable {env : ReplayEnv} {config : ReplayConfig}

theorem runTick_events (s : ReplayState) (tick : MarketTick) :
    (runTick env config tick s).record.events =
      s.record.events ++ emitted (tickEffect config tick s.objects).actions :=
  performAll_events env config _ _

/-- One tick extends the journal by what it did. -/
theorem tick_journaled {fills : List TradeEvent} {s : ReplayState} {tick : MarketTick}
    (journaled : Journaled fills s) (sound : Sound s.objects) (nonneg : NonNegative tick) :
    Journaled (fills ++ venueFills s.objects.gateway tick) (runTick env config tick s) := by
  have written := tick_journals sound config nonneg
  obtain ⟨rows, counted⟩ := tick_fillRows sound config nonneg
  have count : ∀ counter, (runTick env config tick s).record.counters.get counter =
      s.record.counters.get counter +
        ReplayRun.counted counter (tickEffect config tick s.objects).actions :=
    performAll_get env config _ _
  have start := (mark_sameBooks journaled.refreshed tick.mid).trans journaled.books
  have fillsNow := count .fills
  rw [written.fills, rows] at fillsNow
  constructor
  · rw [runTick_events]
    exact journaled.path.append written.path
  · rw [runTick_events, filledSinceSubmission, List.foldl_append, ← filledSinceSubmission,
      journaled.filled]
    exact written.filled
  · rw [runTick_events, rebuild, bookRows_append]
    exact written.books.trans (start.bookRows _)
  · exact written.refreshed
  · rw [runTick_events, rowsOf_append, journaled.fillRows, rows]
  · calc ((runTick env config tick s).record.counters.fills : Int)
        = (s.record.counters.fills : Int) + (venueFills s.objects.gateway tick).length := by
          exact_mod_cast fillsNow
      _ = fillCount (runTick env config tick s).objects.gateway.execution.stats := by
          rw [journaled.simulated]
          exact counted.symm
  · rw [runTick_events, rowsOf_append, List.length_append, ← journaled.fills, ← written.fills]
    exact count .fills
  · rw [runTick_events, rowsOf_append, List.length_append, ← journaled.riskRejects,
      ← written.riskRejects]
    exact count .riskRejects
  · rw [runTick_events, rowsOf_append, List.length_append, ← journaled.venueRejects,
      ← written.venueRejects]
    exact count .venueRejects
  · rw [runTick_events, submissions_append, List.length_append, ← journaled.submissions,
      ← written.submissions]
    exact count .localSubmissions
  · rw [runTick_events, List.length_append, ← journaled.accepted]
    exact performAll_acceptedEvents env config _ _
  · have rejected := count .accountingRejectedFills
    rw [written.noneRejected] at rejected
    exact rejected.trans journaled.noneRejected

theorem initialState_journaled (tickCount : Nat) : Journaled [] (initialState tickCount) :=
  ⟨.done _, rfl, ⟨rfl, rfl, rfl⟩, AccountingEngine.fresh_refreshed, rfl, rfl, rfl, rfl, rfl, rfl,
    rfl, rfl⟩

theorem run_journaled {fills : List TradeEvent} {s : ReplayState} {ticks : List MarketTick}
    (journaled : Journaled fills s) (sound : Sound s.objects)
    (nonneg : ∀ tick ∈ ticks, NonNegative tick) :
    Journaled (fills ++ gatewayFills env config s ticks) ((machine env config).run s ticks) := by
  induction ticks generalizing fills s with
  | nil => simpa [gatewayFills] using journaled
  | cons tick rest ih =>
    have first := nonneg tick (by simp)
    have next := ih (@tick_journaled env config _ _ _ journaled sound first)
      (tickEffect_sound sound config first) (fun other member => nonneg other (by simp [member]))
    rw [gatewayFills, ← List.append_assoc]
    exact next

/-- Rows are written in the order of their time stamps. -/
theorem run_ordered {s : ReplayState} {ticks : List MarketTick} (sound : Sound s.objects)
    (nonneg : ∀ tick ∈ ticks, NonNegative tick)
    (ordered : ticks.Pairwise (fun earlier later => earlier.receiveTsNs ≤ later.receiveTsNs))
    (past : ∀ row ∈ s.record.events, ∀ tick ∈ ticks, row.tsNs ≤ tick.receiveTsNs)
    (rows : s.record.events.Pairwise (fun earlier later => earlier.tsNs ≤ later.tsNs)) :
    ((machine env config).run s ticks).record.events.Pairwise
      (fun earlier later => earlier.tsNs ≤ later.tsNs) := by
  induction ticks generalizing s with
  | nil => exact rows
  | cons tick rest ih =>
    have first := nonneg tick (by simp)
    have atTick := (tick_journals sound config first).atTick
    obtain ⟨later, ordered⟩ := List.pairwise_cons.1 ordered
    apply ih (tickEffect_sound sound config first)
      (fun other member => nonneg other (by simp [member])) ordered
    · intro row member other next
      have written : row ∈ (runTick env config tick s).record.events := member
      rw [runTick_events, List.mem_append] at written
      rcases written with old | new
      · exact past row old other (by simp [next])
      · rw [atTick row new]
        exact later other next
    · have whole : (runTick env config tick s).record.events.Pairwise
          (fun earlier later => earlier.tsNs ≤ later.tsNs) := by
        rw [runTick_events, List.pairwise_append]
        refine ⟨rows, ?_, ?_⟩
        · apply List.pairwise_of_forall_mem_list
          intro row member other next
          rw [atTick row member, atTick other next]
        · intro row old other new
          rw [atTick other new]
          exact past row old tick (by simp)
      exact whole

end

/-- The result of a state can be read back from its journal. -/
theorem journaled_reconstructs {fills : List TradeEvent} {s : ReplayState} {midPrice : Price}
    (journaled : Journaled fills s) (marked : s.objects.accounting.markPrice = midPrice)
    (ordered : s.record.events.Pairwise (fun earlier later => earlier.tsNs ≤ later.tsNs))
    (persistedEvents : Nat) (sinkFailed : Bool) :
    Reconstructs s.record.events midPrice (result s persistedEvents sinkFailed) := by
  have engine := AccountingEngine.markToMarket_unchanged journaled.refreshed marked
  rw [journaled.books.mark] at engine
  constructor
  · rw [engine]
    rfl
  · rw [engine]
    rfl
  · exact journaled.path
  · exact journaled.filled
  · exact ordered
  · exact journaled.fills
  · exact journaled.simulated
  · exact journaled.riskRejects
  · exact journaled.venueRejects
  · exact journaled.submissions
  · exact journaled.accepted
  · exact journaled.noneRejected

/-- Every replay of a valid tick list emits a journal from which its result can
be read back; its fill rows are the gateway's fills, each of them taken once. -/
theorem run_journal (env : ReplayEnv) (config : ReplayConfig) (ticks : List MarketTick)
    (valid : ValidTicks ticks) (some : ticks ≠ []) :
    ∃ s r, replayTicks env config ticks = .ok s ∧ runReplay env config ticks = .ok r ∧
      Reconstructs s.record.events (ticks.getLast some).mid r ∧
      rowsOf .fill s.record.events =
        gatewayFills env config (initialState ticks.length) ticks ∧
      ∀ before tick after, ticks = before ++ tick :: after →
        let objects := markObjects tick (stateAfter env config ticks.length before).objects
        let served := MockVenueGateway.onTick objects.gateway tick
        FillsTaken tick served.1.events { objects with gateway := served.2 } := by
  have nonneg := valid.nonNegative
  refine ⟨_, _, replayTicks_run env config some valid.oneSymbol,
    runReplay_run env config some valid.oneSymbol, ?_, ?_, ?_⟩
  · refine journaled_reconstructs (run_journaled (initialState_journaled _) initialObjects_sound
      nonneg) ?_ (run_ordered initialObjects_sound nonneg valid.ordered (by simp [initialState])
      .nil) _ _
    obtain ⟨before, last, split⟩ : ∃ before last, ticks = before ++ [last] :=
      ⟨_, _, (List.dropLast_append_getLast some).symm⟩
    subst split
    have sound := run_sound env config (before ++ [last]).length
      (fun tick member => nonneg tick (List.mem_append_left _ member))
    rw [show (machine env config).run (initialState (before ++ [last]).length) (before ++ [last]) =
      _ from stateAfter_append env config _ before last, List.getLast_append_singleton]
    exact tickEffect_marked sound config (nonneg last (by simp))
  · exact (run_journaled (initialState_journaled _) initialObjects_sound nonneg).fillRows
  · intro before tick after split
    have members : ∀ other ∈ before ++ [tick], NonNegative other :=
      (valid.take ⟨after, by simp [split]⟩).nonNegative
    have sound := run_sound env config ticks.length
      (fun other member => members other (List.mem_append_left _ member))
    exact (venue_fillRows (markObjects_sound sound tick) (members tick (by simp))).2

/-- A buy signal, then a partial fill whose remainder expires. -/
def partialFillTicks : List MarketTick :=
  [⟨1000, 1000, 99500, 99900, 1, 50, 50⟩, ⟨2000, 2000, 99700, 100100, 1, 50, 20⟩]

theorem run_journal_partialFill :
    ∃ s r, replayTicks quietEnv ⟨.sync, .aggressive, 3000⟩ partialFillTicks = .ok s ∧
      runReplay quietEnv ⟨.sync, .aggressive, 3000⟩ partialFillTicks = .ok r ∧
      Reconstructs s.record.events (partialFillTicks.getLast (by decide)).mid r ∧
      rowsOf .fill s.record.events =
        gatewayFills quietEnv ⟨.sync, .aggressive, 3000⟩ (initialState 2) partialFillTicks ∧
      ∀ before tick after, partialFillTicks = before ++ tick :: after →
        let objects := markObjects tick
          (stateAfter quietEnv ⟨.sync, .aggressive, 3000⟩ 2 before).objects
        let served := MockVenueGateway.onTick objects.gateway tick
        FillsTaken tick served.1.events { objects with gateway := served.2 } :=
  run_journal quietEnv ⟨.sync, .aggressive, 3000⟩ partialFillTicks (by decide) (by decide)

end TradingKernel.ReplayReconstruction
