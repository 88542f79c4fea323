import TradingKernel.CsvAcceptance
import TradingKernel.LatencySummary
import TradingKernel.LoggingSink

/-!
The trading program from its arguments to its exit status: it reads the ticks,
opens the journal, replays with the logging sink and reports. The world decides
what files hold, which writes succeed, how long things take and how the two
threads interleave.
-/

namespace TradingKernel.TradingMain
open Library Library.Decimal ReplayRunner ReplayRun FillLogger LoggingSink
open ReplayEventSink (SameFigures eventsOf eventsOf_rows)
open AsyncSink (Turn queueCapacity)
open CsvReader (fromChars int64 newline readAll makeErrorMessage)
open CsvAcceptance (IsField parseInteger_iff)

/-- The bytes of an argument. -/
def utf8 (text : String) : List UInt8 := text.toUTF8.data.toList

/-- The value of the argument, or the text of the exception. -/
def parseNonnegativeTimestampArg (value : Option String) (argumentName : Option String) :
    Except String TimestampNs :=
  let name := argumentName.getD "argument"
  let accepted := " accepted range is 0..9223372036854775807"
  match value with
  | none => .error (name ++ " is empty;" ++ accepted)
  | some text =>
    if text = "" then .error (name ++ " is empty;" ++ accepted)
    else
      match fromChars int64 (utf8 text) with
      | (some parsed, []) =>
        if parsed < 0 then .error (name ++ " is invalid: '" ++ text ++ "';" ++ accepted)
        else .ok parsed
      | _ => .error (name ++ " is invalid: '" ++ text ++ "';" ++ accepted)

structure RuntimeConfig where
  sinkMode : ReplaySinkMode
  persistencePath : String
  executionStyle : ExecutionStyle
  passiveCancelAfterNs : TimestampNs
  deriving DecidableEq, Repr

def sinkModeName (mode : ReplaySinkMode) : String := if mode = .sync then "sync" else "async"

def executionStyleName (style : ExecutionStyle) : String :=
  if style = .aggressive then "aggressive" else "passive"

def parseSinkMode (mode : String) : Except String ReplaySinkMode :=
  if mode = "sync" then .ok .sync
  else if mode = "async" then .ok .async
  else .error "sink_mode is invalid; accepted values are sync|async"

def parseExecutionStyle (mode : String) : Except String ExecutionStyle :=
  if mode = "aggressive" then .ok .aggressive
  else if mode = "passive" then .ok .passive
  else .error "execution_style is invalid; accepted values are aggressive|passive"

/-- What an argument is parsed to, and the default without one. -/
def argument {α : Type} (given : Option String) (default : α) (parse : String → Except String α) :
    Except String α :=
  match given with
  | none => .ok default
  | some text => parse text

/-- Reads the arguments from left to right; the first bad one ends the reading. -/
def parseRuntimeConfig (argv : List String) : Except String RuntimeConfig := do
  let sinkMode ← argument argv[2]? .async parseSinkMode
  let persistencePath ← argument argv[3]? "build/event_journal.csv" .ok
  let executionStyle ← argument argv[4]? .aggressive parseExecutionStyle
  let passiveCancelAfterNs ← argument argv[5]? 3000 fun text =>
    parseNonnegativeTimestampArg (some text) (some "passive_cancel_after_ns")
  return ⟨sinkMode, persistencePath, executionStyle, passiveCancelAfterNs⟩

/-- A decimal text of a timestamp that is not negative: leading zeros and a minus
before zero are fine, a plus or a blank is not. -/
def TimestampText (text : String) (tsNs : TimestampNs) : Prop :=
  IsField int64 (utf8 text) tsNs ∧ 0 ≤ tsNs

theorem parseNonnegativeTimestampArg_iff (value name : Option String) (tsNs : TimestampNs) :
    parseNonnegativeTimestampArg value name = .ok tsNs ↔
      ∃ text, value = some text ∧ TimestampText text tsNs := by
  cases value with
  | none => simp [parseNonnegativeTimestampArg]
  | some text =>
    have field := parseInteger_iff int64 (utf8 text) tsNs
    rw [CsvReader.parseInteger] at field
    simp only [parseNonnegativeTimestampArg, TimestampText, ← field, Option.some.injEq,
      exists_eq_left']
    by_cases empty : text = ""
    · subst empty
      rw [if_pos rfl, show fromChars int64 (utf8 "") = (none, []) by decide]
      simp
    · rw [if_neg empty]
      generalize fromChars int64 (utf8 text) = scanned
      obtain ⟨number, rest⟩ := scanned
      cases number with
      | none => cases rest <;> simp
      | some parsed =>
        cases rest with
        | cons byte rest => simp
        | nil =>
          by_cases negative : parsed < 0
          · simp only [if_pos negative, if_true, Option.some.injEq, reduceCtorEq, false_iff]
            rintro ⟨rfl, nonneg⟩
            exact absurd negative (Int.not_lt.2 nonneg)
          · simp only [if_neg negative, if_true, Option.some.injEq, Except.ok.injEq]
            exact ⟨fun same => ⟨same, same ▸ Int.not_lt.1 negative⟩, And.left⟩

theorem parseSinkMode_iff (text : String) (mode : ReplaySinkMode) :
    parseSinkMode text = .ok mode ↔ text = sinkModeName mode := by
  unfold parseSinkMode sinkModeName
  cases mode <;> split_ifs <;> simp_all

theorem parseExecutionStyle_iff (text : String) (style : ExecutionStyle) :
    parseExecutionStyle text = .ok style ↔ text = executionStyleName style := by
  unfold parseExecutionStyle executionStyleName
  cases style <;> split_ifs <;> simp_all

/-- What an argument says, a missing one being its default. -/
def Says {α : Type} (given : Option String) (default : α) (reads : String → α → Prop)
    (value : α) : Prop :=
  match given with
  | none => value = default
  | some text => reads text value

theorem argument_iff {α : Type} (given : Option String) (default : α)
    {parse : String → Except String α} {reads : String → α → Prop}
    (exact : ∀ text value, parse text = .ok value ↔ reads text value) (value : α) :
    argument given default parse = .ok value ↔ Says given default reads value := by
  cases given with
  | none => simp [argument, Says, eq_comm]
  | some text => exact exact text value

/-- The arguments give the names of the modes, the path and a decimal text of
the timer, each of them or its default. -/
structure Configures (argv : List String) (config : RuntimeConfig) : Prop where
  sinkMode : Says argv[2]? .async (fun text mode => text = sinkModeName mode) config.sinkMode
  persistencePath : Says argv[3]? "build/event_journal.csv" Eq config.persistencePath
  executionStyle : Says argv[4]? .aggressive (fun text style => text = executionStyleName style)
    config.executionStyle
  passiveCancelAfterNs : Says argv[5]? 3000 TimestampText config.passiveCancelAfterNs

theorem parseRuntimeConfig_iff (argv : List String) (config : RuntimeConfig) :
    parseRuntimeConfig argv = .ok config ↔ Configures argv config := by
  have sinkMode := argument_iff argv[2]? .async parseSinkMode_iff
  have path := argument_iff argv[3]? "build/event_journal.csv"
    (fun text value => (Except.ok.injEq text value).to_iff)
  have style := argument_iff argv[4]? .aggressive parseExecutionStyle_iff
  have timer := @argument_iff _ argv[5]? 3000
    (fun text => parseNonnegativeTimestampArg (some text) (some "passive_cancel_after_ns"))
    TimestampText
    fun text tsNs => (parseNonnegativeTimestampArg_iff (some text) _ tsNs).trans (by simp)
  simp only [parseRuntimeConfig, CsvAcceptance.bind_ok_iff, sinkMode, path, style, timer]
  constructor
  · rintro ⟨_, reads, _, readsPath, _, readsStyle, _, readsTimer, same⟩
    obtain rfl := Except.ok.inj same
    exact ⟨reads, readsPath, readsStyle, readsTimer⟩
  · rintro ⟨reads, readsPath, readsStyle, readsTimer⟩
    exact ⟨_, reads, _, readsPath, _, readsStyle, _, readsTimer, rfl⟩

def RuntimeConfig.replay (config : RuntimeConfig) : ReplayConfig :=
  ⟨config.sinkMode, config.executionStyle, config.passiveCancelAfterNs⟩

/-- The reasons of a failed run, in the order they are printed. -/
def failureReasons (asyncDrop persistence latencyOverflow batchOverflow : Bool) : List String :=
  (if asyncDrop then ["async_drop"] else []) ++
    (if persistence then ["persist_write"] else []) ++
    (if latencyOverflow then ["latency_overflow"] else []) ++
    if batchOverflow then ["venue_event_batch_overflow"] else []

/-- A name and what is printed after it. -/
def entry (name : String) (value : List UInt8) : List UInt8 := ascii name ++ ascii "=" ++ value

def number (name : String) (value : Int) : List UInt8 := entry name (renderInt value)

/-- The line of a latency summary. -/
def printSummary (stats : LatencyStats) (name : String) : Option (List UInt8) := do
  let summary ← stats.summarize
  let optional (has : Bool) (value : Int) := if has then renderInt value else ascii "n/a"
  return ascii "latency[" ++ ascii name ++ ascii "] count=" ++ render summary.count ++
    ascii " overflow=" ++ render stats.overflowCount ++
    ascii " capacity=" ++ render stats.samples.length ++
    ascii " max_per_tick=" ++ render stats.maxPerTick ++
    ascii " estimator=nearest_rank min_ns=" ++ renderInt summary.minNs ++
    ascii " mean_ns=" ++ renderInt summary.meanNs ++
    ascii " p50_ns=" ++ renderInt summary.p50Ns ++
    ascii " p99_ns=" ++ optional summary.hasP99 summary.p99Ns ++
    ascii " p99_9_ns=" ++ optional summary.hasP999 summary.p999Ns ++
    ascii " tail_mean_99_ns=" ++ optional summary.hasTailMean99 summary.tailMean99Ns ++
    ascii " max_ns=" ++ renderInt summary.maxNs

def configLines (config : RuntimeConfig) : List (List UInt8) :=
  [entry "sink_mode" (ascii (sinkModeName config.sinkMode)),
    entry "persistence_path" (utf8 config.persistencePath),
    entry "execution_mode" (ascii (executionStyleName config.executionStyle)),
    number "passive_cancel_after_ns" config.passiveCancelAfterNs]

def counterLines (r : ReplayResult) : List (List UInt8) :=
  [number "strategy_signals" r.counters.strategySignals,
    number "local_submissions" r.counters.localSubmissions,
    number "gateway_submissions" r.counters.gatewaySubmissions,
    number "risk_rejects" r.counters.riskRejects,
    number "venue_rejects" r.counters.venueRejects,
    number "invalid_venue_events" r.counters.invalidVenueEvents,
    number "fills" r.counters.fills,
    number "persisted_events" r.counters.persistedEvents,
    number "dropped_async_events" r.counters.droppedEvents,
    number "events.accepted" r.counters.acceptedEvents,
    number "events.persisted" r.counters.persistedEvents,
    number "events.dropped" r.counters.droppedEvents]

def statusLines (reasons : List String) : List (List UInt8) :=
  [entry "run_status" (ascii (if reasons = [] then "ok" else "failed")),
    entry "failure_reasons" (ascii (if reasons = [] then "none" else ",".intercalate reasons))]

def figureLines (r : ReplayResult) : List (List UInt8) :=
  [number "venue_events.batch_overflow" r.counters.venueBatchOverflows,
    number "venue_events.wrong_state" r.counters.wrongStateEvents,
    number "venue_events.wrong_order" r.counters.wrongOrderEvents,
    number "venue_events.invalid_quantity" r.counters.invalidQuantityEvents,
    number "venue_events.invalid_venue_order_id" r.counters.invalidVenueOrderIdEvents,
    number "accounting.rejected_fills" r.counters.accountingRejectedFills,
    number "net_qty" r.position.netQty,
    number "avg_price" r.position.avgPrice,
    number "realized_pnl" r.pnl.realizedPnl,
    number "unrealized_pnl" r.pnl.unrealizedPnl,
    number "cash" r.pnl.cash]

def latencyLines (mode : ReplaySinkMode) (latencies : ReplayLatencies) :
    Option (List (List UInt8)) := do
  let strategy ← printSummary latencies.strategy "strategy"
  let risk ← printSummary latencies.risk "risk"
  let execution ← printSummary latencies.execution "execution"
  let accounting ← printSummary latencies.accounting "accounting"
  let eventSink ← printSummary latencies.eventSink
    (if mode = .sync then "event_sink_sync" else "event_enqueue_async")
  let endToEnd ← printSummary latencies.endToEnd "end_to_end"
  return [strategy, risk, execution, accounting, eventSink, endToEnd]

def statsLines (r : ReplayResult) : List (List UInt8) :=
  [number "execution_stats.aggressive_fills" r.executionStats.aggressiveFillCount,
    number "execution_stats.passive_fills" r.executionStats.passiveFillCount,
    number "execution_stats.partial_fills" r.executionStats.partialFillCount,
    number "execution_stats.cancel_requests" r.executionStats.cancelRequestCount,
    number "execution_stats.cancel_acks" r.executionStats.cancelAckCount,
    number "execution_stats.stale_fills" r.executionStats.staleFillCount,
    number "execution_stats.adverse_fills" r.executionStats.adverseFillCount,
    number "order_manager.state" r.order.state.code,
    number "order_manager.cum_qty" r.order.cumQty,
    number "order_manager.leaves_qty" r.order.leavesQty]

inductive ExitStatus where
  | success
  | failure
  deriving DecidableEq, Repr

/-- What one run of the program leaves behind; the journal only if it was opened. -/
structure Outcome where
  status : ExitStatus
  out : List UInt8
  err : List UInt8
  journal : Option Stream
  deriving DecidableEq, Repr

/-- An early exit with a message. -/
def exitWith (message : String) (journal : Option Stream) : Outcome :=
  ⟨.failure, [], utf8 message ++ [newline], journal⟩

/-- What the program meets: the files it can read, whether the journal opens and
which writes to it succeed, the limit of a sample vector, the durations, the
turns of the threads, and what `print_layout_summary` prints on the platform. -/
structure World where
  files : String → Option CsvReader.Input
  opens : String → Bool
  device : Nat → Bool
  maxSize : Nat
  limit : maxSize ≤ LatencyStats.sizeMax
  elapsed : Nat → Int
  turns : List Turn
  layout : List UInt8

def usage : String :=
  "usage: trading_main <csv-path> [sync|async] [persistence-path] [aggressive|passive]" ++
    " [passive-cancel-after-ns]"

def header : List UInt8 :=
  ascii "event_kind,ts_ns,side,price,quantity,reject_reason" ++ [newline]

/-- The journal right after it was opened and its header written. -/
def openJournal (device : Nat → Bool) : Stream := Stream.write device header ⟨[], true, 0⟩

/-- The reasons to call a finished replay failed. -/
def reasonsOf (r : ReplayResult) (headerGood flushGood : Bool) : List String :=
  failureReasons (r.counters.droppedEvents ≠ 0) (!headerGood || r.sinkFailed || !flushGood)
    r.latencyOverflow (r.counters.venueBatchOverflows ≠ 0)

/-- The journal after the flush that ends a replay. -/
def flushed (world : World) (sink : LoggingEventSink) : Stream :=
  sink.persistence.write world.device []

/-- The report on a finished replay, and the exit status. -/
def report (world : World) (config : RuntimeConfig) (r : ReplayResult)
    (sink : LoggingEventSink) : Option Outcome := do
  let journal := flushed world sink
  let reasons := reasonsOf r (openJournal world.device).good journal.good
  let latencies ← latencyLines config.sinkMode r.latencies
  let lines := configLines config ++ counterLines r ++ statusLines reasons ++ figureLines r ++
    latencies ++ statsLines r
  return ⟨if reasons = [] then .success else .failure,
    sink.log ++ Delimited.terminate newline lines ++ world.layout, [], some journal⟩

/-- The program; it has no outcome while its threads are not joined. -/
def main (world : World) (argv : List String) : Option Outcome :=
  match argv[1]? with
  | none => some (exitWith usage none)
  | some csvPath =>
    match parseRuntimeConfig argv with
    | .error message => some (exitWith message none)
    | .ok config =>
      match readAll (some csvPath) (world.files csvPath) with
      | .error error => some (exitWith (makeErrorMessage error) none)
      | .ok ticks =>
        if world.opens config.persistencePath then
          let journal := openJournal world.device
          match initializeLatencies world.maxSize ticks.length with
          | .error message => some (exitWith message (some journal))
          | .ok _ =>
            match (loggingSink world.device).runReplay world.elapsed config.replay ticks
                world.turns ⟨[], journal⟩ with
            -- The reader has refused everything a replay throws on.
            | .error message => some (exitWith message (some journal))
            | .ok none => none
            | .ok (some (r, sink)) => report world config r sink
        else
          some (exitWith ("failed to open persistence path: " ++ config.persistencePath) none)

section Outcomes
variable {world : World} {argv : List String} {csvPath : String} {config : RuntimeConfig}
  {ticks : List MarketTick} {r : ReplayResult} {sink : LoggingEventSink} {outcome : Outcome}

/-- The run gets as far as opening the journal. -/
structure Opens (world : World) (argv : List String) (csvPath : String)
    (config : RuntimeConfig) (ticks : List MarketTick) : Prop where
  path : argv[1]? = some csvPath
  parsed : parseRuntimeConfig argv = .ok config
  read : readAll (some csvPath) (world.files csvPath) = .ok ticks
  opened : world.opens config.persistencePath = true

/-- Everything up to the replay goes well. -/
structure Accepted (world : World) (argv : List String) (csvPath : String)
    (config : RuntimeConfig) (ticks : List MarketTick) : Prop
    extends Opens world argv csvPath config ticks where
  fits : ticks.length * 4 ≤ world.maxSize

theorem Accepted.valid (accepted : Accepted world argv csvPath config ticks) : ValidTicks ticks :=
  (CsvAcceptance.readAll_accepted accepted.read).1

/-- A file without a row is refused. -/
theorem readAll_some {path : Option String} {file : Option CsvReader.Input}
    (read : readAll path file = .ok ticks) : ticks ≠ [] := by
  obtain ⟨_, _, _, _, _, _, rows, _, some, text, _⟩ :=
    (CsvAcceptance.readAll_ok_iff _ _ ticks).1 read
  intro none
  exact some (List.length_eq_zero_iff.1 (text.length_eq.trans (congrArg List.length none)))

theorem Accepted.some (accepted : Accepted world argv csvPath config ticks) : ticks ≠ [] :=
  readAll_some accepted.read

theorem Accepted.nonNegative (accepted : Accepted world argv csvPath config ticks) :
    ∀ tick ∈ ticks, NonNegative tick :=
  accepted.valid.nonNegative

theorem Accepted.initializes (accepted : Accepted world argv csvPath config ticks) :
    initializeLatencies world.maxSize ticks.length =
      .ok (initialState ticks.length).record.latencies :=
  initializeLatencies_ok accepted.fits world.limit

/-- The replay of an accepted run. -/
def replayOf (world : World) (config : RuntimeConfig) (ticks : List MarketTick) :
    Except String (Option (ReplayResult × LoggingEventSink)) :=
  (loggingSink world.device).runReplay world.elapsed config.replay ticks world.turns
    ⟨[], openJournal world.device⟩

/-- Collectors that can be initialised have room for four samples a tick. -/
theorem initializeLatencies_fits {maxSize tickCount : Nat} {latencies : ReplayLatencies}
    (initialized : initializeLatencies maxSize tickCount = .ok latencies) :
    tickCount * 4 ≤ maxSize := by
  by_contra large
  have refused : LatencyStats.initializeStats maxSize "event_sink" tickCount 4 =
      .error (LatencyStats.capacityError "event_sink" tickCount 4) := by
    rw [LatencyStats.initializeStats, if_pos (by omega : tickCount * 4 > maxSize)]
    exact ite_self _
  simp only [initializeLatencies, Collector.maxPerTick, refused] at initialized
  cases strategy : LatencyStats.initializeStats maxSize "strategy" tickCount 1 <;>
    cases risk : LatencyStats.initializeStats maxSize "risk" tickCount 1 <;>
    cases execution : LatencyStats.initializeStats maxSize "execution" tickCount 2 <;>
    cases accounting : LatencyStats.initializeStats maxSize "accounting" tickCount 1 <;>
    simp [strategy, risk, execution, accounting, bind, Except.bind] at initialized

/-- A replay of the ticks the reader returns does not throw. -/
theorem Accepted.replays (accepted : Accepted world argv csvPath config ticks) :
    ∃ ended, replayOf world config ticks = .ok ended :=
  ReplayEventSink.runReplay_ok accepted.some accepted.valid.oneSymbol

theorem main_accepted (accepted : Accepted world argv csvPath config ticks) :
    main world argv =
      match replayOf world config ticks with
      | .ok (some (r, sink)) => report world config r sink
      | _ => none := by
  obtain ⟨ended, replays⟩ := accepted.replays
  simp only [main, accepted.path, accepted.parsed, accepted.read, accepted.opened, if_true,
    accepted.initializes]
  rw [show (loggingSink world.device).runReplay world.elapsed config.replay ticks world.turns
    ⟨[], openJournal world.device⟩ = _ from replays, replays]
  cases ended <;> rfl

/-- A run that does not open the journal exits with a message. -/
theorem main_unopened (unopened : ∀ csvPath config ticks, ¬Opens world argv csvPath config ticks) :
    ∃ message, main world argv = some (exitWith message none) := by
  unfold main
  cases path : argv[1]? with
  | none => exact ⟨usage, rfl⟩
  | some csvPath =>
    cases parsed : parseRuntimeConfig argv with
    | error message => exact ⟨message, rfl⟩
    | ok config =>
      dsimp only
      cases read : readAll (some csvPath) (world.files csvPath) with
      | error error => exact ⟨makeErrorMessage error, rfl⟩
      | ok ticks =>
        have closed : ¬world.opens config.persistencePath = true := fun opened =>
          unopened csvPath config ticks ⟨path, parsed, read, opened⟩
        simp only [if_neg closed]
        exact ⟨"failed to open persistence path: " ++ config.persistencePath, rfl⟩

/-- A run that is not accepted exits with a message. -/
theorem main_refused (refused : ∀ csvPath config ticks, ¬Accepted world argv csvPath config ticks) :
    ∃ message journal, main world argv = some (exitWith message journal) := by
  by_cases unopened : ∀ csvPath config ticks, ¬Opens world argv csvPath config ticks
  · obtain ⟨message, exits⟩ := main_unopened unopened
    exact ⟨message, none, exits⟩
  · simp only [not_forall, not_not] at unopened
    obtain ⟨csvPath, config, ticks, opens⟩ := unopened
    simp only [main, opens.path, opens.parsed, opens.read, opens.opened, if_true]
    cases initialized : initializeLatencies world.maxSize ticks.length with
    | error message => exact ⟨message, some (openJournal world.device), rfl⟩
    | ok latencies =>
      exact absurd ⟨opens, initializeLatencies_fits initialized⟩ (refused csvPath config ticks)

/-- An accepted run that ends reports on its replay; any other exits with a message. -/
theorem main_cases (ran : main world argv = some outcome) :
    (∃ message journal, outcome = exitWith message journal) ∧
        (∀ csvPath config ticks, ¬Accepted world argv csvPath config ticks) ∨
      ∃ csvPath config ticks r sink, Accepted world argv csvPath config ticks ∧
        replayOf world config ticks = .ok (some (r, sink)) ∧
        report world config r sink = some outcome := by
  by_cases refused : ∀ csvPath config ticks, ¬Accepted world argv csvPath config ticks
  · obtain ⟨message, journal, exits⟩ := main_refused refused
    exact .inl ⟨⟨message, journal, Option.some.inj (ran.symm.trans exits)⟩, refused⟩
  · simp only [not_forall, not_not] at refused
    obtain ⟨csvPath, config, ticks, accepted⟩ := refused
    rw [main_accepted accepted] at ran
    cases replays : replayOf world config ticks with
    | error message => simp [replays] at ran
    | ok ended =>
      cases ended with
      | none => simp [replays] at ran
      | some ended =>
        obtain ⟨r, sink⟩ := ended
        rw [replays] at ran
        exact .inr ⟨csvPath, config, ticks, r, sink, accepted, replays, ran⟩

/-- The journal holds its header and every event of the replay. -/
structure Complete (config : RuntimeConfig) (ticks : List MarketTick) (journal : Stream) :
    Prop where
  good : journal.good = true
  text : journal.text = header ++ journalText (eventsOf config.replay ticks)

theorem failureReasons_eq_nil (asyncDrop persistence latencyOverflow batchOverflow : Bool) :
    failureReasons asyncDrop persistence latencyOverflow batchOverflow = [] ↔
      asyncDrop = false ∧ persistence = false ∧ latencyOverflow = false ∧
        batchOverflow = false := by
  cases asyncDrop <;> cases persistence <;> cases latencyOverflow <;> cases batchOverflow <;>
    simp [failureReasons]

/-- What a finished replay is judged by. -/
theorem reasonsOf_eq_nil (r : ReplayResult) (headerGood flushGood : Bool) :
    reasonsOf r headerGood flushGood = [] ↔
      r.counters.droppedEvents = 0 ∧ (headerGood = true ∧ r.sinkFailed = false ∧
        flushGood = true) ∧ r.latencyOverflow = false ∧ r.counters.venueBatchOverflows = 0 := by
  simp only [reasonsOf, failureReasons_eq_nil, decide_eq_false_iff_not, not_not,
    Bool.or_eq_false_iff, Bool.not_eq_false', and_assoc]

theorem openJournal_text (device : Nat → Bool) (good : (openJournal device).good = true) :
    (openJournal device).text = header := by
  have works : device 0 = true := good
  simp [openJournal, Stream.write, works]

section Report
variable {consumed : List TradeEvent}

theorem flushed_good
    (received : sink =
      (loggingSink world.device).consumeAll consumed ⟨[], openJournal world.device⟩)
    (good : (flushed world sink).good = true) :
    (openJournal world.device).good = true ∧
      (flushed world sink).text = header ++ journalText consumed ∧
      false ∉ (loggingSink world.device).replies consumed ⟨[], openJournal world.device⟩ := by
  have stays : (sink.persistence.good && world.device sink.persistence.writes) = true := good
  have before : sink.persistence.good = true := (Bool.and_eq_true_iff.1 stays).1
  obtain ⟨opened, answered, text⟩ := consumeAll_good world.device ⟨[], openJournal world.device⟩
    consumed (received ▸ before)
  rw [← received, openJournal_text world.device opened] at text
  refine ⟨opened, ?_, answered⟩
  simp only [flushed, Stream.write, stays, if_true, List.append_nil]
  exact text

/-- Nothing was dropped and no write failed exactly when the journal is complete. -/
theorem complete_iff
    (delivers : (loggingSink world.device).Delivers ⟨[], openJournal world.device⟩
      (eventsOf config.replay ticks) r sink consumed) :
    (r.counters.droppedEvents = 0 ∧ (openJournal world.device).good = true ∧
        r.sinkFailed = false ∧ (flushed world sink).good = true) ↔
      Complete config ticks (flushed world sink) := by
  constructor
  · rintro ⟨none, _, _, good⟩
    obtain ⟨_, text, _⟩ := flushed_good delivers.received good
    rw [delivers.complete none] at text
    exact ⟨good, text⟩
  · rintro ⟨good, text⟩
    obtain ⟨opened, written, answered⟩ := flushed_good delivers.received good
    have all : eventsOf config.replay ticks = consumed := by
      have same := List.append_cancel_left (text.symm.trans written)
      rw [journalText_eq, journalText_eq] at same
      exact journalLines_injective same
    have lengths := delivers.dropped
    rw [all] at lengths
    refine ⟨by omega, opened, ?_, good⟩
    rw [← Bool.not_eq_true]
    exact fun failed => answered (delivers.failed.1 failed)

/-- What the report says and how the run exits. -/
theorem report_iff (accepted : Accepted world argv csvPath config ticks)
    (replayed : replayOf world config ticks = .ok (some (r, sink)))
    (reported : report world config r sink = some outcome) :
    outcome.journal = some (flushed world sink) ∧
      (outcome.status = .success ↔ Complete config ticks (flushed world sink) ∧
        (eventsOf config.replay ticks).length ≤ 4 * ticks.length) := by
  obtain ⟨⟨consumed, delivers⟩, same⟩ :=
    ReplayEventSink.runReplay_delivers accepted.some accepted.valid.oneSymbol replayed
  simp only [report, bind, Option.bind_eq_some_iff, pure, Option.some.injEq] at reported
  obtain ⟨latencies, _, rfl⟩ := reported
  refine ⟨rfl, ?_⟩
  obtain ⟨batches, overflow⟩ := same.overflow_iff accepted.valid accepted.some
  rw [← complete_iff delivers, ← overflow]
  have judged := reasonsOf_eq_nil r (openJournal world.device).good (flushed world sink).good
  dsimp only
  by_cases none : reasonsOf r (openJournal world.device).good (flushed world sink).good = []
  · simp only [if_pos none, true_iff]
    obtain ⟨dropped, writes, fits, _⟩ := judged.1 none
    exact ⟨⟨dropped, writes⟩, fits⟩
  · simp only [if_neg none, reduceCtorEq, false_iff]
    rintro ⟨⟨dropped, writes⟩, fits⟩
    exact none (judged.2 ⟨dropped, writes, fits, batches⟩)

/-- The result of a replay that loses nothing. -/
def completeResult (config : RuntimeConfig) (ticks : List MarketTick) : ReplayResult :=
  let events := eventsOf config.replay ticks
  let r := result (stateAfter quietEnv config.replay ticks.length ticks) events.length false
  { r with counters := { r.counters with droppedEvents := 0 } }

/-- The lines of a report besides the latency summaries before `statsLines`. -/
structure SameLines (first second : ReplayResult) : Prop where
  counters : counterLines first = counterLines second
  figures : figureLines first = figureLines second
  stats : statsLines first = statsLines second

/-- A replay that lost nothing shows the figures of the complete result. -/
theorem complete_lines
    (delivers : (loggingSink world.device).Delivers ⟨[], openJournal world.device⟩
      (eventsOf config.replay ticks) r sink consumed)
    (same : SameFigures r (result (stateAfter quietEnv config.replay ticks.length ticks) 0 false))
    (none : r.counters.droppedEvents = 0) (works : r.sinkFailed = false) :
    SameLines r (completeResult config ticks) := by
  have persisted := delivers.persisted_all works
  rw [delivers.complete none] at persisted
  have rebuilt : ∀ counters : ReplayCounters, counters =
      { { counters with persistedEvents := 0, droppedEvents := 0 } with
        persistedEvents := counters.persistedEvents
        droppedEvents := counters.droppedEvents } := fun _ => rfl
  have counters : r.counters = (completeResult config ticks).counters := by
    rw [rebuilt r.counters, same.counters, persisted, none]
    rfl
  have position : r.position = (completeResult config ticks).position := same.position
  have pnl : r.pnl = (completeResult config ticks).pnl := same.pnl
  have order : r.order = (completeResult config ticks).order := same.order
  have stats : r.executionStats = (completeResult config ticks).executionStats :=
    same.executionStats
  constructor
  · simp only [counterLines, counters]
  · simp only [figureLines, counters, position, pnl]
  · simp only [statsLines, stats, order]

/-- The lines of a successful report, given those of the latency summaries. -/
def successLines (config : RuntimeConfig) (ticks : List MarketTick)
    (latencies : List (List UInt8)) : List (List UInt8) :=
  let r := completeResult config ticks
  configLines config ++ counterLines r ++ statusLines [] ++ figureLines r ++ latencies ++
    statsLines r

theorem report_success (accepted : Accepted world argv csvPath config ticks)
    (replayed : replayOf world config ticks = .ok (some (r, sink)))
    (reported : report world config r sink = some outcome) (success : outcome.status = .success) :
    ∃ latencies, latencyLines config.sinkMode r.latencies = some latencies ∧
      outcome.out = logText (eventsOf config.replay ticks) ++
        Delimited.terminate newline (successLines config ticks latencies) ++ world.layout := by
  obtain ⟨⟨consumed, delivers⟩, same⟩ :=
    ReplayEventSink.runReplay_delivers accepted.some accepted.valid.oneSymbol replayed
  simp only [report, bind, Option.bind_eq_some_iff, pure, Option.some.injEq] at reported
  obtain ⟨latencies, summaries, rfl⟩ := reported
  have none : reasonsOf r (openJournal world.device).good (flushed world sink).good = [] := by
    by_contra some
    simp [some] at success
  obtain ⟨dropped, ⟨_, works, _⟩, _⟩ := (reasonsOf_eq_nil ..).1 none
  have lines := complete_lines delivers same dropped works
  have log : sink.log = logText (eventsOf config.replay ticks) := by
    rw [delivers.received, consumeAll_log, delivers.complete dropped]
    rfl
  refine ⟨latencies, summaries, ?_⟩
  simp only [none, log, lines.counters, lines.figures, lines.stats, successLines]

end Report

theorem Accepted.unique {otherPath : String} {otherConfig : RuntimeConfig}
    {otherTicks : List MarketTick} (accepted : Accepted world argv csvPath config ticks)
    (other : Accepted world argv otherPath otherConfig otherTicks) :
    config = otherConfig ∧ ticks = otherTicks := by
  obtain rfl := Option.some.inj (accepted.path.symm.trans other.path)
  exact ⟨Except.ok.inj (accepted.parsed.symm.trans other.parsed),
    Except.ok.inj (accepted.read.symm.trans other.read)⟩

/-- The path, the arguments and the file are what the program accepts. -/
structure WellFormedInput (world : World) (argv : List String) (csvPath : String)
    (config : RuntimeConfig) (ticks : List MarketTick) : Prop where
  path : argv[1]? = some csvPath
  named : csvPath ≠ ""
  arguments : Configures argv config
  file : ∃ content, world.files csvPath = some ⟨content, false⟩ ∧
    CsvAcceptance.FileText content ticks

theorem opens_iff (world : World) (argv : List String) (csvPath : String)
    (config : RuntimeConfig) (ticks : List MarketTick) :
    Opens world argv csvPath config ticks ↔ WellFormedInput world argv csvPath config ticks ∧
      world.opens config.persistencePath = true := by
  have arguments := parseRuntimeConfig_iff argv config
  have file := CsvAcceptance.readAll_ok_iff (some csvPath) (world.files csvPath) ticks
  constructor
  · intro opens
    obtain ⟨_, content, same, named, file, text⟩ := file.1 opens.read
    obtain rfl := Option.some.inj same
    exact ⟨⟨opens.path, named, arguments.1 opens.parsed, content, file, text⟩, opens.opened⟩
  · rintro ⟨⟨path, named, configures, content, bytes, text⟩, opened⟩
    exact ⟨path, arguments.2 configures, file.2 ⟨csvPath, content, rfl, named, bytes, text⟩, opened⟩

/-- An old journal survives a bad call. The journal is opened, and so emptied,
exactly when the path, the arguments and the file are all well formed and it can
be opened; otherwise the run prints nothing and exits with one message. -/
theorem main_opens_iff (ran : main world argv = some outcome) :
    (outcome.journal ≠ none ↔
      ∃ csvPath config ticks, WellFormedInput world argv csvPath config ticks ∧
        world.opens config.persistencePath = true) ∧
      (outcome.journal = none →
        outcome.status = .failure ∧ outcome.out = [] ∧
          ∃ message, outcome.err = utf8 message ++ [newline]) := by
  simp only [← opens_iff]
  by_cases unopened : ∀ csvPath config ticks, ¬Opens world argv csvPath config ticks
  · obtain ⟨message, exits⟩ := main_unopened unopened
    obtain rfl := Option.some.inj (ran.symm.trans exits)
    refine ⟨⟨fun some => absurd rfl some, ?_⟩, fun _ => ⟨rfl, rfl, message, rfl⟩⟩
    rintro ⟨csvPath, config, ticks, opens⟩
    exact absurd opens (unopened csvPath config ticks)
  · simp only [not_forall, not_not] at unopened
    have written : outcome.journal ≠ none := by
      obtain ⟨csvPath, config, ticks, opens⟩ := unopened
      simp only [main, opens.path, opens.parsed, opens.read, opens.opened, if_true] at ran
      split at ran
      · simp [← Option.some.inj ran, exitWith]
      · split at ran
        · simp [← Option.some.inj ran, exitWith]
        · cases ran
        · simp only [report, bind, Option.bind_eq_some_iff, pure, Option.some.injEq] at ran
          obtain ⟨_, _, rfl⟩ := ran
          exact Option.some_ne_none _
    exact ⟨iff_of_true written unopened, fun none => absurd none written⟩

/-- Two ticks on which an order is sent and filled. -/
def fillTicks : List MarketTick :=
  [⟨1000, 1000, 99500, 99900, 1, 50, 50⟩, ⟨2000, 2000, 99700, 100100, 1, 50, 60⟩]

/-- A world in which nothing goes wrong. -/
def fillWorld (turns : List Turn) : World where
  files _ := some ⟨CsvAcceptance.renderFile [] false true fillTicks, false⟩
  opens _ := true
  device _ := true
  maxSize := 1000
  limit := by decide
  elapsed := Int.ofNat
  turns := turns
  layout := []

theorem main_fill : ∃ outcome,
    main (fillWorld []) ["trading_main", "ticks.csv", "sync"] = some outcome ∧
      outcome.status = .success :=
  Option.map_eq_some_iff.1 (by decide +kernel)

theorem main_opens_iff_fill :
    ∃ outcome : Outcome, outcome.status = .success ∧ (outcome.journal ≠ none ↔
      ∃ csvPath config ticks, WellFormedInput (fillWorld [])
        ["trading_main", "ticks.csv", "sync"] csvPath config ticks ∧
        (fillWorld []).opens config.persistencePath = true) := by
  obtain ⟨outcome, ran, success⟩ := main_fill
  exact ⟨outcome, success, (main_opens_iff ran).1⟩

/-- The exit status tells whether the journal can be trusted. A run succeeds
exactly when everything up to the replay goes well, the journal it leaves holds
its header and every event of the replay of that file, and the replay emits at
most four events a tick. -/
theorem main_success_iff (ran : main world argv = some outcome) :
    outcome.status = .success ↔
      ∃ csvPath config ticks journal, Accepted world argv csvPath config ticks ∧
        outcome.journal = some journal ∧ Complete config ticks journal ∧
        (eventsOf config.replay ticks).length ≤ 4 * ticks.length := by
  rcases main_cases ran with
    ⟨⟨message, journal, rfl⟩, refused⟩ |
      ⟨csvPath, config, ticks, r, sink, accepted, replayed, reported⟩
  · constructor
    · intro success
      cases success
    · rintro ⟨csvPath, config, ticks, _, accepted, _⟩
      exact absurd accepted (refused csvPath config ticks)
  · obtain ⟨journal, iff⟩ := report_iff accepted replayed reported
    rw [iff]
    constructor
    · rintro ⟨complete, rows⟩
      exact ⟨csvPath, config, ticks, _, accepted, journal, complete, rows⟩
    · rintro ⟨_, _, _, left, other, held, complete, rows⟩
      obtain ⟨rfl, rfl⟩ := accepted.unique other
      obtain rfl := Option.some.inj (journal.symm.trans held)
      exact ⟨complete, rows⟩

theorem main_success_iff_fill :
    ∃ (outcome : Outcome) (csvPath : String) (config : RuntimeConfig) (ticks : List MarketTick)
        (journal : Stream),
      Accepted (fillWorld []) ["trading_main", "ticks.csv", "sync"] csvPath config ticks ∧
        outcome.journal = some journal ∧ Complete config ticks journal ∧
        (eventsOf config.replay ticks).length ≤ 4 * ticks.length := by
  obtain ⟨outcome, ran, success⟩ := main_fill
  obtain ⟨csvPath, config, ticks, journal, complete⟩ := (main_success_iff ran).1 success
  exact ⟨outcome, csvPath, config, ticks, journal, complete⟩

/-- A successful run prints the log of every event and then a report that says,
apart from the latency summaries, what the arguments and the file alone decide:
neither the interleaving of the threads nor the clock shows in it. -/
theorem main_success_prints (ran : main world argv = some outcome)
    (success : outcome.status = .success) :
    outcome.err = [] ∧
      ∃ csvPath config ticks latencies, Accepted world argv csvPath config ticks ∧
        latencies.length = 6 ∧
        outcome.out = logText (eventsOf config.replay ticks) ++
          Delimited.terminate newline (successLines config ticks latencies) ++ world.layout := by
  rcases main_cases ran with
    ⟨⟨message, journal, rfl⟩, refused⟩ |
      ⟨csvPath, config, ticks, r, sink, accepted, replayed, reported⟩
  · cases success
  · obtain ⟨latencies, summaries, out⟩ := report_success accepted replayed reported success
    simp only [latencyLines, bind, Option.bind_eq_some_iff, pure, Option.some.injEq] at summaries
    obtain ⟨_, _, _, _, _, _, _, _, _, _, _, _, rfl⟩ := summaries
    simp only [report, bind, Option.bind_eq_some_iff, pure, Option.some.injEq] at reported
    obtain ⟨_, _, rfl⟩ := reported
    exact ⟨rfl, csvPath, config, ticks, _, accepted, rfl, out⟩

theorem main_success_prints_fill :
    ∃ (outcome : Outcome) (csvPath : String) (config : RuntimeConfig) (ticks : List MarketTick)
        (latencies : List (List UInt8)),
      Accepted (fillWorld []) ["trading_main", "ticks.csv", "sync"] csvPath config ticks ∧
        latencies.length = 6 ∧
        outcome.out = logText (eventsOf config.replay ticks) ++
          Delimited.terminate newline (successLines config ticks latencies) ++
          (fillWorld []).layout := by
  obtain ⟨outcome, ran, success⟩ := main_fill
  obtain ⟨_, csvPath, config, ticks, latencies, prints⟩ := main_success_prints ran success
  exact ⟨outcome, csvPath, config, ticks, latencies, prints⟩

/-- The summary of a collector can always be printed. -/
theorem printSummary_some {stats : LatencyStats} (inside : stats.sampleCount ≤ stats.samples.length)
    (fits : stats.samples.length ≤ LatencyStats.sizeMax) (name : String) :
    ∃ line, printSummary stats name = some line := by
  by_cases empty : stats.sampleCount = 0
  · simp [printSummary, LatencyStats.summarize, empty]
  · obtain ⟨summary, summarized, _⟩ := LatencyStats.summarize_describes empty inside
      (inside.trans fits)
    simp [printSummary, summarized]

/-- The summaries of all collectors can be printed when each fits its storage. -/
theorem latencyLines_some {latencies : ReplayLatencies} (mode : ReplaySinkMode)
    (inside : ∀ collector, (latencies.get collector).sampleCount ≤
      (latencies.get collector).samples.length)
    (fits : ∀ collector, (latencies.get collector).samples.length ≤ LatencyStats.sizeMax) :
    ∃ lines, latencyLines mode latencies = some lines := by
  have prints : ∀ collector name,
      ∃ line, printSummary (latencies.get collector) name = some line := fun collector =>
    printSummary_some (inside collector) (fits collector)
  obtain ⟨strategy, first⟩ := prints .strategy "strategy"
  obtain ⟨risk, second⟩ := prints .risk "risk"
  obtain ⟨execution, third⟩ := prints .execution "execution"
  obtain ⟨accounting, fourth⟩ := prints .accounting "accounting"
  obtain ⟨eventSink, fifth⟩ := prints .eventSink
    (if mode = .sync then "event_sink_sync" else "event_enqueue_async")
  obtain ⟨endToEnd, sixth⟩ := prints .endToEnd "end_to_end"
  simp only [ReplayLatencies.get] at first second third fourth fifth sixth
  simp [latencyLines, first, second, third, fourth, fifth, sixth]

theorem report_some (accepted : Accepted world argv csvPath config ticks)
    (replayed : replayOf world config ticks = .ok (some (r, sink))) :
    ∃ outcome, report world config r sink = some outcome := by
  obtain ⟨records, collects⟩ :=
    ReplayEventSink.runReplay_collects accepted.some accepted.valid.oneSymbol replayed
  obtain ⟨lines, prints⟩ := latencyLines_some config.sinkMode
    (fun collector => (collects.wellFormed collector).fits) (by
      intro collector
      have bound : collector.maxPerTick ≤ 4 := by cases collector <;> decide
      rw [collects.capacity]
      exact (Nat.mul_le_mul_left _ bound).trans (accepted.fits.trans world.limit))
  simp [report, prints]

/-- The program always ends: at once when it is refused or its sink is
synchronous, otherwise as soon as the replay thread has had twenty turns for each
tick and one more, and the sink thread turns enough to empty a full queue. -/
theorem main_exits (world : World) (argv : List String) (first second : List Turn)
    (turns : world.turns = first ++ second)
    (pushing : ∀ csvPath config ticks, Accepted world argv csvPath config ticks →
      config.sinkMode = .async → 20 * ticks.length + 1 ≤ first.countP SinkProgress.isReplay ∧
        8 * queueCapacity + 5 ≤ second.countP SinkProgress.isSink) :
    ∃ outcome, main world argv = some outcome := by
  by_cases refused : ∀ csvPath config ticks, ¬Accepted world argv csvPath config ticks
  · obtain ⟨message, journal, exits⟩ := main_refused refused
    exact ⟨_, exits⟩
  · simp only [not_forall, not_not] at refused
    obtain ⟨csvPath, config, ticks, accepted⟩ := refused
    have ends := @ReplayEventSink.runReplay_ends _ (loggingSink world.device) world.elapsed
      config.replay ticks ⟨[], openJournal world.device⟩ accepted.some accepted.valid.oneSymbol
      first second (by
        intro async
        obtain ⟨pushes, drains⟩ := pushing csvPath config ticks accepted async
        have rows := eventsOf_rows config.replay accepted.nonNegative
        exact ⟨by omega, drains⟩)
    rw [← turns] at ends
    obtain ⟨r, sink, replayed⟩ := ends
    rw [main_accepted accepted, show replayOf world config ticks = _ from replayed]
    exact report_some accepted replayed

/-- The same ticks with the sink on a thread of its own. -/
theorem main_exits_fill :
    let turns := List.replicate 41 Turn.replay ++ List.replicate 8197 (Turn.sink true)
    ∃ outcome, main (fillWorld turns) ["trading_main", "ticks.csv"] = some outcome := by
  intro turns
  refine main_exits (fillWorld turns) ["trading_main", "ticks.csv"] (List.replicate 41 .replay)
    (List.replicate 8197 (.sink true)) rfl ?_
  intro csvPath config ticks accepted _
  obtain rfl := Option.some.inj accepted.path
  have same : ticks = fillTicks :=
    Except.ok.inj (accepted.read.symm.trans (CsvAcceptance.renderFile_read false true (by decide)
      (by decide) (by decide) (by decide) (by decide)))
  rw [same, List.countP_replicate, List.countP_replicate]
  decide

end Outcomes

end TradingKernel.TradingMain
