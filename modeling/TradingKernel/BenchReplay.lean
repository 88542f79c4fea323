import Mathlib.Data.UInt
import TradingKernel.GenerateReplay
import TradingKernel.Library.Digest

/-!
The benchmark: it replays one dataset several times with each kind of sink,
compares a checksum of the events the sink received and collects the latencies
of all trials. The world decides the clock and the interleavings, replay by
replay, in the order in which they are run.
-/

namespace TradingKernel.BenchReplay
open Library Library.Decimal ReplayRunner ReplayRun FillLogger LoggingSink TradingMain
open AsyncSink (Turn queueCapacity)
open CsvReader (IntType comma fromChars newline readAll makeErrorMessage)
open LatencyStats (sizeMax)

structure Options where
  input : String
  warmup : Nat
  measured : Nat
  csvPath : Option String
  deriving DecidableEq, Repr

def uint64 : IntType := ⟨false, 0, 2 ^ 64 - 1⟩

def parsePositive (text name : String) : Except String Nat :=
  match fromChars uint64 (utf8 text) with
  | (some value, []) =>
    if value = 0 then .error (name ++ " must be a positive integer") else .ok value.toNat
  | _ => .error (name ++ " must be a positive integer")

/-- The options that come with a value. -/
def valued : List String := ["--warmup", "--measured", "--emit-csv"]

def optionLoop (options : Options) : List String → Except String Options
  | [] => .ok options
  | [option] =>
    if option ∈ valued then .error (option ++ " requires a value")
    else .error ("unknown option: " ++ option)
  | option :: value :: rest =>
    if option = "--warmup" then
      match parsePositive value "warmup" with
      | .error message => .error message
      | .ok number => optionLoop { options with warmup := number } rest
    else if option = "--measured" then
      match parsePositive value "measured" with
      | .error message => .error message
      | .ok number => optionLoop { options with measured := number } rest
    else if option = "--emit-csv" then optionLoop { options with csvPath := some value } rest
    else .error ("unknown option: " ++ option)

def parseOptions (argv : List String) : Except String Options :=
  match argv with
  | _ :: input :: rest => optionLoop ⟨input, 2, 5, none⟩ rest
  | _ => .error "usage: bench_replay <csv-path> [--warmup N] [--measured N] [--emit-csv path]"

/-- One byte of the dataset hash. -/
def hashByte (hash : UInt64) (byte : UInt8) : UInt64 :=
  (hash ^^^ byte.toUInt64) * 1099511628211

def fileHash (bytes : List UInt8) : UInt64 := bytes.foldl hashByte 1469598103934665603

/-- The cast of a signed number to `std::uint64_t`. -/
def toUInt64 (number : Int) : UInt64 := UInt64.ofNat (number % 2 ^ 64).toNat

structure ChecksumSink where
  checksum : UInt64
  count : UInt64
  deriving DecidableEq, Repr

def ChecksumSink.create : ChecksumSink := ⟨0, 0⟩

def consume (event : TradeEvent) (sink : ChecksumSink) : Bool × ChecksumSink :=
  let mixed : UInt64 := sink.checksum ^^^
    (toUInt64 event.tsNs + 0x9e3779b97f4a7c15 + sink.checksum <<< (6 : UInt64) +
      sink.checksum >>> (2 : UInt64))
  let mixed := mixed ^^^ toUInt64 event.price
  (true, ⟨mixed ^^^ (toUInt64 event.quantity <<< (17 : UInt64)), sink.count + 1⟩)

def checksumSink : ReplayEventSink ChecksumSink := ⟨consume⟩

/-- The events of a replay as the benchmark sees them. -/
def checksumOf (events : List TradeEvent) : UInt64 :=
  (checksumSink.consumeAll events .create).checksum

/-- The collectors of all trials together. -/
def initializeAggregates (maxSize ticks trials : Nat) : Except String ReplayLatencies :=
  if ticks > sizeMax / trials then .error "benchmark aggregate tick count overflow"
  else initializeLatencies maxSize (ticks * trials)

/-- Adds the samples of one collector to another. -/
def appendSamples (target : LatencyStats) : List Int → Except String LatencyStats
  | [] => .ok target
  | sample :: rest =>
    if (target.record sample).1 then appendSamples (target.record sample).2 rest
    else .error "benchmark aggregate collector overflow"

def append (target source : ReplayLatencies) : Except String ReplayLatencies := do
  let strategy ← appendSamples target.strategy source.strategy.retained
  let risk ← appendSamples target.risk source.risk.retained
  let execution ← appendSamples target.execution source.execution.retained
  let accounting ← appendSamples target.accounting source.accounting.retained
  let eventSink ← appendSamples target.eventSink source.eventSink.retained
  let endToEnd ← appendSamples target.endToEnd source.endToEnd.retained
  return ⟨strategy, risk, execution, accounting, eventSink, endToEnd⟩

def emitCsvRow (mode collector : String) (stats : LatencyStats) : Option (List UInt8) := do
  let summary ← stats.summarize
  let optional (has : Bool) (value : Int) := if has then renderInt value else []
  return ascii mode ++ [comma] ++ ascii collector ++ [comma] ++ render summary.count ++ [comma] ++
    render stats.overflowCount ++ [comma] ++ renderInt summary.minNs ++ [comma] ++
    renderInt summary.meanNs ++ [comma] ++ renderInt summary.p50Ns ++ [comma] ++
    optional summary.hasP99 summary.p99Ns ++ [comma] ++
    optional summary.hasP999 summary.p999Ns ++ [comma] ++
    optional summary.hasTailMean99 summary.tailMean99Ns ++ [comma] ++
    renderInt summary.maxNs ++ [newline]

/-- What the benchmark meets. Replays are numbered in the order they are run. -/
structure World where
  files : String → Option CsvReader.Input
  opens : String → Bool
  device : Nat → Bool
  maxSize : Nat
  limit : maxSize ≤ sizeMax
  elapsed : Nat → Nat → Int
  turns : Nat → List Turn
  trialNs : Nat → Int
  build : List UInt8

def config (mode : ReplaySinkMode) : ReplayConfig := ⟨mode, .aggressive, 3000⟩

/-- One call of `run_replay`, `none` as long as its threads are not joined. -/
def replay (world : World) (mode : ReplaySinkMode) (ticks : List MarketTick) (index : Nat) :
    Except String (Option (ReplayResult × ChecksumSink)) :=
  match initializeLatencies world.maxSize ticks.length with
  | .error message => .error message
  | .ok _ =>
    checksumSink.runReplay (world.elapsed index) (config mode) ticks (world.turns index) .create

def warmupLoop (world : World) (mode : ReplaySinkMode) (ticks : List MarketTick) :
    Nat → Nat → Option (Except String Bool)
  | _, 0 => some (.ok true)
  | index, count + 1 =>
    match replay world mode ticks index with
    | .error message => some (.error message)
    | .ok none => none
    | .ok (some (warmup, _)) =>
      if warmup.sinkFailed || warmup.latencyOverflow ||
          decide (warmup.counters.droppedEvents ≠ 0) then some (.ok false)
      else warmupLoop world mode ticks (index + 1) count

/-- The checks on the result of a trial. -/
def isValid (r : ReplayResult) : Bool :=
  !r.sinkFailed && !r.latencyOverflow && decide (r.counters.droppedEvents = 0) &&
    decide (r.counters.venueBatchOverflows = 0) &&
    decide (r.counters.persistedEvents = r.counters.acceptedEvents)

def flag (value : Bool) : List UInt8 := ascii (if value then "1" else "0")

def trialLine (mode : ReplaySinkMode) (trial : Nat) (elapsedNs : Int) (r : ReplayResult)
    (sink : ChecksumSink) (ok : Bool) : List UInt8 :=
  ascii "trial mode=" ++ ascii (sinkModeName mode) ++ ascii " index=" ++ render trial ++
    ascii " elapsed_ns=" ++ renderInt elapsedNs ++
    ascii " accepted=" ++ render r.counters.acceptedEvents ++
    ascii " persisted=" ++ render r.counters.persistedEvents ++
    ascii " dropped=" ++ render r.counters.droppedEvents ++
    ascii " latency_overflow=" ++ flag r.latencyOverflow ++
    ascii " venue_batch_overflow=" ++ render r.counters.venueBatchOverflows ++
    ascii " sink_events=" ++ render sink.count.toNat ++
    ascii " checksum=" ++ render sink.checksum.toNat ++
    ascii " status=" ++ ascii (if ok then "ok" else "failed")

/-- What the trials print, and the reference checksum with the collected
latencies unless a trial failed. -/
structure Trials where
  lines : List (List UInt8)
  verdict : Except String (Option (UInt64 × ReplayLatencies))

def trialLoop (world : World) (mode : ReplaySinkMode) (ticks : List MarketTick) :
    Nat → Nat → Nat → UInt64 → ReplayLatencies → List (List UInt8) → Option Trials
  | _, _, 0, reference, aggregate, lines => some ⟨lines, .ok (some (reference, aggregate))⟩
  | index, trial, count + 1, reference, aggregate, lines =>
    match replay world mode ticks index with
    | .error message => some ⟨lines, .error message⟩
    | .ok none => none
    | .ok (some (r, sink)) =>
      let reference := if trial = 1 then sink.checksum else reference
      let ok := isValid r && decide (sink.checksum = reference)
      let lines := lines ++ [trialLine mode trial (world.trialNs index) r sink ok]
      if ok then
        match append aggregate r.latencies with
        | .error message => some ⟨lines, .error message⟩
        | .ok aggregate =>
          trialLoop world mode ticks (index + 1) (trial + 1) count reference aggregate lines
      else some ⟨lines, .ok none⟩

def csvRows (mode : ReplaySinkMode) (aggregate : ReplayLatencies) :
    Option (List (List UInt8)) := do
  let name := sinkModeName mode
  let strategy ← emitCsvRow name "strategy" aggregate.strategy
  let risk ← emitCsvRow name "risk" aggregate.risk
  let execution ← emitCsvRow name "execution" aggregate.execution
  let accounting ← emitCsvRow name "accounting" aggregate.accounting
  let eventSink ← emitCsvRow name
    (if mode = .sync then "event_sink_sync" else "event_enqueue_async") aggregate.eventSink
  let endToEnd ← emitCsvRow name "end_to_end" aggregate.endToEnd
  return [strategy, risk, execution, accounting, eventSink, endToEnd]

/-- What a mode prints and writes, and whether it is valid, with its checksum. -/
structure ModeRun where
  lines : List (List UInt8)
  csv : Stream
  verdict : Except String (Bool × UInt64)

/-- A stream without a file takes nothing. -/
def csvDevice (world : World) (options : Options) : Nat → Bool :=
  match options.csvPath with
  | none => fun _ => false
  | some _ => world.device

/-- The replays of one mode, the first of which has the given number. -/
def runMode (world : World) (options : Options) (mode : ReplaySinkMode)
    (ticks : List MarketTick) (index : Nat) (csv : Stream) : Option ModeRun :=
  match warmupLoop world mode ticks index options.warmup with
  | none => none
  | some (.error message) => some ⟨[], csv, .error message⟩
  | some (.ok false) => some ⟨[], csv, .ok (false, 0)⟩
  | some (.ok true) =>
    match initializeAggregates world.maxSize ticks.length options.measured with
    | .error message => some ⟨[], csv, .error message⟩
    | .ok aggregate =>
      match trialLoop world mode ticks (index + options.warmup) 1 options.measured 0 aggregate
          [] with
      | none => none
      | some ⟨lines, .error message⟩ => some ⟨lines, csv, .error message⟩
      | some ⟨lines, .ok none⟩ => some ⟨lines, csv, .ok (false, 0)⟩
      | some ⟨lines, .ok (some (reference, aggregate))⟩ => do
        let summaries ← latencyLines mode aggregate
        let rows ← csvRows mode aggregate
        let title := ascii "summary mode=" ++ ascii (sinkModeName mode) ++
          ascii " measurement=in-process_replay_latency"
        -- A stream that has failed before is passed as no stream at all.
        let csv := if csv.good then
            rows.foldl (fun csv row => csv.write (csvDevice world options) row) csv
          else csv
        return ⟨lines ++ title :: summaries, csv, .ok (true, reference)⟩

/-- What one run of the benchmark leaves behind; the table only if it was opened. -/
structure Outcome where
  status : ExitStatus
  out : List UInt8
  err : List UInt8
  csv : Option Stream
  deriving DecidableEq, Repr

/-- An exit with a message, after some lines have been printed. -/
def exitWith (message : String) (lines : List (List UInt8)) (csv : Option Stream) : Outcome :=
  ⟨.failure, Delimited.terminate newline lines, utf8 message ++ [newline], csv⟩

def csvHeader : List UInt8 :=
  ascii "mode,collector,count,overflow,min_ns,mean_ns,p50_ns,p99_ns,p99_9_ns,tail_mean_99_ns,max_ns"

/-- The table right after it was opened, or a stream without a file. -/
def openCsv (world : World) (options : Options) : Stream :=
  match options.csvPath with
  | none => ⟨[], true, 0⟩
  | some _ => Stream.write world.device (csvHeader ++ [newline]) ⟨[], true, 0⟩

/-- The digits of a number in base sixteen, without leading zeros. -/
def renderHex (number : Nat) : List UInt8 :=
  if number = 0 then ascii "0"
  else (Nat.digits 16 number).reverse.map fun value =>
    (ascii "0123456789abcdef").getD value 0

def titleLines (world : World) (options : Options) (bytes : List UInt8)
    (ticks : List MarketTick) : List (List UInt8) :=
  [ascii "benchmark=bench_replay measurement=in-process_replay_latency", world.build,
    ascii "dataset=" ++ utf8 options.input ++ ascii " dataset_fnv1a64=0x" ++
      renderHex (fileHash bytes).toNat ++ ascii " ticks=" ++ render ticks.length ++
      ascii " warmup=" ++ render options.warmup ++ ascii " measured=" ++ render options.measured,
    ascii "boundaries=module_call; end_to_end=tick_start_through_synchronous_business_and_" ++
      ascii "event_submission; async_consumer_excluded"]

def equivalentLine (equivalent : Bool) (syncChecksum asyncChecksum : UInt64) : List UInt8 :=
  ascii "side_channel_equivalent=" ++ flag equivalent ++ ascii " sync_checksum=" ++
    render syncChecksum.toNat ++ ascii " async_checksum=" ++ render asyncChecksum.toNat

/-- The end of a run: a table that is still good is flushed. -/
def finish (world : World) (options : Options) (lines : List (List UInt8)) (csv : Stream)
    (valid : Bool) (syncChecksum asyncChecksum : UInt64) : Outcome :=
  let equivalent := valid && decide (syncChecksum = asyncChecksum)
  let lines := lines ++ [equivalentLine equivalent syncChecksum asyncChecksum]
  let flushed := if csv.good && options.csvPath.isSome then csv.write world.device [] else csv
  let table := options.csvPath.map fun _ => flushed
  if csv.good && !flushed.good then
    exitWith "failed to write benchmark CSV output" lines table
  else
    ⟨if equivalent then .success else .failure,
      Delimited.terminate newline
        (lines ++ [ascii "benchmark_status=" ++ ascii (if equivalent then "ok" else "failed")]),
      [], table⟩

/-- Both modes on the same ticks; the second only if the first is valid. -/
def runModes (world : World) (options : Options) (ticks : List MarketTick)
    (lines : List (List UInt8)) : Option Outcome :=
  let table (csv : Stream) := options.csvPath.map fun _ => csv
  match runMode world options .sync ticks 0 (openCsv world options) with
  | none => none
  | some ⟨syncLines, csv, .error message⟩ =>
    some (exitWith message (lines ++ syncLines) (table csv))
  | some ⟨syncLines, csv, .ok (false, checksum)⟩ =>
    some (finish world options (lines ++ syncLines) csv false checksum 0)
  | some ⟨syncLines, csv, .ok (true, syncChecksum)⟩ =>
    match runMode world options .async ticks (options.warmup + options.measured) csv with
    | none => none
    | some ⟨asyncLines, csv, .error message⟩ =>
      some (exitWith message (lines ++ syncLines ++ asyncLines) (table csv))
    | some ⟨asyncLines, csv, .ok (valid, asyncChecksum)⟩ =>
      some (finish world options (lines ++ syncLines ++ asyncLines) csv valid syncChecksum
        asyncChecksum)

/-- The benchmark; it has no outcome while the threads of a replay are not joined. -/
def main (world : World) (argv : List String) : Option Outcome :=
  match parseOptions argv with
  | .error message => some (exitWith message [] none)
  | .ok options =>
    match readAll (some options.input) (world.files options.input) with
    | .error error => some (exitWith (makeErrorMessage error) [] none)
    | .ok ticks =>
      match options.csvPath with
      | some path =>
        if world.opens path then
          runModes world options ticks (titleLines world options
            (((world.files options.input).map CsvReader.Input.bytes).getD []) ticks)
        else some (exitWith "failed to open benchmark CSV output" [] none)
      | none =>
        runModes world options ticks (titleLines world options
          (((world.files options.input).map CsvReader.Input.bytes).getD []) ticks)

section Hash

/-- The multiplier of the hash has an inverse. -/
theorem prime_mul_inj {first second : UInt64}
    (same : first * 1099511628211 = second * 1099511628211) : first = second := by
  have unit : (1099511628211 : UInt64) * 14886173955864302971 = 1 := by decide +kernel
  have product := congrArg (· * (14886173955864302971 : UInt64)) same
  simpa only [UInt64.mul_assoc, unit, UInt64.mul_one] using product

theorem hashByte_keeps (byte : UInt8) : Function.Injective fun hash => hashByte hash byte :=
  fun _ _ same => (UInt64.xor_left_inj _).1 (prime_mul_inj same)

theorem hashByte_tells (hash : UInt64) : Function.Injective (hashByte hash) := by
  intro first second same
  have widened := (UInt64.xor_right_inj _).1 (prime_mul_inj same)
  simpa using congrArg UInt64.toUInt8 widened

/-- A dataset that differs from another in a single byte has a different hash. -/
theorem fileHash_substitute (before after : List UInt8) (first second : UInt8)
    (differ : first ≠ second) :
    fileHash (before ++ first :: after) ≠ fileHash (before ++ second :: after) :=
  Digest.foldl_substitute hashByte_keeps hashByte_tells _ before after differ

theorem fileHash_substitute_digit :
    fileHash (ascii "ts,bid\n" ++ 49 :: ascii "0,7\n") ≠
      fileHash (ascii "ts,bid\n" ++ 50 :: ascii "0,7\n") :=
  fileHash_substitute (ascii "ts,bid\n") (ascii "0,7\n") 49 50 (by decide)

end Hash

/-- The ticks are what the reader returns for some file. -/
structure Dataset (ticks : List MarketTick) : Prop where
  valid : ValidTicks ticks
  some : ticks ≠ []

section Replays
variable {world : World} {mode : ReplaySinkMode} {ticks : List MarketTick} {index : Nat}
  {r : ReplayResult} {sink : ChecksumSink}

/-- What the sinks of both modes receive when nothing is dropped. -/
def events (ticks : List MarketTick) : List TradeEvent :=
  ReplayEventSink.eventsOf (config .sync) ticks

/-- The replay ends and drops nothing. -/
def Lossless (world : World) (mode : ReplaySinkMode) (ticks : List MarketTick) (index : Nat) :
    Prop :=
  ∃ r sink, replay world mode ticks index = .ok (.some (r, sink)) ∧ r.counters.droppedEvents = 0

theorem replies_true (events : List TradeEvent) (state : ChecksumSink) :
    false ∉ checksumSink.replies events state := by
  induction events generalizing state with
  | nil => simp [ReplayEventSink.replies]
  | cons event rest ih =>
    rw [ReplayEventSink.replies, List.mem_cons, not_or]
    exact ⟨Bool.false_ne_true, ih _⟩

theorem replay_eq (fits : ticks.length * 4 ≤ world.maxSize) :
    replay world mode ticks index =
      checksumSink.runReplay (world.elapsed index) (config mode) ticks (world.turns index)
        .create := by
  rw [replay, initializeLatencies_ok fits world.limit]

/-- What the checks of the benchmark find in a result. -/
structure Checks (ticks : List MarketTick) (r : ReplayResult) (sink : ChecksumSink) : Prop where
  works : r.sinkFailed = false
  batches : r.counters.venueBatchOverflows = 0
  overflow : r.latencyOverflow = false ↔ (events ticks).length ≤ 4 * ticks.length
  persisted : r.counters.droppedEvents = 0 →
    r.counters.persistedEvents = r.counters.acceptedEvents
  checksum : r.counters.droppedEvents = 0 → sink.checksum = checksumOf (events ticks)
  samples : ∀ collector, (r.latencies.get collector).retained.length ≤
    ticks.length * collector.maxPerTick

theorem replay_checks (dataset : Dataset ticks) (fits : ticks.length * 4 ≤ world.maxSize)
    (ran : replay world mode ticks index = .ok (.some (r, sink))) : Checks ticks r sink := by
  rw [replay_eq fits] at ran
  obtain ⟨⟨consumed, delivers⟩, same⟩ :=
    ReplayEventSink.runReplay_delivers dataset.some dataset.valid.oneSymbol ran
  obtain ⟨records, collects⟩ :=
    ReplayEventSink.runReplay_collects dataset.some dataset.valid.oneSymbol ran
  obtain ⟨batches, overflow⟩ := same.overflow_iff dataset.valid dataset.some
  have both : ReplayEventSink.eventsOf (config mode) ticks = events ticks :=
    ReplayEventSink.eventsOf_mode (config .sync) mode ticks
  have works : r.sinkFailed = false := by
    rw [← Bool.not_eq_true, delivers.failed]
    exact replies_true consumed .create
  rw [both] at delivers overflow
  constructor
  · exact works
  · exact batches
  · exact overflow
  · intro none
    rw [delivers.persisted_all works, delivers.accepted, delivers.complete none]
  · intro none
    rw [delivers.received, delivers.complete none]
    rfl
  · intro collector
    have capacity := collects.capacity collector
    have inside := (collects.wellFormed collector).fits
    rw [LatencyStats.retained, List.length_take]
    omega

/-- At most four rows a tick, so that no collector of a replay overflows. -/
def Few (ticks : List MarketTick) : Prop := (events ticks).length ≤ 4 * ticks.length

theorem Checks.isValid_iff (checks : Checks ticks r sink) :
    isValid r = true ↔ Few ticks ∧ r.counters.droppedEvents = 0 := by
  have overflow := checks.overflow
  simp only [isValid, Bool.and_eq_true, Bool.not_eq_true', decide_eq_true_eq, checks.works,
    checks.batches, and_true, true_and, overflow]
  constructor
  · rintro ⟨⟨few, none⟩, _⟩
    exact ⟨few, none⟩
  · rintro ⟨few, none⟩
    exact ⟨⟨few, none⟩, checks.persisted none⟩

/-- The check of a warmup run, which looks at less. -/
theorem Checks.warmup_iff (checks : Checks ticks r sink) :
    (r.sinkFailed || r.latencyOverflow || decide (r.counters.droppedEvents ≠ 0)) = false ↔
      Few ticks ∧ r.counters.droppedEvents = 0 := by
  simp only [Bool.or_eq_false_iff, checks.works, true_and, decide_eq_false_iff_not, not_not,
    checks.overflow, Few]

theorem sync_lossless (dataset : Dataset ticks) (fits : ticks.length * 4 ≤ world.maxSize) :
    Lossless world .sync ticks index := by
  obtain ⟨r, sink, ran⟩ := @ReplayEventSink.runReplay_ends _ checksumSink (world.elapsed index)
    (config .sync) ticks ChecksumSink.create dataset.some dataset.valid.oneSymbol
    (world.turns index) [] (fun async => by cases async)
  rw [List.append_nil] at ran
  exact ⟨r, sink, (replay_eq fits).trans ran,
    ReplayEventSink.runReplay_sync rfl dataset.some dataset.valid.oneSymbol ran⟩

/-- A call that has ended passes the checks of the benchmark. -/
theorem replay_cases (dataset : Dataset ticks) (fits : ticks.length * 4 ≤ world.maxSize)
    (mode : ReplaySinkMode) (index : Nat) :
    replay world mode ticks index = .ok none ∨
      ∃ r sink, replay world mode ticks index = .ok (.some (r, sink)) ∧ Checks ticks r sink ∧
        (Lossless world mode ticks index ↔ r.counters.droppedEvents = 0) := by
  obtain ⟨ended, runs⟩ := @ReplayEventSink.runReplay_ok _ checksumSink (world.elapsed index)
    (config mode) ticks (world.turns index) ChecksumSink.create dataset.some
    dataset.valid.oneSymbol
  rw [← replay_eq fits] at runs
  cases ended with
  | none => exact .inl runs
  | some pair =>
    obtain ⟨r, sink⟩ := pair
    refine .inr ⟨r, sink, runs, replay_checks dataset fits runs, ?_, fun none => ?_⟩
    · rintro ⟨r', sink', replayed, none⟩
      rw [runs] at replayed
      obtain ⟨rfl, rfl⟩ := Prod.mk.inj (Option.some.inj (Except.ok.inj replayed))
      exact none
    · exact ⟨r, sink, runs, none⟩

/-- Some replays in a row drop nothing. -/
def AllLossless (world : World) (mode : ReplaySinkMode) (ticks : List MarketTick)
    (index count : Nat) : Prop :=
  ∀ offset < count, Lossless world mode ticks (index + offset)

theorem allLossless_succ (count : Nat) :
    AllLossless world mode ticks index (count + 1) ↔
      Lossless world mode ticks index ∧ AllLossless world mode ticks (index + 1) count := by
  rw [AllLossless, Nat.forall_lt_succ_left]
  simp only [AllLossless, Nat.add_zero, Nat.add_assoc, Nat.add_comm 1]

theorem allLossless_add (first second : Nat) :
    AllLossless world mode ticks index (first + second) ↔
      AllLossless world mode ticks index first ∧
        AllLossless world mode ticks (index + first) second := by
  induction first generalizing index with
  | zero => simp [AllLossless]
  | succ first ih =>
    rw [Nat.add_right_comm, allLossless_succ, ih, allLossless_succ, and_assoc, Nat.add_right_comm,
      Nat.add_assoc index first 1]

theorem warmupLoop_cases (dataset : Dataset ticks) (fits : ticks.length * 4 ≤ world.maxSize)
    (count : Nat) {ended : Except String Bool}
    (ran : warmupLoop world mode ticks index count = .some ended) :
    ended = .ok true ∧ (0 < count → Few ticks) ∧ AllLossless world mode ticks index count ∨
      ended = .ok false ∧ ¬(Few ticks ∧ AllLossless world mode ticks index count) := by
  induction count generalizing index with
  | zero =>
    obtain rfl := Option.some.inj ran
    exact .inl ⟨rfl, by simp, by simp [AllLossless]⟩
  | succ count ih =>
    rw [warmupLoop] at ran
    rcases replay_cases dataset fits mode index with unended | ⟨r, sink, runs, checks, lossless⟩
    · simp [unended] at ran
    · have checked := checks.warmup_iff
      rw [allLossless_succ]
      simp only [runs] at ran
      by_cases passes : Few ticks ∧ r.counters.droppedEvents = 0
      · rw [checked.2 passes] at ran
        rcases ih ran with ⟨ended, _, rest⟩ | ⟨ended, failed⟩
        · exact .inl ⟨ended, fun _ => passes.1, lossless.2 passes.2, rest⟩
        · exact .inr ⟨ended, fun all => failed ⟨all.1, all.2.2⟩⟩
      · rw [Bool.eq_true_of_not_eq_false (mt checked.1 passes), if_pos rfl] at ran
        obtain rfl := Option.some.inj ran
        exact .inr ⟨rfl, fun all => passes ⟨all.1, lossless.1 all.2.1⟩⟩

end Replays

section Collect
variable {ticks : List MarketTick}

/-- The collectors have room for the samples of some more trials. -/
structure Room (ticks : List MarketTick) (aggregate : ReplayLatencies) (trials : Nat) : Prop where
  room : ∀ collector, (aggregate.get collector).sampleCount +
    trials * (ticks.length * collector.maxPerTick) ≤ (aggregate.get collector).samples.length
  fits : ∀ collector, (aggregate.get collector).samples.length ≤ sizeMax

theorem appendSamples_some (target : LatencyStats) (samples : List Int)
    (room : target.sampleCount + samples.length ≤ target.samples.length) :
    ∃ next, appendSamples target samples = .ok next ∧
      next.sampleCount = target.sampleCount + samples.length ∧
      next.samples.length = target.samples.length := by
  induction samples generalizing target with
  | nil => exact ⟨target, rfl, rfl, rfl⟩
  | cons sample rest ih =>
    rw [List.length_cons] at room ⊢
    have recorded : target.record sample = (true, { target with
        samples := target.samples.set target.sampleCount sample
        sampleCount := target.sampleCount + 1 }) := by
      rw [LatencyStats.record, if_neg (by omega)]
    obtain ⟨next, appended, count, length⟩ := ih (target.record sample).2 (by
      rw [recorded]
      simp only [List.length_set]
      omega)
    refine ⟨next, ?_, ?_, ?_⟩
    · rw [appendSamples, appended, recorded]
      rfl
    · rw [count, recorded]
      dsimp only
      omega
    · rw [length, recorded]
      simp

theorem append_some {aggregate source : ReplayLatencies} {trials : Nat}
    (room : Room ticks aggregate (trials + 1)) (samples : ∀ collector,
      (source.get collector).retained.length ≤ ticks.length * collector.maxPerTick) :
    ∃ next, append aggregate source = .ok next ∧ Room ticks next trials := by
  have each : ∀ collector, ∃ next : LatencyStats,
      appendSamples (aggregate.get collector) (source.get collector).retained = .ok next ∧
        next.sampleCount + trials * (ticks.length * collector.maxPerTick) ≤ next.samples.length ∧
        next.samples.length ≤ sizeMax := by
    intro collector
    have total := room.room collector
    have some := samples collector
    rw [Nat.add_mul, Nat.one_mul] at total
    obtain ⟨next, appended, count, length⟩ := appendSamples_some (aggregate.get collector)
      (source.get collector).retained (by omega)
    have fits := room.fits collector
    exact ⟨next, appended, by omega, by omega⟩
  choose next appended rest using each
  have gets : ∀ collector, ReplayLatencies.get ⟨next .strategy, next .risk, next .execution,
      next .accounting, next .eventSink, next .endToEnd⟩ collector = next collector := by
    intro collector
    cases collector <;> rfl
  refine ⟨⟨next .strategy, next .risk, next .execution, next .accounting, next .eventSink,
    next .endToEnd⟩, ?_, ⟨fun collector => ?_, fun collector => ?_⟩⟩
  · have strategy : appendSamples aggregate.strategy source.strategy.retained =
        .ok (next .strategy) := appended .strategy
    have risk : appendSamples aggregate.risk source.risk.retained =
        .ok (next .risk) := appended .risk
    have execution : appendSamples aggregate.execution source.execution.retained =
        .ok (next .execution) := appended .execution
    have accounting : appendSamples aggregate.accounting source.accounting.retained =
        .ok (next .accounting) := appended .accounting
    have eventSink : appendSamples aggregate.eventSink source.eventSink.retained =
        .ok (next .eventSink) := appended .eventSink
    have endToEnd : appendSamples aggregate.endToEnd source.endToEnd.retained =
        .ok (next .endToEnd) := appended .endToEnd
    simp only [append, strategy, risk, execution, accounting, eventSink, endToEnd]
    rfl
  · rw [gets]
    exact (rest collector).1
  · rw [gets]
    exact (rest collector).2

theorem initializeAggregates_some {maxSize trials : Nat} (limit : maxSize ≤ sizeMax)
    (positive : 0 < trials) (fits : ticks.length * trials * 4 ≤ maxSize) :
    ∃ aggregate, initializeAggregates maxSize ticks.length trials = .ok aggregate ∧
      Room ticks aggregate trials := by
  have divides : ¬ticks.length > sizeMax / trials := by
    rw [not_lt, Nat.le_div_iff_mul_le positive]
    omega
  have capacity : ∀ collector, ((ReplayLatencies.allocate (ticks.length * trials)).get
      collector).samples.length = ticks.length * trials * collector.maxPerTick :=
    (allocate_collects (ticks.length * trials)).capacity
  have fresh : ∀ collector, ((ReplayLatencies.allocate (ticks.length * trials)).get
      collector).sampleCount = 0 := by
    intro collector
    cases collector <;> rfl
  refine ⟨.allocate (ticks.length * trials), ?_, ⟨fun collector => ?_, fun collector => ?_⟩⟩
  · rw [initializeAggregates, if_neg divides, initializeLatencies_ok fits limit]
    rfl
  · rw [capacity, fresh, Nat.zero_add, ← Nat.mul_assoc, Nat.mul_comm trials]
  · have bound : collector.maxPerTick ≤ 4 := by cases collector <;> decide
    rw [capacity]
    exact (Nat.mul_le_mul_left _ bound).trans (fits.trans limit)

/-- Aggregates that fit have room for four samples a tick and trial. -/
theorem initializeAggregates_fits {maxSize trials : Nat} {aggregate : ReplayLatencies}
    (initialized : initializeAggregates maxSize ticks.length trials = .ok aggregate) :
    ticks.length * trials * 4 ≤ maxSize := by
  unfold initializeAggregates at initialized
  split_ifs at initialized
  exact initializeLatencies_fits initialized

theorem emitCsvRow_some {stats : LatencyStats} (inside : stats.sampleCount ≤ stats.samples.length)
    (fits : stats.samples.length ≤ sizeMax) (mode collector : String) :
    ∃ row, emitCsvRow mode collector stats = some row := by
  by_cases empty : stats.sampleCount = 0
  · simp [emitCsvRow, LatencyStats.summarize, empty]
  · obtain ⟨summary, summarized, _⟩ :=
      LatencyStats.summarize_describes empty inside (inside.trans fits)
    simp [emitCsvRow, summarized]

/-- Collectors that kept to their room can be printed and written to the table. -/
theorem Room.prints {aggregate : ReplayLatencies} {trials : Nat}
    (room : Room ticks aggregate trials) (mode : ReplaySinkMode) :
    (∃ lines, latencyLines mode aggregate = some lines) ∧
      ∃ rows, csvRows mode aggregate = some rows ∧ rows.length = 6 := by
  have inside : ∀ collector, (aggregate.get collector).sampleCount ≤
      (aggregate.get collector).samples.length := fun collector =>
    (Nat.le_add_right _ _).trans (room.room collector)
  have written : ∀ collector name,
      ∃ row, emitCsvRow (sinkModeName mode) name (aggregate.get collector) = some row :=
    fun collector => emitCsvRow_some (inside collector) (room.fits collector) _
  refine ⟨latencyLines_some mode inside room.fits, ?_⟩
  obtain ⟨strategy, first⟩ := written .strategy "strategy"
  obtain ⟨risk, second⟩ := written .risk "risk"
  obtain ⟨execution, third⟩ := written .execution "execution"
  obtain ⟨accounting, fourth⟩ := written .accounting "accounting"
  obtain ⟨eventSink, fifth⟩ := written .eventSink
    (if mode = .sync then "event_sink_sync" else "event_enqueue_async")
  obtain ⟨endToEnd, sixth⟩ := written .endToEnd "end_to_end"
  simp only [ReplayLatencies.get] at first second third fourth fifth sixth
  simp [csvRows, first, second, third, fourth, fifth, sixth]

end Collect

section Modes
variable {world : World} {mode : ReplaySinkMode} {ticks : List MarketTick} {options : Options}

/-- The trials go on as long as nothing is dropped; the checksum is always the
one of the events, and collecting never overflows. -/
theorem trialLoop_cases (dataset : Dataset ticks) (fits : ticks.length * 4 ≤ world.maxSize)
    (count : Nat) {index trial : Nat} {reference : UInt64} {aggregate : ReplayLatencies}
    {lines : List (List UInt8)} (room : Room ticks aggregate count)
    (first : trial = 1 ∨ reference = checksumOf (events ticks)) {trials : Trials}
    (ran : trialLoop world mode ticks index trial count reference aggregate lines =
      some trials) :
    (∃ aggregate, Room ticks aggregate 0 ∧ trials.verdict =
        .ok (some (if count = 0 then reference else checksumOf (events ticks), aggregate))) ∧
        (0 < count → Few ticks) ∧ AllLossless world mode ticks index count ∨
      trials.verdict = .ok none ∧ ¬(Few ticks ∧ AllLossless world mode ticks index count) := by
  induction count generalizing index trial reference aggregate lines with
  | zero =>
    obtain rfl := Option.some.inj ran
    exact .inl ⟨⟨aggregate, room, rfl⟩, by simp, by simp [AllLossless]⟩
  | succ count ih =>
    rw [trialLoop] at ran
    rcases replay_cases dataset fits mode index with unended | ⟨r, sink, runs, checks, lossless⟩
    · simp [unended] at ran
    · have checked := checks.isValid_iff
      rw [allLossless_succ]
      simp only [runs] at ran
      by_cases passes : Few ticks ∧ r.counters.droppedEvents = 0
      · have same := checks.checksum passes.2
        have reference : (if trial = 1 then sink.checksum else reference) =
            checksumOf (events ticks) := by
          split_ifs with start
          · exact same
          · exact first.resolve_left start
        obtain ⟨next, appended, rest⟩ := append_some room checks.samples
        rw [reference, checked.2 passes, same, decide_eq_true rfl, Bool.true_and, if_pos rfl,
          appended] at ran
        rcases ih rest (.inr rfl) ran with ⟨⟨last, printable, verdict⟩, _, all⟩ | ⟨verdict, failed⟩
        · refine .inl ⟨⟨last, printable, ?_⟩, fun _ => passes.1, lossless.2 passes.2, all⟩
          rw [verdict, ite_self, if_neg (Nat.succ_ne_zero count)]
        · exact .inr ⟨verdict, fun all => failed ⟨all.1, all.2.2⟩⟩
      · rw [Bool.eq_false_of_not_eq_true (mt checked.1 passes), Bool.false_and,
          if_neg Bool.false_ne_true] at ran
        obtain rfl := Option.some.inj ran
        exact .inr ⟨rfl, fun all => passes ⟨all.1, lossless.1 all.2.1⟩⟩

/-- All replays of a mode pass and their latencies can be collected. -/
structure Passes (world : World) (options : Options) (mode : ReplaySinkMode)
    (ticks : List MarketTick) (index : Nat) : Prop where
  few : Few ticks
  room : ticks.length * options.measured * 4 ≤ world.maxSize
  lossless : AllLossless world mode ticks index (options.warmup + options.measured)

/-- The table after the six rows of a mode. -/
def rowsWritten (world : World) (options : Options) (rows : List (List UInt8)) (csv : Stream) :
    Stream :=
  if csv.good then rows.foldl (fun csv row => csv.write (csvDevice world options) row) csv else csv

/-- A dataset too large for one replay stops the benchmark in its first replay. -/
theorem replay_refused (large : ¬ticks.length * 4 ≤ world.maxSize) :
    ∃ message, replay world mode ticks index = .error message := by
  cases initialized : initializeLatencies world.maxSize ticks.length with
  | error message => exact ⟨message, by rw [replay, initialized]⟩
  | ok latencies => exact absurd (initializeLatencies_fits initialized) large

/-- A mode that passes reports the checksum of the events and writes six rows;
in every other case it is not valid. -/
theorem runMode_cases (dataset : Dataset ticks) (warm : 0 < options.warmup)
    (measures : 0 < options.measured) {index : Nat} {csv : Stream} {run : ModeRun}
    (ran : runMode world options mode ticks index csv = some run) :
    (Passes world options mode ticks index ∧
        run.verdict = .ok (true, checksumOf (events ticks)) ∧
        ∃ rows, rows.length = 6 ∧ run.csv = rowsWritten world options rows csv) ∨
      ¬Passes world options mode ticks index ∧
        ∀ checksum, run.verdict ≠ .ok (true, checksum) := by
  by_cases fits : ticks.length * 4 ≤ world.maxSize
  · rw [runMode] at ran
    cases warmed : warmupLoop world mode ticks index options.warmup with
    | none => simp [warmed] at ran
    | some ended =>
      rcases warmupLoop_cases dataset fits _ warmed with ⟨rfl, few, warmups⟩ | ⟨rfl, failed⟩
      · cases initialized : initializeAggregates world.maxSize ticks.length options.measured with
        | error message =>
          simp only [warmed, initialized] at ran
          obtain rfl := Option.some.inj ran
          refine .inr ⟨fun passes => ?_, by simp⟩
          obtain ⟨aggregate, initializes, _⟩ :=
            initializeAggregates_some world.limit measures passes.room
          simp [initialized] at initializes
        | ok aggregate =>
          have wide := initializeAggregates_fits initialized
          obtain ⟨fresh, initializes, room⟩ :=
            initializeAggregates_some world.limit measures wide
          rw [initialized] at initializes
          obtain rfl := Except.ok.inj initializes
          simp only [warmed, initialized] at ran
          cases tried : trialLoop world mode ticks (index + options.warmup) 1 options.measured 0
              aggregate [] with
          | none => simp [tried] at ran
          | some trials =>
            obtain ⟨lines, verdict⟩ := trials
            rcases trialLoop_cases dataset fits _ room (.inl rfl) tried with
              ⟨⟨last, printable, rfl⟩, _, measured⟩ | ⟨rfl, failed⟩
            · obtain ⟨⟨summaries, printed⟩, rows, written, six⟩ := printable.prints mode
              simp only [tried, printed, written, if_neg measures.ne'] at ran
              obtain rfl := Option.some.inj ran
              exact .inl ⟨⟨few warm, wide, (allLossless_add _ _).2 ⟨warmups, measured⟩⟩, rfl,
                rows, six, rfl⟩
            · simp only [tried] at ran
              obtain rfl := Option.some.inj ran
              exact .inr ⟨fun passes =>
                failed ⟨passes.few, ((allLossless_add _ _).1 passes.lossless).2⟩, by simp⟩
      · simp only [warmed] at ran
        obtain rfl := Option.some.inj ran
        exact .inr ⟨fun passes =>
          failed ⟨passes.few, ((allLossless_add _ _).1 passes.lossless).1⟩, by simp⟩
  · obtain ⟨message, refused⟩ := @replay_refused world mode ticks index fits
    obtain ⟨more, counted⟩ := Nat.exists_eq_succ_of_ne_zero warm.ne'
    rw [runMode, counted, warmupLoop, refused] at ran
    obtain rfl := Option.some.inj ran
    refine .inr ⟨fun passes => fits ?_, by simp⟩
    exact (Nat.mul_le_mul_right 4 (Nat.le_mul_of_pos_right _ measures)).trans passes.room

end Modes

section Arguments
variable {options : Options}

theorem fromChars_uint64 (text : List UInt8) (number : Int) :
    fromChars uint64 text = (some number, []) ↔
      text ≠ [] ∧ (∀ character ∈ text, isDigit character = true) ∧ number = value text ∧
        value text ≤ sizeMax := by
  rw [fromChars]
  simp only [uint64, Bool.false_and, Bool.false_eq_true, if_false]
  by_cases digits : ∀ character ∈ text, isDigit character = true
  · rw [List.takeWhile_eq_self_iff.2 digits, List.dropWhile_eq_nil_iff.2 digits]
    have size : (sizeMax : Int) = 2 ^ 64 - 1 := rfl
    split_ifs with empty inside
    · simp [empty]
    · simp only [Prod.mk.injEq, Option.some.injEq, and_true, ne_eq, empty, not_false_eq_true,
        true_and]
      constructor
      · rintro rfl
        exact ⟨digits, rfl, by omega⟩
      · exact fun read => read.2.1.symm
    · simp only [Prod.mk.injEq, reduceCtorEq, false_and, false_iff]
      omega
  · have rest : text.dropWhile isDigit ≠ [] := mt List.dropWhile_eq_nil_iff.1 digits
    split_ifs with empty
    · simp [digits]
    · simp [digits, rest]
    · simp [digits]

/-- The library's number parser and the one of the generator take the same texts. -/
theorem parsePositive_iff (text name : String) (number : Nat) :
    parsePositive text name = .ok number ↔
      GenerateReplay.parsePositiveCount (utf8 text) = some number := by
  rw [GenerateReplay.parsePositiveCount_iff, parsePositive]
  split
  · rename_i parsed read
    obtain ⟨some, digits, rfl, fits⟩ := (fromChars_uint64 _ _).1 read
    split_ifs with zero
    · simp only [false_iff]
      omega
    · rw [Except.ok.injEq, Int.toNat_natCast]
      constructor
      · rintro rfl
        exact ⟨some, digits, rfl, by omega, fits⟩
      · exact fun read => read.2.2.1.symm
  · rename_i refused
    simp only [reduceCtorEq, false_iff]
    rintro ⟨some, digits, rfl, _, fits⟩
    exact refused _ ((fromChars_uint64 _ _).2 ⟨some, digits, rfl, fits⟩)

/-- An option with its value. -/
inductive Setting where
  | warmup (text : String)
  | measured (text : String)
  | emitCsv (path : String)

def Setting.words : Setting → List String
  | .warmup text => ["--warmup", text]
  | .measured text => ["--measured", text]
  | .emitCsv path => ["--emit-csv", path]

/-- What a setting makes of the options. -/
inductive Sets : Setting → Options → Options → Prop
  | warmup {text : String} {number : Nat}
      (count : GenerateReplay.parsePositiveCount (utf8 text) = some number) (options : Options) :
      Sets (.warmup text) options { options with warmup := number }
  | measured {text : String} {number : Nat}
      (count : GenerateReplay.parsePositiveCount (utf8 text) = some number) (options : Options) :
      Sets (.measured text) options { options with measured := number }
  | emitCsv (path : String) (options : Options) :
      Sets (.emitCsv path) options { options with csvPath := some path }

/-- Settings taken one after the other, so that the last of a kind counts. -/
inductive SetsAll : List Setting → Options → Options → Prop
  | nil (options : Options) : SetsAll [] options options
  | cons {setting : Setting} {settings : List Setting} {first second third : Options}
      (sets : Sets setting first second) (rest : SetsAll settings second third) :
      SetsAll (setting :: settings) first third

theorem optionLoop_iff (start : Options) (argv : List String) :
    optionLoop start argv = .ok options ↔
      ∃ settings, argv = settings.flatMap Setting.words ∧ SetsAll settings start options := by
  constructor
  · intro parsed
    induction start, argv using optionLoop.induct with
    | case1 start =>
      obtain rfl := Except.ok.inj parsed
      exact ⟨[], rfl, .nil start⟩
    | case2 start option isValued => simp [optionLoop, isValued] at parsed
    | case3 start option unknown => simp [optionLoop, unknown] at parsed
    | case4 start value rest message refused => simp [optionLoop, refused] at parsed
    | case5 start value rest number accepted ih =>
      simp only [optionLoop, accepted, if_pos] at parsed
      obtain ⟨settings, rfl, sets⟩ := ih parsed
      exact ⟨.warmup value :: settings, rfl,
        .cons (.warmup ((parsePositive_iff _ _ _).1 accepted) start) sets⟩
    | case6 start value rest message refused => simp [optionLoop, refused] at parsed
    | case7 start value rest number accepted other ih =>
      simp only [optionLoop, accepted, if_neg other, if_pos] at parsed
      obtain ⟨settings, rfl, sets⟩ := ih parsed
      exact ⟨.measured value :: settings, rfl,
        .cons (.measured ((parsePositive_iff _ _ _).1 accepted) start) sets⟩
    | case8 start value rest first second ih =>
      simp only [optionLoop, if_neg first, if_neg second, if_pos] at parsed
      obtain ⟨settings, rfl, sets⟩ := ih parsed
      exact ⟨.emitCsv value :: settings, rfl, .cons (.emitCsv value start) sets⟩
    | case9 start option value rest first second third =>
      simp [optionLoop, first, second, third] at parsed
  · rintro ⟨settings, rfl, sets⟩
    induction sets with
    | nil start => rfl
    | cons sets rest ih =>
      cases sets with
      | @warmup text number count start =>
        simpa [Setting.words, optionLoop, (parsePositive_iff text "warmup" number).2 count] using ih
      | @measured text number count start =>
        simpa [Setting.words, optionLoop, (parsePositive_iff text "measured" number).2 count]
          using ih
      | emitCsv path start => simpa [Setting.words, optionLoop] using ih

/-- The arguments the benchmark accepts: a file and any settings with their values, the
counts read as the generator reads them; of several settings of a kind the last counts. -/
theorem parseOptions_iff (argv : List String) :
    parseOptions argv = .ok options ↔
      ∃ program input settings, argv = program :: input :: settings.flatMap Setting.words ∧
        SetsAll settings ⟨input, 2, 5, none⟩ options := by
  unfold parseOptions
  split
  · rename_i program input rest
    rw [optionLoop_iff]
    constructor
    · rintro ⟨settings, rfl, sets⟩
      exact ⟨program, input, settings, rfl, sets⟩
    · rintro ⟨_, _, settings, same, sets⟩
      simp only [List.cons.injEq] at same
      obtain ⟨rfl, rfl, rfl⟩ := same
      exact ⟨settings, rfl, sets⟩
  · rename_i short
    simp only [reduceCtorEq, false_iff]
    rintro ⟨program, input, settings, rfl, _⟩
    exact short program input _ rfl

theorem SetsAll.positive {settings : List Setting} {start : Options}
    (sets : SetsAll settings start options) (warm : 0 < start.warmup)
    (measures : 0 < start.measured) : 0 < options.warmup ∧ 0 < options.measured := by
  induction sets with
  | nil start => exact ⟨warm, measures⟩
  | cons sets rest ih =>
    cases sets with
    | warmup count =>
      obtain ⟨_, _, _, positive, _⟩ := (GenerateReplay.parsePositiveCount_iff _ _).1 count
      exact ih positive measures
    | measured count =>
      obtain ⟨_, _, _, positive, _⟩ := (GenerateReplay.parsePositiveCount_iff _ _).1 count
      exact ih warm positive
    | emitCsv path => exact ih warm measures

end Arguments

section Table
variable {world : World} {options : Options} {device : Nat → Bool} {count : Nat} {csv : Stream}

/-- A stream that has been through so many writes, the first failed one being its last. -/
structure Kept (device : Nat → Bool) (count : Nat) (csv : Stream) : Prop where
  good : csv.good = true ↔ ∀ write < count, device write = true
  writes : csv.good = true → csv.writes = count

theorem Kept.write (kept : Kept device count csv) (text : List UInt8) :
    Kept device (count + 1) (csv.write device text) := by
  constructor
  · rw [Stream.write, Bool.and_eq_true, Nat.forall_lt_succ_right, ← kept.good]
    exact and_congr_right fun good => by rw [kept.writes good]
  · intro good
    rw [Stream.write, Bool.and_eq_true] at good
    rw [Stream.write, kept.writes good.1]

theorem Kept.failed (kept : Kept device count csv) (failed : ¬csv.good = true) (more : Nat) :
    Kept device (count + more) csv :=
  ⟨⟨fun good => absurd good failed, fun all => kept.good.2 fun write early =>
    all write (Nat.lt_add_right more early)⟩, fun good => absurd good failed⟩

theorem Kept.rows (kept : Kept (csvDevice world options) count csv) (rows : List (List UInt8)) :
    Kept (csvDevice world options) (count + rows.length) (rowsWritten world options rows csv) := by
  rw [rowsWritten]
  split_ifs with good
  · clear good
    induction rows generalizing count csv with
    | nil => exact kept
    | cons row rest ih =>
      rw [List.foldl_cons, List.length_cons, Nat.add_comm rest.length, ← Nat.add_assoc]
      exact ih (kept.write row)
  · exact kept.failed good _

/-- The flush at the end fails, after a header and twelve rows have been written. -/
def TableLost (world : World) (options : Options) : Prop :=
  options.csvPath.isSome = true ∧ (∀ write < 13, world.device write = true) ∧
    world.device 13 = false

theorem openCsv_kept (named : options.csvPath.isSome = true) :
    Kept (csvDevice world options) 1 (openCsv world options) := by
  obtain ⟨path, named⟩ := Option.isSome_iff_exists.1 named
  have fresh : Kept world.device 0 ⟨[], true, 0⟩ := ⟨by simp, fun _ => rfl⟩
  simpa only [csvDevice, openCsv, named] using fresh.write (csvHeader ++ [newline])

theorem finish_success (lines : List (List UInt8)) (valid : Bool) (first second : UInt64) :
    (finish world options lines csv valid first second).status = .success ↔
      valid = true ∧ first = second ∧
        ¬(options.csvPath.isSome = true ∧ csv.good = true ∧ world.device csv.writes = false) := by
  cases good : csv.good <;> cases named : options.csvPath.isSome <;>
    cases flushed : world.device csv.writes <;>
    simp [finish, good, named, flushed, Stream.write, exitWith]

end Table

section Verdict
variable {world : World} {ticks : List MarketTick} {options : Options}

theorem finish_table {first second : List (List UInt8)} (six : first.length = 6)
    (twelve : second.length = 6) (lines : List (List UInt8)) (checksum : UInt64) :
    (finish world options lines
        (rowsWritten world options second (rowsWritten world options first
          (openCsv world options))) true checksum checksum).status = .success ↔
      ¬TableLost world options := by
  rw [finish_success, TableLost]
  simp only [true_and]
  by_cases named : options.csvPath.isSome = true
  · have kept := ((@openCsv_kept world options named).rows first).rows second
    rw [six, twelve] at kept
    obtain ⟨path, some⟩ := Option.isSome_iff_exists.1 named
    have device : csvDevice world options = world.device := by simp [csvDevice, some]
    rw [device] at kept
    refine not_congr (and_congr_right fun _ => ?_)
    rw [← kept.good]
    exact and_congr_right fun good => by rw [kept.writes good]
  · simp [named]

theorem runModes_success (dataset : Dataset ticks) (warm : 0 < options.warmup)
    (measures : 0 < options.measured) {lines : List (List UInt8)} {outcome : Outcome}
    (ran : runModes world options ticks lines = some outcome) :
    outcome.status = .success ↔
      Passes world options .sync ticks 0 ∧
        Passes world options .async ticks (options.warmup + options.measured) ∧
        ¬TableLost world options := by
  rw [runModes] at ran
  cases first : runMode world options .sync ticks 0 (openCsv world options) with
  | none => simp [first] at ran
  | some run =>
    obtain ⟨syncLines, csv, verdict⟩ := run
    rcases runMode_cases dataset warm measures first with
      ⟨passed, rfl, syncRows, six, rfl⟩ | ⟨failed, invalid⟩
    · cases second : runMode world options .async ticks (options.warmup + options.measured)
          (rowsWritten world options syncRows (openCsv world options)) with
      | none => simp [first, second] at ran
      | some run =>
        obtain ⟨asyncLines, csv, verdict⟩ := run
        simp only [first, second] at ran
        rcases runMode_cases dataset warm measures second with
          ⟨passes, rfl, asyncRows, twelve, rfl⟩ | ⟨failed, invalid⟩
        · obtain rfl := Option.some.inj ran
          rw [finish_table six twelve]
          simp [passed, passes]
        · rcases verdict with message | ⟨valid, checksum⟩
          · obtain rfl := Option.some.inj ran
            simp [exitWith, failed]
          · cases valid with
            | true => exact absurd rfl (invalid checksum)
            | false =>
              obtain rfl := Option.some.inj ran
              simp [finish_success, failed]
    · simp only [first] at ran
      rcases verdict with message | ⟨valid, checksum⟩
      · obtain rfl := Option.some.inj ran
        simp [exitWith, failed]
      · cases valid with
        | true => exact absurd rfl (invalid checksum)
        | false =>
          obtain rfl := Option.some.inj ran
          simp [finish_success, failed]

/-- The arguments are accepted, the dataset is read and the table can be opened. -/
structure Opens (world : World) (argv : List String) (options : Options)
    (ticks : List MarketTick) : Prop where
  parsed : parseOptions argv = .ok options
  read : readAll (some options.input) (world.files options.input) = .ok ticks
  opened : ∀ path, options.csvPath = some path → world.opens path = true

theorem Opens.dataset {argv : List String} (opens : Opens world argv options ticks) :
    Dataset ticks :=
  ⟨(CsvAcceptance.readAll_accepted opens.read).1, readAll_some opens.read⟩

theorem Opens.positive {argv : List String} (opens : Opens world argv options ticks) :
    0 < options.warmup ∧ 0 < options.measured := by
  obtain ⟨_, _, _, _, sets⟩ := (parseOptions_iff argv).1 opens.parsed
  exact sets.positive Nat.two_pos (Nat.succ_pos 4)

theorem Opens.main {argv : List String} (opens : Opens world argv options ticks) :
    main world argv = runModes world options ticks (titleLines world options
      (((world.files options.input).map CsvReader.Input.bytes).getD []) ticks) := by
  rw [BenchReplay.main]
  simp only [opens.parsed, opens.read]
  cases named : options.csvPath with
  | none => rfl
  | some path =>
    dsimp only
    rw [if_pos (opens.opened path named)]

/-- A run that does not get to its replays fails. -/
theorem main_cases (world : World) (argv : List String) :
    (∃ options ticks, Opens world argv options ticks) ∨
      ∃ outcome, main world argv = some outcome ∧ outcome.status = .failure := by
  rw [main]
  cases parsed : parseOptions argv with
  | error message => exact .inr ⟨_, rfl, rfl⟩
  | ok options =>
    dsimp only
    cases read : readAll (some options.input) (world.files options.input) with
    | error error => exact .inr ⟨_, rfl, rfl⟩
    | ok ticks =>
      cases named : options.csvPath with
      | none => exact .inl ⟨options, ticks, parsed, read, by simp [named]⟩
      | some path =>
        by_cases opened : world.opens path = true
        · exact .inl ⟨options, ticks, parsed, read, by simp [named, opened]⟩
        · exact .inr ⟨_, if_neg opened, rfl⟩

end Verdict

section Ends
variable {world : World} {mode : ReplaySinkMode} {ticks : List MarketTick} {options : Options}
  {index : Nat}

/-- In every replay both threads get turns enough to be joined. -/
def Scheduled (world : World) (ticks : Nat) : Prop :=
  ∀ index, ∃ first second, world.turns index = first ++ second ∧
    20 * ticks + 1 ≤ first.countP SinkProgress.isReplay ∧
    8 * queueCapacity + 5 ≤ second.countP SinkProgress.isSink

theorem replay_ends (dataset : Dataset ticks) (fits : ticks.length * 4 ≤ world.maxSize)
    (scheduled : Scheduled world ticks.length) (mode : ReplaySinkMode) (index : Nat) :
    ∃ r sink, replay world mode ticks index = .ok (some (r, sink)) := by
  obtain ⟨first, second, turns, pushing, draining⟩ := scheduled index
  have rows := ReplayEventSink.eventsOf_rows (config mode) dataset.valid.nonNegative
  rw [replay_eq fits, turns]
  exact ReplayEventSink.runReplay_ends dataset.some dataset.valid.oneSymbol first second
    (fun _ => ⟨by omega, draining⟩)

theorem warmupLoop_ends (ends : ∀ index, ∃ r sink, replay world mode ticks index =
    .ok (some (r, sink))) (count : Nat) :
    ∃ ended, warmupLoop world mode ticks index count = some ended := by
  induction count generalizing index with
  | zero => exact ⟨_, rfl⟩
  | succ count ih =>
    obtain ⟨r, sink, ran⟩ := ends index
    rw [warmupLoop]
    simp only [ran]
    split_ifs
    · exact ⟨_, rfl⟩
    · exact ih

theorem trialLoop_ends (ends : ∀ index, ∃ r sink, replay world mode ticks index =
    .ok (some (r, sink))) (count : Nat) {trial : Nat} {reference : UInt64}
    {aggregate : ReplayLatencies} {lines : List (List UInt8)} :
    ∃ trials, trialLoop world mode ticks index trial count reference aggregate lines =
      some trials := by
  induction count generalizing index trial reference aggregate lines with
  | zero => exact ⟨_, rfl⟩
  | succ count ih =>
    obtain ⟨r, sink, ran⟩ := ends index
    rw [trialLoop]
    simp only [ran]
    generalize (isValid r && _) = ok
    cases ok with
    | false => exact ⟨_, rfl⟩
    | true =>
      cases append aggregate r.latencies with
      | error message => exact ⟨_, rfl⟩
      | ok aggregate => exact ih

/-- A mode ends when its replays do, also when a dataset is too large for them. -/
theorem runMode_ends (dataset : Dataset ticks) (scheduled : Scheduled world ticks.length)
    (warm : 0 < options.warmup) (measures : 0 < options.measured) (mode : ReplaySinkMode)
    (index : Nat) (csv : Stream) :
    ∃ run, runMode world options mode ticks index csv = some run := by
  by_cases fits : ticks.length * 4 ≤ world.maxSize
  · have ends := replay_ends dataset fits scheduled mode
    obtain ⟨ended, warmed⟩ := @warmupLoop_ends world mode ticks index ends options.warmup
    rw [runMode, warmed]
    rcases ended with message | valid
    · exact ⟨_, rfl⟩
    cases valid with
    | false => exact ⟨_, rfl⟩
    | true =>
      cases initialized : initializeAggregates world.maxSize ticks.length options.measured with
      | error message => exact ⟨_, rfl⟩
      | ok aggregate =>
        obtain ⟨fresh, initializes, room⟩ := initializeAggregates_some world.limit measures
          (initializeAggregates_fits initialized)
        rw [initialized] at initializes
        obtain rfl := Except.ok.inj initializes
        obtain ⟨⟨lines, verdict⟩, tried⟩ := @trialLoop_ends world mode ticks
          (index + options.warmup) ends options.measured 1 0 aggregate []
        simp only [tried]
        rcases trialLoop_cases dataset fits _ room (.inl rfl) tried with
          ⟨⟨last, printable, rfl⟩, _⟩ | ⟨rfl, _⟩
        · obtain ⟨⟨summaries, printed⟩, rows, written, _⟩ := printable.prints mode
          exact ⟨_, by simp only [printed, written]; rfl⟩
        · exact ⟨_, rfl⟩
  · obtain ⟨message, refused⟩ := @replay_refused world mode ticks index fits
    obtain ⟨more, counted⟩ := Nat.exists_eq_succ_of_ne_zero warm.ne'
    rw [runMode, counted, warmupLoop, refused]
    exact ⟨_, rfl⟩

theorem main_ends {argv : List String} (scheduled : ∀ options ticks,
    Opens world argv options ticks → Scheduled world ticks.length) :
    ∃ outcome, main world argv = some outcome := by
  rcases main_cases world argv with ⟨options, ticks, opens⟩ | ⟨outcome, failed, _⟩
  · have ends := @runMode_ends world ticks options opens.dataset (scheduled _ _ opens)
      opens.positive.1 opens.positive.2
    rw [opens.main, runModes]
    obtain ⟨⟨syncLines, csv, verdict⟩, first⟩ := ends .sync 0 (openCsv world options)
    simp only [first]
    rcases verdict with message | ⟨valid, checksum⟩
    · exact ⟨_, rfl⟩
    cases valid with
    | false => exact ⟨_, rfl⟩
    | true =>
      obtain ⟨⟨asyncLines, csv, verdict⟩, second⟩ :=
        ends .async (options.warmup + options.measured) csv
      simp only [second]
      rcases verdict with message | ⟨valid, checksum⟩
      · exact ⟨_, rfl⟩
      · exact ⟨_, rfl⟩
  · exact ⟨outcome, failed⟩

end Ends

section Generated
variable {world : World} {ticks : List MarketTick} {options : Options}

/-- A world of three generated ticks, with turns enough in every replay. -/
def generatedWorld : World where
  files _ := some
    ⟨(GenerateReplay.written (fun _ => true) (GenerateReplay.generatedTicks 3)).text, false⟩
  opens _ := true
  device _ := true
  maxSize := 100
  limit := by decide
  elapsed _ _ := 0
  turns _ := List.replicate 61 .replay ++ List.replicate 8197 (.sink true)
  trialNs _ := 0
  build := []

theorem generatedWorld_scheduled : Scheduled generatedWorld 3 := by
  refine fun _ => ⟨_, _, rfl, ?_, ?_⟩
  · rw [List.countP_replicate]
    decide
  · rw [List.countP_replicate]
    decide

theorem generatedWorld_read : readAll (some "ticks.csv") (generatedWorld.files "ticks.csv") =
    .ok (GenerateReplay.generatedTicks 3) := by
  rw [generatedWorld, GenerateReplay.written_text (fun _ => true)
    (fun _ => GenerateReplay.generatedTicks_generated) (by decide +kernel)]
  exact GenerateReplay.generatedTicks_read (by decide) (by decide) (by decide)

/-- What the verdict of the benchmark stands for. The checksums of the two modes
never differ when it comes to comparing them, so a run succeeds exactly when it
gets to its replays, all latencies fit, the events stay within four a tick, the
asynchronous replays drop nothing and the last flush of the table does not fail. -/
theorem main_verdict (world : World) (argv : List String) {outcome : Outcome}
    (ran : main world argv = some outcome) :
    outcome.status = .success ↔
      ∃ options ticks, Opens world argv options ticks ∧
        ticks.length * options.measured * 4 ≤ world.maxSize ∧ Few ticks ∧
        AllLossless world .async ticks (options.warmup + options.measured)
          (options.warmup + options.measured) ∧
        ¬TableLost world options := by
  constructor
  · intro success
    rcases main_cases world argv with ⟨options, ticks, opens⟩ | ⟨other, failed, status⟩
    · obtain ⟨warm, measures⟩ := opens.positive
      rw [opens.main] at ran
      obtain ⟨_, passes, table⟩ := (runModes_success opens.dataset warm measures ran).1 success
      exact ⟨options, ticks, opens, passes.room, passes.few, passes.lossless, table⟩
    · rw [ran] at failed
      rw [Option.some.inj failed, status] at success
      cases success
  · rintro ⟨options, ticks, opens, room, few, lossless, table⟩
    obtain ⟨warm, measures⟩ := opens.positive
    rw [opens.main] at ran
    have fits : ticks.length * 4 ≤ world.maxSize :=
      (Nat.mul_le_mul_right 4 (Nat.le_mul_of_pos_right _ measures)).trans room
    exact (runModes_success opens.dataset warm measures ran).2
      ⟨⟨few, room, fun _ _ => sync_lossless opens.dataset fits⟩, ⟨few, room, lossless⟩, table⟩

/-- Three generated ticks. -/
theorem main_verdict_three :
    ∃ outcome, main generatedWorld ["bench_replay", "ticks.csv", "--measured", "1"] =
        some outcome ∧
      (outcome.status = .success ↔
        ∃ options ticks,
          Opens generatedWorld ["bench_replay", "ticks.csv", "--measured", "1"] options ticks ∧
          ticks.length * options.measured * 4 ≤ generatedWorld.maxSize ∧ Few ticks ∧
          AllLossless generatedWorld .async ticks (options.warmup + options.measured)
            (options.warmup + options.measured) ∧
          ¬TableLost generatedWorld options) := by
  obtain ⟨outcome, ran⟩ := @main_ends generatedWorld
    ["bench_replay", "ticks.csv", "--measured", "1"] (by
      intro options ticks opens
      have parsed : parseOptions ["bench_replay", "ticks.csv", "--measured", "1"] =
          .ok ⟨"ticks.csv", 2, 1, none⟩ := by decide +kernel
      obtain rfl := Except.ok.inj (parsed.symm.trans opens.parsed)
      rw [Except.ok.inj (opens.read.symm.trans generatedWorld_read),
        GenerateReplay.generatedTicks_length]
      exact generatedWorld_scheduled)
  exact ⟨outcome, ran, main_verdict _ _ ran⟩

end Generated

end TradingKernel.BenchReplay
