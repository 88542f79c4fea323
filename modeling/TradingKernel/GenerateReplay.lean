import TradingKernel.PassiveProfit
import TradingKernel.TradingMain

/-!
The generator of benchmark data: a linear congruential generator moves the bid
around a base price, and every tick becomes one line of a file that the reader
of the kernel reads back as it was meant.
-/

namespace TradingKernel.GenerateReplay
open Library Library.Decimal FillLogger LoggingSink TradingMain
open MockVenueGateway GatewayInvariant ReplayRunner ReplayRun ReplayPhases ReplayAgreement
open ReplayJournal ReplayReconstruction ReplayBounds HeldOrders
open OrderManager (VenueEvent)
open CsvReader (comma newline readAll)
open LatencyStats (sizeMax)

/-- The loop over the digits; a value that would not fit ends it. -/
def countLoop : Nat → List UInt8 → Option Nat
  | value, [] => if value ≠ 0 then some value else none
  | value, character :: rest =>
    if isDigit character then
      if value > (sizeMax - digitValue character) / 10 then none
      else countLoop (value * 10 + digitValue character) rest
    else none

def parsePositiveCount (text : List UInt8) : Option Nat :=
  if text = [] then none else countLoop 0 text

def seed : UInt64 := 0x4d595df4d0f33173

def nextState (state : UInt64) : UInt64 := state * 6364136223846793005 + 1442695040888963407

def drift (state : UInt64) : Int := ((state >>> 32) % 401).toNat - 200

/-- The tick after `index` others, from the state it is drawn from. -/
def tickOf (index : Nat) (state : UInt64) : MarketTick where
  exchangeTsNs := (index + 1) * 1000
  receiveTsNs := (index + 1) * 1000 + 50
  bidPrice := 99800 + drift state
  askPrice := 99800 + drift state + 200
  symbolId := 1
  bidQty := 50
  askQty := 50

def ticksFrom : Nat → UInt64 → Nat → List MarketTick
  | _, _, 0 => []
  | index, state, count + 1 =>
    tickOf index (nextState state) :: ticksFrom (index + 1) (nextState state) count

/-- The ticks of a generated file. -/
def generatedTicks (count : Nat) : List MarketTick := ticksFrom 0 seed count

def columnNames : List UInt8 :=
  ascii "exchange_ts_ns,receive_ts_ns,symbol_id,bid_price,ask_price,bid_qty,ask_qty"

/-- What the loop inserts for one tick. -/
def writeTick (tick : MarketTick) : List UInt8 :=
  renderInt tick.exchangeTsNs ++ [comma] ++ renderInt tick.receiveTsNs ++ ascii ",1," ++
    renderInt tick.bidPrice ++ [comma] ++ renderInt tick.askPrice ++ ascii ",50,50" ++ [newline]

/-- What one run of the generator leaves behind; the file only if it was opened. -/
structure Outcome where
  status : ExitStatus
  out : List UInt8
  err : List UInt8
  file : Option Stream
  deriving DecidableEq, Repr

/-- Whether the output opens and which writes to it succeed. -/
structure World where
  opens : String → Bool
  device : Nat → Bool

/-- An early exit with a message. -/
def exitWith (message : String) (file : Option Stream) : Outcome :=
  ⟨.failure, [], utf8 message ++ [newline], file⟩

/-- The output after the header and some ticks. -/
def written (device : Nat → Bool) (ticks : List MarketTick) : Stream :=
  ticks.foldl (fun file tick => file.write device (writeTick tick))
    (Stream.write device (columnNames ++ [newline]) ⟨[], true, 0⟩)

def main (world : World) (argv : List String) : Outcome :=
  match argv with
  | [_, path, text] =>
    match parsePositiveCount (utf8 text) with
    | none => exitWith "tick-count must be a positive integer" none
    | some count =>
      if world.opens path then
        let file := written world.device (generatedTicks count)
        if file.good then
          ⟨.success, ascii "generated_ticks=" ++ render count ++
            ascii " seed=0x4d595df4d0f33173 output=" ++ utf8 path ++ [newline], [], some file⟩
        else exitWith ("failed while writing output: " ++ path) (some file)
      else exitWith ("failed to open output: " ++ path) none
  | _ => exitWith "usage: generate_replay <output.csv> <tick-count>" none

section Count

/-- The value a digit string adds to what was read before it. -/
def valueFrom (value : Nat) (text : List UInt8) : Nat :=
  text.foldl (fun total character => digitValue character + 10 * total) value

theorem le_valueFrom (value : Nat) (text : List UInt8) : value ≤ valueFrom value text := by
  induction text generalizing value with
  | nil => exact le_refl _
  | cons character rest ih =>
    exact le_trans (by omega) (ih (digitValue character + 10 * value))

/-- The guard stops exactly the values that do not fit. -/
theorem countLoop_iff {value : Nat} (fits : value ≤ sizeMax) (count : Nat) (text : List UInt8) :
    countLoop value text = some count ↔
      (∀ character ∈ text, isDigit character = true) ∧ count = valueFrom value text ∧
        0 < count ∧ count ≤ sizeMax := by
  induction text generalizing value with
  | nil =>
    simp only [countLoop, valueFrom, List.foldl_nil, List.not_mem_nil, false_imp_iff,
      implies_true, true_and]
    split_ifs with some
    · simp only [Option.some.injEq]
      omega
    · simp only [false_iff]
      omega
  | cons character rest ih =>
    have next : valueFrom value (character :: rest) =
        valueFrom (value * 10 + digitValue character) rest := by
      rw [valueFrom, List.foldl_cons, Nat.add_comm, Nat.mul_comm, valueFrom]
    simp only [countLoop, List.forall_mem_cons, next]
    by_cases digit : isDigit character = true
    · have single : digitValue character ≤ 9 := by
        have range := (isDigit_iff character).1 digit
        rw [digitValue]
        omega
      have room : digitValue character ≤ sizeMax := single.trans (by decide)
      have guarded : value > (sizeMax - digitValue character) / 10 ↔
          sizeMax < value * 10 + digitValue character := by omega
      rw [if_pos digit]
      by_cases large : value > (sizeMax - digitValue character) / 10
      · rw [if_pos large]
        have grows := le_valueFrom (value * 10 + digitValue character) rest
        have beyond := guarded.1 large
        simp only [reduceCtorEq, false_iff]
        omega
      · rw [if_neg large, ih (by omega)]
        simp only [digit, true_and]
    · simp [digit]

/-- A count is read from exactly the digit strings of the positive `size_t` values. -/
theorem parsePositiveCount_iff (text : List UInt8) (count : Nat) :
    parsePositiveCount text = some count ↔
      text ≠ [] ∧ (∀ character ∈ text, isDigit character = true) ∧ count = value text ∧
        0 < count ∧ count ≤ sizeMax := by
  rw [parsePositiveCount]
  split_ifs with empty
  · simp [empty]
  · rw [countLoop_iff (Nat.zero_le sizeMax), show valueFrom 0 text = value text from rfl]
    exact (and_iff_right empty).symm

end Count

/-- What every generated tick looks like. -/
structure Generated (tick : MarketTick) : Prop where
  bidLow : 99600 ≤ tick.bidPrice
  bidHigh : tick.bidPrice ≤ 100000
  spread : tick.askPrice = tick.bidPrice + 200
  symbolId : tick.symbolId = 1
  bidQty : tick.bidQty = 50
  askQty : tick.askQty = 50
  delay : tick.receiveTsNs = tick.exchangeTsNs + 50

section Ticks

theorem drift_range (state : UInt64) : -200 ≤ drift state ∧ drift state ≤ 200 := by
  have small : ((state >>> 32) % 401).toNat < 401 := by
    rw [UInt64.toNat_mod]
    exact Nat.mod_lt _ (by decide)
  rw [drift]
  omega

theorem tickOf_generated (index : Nat) (state : UInt64) : Generated (tickOf index state) := by
  obtain ⟨low, high⟩ := drift_range state
  constructor
  · change (99600 : Int) ≤ 99800 + drift state
    omega
  · change 99800 + drift state ≤ (100000 : Int)
    omega
  all_goals rfl

theorem ticksFrom_length (index : Nat) (state : UInt64) (count : Nat) :
    (ticksFrom index state count).length = count := by
  induction count generalizing index state with
  | zero => rfl
  | succ count ih => exact congrArg Nat.succ (ih (index + 1) (nextState state))

/-- The ticks of the loop with the indices they are written for. -/
theorem mem_ticksFrom {index count : Nat} {state : UInt64} {tick : MarketTick}
    (member : tick ∈ ticksFrom index state count) :
    ∃ position other, index ≤ position ∧ position < index + count ∧
      tick = tickOf position other := by
  induction count generalizing index state with
  | zero => cases member
  | succ count ih =>
    rcases List.mem_cons.1 member with rfl | later
    · exact ⟨index, nextState state, le_refl _, by omega, rfl⟩
    · obtain ⟨position, other, above, below, same⟩ := ih later
      exact ⟨position, other, by omega, by omega, same⟩

theorem ticksFrom_ordered (index : Nat) (state : UInt64) (count : Nat) :
    (ticksFrom index state count).Pairwise
      (fun earlier later => earlier.receiveTsNs ≤ later.receiveTsNs) := by
  induction count generalizing index state with
  | zero => exact .nil
  | succ count ih =>
    refine .cons ?_ (ih (index + 1) (nextState state))
    intro tick member
    obtain ⟨position, other, above, _, rfl⟩ := mem_ticksFrom member
    change ((index : Int) + 1) * 1000 + 50 ≤ ((position : Int) + 1) * 1000 + 50
    omega

theorem generatedTicks_generated {count : Nat} {tick : MarketTick}
    (member : tick ∈ generatedTicks count) : Generated tick := by
  obtain ⟨position, other, _, _, rfl⟩ := mem_ticksFrom member
  exact tickOf_generated position other

theorem Generated.valid {tick : MarketTick} (generated : Generated tick) : ValidTick tick := by
  obtain ⟨low, high, spread, _, bids, asks, delay⟩ := generated
  constructor
  · exact lt_of_lt_of_le (by decide) low
  · rw [spread]
    exact Int.add_pos (lt_of_lt_of_le (by decide) low) (by decide)
  · rw [spread]
    exact Int.le_add_of_nonneg_right (by decide)
  · rw [bids]
    decide
  · rw [asks]
    decide
  · rw [delay]
    exact Int.le_add_of_nonneg_right (by decide)

theorem generatedTicks_valid (count : Nat) : ValidTicks (generatedTicks count) := by
  refine ⟨fun tick member => (generatedTicks_generated member).valid,
    ticksFrom_ordered 0 seed count, ?_⟩
  apply List.pairwise_of_forall_mem_list
  intro earlier first later second
  rw [(generatedTicks_generated first).symbolId, (generatedTicks_generated second).symbolId]

/-- The values of the first ticks fit their columns. -/
theorem generatedTicks_representable {count : Nat} (fits : count * 1000 + 50 < 2 ^ 63) :
    ∀ tick ∈ generatedTicks count, CsvAcceptance.Representable tick := by
  intro tick member
  obtain ⟨position, other, _, below, rfl⟩ := mem_ticksFrom member
  obtain ⟨low, high⟩ := drift_range other
  have early : (position : Int) < count := by omega
  simp only [CsvAcceptance.Representable, CsvAcceptance.columns, tickOf, List.forall_mem_cons,
    List.not_mem_nil, false_imp_iff, implies_true, and_true, CsvReader.int64, CsvReader.int32,
    CsvReader.uint32]
  refine ⟨⟨?_, ?_⟩, ⟨?_, ?_⟩, by decide, ⟨?_, ?_⟩, ⟨?_, ?_⟩, by decide, by decide⟩ <;> omega

/-- What is written for a tick is its row in the reader's format. -/
theorem writeTick_eq {tick : MarketTick} (generated : Generated tick) :
    writeTick tick = CsvAcceptance.renderRow tick ++ CsvAcceptance.lineEnd false := by
  obtain ⟨_, _, _, symbolId, bidQty, askQty, _⟩ := generated
  have one : renderInt 1 = ascii "1" := by decide
  have fifty : renderInt 50 = ascii "50" := by decide
  simp [writeTick, CsvAcceptance.renderRow, CsvAcceptance.columns, CsvAcceptance.lineEnd, symbolId,
    bidQty, askQty, one, fifty, List.intercalate_cons_cons, ascii, comma]

theorem renderRows_final (ticks : List MarketTick) :
    CsvAcceptance.renderRows false true ticks =
      ticks.flatMap fun tick => CsvAcceptance.renderRow tick ++ CsvAcceptance.lineEnd false := by
  induction ticks with
  | nil => rfl
  | cons tick rest ih =>
    rw [List.flatMap_cons, ← ih]
    cases rest with
    | nil => simp [CsvAcceptance.renderRows]
    | cons => rfl

/-- A file whose writes all succeed is a file of the reader's format. -/
theorem written_text (device : Nat → Bool) {ticks : List MarketTick}
    (generated : ∀ tick ∈ ticks, Generated tick) (good : (written device ticks).good = true) :
    (written device ticks).text = CsvAcceptance.renderFile columnNames false true ticks := by
  have lines : (written device ticks).text =
      columnNames ++ [newline] ++ ticks.flatMap writeTick := by
    clear generated
    induction ticks using List.reverseRecOn with
    | nil =>
      have works : device 0 = true := good
      simp [written, Stream.write, works]
    | append_singleton ticks tick ih =>
      have last : written device (ticks ++ [tick]) =
          (written device ticks).write device (writeTick tick) := by
        rw [written, List.foldl_append]
        rfl
      rw [last] at good ⊢
      have both : ((written device ticks).good && device (written device ticks).writes) = true :=
        good
      have earlier := ih (Bool.and_eq_true_iff.1 both).1
      rw [Stream.write, both, if_pos rfl, earlier]
      simp
  have rows : ticks.flatMap writeTick = CsvAcceptance.renderRows false true ticks := by
    rw [renderRows_final]
    exact List.flatMap_congr fun tick member => writeTick_eq (generated tick member)
  rw [lines, rows]
  rfl

theorem generatedTicks_length (count : Nat) : (generatedTicks count).length = count :=
  ticksFrom_length 0 seed count

theorem generatedTicks_read {count : Nat} (some : 0 < count) (fits : count * 1000 + 50 < 2 ^ 63)
    {name : String} (named : name ≠ "") :
    readAll (.some name) (.some
      ⟨CsvAcceptance.renderFile columnNames false true (generatedTicks count), false⟩) =
        .ok (generatedTicks count) := by
  refine CsvAcceptance.renderFile_read false true named (by decide +kernel) ?_
    (generatedTicks_valid count) (generatedTicks_representable fits)
  intro none
  have length := generatedTicks_length count
  rw [none, List.length_nil] at length
  omega

end Ticks

/-- The request buys, in the one size of the strategy. -/
def Buys (request : GatewayNewOrder) : Prop := request.side = .buy ∧ request.quantity = 50

section Trading
variable {tick : MarketTick}

/-- Generated prices only ever signal a purchase. -/
theorem Generated.signal (generated : Generated tick) :
    (strategy.onTick tick).order.side = .buy := by
  unfold Decision.Strategy.onTick
  split_ifs with cheap dear
  · rfl
  · exact absurd (dear.trans generated.bidHigh) (by decide)
  · rfl

section Replay
variable {env : ReplayEnv} {config : ReplayConfig} {ticks : List MarketTick}

theorem Generated.buys (generated : Generated tick)
    (signal : (strategy.onTick tick).hasOrder = true) (clientOrderId : Int) :
    Buys (gatewayRequest config tick clientOrderId
      (orderToSend config tick (strategy.onTick tick).order)) := by
  obtain ⟨quantity, side⟩ := orderToSend_quantity config tick (strategy.onTick tick).order
  exact ⟨side.trans generated.signal, quantity.trans (signal_quantity signal)⟩

theorem run_buys (generated : ∀ tick ∈ ticks, Generated tick) (tickCount : Nat) :
    ∀ row ∈ gatewayFills env config (initialState tickCount) ticks, row.side = .buy := by
  have trades := @run_tradesFor env config Buys Generated
    (fun _ generated => generated.valid.nonNegative) (fun _ generated => generated.buys)
    (initialState tickCount) initialObjects_sound (fresh_holdsOnly Buys) ticks generated
  intro row member
  obtain ⟨tick, _, request, ⟨buy, _⟩, side, _⟩ := trades row member
  exact side.trans buy

end Replay

/-- Purchases alone open a long and realize nothing. -/
theorem bookRows_buys {rows : List TradeEvent} (buys : ∀ row ∈ rows, row.side = .buy)
    {engine : AccountingEngine.Engine} (long : 0 ≤ engine.positionState.netQty)
    (flat : engine.pnlState.cash + engine.openCost = 0) :
    let next := (rows.map rowFill).foldl
      (fun engine fill => (AccountingEngine.applyFill engine fill).2) engine
    0 ≤ next.positionState.netQty ∧ next.pnlState.cash + next.openCost = 0 := by
  induction rows generalizing engine with
  | nil => exact ⟨long, flat⟩
  | cons row rest ih =>
    obtain ⟨side, later⟩ := List.forall_mem_cons.1 buys
    have bought : (rowFill row).side = .buy := side
    by_cases positive : 0 < (rowFill row).quantity
    · have joins : ¬FillSplitting.Opposite engine.positionState.netQty (rowFill row).side := by
        simp [FillSplitting.Opposite, bought, long]
      have signed : AccountingEngine.signedQty (rowFill row) = (rowFill row).quantity := by
        rw [AccountingEngine.signedQty, bought, sideSign, one_mul]
      have cost := FillSplitting.applyFill_joins positive joins
      have cash := AccountingEngine.applyFill_cash engine (rowFill row) positive
      have netQty := AccountingEngine.applyFill_netQty engine (rowFill row) positive
      rw [signed] at cost cash netQty
      apply ih later
      · rw [netQty]
        omega
      · rw [cash, cost]
        linarith
    · have refused : (AccountingEngine.applyFill engine (rowFill row)).1 = false := by
        rw [← Bool.not_eq_true, AccountingEngine.applyFill_accepted]
        exact positive
      rw [List.map_cons, List.foldl_cons, AccountingEngine.applyFill_refused refused]
      exact ih later long flat

/-- A replay of generated data keeps within four events a tick. -/
theorem generated_rows (env : ReplayEnv) (config : ReplayConfig) (count : Nat) :
    (stateAfter env config count (generatedTicks count)).record.events.length ≤ 4 * count := by
  have nonneg := (generatedTicks_valid count).nonNegative
  have thick : ∀ tick ∈ generatedTicks count, ¬Thin tick := by
    rintro tick member ⟨_, shown⟩
    have generated := generatedTicks_generated member
    rw [generated.askQty, generated.bidQty] at shown
    omega
  have few := fives_le env config nonneg
  rw [List.countP_eq_zero.2 (fun tick member => by simp [thick tick member])] at few
  have rows := run_rows env config nonneg
  rw [generatedTicks_length] at rows
  omega

/-- Generated data exercises the buying side alone. Whatever the style, the timer,
the clock and the length of the file, a replay of it only ever buys, so that it
realizes nothing, and keeps within four events a tick. -/
theorem generated_replay (env : ReplayEnv) (config : ReplayConfig) (count : Nat) :
    let s := stateAfter env config count (generatedTicks count)
    (∀ row ∈ rowsOf .fill s.record.events, row.side = .buy) ∧
      0 ≤ s.objects.accounting.positionState.netQty ∧
      s.objects.accounting.pnlState.realizedPnl = 0 ∧ s.record.events.length ≤ 4 * count := by
  intro s
  have generated : ∀ tick ∈ generatedTicks count, Generated tick :=
    fun _ => generatedTicks_generated
  have nonneg := (generatedTicks_valid count).nonNegative
  have journaled := @run_journaled env config _ _ _ (initialState_journaled count)
    initialObjects_sound nonneg
  have buys : ∀ row ∈ rowsOf .fill s.record.events, row.side = .buy := by
    rw [show rowsOf .fill s.record.events = _ from journaled.fillRows]
    exact run_buys generated count
  obtain ⟨long, flat⟩ := @bookRows_buys _ buys AccountingEngine.fresh (le_refl _) rfl
  refine ⟨buys, ?_, ?_, ?_⟩
  · rw [show s.objects.accounting.positionState.netQty = _ from journaled.books.netQty]
    exact long
  · rw [show s.objects.accounting.pnlState.realizedPnl = _ from journaled.refreshed.realized,
      journaled.books.cash, journaled.books.openCost]
    exact flat
  · exact generated_rows env config count

end Trading

end TradingKernel.GenerateReplay
