import TradingKernel.HeldOrders
import TradingKernel.SpreadCapture

/-!
What a passive replay earns. A passive order joins its own side of the book, so
it never pays more than the strategy's buy price nor sells for less than its
sell price, and no part of the replay gives realized profit away.
-/

namespace TradingKernel.PassiveProfit
open Library OrderManager MockVenueGateway GatewayInvariant ReplayRunner ReplayRun
open ReplayPhases ReplayAgreement ReplayJournal ReplayReconstruction SpreadCapture HeldOrders
open AccountingEngine (Engine Refreshed applyFill)

abbrev AtSignal (side : Side) (price : Price) : Prop :=
  Quoted strategy.buyBelow strategy.sellAbove side price

def AskedAtSignal (request : GatewayNewOrder) : Prop :=
  request.style = .passive ∧ AtSignal request.side request.limitPrice

/-- The fill row trades something at a signal price. -/
structure GoodRow (row : TradeEvent) : Prop where
  positive : 0 < row.quantity
  price : AtSignal row.side row.price

theorem orderToSend_atSignal {config : ReplayConfig} (style : config.executionStyle = .passive)
    {tick : MarketTick} (valid : ValidTick tick) (signal : (strategy.onTick tick).hasOrder = true) :
    AtSignal (orderToSend config tick (strategy.onTick tick).order).side
      (orderToSend config tick (strategy.onTick tick).order).limitPrice := by
  have crossed := valid.bid_le_ask
  unfold Decision.Strategy.onTick at signal ⊢
  split_ifs at signal ⊢ with cheap dear
  · simp only [orderToSend, if_pos style]
    exact ⟨fun _ => crossed.trans cheap, nofun⟩
  · simp only [orderToSend, if_pos style, reduceCtorEq, if_false]
    exact ⟨nofun, fun _ => dear.trans crossed⟩

/-- Every fill of a passive run trades at a signal price. -/
theorem run_goodRows {env : ReplayEnv} {config : ReplayConfig}
    (style : config.executionStyle = .passive) (tickCount : Nat) {ticks : List MarketTick}
    (valid : ∀ tick ∈ ticks, ValidTick tick) :
    ∀ row ∈ gatewayFills env config (initialState tickCount) ticks, GoodRow row := by
  have trades := @run_tradesFor env config AskedAtSignal ValidTick
    (fun _ valid => valid.nonNegative)
    (fun _ valid signal _ => ⟨style, orderToSend_atSignal style valid signal⟩)
    (initialState tickCount) initialObjects_sound (fresh_holdsOnly _) ticks valid
  intro row member
  obtain ⟨tick, _, request, ⟨passive, atSignal⟩, side, positive, price⟩ := trades row member
  refine ⟨positive, ?_⟩
  rw [side, price, tradePrice, passive]
  exact atSignal

section Books

def fillCalls (journal : List TradeEvent) : List AccountingEngine.Call :=
  ((rowsOf .fill journal).map rowFill).map .applyFill

theorem fillCalls_append (first second : List TradeEvent) :
    fillCalls (first ++ second) = fillCalls first ++ fillCalls second := by
  simp [fillCalls]

theorem rebuild_eq (journal : List TradeEvent) :
    rebuild journal = AccountingEngine.machine.run AccountingEngine.fresh (fillCalls journal) := by
  rw [rebuild, bookRows, fillCalls]
  generalize (rowsOf .fill journal).map rowFill = fills
  generalize AccountingEngine.fresh = engine
  induction fills generalizing engine with
  | nil => rfl
  | cons fill rest ih => exact ih (applyFill engine fill).2

theorem rebuild_refreshed (journal : List TradeEvent) : Refreshed (rebuild journal) := by
  rw [rebuild_eq]
  exact AccountingEngine.run_refreshed AccountingEngine.fresh_refreshed _

/-- The units a journal's fills have matched. -/
def matchedUnits (journal : List TradeEvent) : Int :=
  matchedQty ((rowsOf .fill journal).map rowFill)

theorem matchedUnits_mono {first second : List TradeEvent}
    (good : ∀ row ∈ rowsOf .fill (first ++ second), GoodRow row) :
    matchedUnits first ≤ matchedUnits (first ++ second) := by
  have positive : ∀ fill ∈ (rowsOf .fill second).map rowFill, 0 < fill.quantity := by
    intro fill member
    obtain ⟨row, mem, rfl⟩ := List.mem_map.1 member
    exact (good row (by simp [mem])).positive
  rw [matchedUnits, matchedUnits, rowsOf_append, List.map_append]
  exact min_le_min (sideQty_mono .buy positive) (sideQty_mono .sell positive)

theorem rebuild_earns (first second : List TradeEvent)
    (good : ∀ row ∈ rowsOf .fill (first ++ second), GoodRow row) :
    (strategy.sellAbove - strategy.buyBelow) *
        (matchedUnits (first ++ second) - matchedUnits first) ≤
      (rebuild (first ++ second)).pnlState.realizedPnl - (rebuild first).pnlState.realizedPnl := by
  have rows : ∀ fill ∈ (rowsOf .fill (first ++ second)).map rowFill,
      0 < fill.quantity ∧ AtSignal fill.side fill.price := by
    intro fill member
    obtain ⟨row, mem, rfl⟩ := List.mem_map.1 member
    exact ⟨(good row mem).positive, (good row mem).price⟩
  have some : ∀ fill ∈ (rowsOf .fill first).map rowFill, 0 < fill.quantity := by
    intro fill member
    exact (rows fill (by simpa using Or.inl (by simpa using member))).1
  have earned := @run_earns strategy.buyBelow strategy.sellAbove
    (fillCalls first) (fillCalls second) (by
      intro fill member
      rw [← fillCalls_append] at member
      obtain ⟨other, mem, same⟩ := List.mem_map.1 member
      obtain rfl := AccountingEngine.Call.applyFill.inj same
      exact (rows other mem).2)
  rw [← fillCalls_append, ← rebuild_eq, ← rebuild_eq, fillCalls,
    fillsOf_positive (fun fill member => (rows fill member).1), fillCalls,
    fillsOf_positive some] at earned
  exact earned

theorem journaled_realized {fills : List TradeEvent} {s : ReplayState}
    (journaled : Journaled fills s) :
    s.objects.accounting.pnlState.realizedPnl =
      (rebuild s.record.events).pnlState.realizedPnl := by
  rw [journaled.refreshed.realized, (rebuild_refreshed s.record.events).realized,
    journaled.books.cash, journaled.books.openCost]

end Books

/-- A passive replay never gives profit away. Every fill of a valid tick list
trades at a price the strategy signals on, so between any two points of the
replay realized profit grows by at least the spread between the sell and the
buy signal for every unit matched in between. -/
theorem passive_never_loses (env : ReplayEnv) (config : ReplayConfig)
    (style : config.executionStyle = .passive) (tickCount : Nat) (before after : List MarketTick)
    (valid : ValidTicks (before ++ after)) :
    let start := stateAfter env config tickCount before
    let finish := stateAfter env config tickCount (before ++ after)
    (∀ row ∈ rowsOf .fill finish.record.events, GoodRow row) ∧
      matchedUnits start.record.events ≤ matchedUnits finish.record.events ∧
      (strategy.sellAbove - strategy.buyBelow) *
          (matchedUnits finish.record.events - matchedUnits start.record.events) ≤
        finish.objects.accounting.pnlState.realizedPnl -
          start.objects.accounting.pnlState.realizedPnl ∧
      start.objects.accounting.pnlState.realizedPnl ≤
        finish.objects.accounting.pnlState.realizedPnl := by
  intro start finish
  have nonneg := valid.nonNegative
  have early := @run_journaled env config _ _ _ (initialState_journaled tickCount)
    initialObjects_sound (fun tick member => nonneg tick (List.mem_append_left after member))
  have late := @run_journaled env config _ _ _ (initialState_journaled tickCount)
    initialObjects_sound nonneg
  have good : ∀ row ∈ rowsOf .fill finish.record.events, GoodRow row := by
    rw [show rowsOf .fill finish.record.events = _ from late.fillRows]
    exact run_goodRows style tickCount valid.rows
  have rows : finish.record.events = start.record.events ++
      emitted (actionsOf ((machine env config).history start after)) := by
    rw [show finish = (machine env config).run start after from Machine.run_append .., run_record,
      performAll_events]
  have begun : start.objects.accounting.pnlState.realizedPnl = _ := journaled_realized early
  have ended : finish.objects.accounting.pnlState.realizedPnl = _ := journaled_realized late
  have more := matchedUnits_mono (rows ▸ good)
  have earned := rebuild_earns _ _ (rows ▸ good)
  rw [← rows] at more earned
  rw [← begun, ← ended] at earned
  have spread : 0 ≤ strategy.sellAbove - strategy.buyBelow := by decide
  have nonnegative := Int.mul_nonneg spread (Int.sub_nonneg.2 more)
  exact ⟨good, more, earned, Int.sub_nonneg.1 (nonnegative.trans earned)⟩

/-- A passive buy is filled as it is acknowledged, and another one follows. -/
def boughtTicks : List MarketTick :=
  [⟨1000, 1000, 99800, 100000, 1, 0, 10⟩, ⟨1200, 1200, 99500, 99700, 1, 0, 80⟩]

/-- That one is canceled at the second try; then the market moves up, the first
order to sell is rejected and the second one filled. -/
def soldTicks : List MarketTick :=
  [⟨1400, 1400, 100000, 100100, 1, 10, 10⟩, ⟨1600, 1600, 100000, 100100, 1, 10, 10⟩,
    ⟨1800, 1800, 100000, 100100, 1, 10, 10⟩, ⟨2800, 2800, 120000, 120400, 1, 5, 5⟩,
    ⟨3000, 3000, 120000, 120400, 1, 5, 5⟩, ⟨3200, 3200, 120400, 120500, 1, 60, 5⟩]

theorem passive_never_loses_sold :
    let start := stateAfter quietEnv ⟨.sync, .passive, 0⟩ 8 boughtTicks
    let finish := stateAfter quietEnv ⟨.sync, .passive, 0⟩ 8 (boughtTicks ++ soldTicks)
    matchedUnits start.record.events = 0 ∧ matchedUnits finish.record.events = 50 ∧
      (∀ row ∈ rowsOf .fill finish.record.events, GoodRow row) ∧
      matchedUnits start.record.events ≤ matchedUnits finish.record.events ∧
      (strategy.sellAbove - strategy.buyBelow) *
          (matchedUnits finish.record.events - matchedUnits start.record.events) ≤
        finish.objects.accounting.pnlState.realizedPnl -
          start.objects.accounting.pnlState.realizedPnl ∧
      start.objects.accounting.pnlState.realizedPnl ≤
        finish.objects.accounting.pnlState.realizedPnl :=
  ⟨by decide +kernel, by decide +kernel,
    passive_never_loses quietEnv ⟨.sync, .passive, 0⟩ rfl 8 boughtTicks soldTicks (by decide)⟩

end TradingKernel.PassiveProfit
