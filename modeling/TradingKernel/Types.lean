import Mathlib.Order.Defs.LinearOrder
import Mathlib.Data.List.Pairwise

/-!
The fixed-point vocabulary shared by every component of the kernel. Prices,
quantities and timestamps are exact integers; the widths of the source's
fields enter only where a result speaks about them.
-/

namespace TradingKernel

abbrev TimestampNs := Int
abbrev Price := Int

def PRICE_SCALE : Price := 10000

inductive Side where
  | buy
  | sell
  deriving DecidableEq, Repr

structure MarketTick where
  exchangeTsNs : TimestampNs
  receiveTsNs : TimestampNs
  bidPrice : Price
  askPrice : Price
  symbolId : Nat
  bidQty : Int
  askQty : Int
  deriving DecidableEq, Repr

structure Fill where
  tsNs : TimestampNs
  price : Price
  quantity : Int
  side : Side
  deriving DecidableEq, Repr

/-- The value-initialised `Fill{}` of the source. -/
def Fill.empty : Fill := ⟨0, 0, 0, .buy⟩

structure PositionState where
  netQty : Int
  avgPrice : Price
  deriving DecidableEq, Repr

structure PnlState where
  realizedPnl : Int
  unrealizedPnl : Int
  cash : Int
  deriving DecidableEq, Repr

structure OrderRequest where
  side : Side
  quantity : Int
  limitPrice : Price
  deriving DecidableEq, Repr

inductive ExecutionStyle where
  | aggressive
  | passive
  deriving DecidableEq, Repr

inductive RejectReason where
  | none
  | maxPosition
  | newRejectedByVenue
  | cancelRejectedByVenue
  | invalidQuantity
  deriving DecidableEq, Repr

structure OrderDecision where
  accepted : Bool
  rejectReason : RejectReason
  deriving DecidableEq, Repr

structure StrategyDecision where
  hasOrder : Bool
  order : OrderRequest
  deriving DecidableEq, Repr

def sideSign : Side → Int
  | .buy => 1
  | .sell => -1

theorem sideSign_cases (side : Side) : sideSign side = 1 ∨ sideSign side = -1 := by
  cases side <;> simp [sideSign]

/-- The mid price used for every mark, `(bid + ask) / 2` truncated toward zero. -/
def MarketTick.mid (tick : MarketTick) : Price :=
  (tick.bidPrice + tick.askPrice).tdiv 2

/-- Quantity displayed on the side an order of `side` trades against. -/
def MarketTick.oppositeQty (tick : MarketTick) : Side → Int
  | .buy => tick.askQty
  | .sell => tick.bidQty

/-- Quantity displayed on the side an order of `side` joins. -/
def MarketTick.ownQty (tick : MarketTick) : Side → Int
  | .buy => tick.bidQty
  | .sell => tick.askQty

/-- Best price on the side an order of `side` trades against. -/
def MarketTick.touchPrice (tick : MarketTick) : Side → Price
  | .buy => tick.askPrice
  | .sell => tick.bidPrice

/-- The per-row checks of the CSV reader. -/
structure ValidTick (tick : MarketTick) : Prop where
  bid_pos : 0 < tick.bidPrice
  ask_pos : 0 < tick.askPrice
  bid_le_ask : tick.bidPrice ≤ tick.askPrice
  bidQty_nonneg : 0 ≤ tick.bidQty
  askQty_nonneg : 0 ≤ tick.askQty
  exchange_le_receive : tick.exchangeTsNs ≤ tick.receiveTsNs

instance (tick : MarketTick) : Decidable (ValidTick tick) :=
  decidable_of_iff (0 < tick.bidPrice ∧ 0 < tick.askPrice ∧ tick.bidPrice ≤ tick.askPrice ∧
      0 ≤ tick.bidQty ∧ 0 ≤ tick.askQty ∧ tick.exchangeTsNs ≤ tick.receiveTsNs)
    ⟨fun ⟨h1, h2, h3, h4, h5, h6⟩ => ⟨h1, h2, h3, h4, h5, h6⟩,
      fun h => ⟨h.1, h.2, h.3, h.4, h.5, h.6⟩⟩

/-- What the CSV reader guarantees about a tick list it returns. -/
structure ValidTicks (ticks : List MarketTick) : Prop where
  rows : ∀ tick ∈ ticks, ValidTick tick
  ordered : ticks.Pairwise (fun earlier later => earlier.receiveTsNs ≤ later.receiveTsNs)
  oneSymbol : ticks.Pairwise (fun earlier later => earlier.symbolId = later.symbolId)

instance (ticks : List MarketTick) : Decidable (ValidTicks ticks) :=
  decidable_of_iff ((∀ tick ∈ ticks, ValidTick tick) ∧
      ticks.Pairwise (fun earlier later => earlier.receiveTsNs ≤ later.receiveTsNs) ∧
      ticks.Pairwise (fun earlier later => earlier.symbolId = later.symbolId))
    ⟨fun ⟨h1, h2, h3⟩ => ⟨h1, h2, h3⟩, fun h => ⟨h.1, h.2, h.3⟩⟩

/-- A tick with non-negative displayed quantities. -/
def NonNegative (tick : MarketTick) : Prop := 0 ≤ tick.bidQty ∧ 0 ≤ tick.askQty

theorem NonNegative.oppositeQty {tick : MarketTick} (nonneg : NonNegative tick) (side : Side) :
    0 ≤ tick.oppositeQty side := by
  cases side
  · exact nonneg.2
  · exact nonneg.1

theorem NonNegative.ownQty {tick : MarketTick} (nonneg : NonNegative tick) (side : Side) :
    0 ≤ tick.ownQty side := by
  cases side
  · exact nonneg.1
  · exact nonneg.2

theorem ValidTick.nonNegative {tick : MarketTick} (valid : ValidTick tick) : NonNegative tick :=
  ⟨valid.bidQty_nonneg, valid.askQty_nonneg⟩

theorem ValidTicks.nonNegative {ticks : List MarketTick} (valid : ValidTicks ticks) :
    ∀ tick ∈ ticks, NonNegative tick :=
  fun tick member => (valid.rows tick member).nonNegative

/-- Every beginning of a valid tick list is a valid tick list. -/
theorem ValidTicks.take {before ticks : List MarketTick} (valid : ValidTicks ticks)
    (start : before <+: ticks) : ValidTicks before :=
  ⟨fun tick member => valid.rows tick (start.subset member), valid.ordered.sublist start.sublist,
    valid.oneSymbol.sublist start.sublist⟩

end TradingKernel
