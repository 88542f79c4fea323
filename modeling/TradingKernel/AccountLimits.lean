import TradingKernel.Arithmetic
import TradingKernel.Library.Truncation

/-!
How far trading can move an account. The units that were traded and the highest
price they were traded at bound the cost of the position and the cash, so that
limits on both leave room for every fill.
-/

namespace TradingKernel.AccountLimits
open Library Arithmetic
open AccountingEngine (Engine absQty absQty_eq nextOpenCost applyFill markToMarket refreshDerived
  signedQty signedQty_ne_zero)
open CsvReader (int64)

/-- The account after trading some units at no more than a price each. -/
structure Charged (price : Price) (units : Int) (engine : Engine) : Prop where
  few : |engine.positionState.netQty| ≤ units
  cost : |engine.openCost| ≤ price * |engine.positionState.netQty|
  paid : -(price * (units + engine.positionState.netQty)) ≤ 2 * engine.pnlState.cash
  received : 2 * engine.pnlState.cash ≤ price * (units - engine.positionState.netQty)
  marked : engine.markPrice ≤ price

/-- The largest position that some traded units can build within the replay's limit. -/
def largest (units : Int) : Int := min 200 units

/-- A price and a number of traded units that every account has room for: what
the largest position costs, times all but one of its units, and half of what
the units and that position are worth. -/
structure Limits (price : Price) (units : Int) : Prop where
  nonneg : 0 ≤ price
  product : price * largest units * (largest units - 1) ≤ int64.max
  cash : price * (units + largest units) ≤ 2 * int64.max

theorem Limits.value {price : Price} {units : Int} (limits : Limits price units) :
    price * largest units ≤ int64.max := by
  have less := Int.mul_le_mul_of_nonneg_left (show largest units ≤ units from min_le_right _ _)
    limits.nonneg
  have cash := limits.cash
  rw [Int.mul_add] at cash
  linarith

theorem fresh_charged {price : Price} (nonneg : 0 ≤ price) :
    Charged price 0 AccountingEngine.fresh := by
  constructor <;> simp [AccountingEngine.fresh, nonneg]

theorem Charged.mono {price : Price} {units more : Int} {engine : Engine}
    (charged : Charged price units engine) (nonneg : 0 ≤ price) (le : units ≤ more) :
    Charged price more engine := by
  have grown := Int.mul_le_mul_of_nonneg_left le nonneg
  obtain ⟨few, cost, paid, received, marked⟩ := charged
  rw [Int.mul_add] at paid
  rw [Int.mul_sub] at received
  refine ⟨few.trans le, cost, ?_, ?_, marked⟩
  · rw [Int.mul_add]
    linarith
  · rw [Int.mul_sub]
    linarith

theorem Charged.refreshed {price : Price} {units : Int} {engine : Engine}
    (charged : Charged price units engine) : Charged price units (refreshDerived engine) := by
  obtain ⟨few, cost, paid, received, marked⟩ := charged
  refine ⟨by simpa using few, ?_, by simpa using paid, by simpa using received,
    by simpa using marked⟩
  rw [AccountingEngine.refreshDerived_openCost, AccountingEngine.refreshDerived_netQty]
  split_ifs with flat
  · simp [flat]
  · exact cost

theorem markToMarket_charged {price mid : Price} {units : Int} {engine : Engine}
    (charged : Charged price units engine) (quoted : mid ≤ price) :
    Charged price units (markToMarket engine mid) :=
  @Charged.refreshed price units { engine with markPrice := mid }
    ⟨charged.few, charged.cost, charged.paid, charged.received, quoted⟩

/-- No branch of the cost update exceeds the price for every unit held. -/
theorem abs_nextOpenCost_le {price fillPrice openCost currentQty signedFillQty : Int}
    (cost : |openCost| ≤ price * |currentQty|) (nonneg : 0 ≤ fillPrice)
    (quoted : fillPrice ≤ price) :
    |nextOpenCost openCost currentQty signedFillQty fillPrice| ≤
      price * |currentQty + signedFillQty| := by
  have worth : ∀ qty : Int, |qty * fillPrice| ≤ price * |qty| := by
    intro qty
    rw [abs_mul, abs_of_nonneg nonneg, mul_comm]
    exact mul_le_mul_of_nonneg_right quoted (abs_nonneg qty)
  simp only [nextOpenCost]
  split_ifs with joins closes reduces
  · have sides : |currentQty + signedFillQty| = |currentQty| + |signedFillQty| := by
      rw [abs_add_eq_add_abs_iff]
      omega
    rw [sides, mul_add]
    exact (abs_add_le _ _).trans (add_le_add cost (worth signedFillQty))
  · simp [closes]
  · rw [absQty_eq, absQty_eq, Int.natCast_natAbs, Int.natCast_natAbs]
    exact abs_tdiv_le_per_unit (abs_pos.2 (by omega)) (abs_nonneg _) cost
  · exact worth _

theorem booked_charged {price : Price} {units : Int} {engine : Engine} {fill : Fill}
    (charged : Charged price units engine) (positive : 0 < fill.quantity)
    (worth : 0 < fill.price ∧ fill.price ≤ price) :
    Charged price (units + fill.quantity) (booked engine fill) := by
  obtain ⟨few, cost, paid, received, marked⟩ := charged
  have notional := Int.mul_le_mul_of_nonneg_right worth.2 positive.le
  have value := Int.mul_nonneg worth.1.le positive.le
  have moved : |signedQty fill| = fill.quantity := by
    rw [signedQty]
    rcases sideSign_cases fill.side with sign | sign
    · rw [sign, one_mul, abs_of_pos positive]
    · rw [sign, neg_one_mul, abs_neg, abs_of_pos positive]
  refine ⟨?_, abs_nextOpenCost_le cost worth.1.le worth.2, ?_, ?_, marked⟩
  · exact (abs_add_le _ _).trans (add_le_add few moved.le)
  · simp only [booked, signedQty]
    rcases sideSign_cases fill.side with buy | sell
    · rw [buy]
      linarith
    · rw [sell]
      linarith
  · simp only [booked, signedQty]
    rcases sideSign_cases fill.side with buy | sell
    · rw [buy]
      linarith
    · rw [sell]
      linarith

theorem applyFill_charged {price : Price} {units : Int} {engine : Engine} {fill : Fill}
    (charged : Charged price units engine) (positive : 0 < fill.quantity)
    (worth : 0 < fill.price ∧ fill.price ≤ price) :
    Charged price (units + fill.quantity) (applyFill engine fill).2 := by
  rw [applyFill_booked positive]
  exact (booked_charged charged positive worth).refreshed

section Room
variable {price : Price} {units : Int} {engine : Engine} (limits : Limits price units)
  (charged : Charged price units engine) (held : Held engine)
include charged held

theorem netQty_le_largest : |engine.positionState.netQty| ≤ largest units :=
  le_min (abs_le.2 held.small) charged.few

include limits

theorem cost_fits : Fits int64 (absQty engine.openCost) := by
  have few := netQty_le_largest charged held
  have scaled := Int.mul_le_mul_of_nonneg_left few limits.nonneg
  have bound := limits.value
  have cost := charged.cost
  have above := abs_nonneg engine.openCost
  rw [absQty_eq, Int.natCast_natAbs]
  simp only [Fits, int64] at *
  constructor <;> linarith

theorem value_fits : Fits int64 (engine.positionState.netQty * engine.markPrice) := by
  have few := netQty_le_largest charged held
  have bound := limits.value
  have value : |engine.positionState.netQty * engine.markPrice| ≤ price * largest units := by
    rw [abs_mul, abs_of_nonneg held.marked, mul_comm]
    exact mul_le_mul charged.marked few (abs_nonneg _) limits.nonneg
  obtain ⟨low, high⟩ := abs_le.1 value
  simp only [Fits, int64] at *
  constructor <;> linarith

theorem cash_fits : Fits int64 engine.pnlState.cash := by
  obtain ⟨low, high⟩ := abs_le.1 (netQty_le_largest charged held)
  have bound := limits.cash
  have up := Int.mul_le_mul_of_nonneg_left low limits.nonneg
  have down := Int.mul_le_mul_of_nonneg_left high limits.nonneg
  have paid := charged.paid
  have received := charged.received
  rw [Int.mul_add] at bound paid
  rw [Int.mul_sub] at received
  simp only [Fits, int64] at *
  constructor <;> linarith

/-- The open cost offsets the cash that was paid for it. -/
theorem realized_fits : Fits int64 (engine.pnlState.cash + engine.openCost) := by
  obtain ⟨low, high⟩ := abs_le.1 (netQty_le_largest charged held)
  have bound := limits.cash
  have up := Int.mul_le_mul_of_nonneg_left low limits.nonneg
  have down := Int.mul_le_mul_of_nonneg_left high limits.nonneg
  obtain ⟨_, cost, paid, received, _⟩ := charged
  rw [Int.mul_add] at bound paid
  rw [Int.mul_sub] at received
  obtain ⟨least, most⟩ := abs_le.1 cost
  rcases held.side with ⟨long, owed⟩ | ⟨short, owned⟩
  · rw [abs_of_nonneg long] at least most
    simp only [Fits, int64] at *
    constructor <;> linarith
  · rw [abs_of_nonpos short, mul_neg] at least most
    simp only [Fits, int64] at *
    constructor <;> linarith

/-- What a partial close multiplies before it divides. -/
theorem product_fits {residualQty : Int}
    (fewer : |residualQty| < |engine.positionState.netQty|) :
    Fits int64 (engine.openCost * absQty residualQty) := by
  have few := netQty_le_largest charged held
  have scaled := Int.mul_le_mul_of_nonneg_left few limits.nonneg
  have some := abs_nonneg residualQty
  have product : |engine.openCost * (|residualQty|)| ≤
      price * largest units * (largest units - 1) := by
    rw [abs_mul, abs_abs]
    exact mul_le_mul (charged.cost.trans scaled) (by omega) some
      (mul_nonneg limits.nonneg (by omega))
  have bound := limits.product
  obtain ⟨low, high⟩ := abs_le.1 product
  rw [absQty_eq, Int.natCast_natAbs]
  simp only [Fits, int64] at *
  constructor <;> linarith

end Room

theorem mark_fits {price mid : Price} {units : Int} {engine : Engine}
    (limits : Limits price units) (charged : Charged price units engine) (held : Held engine)
    (nonneg : 0 ≤ mid) (quoted : mid ≤ price) :
    Fits int64 (engine.positionState.netQty * mid) :=
  @value_fits price units { engine with markPrice := mid } limits
    ⟨charged.few, charged.cost, charged.paid, charged.received, quoted⟩
    ⟨held.small, nonneg, held.side, held.flat⟩

/-- Within the limits an account has room for every fill of an order. -/
theorem fillRoom_of_charged {price : Price} {units total : Int} {engine : Engine} {fill : Fill}
    (charged : Charged price units engine) (held : Held engine) (positive : 0 < fill.quantity)
    (order : fill.quantity ≤ 50) (worth : 0 < fill.price ∧ fill.price ≤ price)
    (limits : Limits price total) (within : units + fill.quantity ≤ total)
    (after : Held (booked engine fill)) : FillRoom engine fill := by
  have next := (booked_charged charged positive worth).mono limits.nonneg within
  have before := charged.mono limits.nonneg (show units ≤ total by omega)
  have cost := cost_fits limits next after
  have value := value_fits limits next after
  have realized := realized_fits limits next after
  have notional : Fits int64 (signedQty fill * fill.price) := by
    have traded := (abs_nonneg _).trans charged.few
    have part : fill.quantity ≤ min 200 total := le_min (by omega) (by omega)
    have most : fill.price * fill.quantity ≤ price * largest total :=
      mul_le_mul worth.2 part positive.le limits.nonneg
    have some := Int.mul_nonneg worth.1.le positive.le
    have bound := limits.value
    rw [signedQty]
    rcases sideSign_cases fill.side with buy | sell
    · rw [buy]
      simp only [Fits, int64] at *
      constructor <;> linarith
    · rw [sell]
      simp only [Fits, int64] at *
      constructor <;> linarith
  refine ⟨notional, cash_fits limits next after, ?_⟩
  simp only [booked, nextOpenCost] at cost value realized
  split_ifs at cost value realized ⊢ with joins closes reduces
  · exact ⟨cost, value⟩
  · refine ⟨product_fits limits before held ?_, realized⟩
    have some := signedQty_ne_zero positive
    rw [Int.abs_eq_natAbs, Int.abs_eq_natAbs]
    omega
  · refine ⟨value, ?_⟩
    have same : engine.pnlState.cash - signedQty fill * fill.price +
        (engine.positionState.netQty + signedQty fill) * fill.price =
          engine.pnlState.cash + engine.positionState.netQty * fill.price := by ring
    rwa [← same]

end TradingKernel.AccountLimits
