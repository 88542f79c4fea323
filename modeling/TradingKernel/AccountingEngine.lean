import Mathlib.Tactic.Ring
import Mathlib.Algebra.BigOperators.Group.List.Basic
import TradingKernel.Types
import TradingKernel.Library.Machine

/-!
Positions and profit. Cash and the signed open cost are the source of truth;
the average price and both PnL figures are derived from them after every
update. Integer division truncates toward zero, as in the source.
-/

namespace TradingKernel.AccountingEngine
open Library

structure Engine where
  positionState : PositionState
  pnlState : PnlState
  openCost : Int
  markPrice : Price
  deriving DecidableEq, Repr

/-- A default-constructed engine. -/
def fresh : Engine := ⟨⟨0, 0⟩, ⟨0, 0, 0⟩, 0, 0⟩

def absQty (qty : Int) : Int := if qty ≥ 0 then qty else -qty

def refreshDerived (engine : Engine) : Engine :=
  let engine :=
    if engine.positionState.netQty = 0 then
      { engine with
        openCost := 0
        positionState := { engine.positionState with avgPrice := 0 }
        pnlState := { engine.pnlState with unrealizedPnl := 0 } }
    else
      { engine with
        positionState := { engine.positionState with
          avgPrice := (absQty engine.openCost).tdiv (absQty engine.positionState.netQty) }
        pnlState := { engine.pnlState with
          unrealizedPnl := engine.positionState.netQty * engine.markPrice - engine.openCost } }
  { engine with
    pnlState := { engine.pnlState with realizedPnl := engine.pnlState.cash + engine.openCost } }

/-- The open cost after a signed fill: opening and same-side fills add their
notional, a full close clears it, a partial close keeps the truncated share of
the remaining quantity and a flip starts over at the fill price. -/
def nextOpenCost (openCost currentQty signedFillQty price : Int) : Int :=
  let residualQty := currentQty + signedFillQty
  if currentQty = 0 ∨ (currentQty > 0 ↔ signedFillQty > 0) then openCost + signedFillQty * price
  else if residualQty = 0 then 0
  else if residualQty > 0 ↔ currentQty > 0 then
    (openCost * absQty residualQty).tdiv (absQty currentQty)
  else residualQty * price

def signedQty (fill : Fill) : Int := sideSign fill.side * fill.quantity

def applyFill (engine : Engine) (fill : Fill) : Bool × Engine :=
  if fill.quantity ≤ 0 then (false, engine)
  else
    let signedFillQty := signedQty fill
    let currentQty := engine.positionState.netQty
    (true, refreshDerived
      { engine with
        pnlState := { engine.pnlState with
          cash := engine.pnlState.cash - signedFillQty * fill.price }
        openCost := nextOpenCost engine.openCost currentQty signedFillQty fill.price
        positionState := { engine.positionState with netQty := currentQty + signedFillQty } })

def markToMarket (engine : Engine) (midPrice : Price) : Engine :=
  refreshDerived { engine with markPrice := midPrice }

/-- The derived fields agree with the source of truth. -/
def Refreshed (engine : Engine) : Prop := refreshDerived engine = engine

theorem fresh_refreshed : Refreshed fresh := rfl

@[simp] theorem refreshDerived_netQty (engine : Engine) :
    (refreshDerived engine).positionState.netQty = engine.positionState.netQty := by
  unfold refreshDerived
  split <;> rfl

@[simp] theorem refreshDerived_cash (engine : Engine) :
    (refreshDerived engine).pnlState.cash = engine.pnlState.cash := by
  unfold refreshDerived
  split <;> rfl

@[simp] theorem refreshDerived_markPrice (engine : Engine) :
    (refreshDerived engine).markPrice = engine.markPrice := by
  unfold refreshDerived
  split <;> rfl

theorem refreshDerived_openCost (engine : Engine) :
    (refreshDerived engine).openCost =
      if engine.positionState.netQty = 0 then 0 else engine.openCost := by
  unfold refreshDerived
  split <;> rfl

theorem refreshDerived_idempotent (engine : Engine) : Refreshed (refreshDerived engine) := by
  unfold Refreshed refreshDerived
  by_cases flat : engine.positionState.netQty = 0 <;> simp [flat]

theorem markToMarket_refreshed (engine : Engine) (midPrice : Price) :
    Refreshed (markToMarket engine midPrice) :=
  refreshDerived_idempotent _

theorem applyFill_refreshed {engine : Engine} (refreshed : Refreshed engine) (fill : Fill) :
    Refreshed (applyFill engine fill).2 := by
  unfold applyFill
  split
  · exact refreshed
  · exact refreshDerived_idempotent _

theorem applyFill_accepted (engine : Engine) (fill : Fill) :
    (applyFill engine fill).1 = true ↔ 0 < fill.quantity := by
  unfold applyFill
  split <;> simp <;> omega

theorem applyFill_refused {engine : Engine} {fill : Fill}
    (refused : (applyFill engine fill).1 = false) : (applyFill engine fill).2 = engine := by
  unfold applyFill at refused ⊢
  split at refused
  · rw [if_pos ‹_›]
  · cases refused

@[simp] theorem markToMarket_netQty (engine : Engine) (midPrice : Price) :
    (markToMarket engine midPrice).positionState.netQty = engine.positionState.netQty := by
  simp [markToMarket]

@[simp] theorem markToMarket_cash (engine : Engine) (midPrice : Price) :
    (markToMarket engine midPrice).pnlState.cash = engine.pnlState.cash := by
  simp [markToMarket]

@[simp] theorem markToMarket_markPrice (engine : Engine) (midPrice : Price) :
    (markToMarket engine midPrice).markPrice = midPrice := by
  simp [markToMarket]

/-- The last mark counts. -/
theorem markToMarket_overwrites (engine : Engine) (midPrice later : Price) :
    markToMarket (markToMarket engine midPrice) later = markToMarket engine later := by
  unfold markToMarket refreshDerived
  by_cases flat : engine.positionState.netQty = 0 <;> simp [flat]

theorem markToMarket_unchanged {engine : Engine} (refreshed : Refreshed engine) {midPrice : Price}
    (marked : engine.markPrice = midPrice) : markToMarket engine midPrice = engine := by
  rw [← marked]
  exact refreshed

/-- Marking moves neither the position nor the realized profit. -/
theorem markToMarket_figures {engine : Engine} (refreshed : Refreshed engine) (midPrice : Price) :
    (markToMarket engine midPrice).positionState = engine.positionState ∧
      (markToMarket engine midPrice).pnlState.realizedPnl = engine.pnlState.realizedPnl := by
  have same : (markToMarket engine midPrice).positionState =
        (refreshDerived engine).positionState ∧
      (markToMarket engine midPrice).pnlState.realizedPnl =
        (refreshDerived engine).pnlState.realizedPnl := by
    unfold markToMarket refreshDerived
    split_ifs <;> exact ⟨rfl, rfl⟩
  rwa [refreshed] at same

theorem applyFill_netQty (engine : Engine) (fill : Fill) (positive : 0 < fill.quantity) :
    (applyFill engine fill).2.positionState.netQty =
      engine.positionState.netQty + signedQty fill := by
  simp [applyFill, show ¬fill.quantity ≤ 0 by omega]

theorem applyFill_cash (engine : Engine) (fill : Fill) (positive : 0 < fill.quantity) :
    (applyFill engine fill).2.pnlState.cash =
      engine.pnlState.cash - signedQty fill * fill.price := by
  simp [applyFill, show ¬fill.quantity ≤ 0 by omega]

theorem applyFill_openCost (engine : Engine) (fill : Fill) (positive : 0 < fill.quantity) :
    (applyFill engine fill).2.openCost =
      if engine.positionState.netQty + signedQty fill = 0 then 0
      else
        nextOpenCost engine.openCost engine.positionState.netQty (signedQty fill) fill.price := by
  simp [applyFill, show ¬fill.quantity ≤ 0 by omega, refreshDerived_openCost]

theorem signedQty_ne_zero {fill : Fill} (positive : 0 < fill.quantity) : signedQty fill ≠ 0 := by
  rcases sideSign_cases fill.side with sign | sign
  · rw [signedQty, sign]
    omega
  · rw [signedQty, sign]
    omega

theorem absQty_eq (qty : Int) : absQty qty = qty.natAbs := by
  unfold absQty
  split_ifs <;> omega

theorem applyFill_markPrice (engine : Engine) (fill : Fill) :
    (applyFill engine fill).2.markPrice = engine.markPrice := by
  unfold applyFill
  split <;> simp

section Derived

variable {engine : Engine} (refreshed : Refreshed engine)
include refreshed

theorem Refreshed.realized :
    engine.pnlState.realizedPnl = engine.pnlState.cash + engine.openCost := by
  rw [← refreshed]
  unfold refreshDerived
  split <;> rfl

theorem Refreshed.flat (flat : engine.positionState.netQty = 0) :
    engine.openCost = 0 ∧ engine.positionState.avgPrice = 0 ∧
      engine.pnlState.unrealizedPnl = 0 := by
  have same := refreshed
  simp only [Refreshed, refreshDerived, if_pos flat] at same
  rw [← same]
  exact ⟨rfl, rfl, rfl⟩

theorem Refreshed.average (opened : engine.positionState.netQty ≠ 0) :
    engine.positionState.avgPrice =
      (engine.openCost.natAbs / engine.positionState.netQty.natAbs : Nat) := by
  have same := refreshed
  simp only [Refreshed, refreshDerived, if_neg opened, absQty_eq] at same
  conv_lhs => rw [← same]
  exact Int.ofNat_tdiv _ _

theorem Refreshed.unrealized :
    engine.pnlState.unrealizedPnl =
      engine.positionState.netQty * engine.markPrice - engine.openCost := by
  by_cases flat : engine.positionState.netQty = 0
  · obtain ⟨cost, _, unrealized⟩ := refreshed.flat flat
    rw [unrealized, cost, flat]
    simp
  · have same := refreshed
    simp only [Refreshed, refreshDerived, if_neg flat] at same
    conv_lhs => rw [← same]

theorem Refreshed.identity :
    engine.pnlState.realizedPnl + engine.pnlState.unrealizedPnl =
      engine.pnlState.cash + engine.positionState.netQty * engine.markPrice := by
  rw [refreshed.realized, refreshed.unrealized]
  ring

end Derived

/-- The cash, the position, its cost and the mark determine everything else. -/
theorem Refreshed.eq_of_truth {first second : Engine} (refreshed : Refreshed first)
    (other : Refreshed second) (netQty : first.positionState.netQty = second.positionState.netQty)
    (cash : first.pnlState.cash = second.pnlState.cash)
    (openCost : first.openCost = second.openCost)
    (markPrice : first.markPrice = second.markPrice) : first = second := by
  rw [← refreshed, ← other]
  simp only [refreshDerived, netQty, cash, openCost, markPrice]
  split <;> rfl

inductive Call where
  | applyFill (fill : Fill)
  | markToMarket (midPrice : Price)
  deriving DecidableEq, Repr

inductive Reply where
  | fill (accepted : Bool)
  | marked
  deriving DecidableEq, Repr

def machine : Machine Engine Call Reply where
  step engine
    | .applyFill fill => (.fill (applyFill engine fill).1, (applyFill engine fill).2)
    | .markToMarket midPrice => (.marked, markToMarket engine midPrice)

/-- The fill a call had accepted, if it was one. -/
def acceptedFill : Call × Reply → Option Fill
  | (.applyFill fill, .fill true) => some fill
  | _ => none

def acceptedFills (past : List (Call × Reply)) : List Fill := past.filterMap acceptedFill

def netOf (fills : List Fill) : Int := (fills.map signedQty).sum

def notionalOf (fills : List Fill) : Int := (fills.map fun fill => signedQty fill * fill.price).sum

/-- The price of the last mark of a call list, zero before the first. -/
def lastMark : List Call → Price → Price
  | [], mark => mark
  | .applyFill _ :: rest, mark => lastMark rest mark
  | .markToMarket midPrice :: rest, _ => lastMark rest midPrice

theorem run_refreshed {engine : Engine} (refreshed : Refreshed engine) (calls : List Call) :
    Refreshed (machine.run engine calls) := by
  refine machine.run_invariant Refreshed (fun _ => True) refreshed ?_ calls (by simp)
  intro engine call refreshed _
  cases call with
  | applyFill fill => exact applyFill_refreshed refreshed fill
  | markToMarket midPrice => exact markToMarket_refreshed engine midPrice

theorem run_markPrice (engine : Engine) (calls : List Call) :
    (machine.run engine calls).markPrice = lastMark calls engine.markPrice := by
  induction calls generalizing engine with
  | nil => rfl
  | cons call rest ih =>
    rw [Machine.run_cons, ih]
    cases call with
    | applyFill fill => simp only [machine, lastMark, applyFill_markPrice]
    | markToMarket midPrice => simp only [machine, lastMark, markToMarket_markPrice]

/-- One call moves the position and the cash by the fill it accepted. -/
theorem step_ledger (engine : Engine) (call : Call) :
    let result := machine.step engine call
    let accepted := (acceptedFill (call, result.1)).toList
    result.2.positionState.netQty = engine.positionState.netQty + netOf accepted ∧
      result.2.pnlState.cash = engine.pnlState.cash - notionalOf accepted := by
  cases call with
  | markToMarket midPrice => simp [machine, acceptedFill, netOf, notionalOf]
  | applyFill fill =>
    by_cases positive : 0 < fill.quantity
    · have accepted := (applyFill_accepted engine fill).2 positive
      simp [machine, accepted, acceptedFill, netOf, notionalOf,
        applyFill_netQty engine fill positive, applyFill_cash engine fill positive]
    · have refused : (applyFill engine fill).1 = false := by
        simpa using mt (applyFill_accepted engine fill).1 positive
      simp [machine, refused, acceptedFill, netOf, notionalOf, applyFill_refused refused]

theorem run_ledger (engine : Engine) (calls : List Call) :
    (machine.run engine calls).positionState.netQty =
        engine.positionState.netQty + netOf (acceptedFills (machine.history engine calls)) ∧
      (machine.run engine calls).pnlState.cash =
        engine.pnlState.cash - notionalOf (acceptedFills (machine.history engine calls)) := by
  induction calls generalizing engine with
  | nil => simp [acceptedFills, netOf, notionalOf]
  | cons call rest ih =>
    obtain ⟨net, cash⟩ := step_ledger engine call
    obtain ⟨netRest, cashRest⟩ := ih (machine.step engine call).2
    rw [Machine.run_cons, Machine.history_cons, netRest, cashRest, net, cash]
    simp only [acceptedFills, List.filterMap_cons, netOf, notionalOf]
    cases acceptedFill (call, (machine.step engine call).1) with
    | none => simp
    | some fill => simp; constructor <;> ring

/-- Accounting reconciliation over every call sequence: the position and the
cash are the signed sums of the accepted fills, total profit is cash plus the
marked position, a flat engine carries no cost, and the profit of a round trip
between flat positions is the negated notional traded on it. -/
theorem run_reconciles (calls : List Call) :
    let engine := machine.run fresh calls
    let fills := acceptedFills (machine.history fresh calls)
    engine.positionState.netQty = netOf fills ∧
      engine.pnlState.cash = -notionalOf fills ∧
      engine.pnlState.realizedPnl + engine.pnlState.unrealizedPnl =
        engine.pnlState.cash + engine.positionState.netQty * lastMark calls 0 ∧
      (engine.positionState.netQty = 0 →
        engine.positionState.avgPrice = 0 ∧ engine.pnlState.unrealizedPnl = 0 ∧
          engine.pnlState.realizedPnl = engine.pnlState.cash ∧
          ∀ trip, (machine.run engine trip).positionState.netQty = 0 →
            (machine.run engine trip).pnlState.realizedPnl = engine.pnlState.realizedPnl -
              notionalOf (acceptedFills (machine.history engine trip))) := by
  intro engine fills
  have refreshed : Refreshed engine := run_refreshed fresh_refreshed calls
  obtain ⟨net, cash⟩ := run_ledger fresh calls
  refine ⟨net.trans (zero_add _), cash.trans (zero_sub _), ?_, ?_⟩
  · rw [refreshed.identity, run_markPrice]
    rfl
  · intro flat
    obtain ⟨cost, average, unrealized⟩ := refreshed.flat flat
    refine ⟨average, unrealized, by rw [refreshed.realized, cost, add_zero], ?_⟩
    intro trip flatAgain
    have refreshedAgain := run_refreshed refreshed trip
    rw [refreshedAgain.realized, refreshed.realized, (refreshedAgain.flat flatAgain).1, cost,
      (run_ledger engine trip).2]
    ring

end TradingKernel.AccountingEngine
