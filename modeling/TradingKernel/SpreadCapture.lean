import Mathlib.Algebra.Order.BigOperators.Group.List
import TradingKernel.AccountingSymmetry
import TradingKernel.FillSplitting

/-!
What trading at bounded prices earns. When no fill pays more than one price or
sells for less than another, every matched unit realizes at least the spread
between the two, whatever the order of the fills, their sizes and the
truncation of partial closes.
-/

namespace TradingKernel.SpreadCapture
open Library AccountingEngine FillSplitting

/-- What a position costs at most when no unit was bought above `low` or sold
below `high`. -/
def carry (low high netQty : Int) : Int := if 0 ≤ netQty then low * netQty else high * netQty

theorem carry_nonneg {low high netQty : Int} (held : 0 ≤ netQty) :
    carry low high netQty = low * netQty := if_pos held

theorem carry_nonpos {low high netQty : Int} (held : netQty ≤ 0) :
    carry low high netQty = high * netQty := by
  unfold carry
  split_ifs with nonneg
  · rw [Int.le_antisymm held nonneg, mul_zero, mul_zero]
  · rfl

/-- Selling at a price is buying at its negation. -/
theorem carry_swap (low high netQty : Int) :
    carry (-high) (-low) (-netQty) = carry low high netQty := by
  rcases le_total 0 netQty with long | short
  · rw [carry_nonneg long, carry_nonpos (by omega), neg_mul_neg]
  · rw [carry_nonpos short, carry_nonneg (by omega), neg_mul_neg]

/-- A book of bought and sold units whose cost is bounded and whose matched
units have earned the spread on top of `base`. -/
structure Earns (low high base bought sold cash openCost : Int) : Prop where
  cost : openCost ≤ carry low high (bought - sold)
  profit : base + (high - low) * min bought sold ≤ cash + openCost

section Earns
variable {low high base bought sold cash openCost qty price : Int}

theorem Earns.swap (earns : Earns low high base bought sold cash openCost) :
    Earns (-high) (-low) base sold bought cash openCost := by
  have cost := earns.cost
  have profit := earns.profit
  constructor
  · rwa [← neg_sub, carry_swap]
  · rwa [neg_sub_neg, min_comm]

theorem Earns.joins (earns : Earns low high base bought sold cash openCost) (long : sold ≤ bought)
    (positive : 0 < qty) (cheap : price ≤ low) :
    Earns low high base (bought + qty) sold (cash - qty * price) (openCost + qty * price) := by
  have cost := earns.cost
  have profit := earns.profit
  rw [carry_nonneg (by omega)] at cost
  rw [min_eq_right long] at profit
  have paid := Int.mul_le_mul_of_nonneg_left cheap positive.le
  constructor
  · rw [carry_nonneg (by omega)]
    linarith
  · rw [min_eq_right (by omega)]
    linarith

/-- A buy that covers a short book earns the spread on all of it. -/
theorem Earns.crosses (earns : Earns low high base bought sold cash openCost)
    (short : bought < sold) (covers : sold - bought ≤ qty) (cheap : price ≤ low) :
    Earns low high base (bought + qty) sold (cash - qty * price)
      ((bought - sold + qty) * price) := by
  have cost := earns.cost
  have profit := earns.profit
  rw [carry_nonpos (by omega)] at cost
  rw [min_eq_left short.le] at profit
  have covered := Int.mul_le_mul_of_nonneg_left cheap (Int.sub_nonneg.2 short.le)
  have left := Int.mul_le_mul_of_nonneg_left cheap
    (show 0 ≤ bought - sold + qty by omega)
  constructor
  · rw [carry_nonneg (by omega)]
    linarith
  · rw [min_eq_right (by omega)]
    linarith

/-- A smaller buy earns the spread on its own units, truncation or not. -/
theorem Earns.reduces (earns : Earns low high base bought sold cash openCost) (positive : 0 < qty)
    (fewer : qty < sold - bought) (cheap : price ≤ low) :
    Earns low high base (bought + qty) sold (cash - qty * price)
      ((openCost * (sold - bought - qty)).tdiv (sold - bought)) := by
  have cost := earns.cost
  have profit := earns.profit
  rw [carry_nonpos (by omega)] at cost
  rw [min_eq_left (by omega)] at profit
  have above : openCost ≤ -high * (sold - bought) := by linarith
  have kept := tdiv_le_per_unit (show 0 < sold - bought by omega)
    (show 0 ≤ sold - bought - qty by omega) above
  have given := sub_per_unit_le_tdiv (show 0 < sold - bought by omega)
    (show sold - bought - qty ≤ sold - bought by omega) above
  have paid := Int.mul_le_mul_of_nonneg_left cheap positive.le
  constructor
  · rw [carry_nonpos (by omega)]
    linarith
  · rw [min_eq_left (by omega)]
    linarith

end Earns

/-- The units a list of fills traded on one side. -/
def sideQty (side : Side) (fills : List Fill) : Int :=
  (fills.map fun fill => if fill.side = side then fill.quantity else 0).sum

/-- The units that were bought and sold again, or sold and bought back. -/
def matchedQty (fills : List Fill) : Int := min (sideQty .buy fills) (sideQty .sell fills)

/-- A purchase pays at most `low` and a sale earns at least `high`. -/
structure Quoted (low high : Price) (side : Side) (price : Price) : Prop where
  buys : side = .buy → price ≤ low
  sells : side = .sell → high ≤ price

/-- The engine holds what the fills traded, and they earned the spread. -/
structure Captures (low high : Price) (base : Int) (fills : List Fill) (engine : Engine) :
    Prop where
  net : engine.positionState.netQty = sideQty .buy fills - sideQty .sell fills
  earns : Earns low high base (sideQty .buy fills) (sideQty .sell fills) engine.pnlState.cash
    engine.openCost

theorem fresh_captures (low high : Price) : Captures low high 0 [] fresh :=
  ⟨rfl, by simp [sideQty, carry, fresh], by simp [sideQty, fresh]⟩

/-- What was earned so far can be taken as the base of what is earned next. -/
theorem Captures.rebase {low high : Price} {base : Int} {fills : List Fill} {engine : Engine}
    (captures : Captures low high base fills engine) :
    Captures low high
      (engine.pnlState.cash + engine.openCost - (high - low) * matchedQty fills) fills engine :=
  ⟨captures.net, captures.earns.cost, by rw [matchedQty, sub_add_cancel]⟩

theorem sideQty_concat (side : Side) (fills : List Fill) (fill : Fill) :
    sideQty side (fills ++ [fill]) =
      sideQty side fills + if fill.side = side then fill.quantity else 0 := by
  simp [sideQty]

section Step
variable {low high : Price} {base : Int} {fills : List Fill} {engine : Engine} {fill : Fill}

/-- What a partial close leaves of the cost, by the units before and after. -/
theorem applyFill_inPart
    (closes : PartialClose engine.positionState.netQty fill.side fill.quantity) :
    (applyFill engine fill).2.openCost =
      (engine.openCost * (engine.positionState.netQty.natAbs - fill.quantity)).tdiv
        engine.positionState.netQty.natAbs := by
  obtain ⟨sign, unit, openCost⟩ := exists_unit_mul engine.openCost
  obtain ⟨left, _, cost⟩ := applyFill_reduces closes unit openCost
  rw [cost, ← tdiv_share unit, ← openCost, left]

theorem captures_buy (captures : Captures low high base fills engine)
    (positive : 0 < fill.quantity) (side : fill.side = .buy) (cheap : fill.price ≤ low) :
    Captures low high base (fills ++ [fill]) (applyFill engine fill).2 := by
  obtain ⟨net, earns⟩ := captures
  have signed : signedQty fill = fill.quantity := by rw [signedQty, side, sideSign, one_mul]
  have bought : sideQty .buy (fills ++ [fill]) = sideQty .buy fills + fill.quantity := by
    rw [sideQty_concat, if_pos side]
  have sold : sideQty .sell (fills ++ [fill]) = sideQty .sell fills := by
    rw [sideQty_concat, side, if_neg (by decide), add_zero]
  constructor
  · rw [applyFill_netQty engine fill positive, bought, sold, signed, net]
    ring
  rw [applyFill_cash engine fill positive, bought, sold, signed]
  by_cases opposite : FillSplitting.Opposite engine.positionState.netQty fill.side
  · have short : engine.positionState.netQty < 0 := by
      simpa [FillSplitting.Opposite, side] using opposite
    by_cases covers : (engine.positionState.netQty.natAbs : Int) ≤ fill.quantity
    · rw [applyFill_crosses positive opposite covers, signed, net]
      exact earns.crosses (by omega) (by omega) cheap
    · have units : (engine.positionState.netQty.natAbs : Int) =
          sideQty .sell fills - sideQty .buy fills := by omega
      rw [applyFill_inPart ⟨opposite, positive, by omega⟩, units]
      exact earns.reduces positive (by omega) cheap
  · have long : 0 ≤ engine.positionState.netQty := by
      simpa [FillSplitting.Opposite, side] using opposite
    rw [applyFill_joins positive opposite, signed]
    exact earns.joins (by omega) positive cheap

/-- A sale is a purchase at the negated price on the swapped book. -/
theorem captures_sell (captures : Captures low high base fills engine)
    (positive : 0 < fill.quantity) (side : fill.side = .sell) (dear : high ≤ fill.price) :
    Captures low high base (fills ++ [fill]) (applyFill engine fill).2 := by
  obtain ⟨net, earns⟩ := captures
  have signed : signedQty fill = -fill.quantity := by rw [signedQty, side, sideSign, neg_one_mul]
  have bought : sideQty .buy (fills ++ [fill]) = sideQty .buy fills := by
    rw [sideQty_concat, side, if_neg (by decide), add_zero]
  have sold : sideQty .sell (fills ++ [fill]) = sideQty .sell fills + fill.quantity := by
    rw [sideQty_concat, if_pos side]
  have cheap : -fill.price ≤ -high := Int.neg_le_neg dear
  constructor
  · rw [applyFill_netQty engine fill positive, bought, sold, signed, net]
    ring
  rw [applyFill_cash engine fill positive, bought, sold, signed, neg_mul_comm]
  rw [← neg_neg low, ← neg_neg high]
  apply Earns.swap
  by_cases opposite : FillSplitting.Opposite engine.positionState.netQty fill.side
  · have long : 0 < engine.positionState.netQty := by
      simpa [FillSplitting.Opposite, side] using opposite
    by_cases covers : (engine.positionState.netQty.natAbs : Int) ≤ fill.quantity
    · have cost : (engine.positionState.netQty + signedQty fill) * fill.price =
          (sideQty .sell fills - sideQty .buy fills + fill.quantity) * -fill.price := by
        rw [signed, net]
        ring
      rw [applyFill_crosses positive opposite covers, cost]
      exact earns.swap.crosses (by omega) (by omega) cheap
    · have units : (engine.positionState.netQty.natAbs : Int) =
          sideQty .buy fills - sideQty .sell fills := by omega
      rw [applyFill_inPart ⟨opposite, positive, by omega⟩, units]
      exact earns.swap.reduces positive (by omega) cheap
  · have short : engine.positionState.netQty ≤ 0 := by
      simpa [FillSplitting.Opposite, side] using opposite
    rw [applyFill_joins positive opposite, signed, neg_mul_comm]
    exact earns.swap.joins (by omega) positive cheap

theorem captures_fill (captures : Captures low high base fills engine)
    (positive : 0 < fill.quantity) (quoted : Quoted low high fill.side fill.price) :
    Captures low high base (fills ++ [fill]) (applyFill engine fill).2 := by
  cases side : fill.side with
  | buy => exact captures_buy captures positive side (quoted.buys side)
  | sell => exact captures_sell captures positive side (quoted.sells side)

theorem captures_mark (captures : Captures low high base fills engine)
    (refreshed : Refreshed engine) (midPrice : Price) :
    Captures low high base fills (markToMarket engine midPrice) := by
  have cost : (markToMarket engine midPrice).openCost = engine.openCost := by
    rw [markToMarket, refreshDerived_openCost]
    split_ifs with flat
    · exact (refreshed.flat flat).1.symm
    · rfl
  constructor
  · rw [markToMarket_netQty]
    exact captures.net
  · rw [markToMarket_cash, cost]
    exact captures.earns

end Step

section Run
variable {low high : Price}

/-- Every quoted run extends the fills it starts from by the ones it accepts. -/
theorem run_captures {base : Int} {fills : List Fill} {engine : Engine}
    (captures : Captures low high base fills engine) (refreshed : Refreshed engine)
    (calls : List Call)
    (quoted : ∀ fill, .applyFill fill ∈ calls → Quoted low high fill.side fill.price) :
    Captures low high base (fills ++ acceptedFills (machine.history engine calls))
      (machine.run engine calls) := by
  induction calls generalizing fills engine with
  | nil => simpa [acceptedFills] using captures
  | cons call rest ih =>
    have later : ∀ fill, .applyFill fill ∈ rest → Quoted low high fill.side fill.price :=
      fun fill member => quoted fill (List.mem_cons_of_mem _ member)
    rw [Machine.run_cons, Machine.history_cons, acceptedFills, List.filterMap_cons]
    cases call with
    | markToMarket midPrice =>
      exact ih (captures_mark captures refreshed midPrice) (markToMarket_refreshed engine midPrice)
        later
    | applyFill fill =>
      by_cases positive : 0 < fill.quantity
      · have accepted := (applyFill_accepted engine fill).2 positive
        have next := ih (captures_fill captures positive (quoted fill (List.mem_cons_self ..)))
          (applyFill_refreshed refreshed fill) later
        simpa [machine, accepted, acceptedFill, acceptedFills] using next
      · have refused : (applyFill engine fill).1 = false := by
          simpa using mt (applyFill_accepted engine fill).1 positive
        simp only [machine, refused, acceptedFill, applyFill_refused refused]
        exact ih captures refreshed later

def fillsOf (calls : List Call) : List Fill := acceptedFills (machine.history fresh calls)

theorem fillsOf_positive {fills : List Fill} (positive : ∀ fill ∈ fills, 0 < fill.quantity) :
    fillsOf (fills.map .applyFill) = fills := by
  rw [fillsOf]
  generalize fresh = engine
  induction fills generalizing engine with
  | nil => rfl
  | cons fill rest ih =>
    obtain ⟨first, later⟩ := List.forall_mem_cons.1 positive
    have accepted := (applyFill_accepted engine fill).2 first
    have tail := ih later (applyFill engine fill).2
    rw [acceptedFills] at tail
    rw [acceptedFills, List.map_cons, Machine.history_cons]
    simp only [machine, accepted, List.filterMap_cons, acceptedFill]
    exact congrArg _ tail

theorem sideQty_mono (side : Side) {first second : List Fill}
    (positive : ∀ fill ∈ second, 0 < fill.quantity) :
    sideQty side first ≤ sideQty side (first ++ second) := by
  rw [sideQty, sideQty, List.map_append, List.sum_append]
  apply Int.le_add_of_nonneg_right
  apply List.sum_nonneg
  intro qty member
  obtain ⟨fill, mem, rfl⟩ := List.mem_map.1 member
  have traded := positive fill mem
  split_ifs <;> omega

/-- Any stretch of a quoted run realizes the spread on what it newly matches. -/
theorem run_earns (before after : List Call)
    (quoted : ∀ fill, .applyFill fill ∈ before ++ after → Quoted low high fill.side fill.price) :
    (high - low) * (matchedQty (fillsOf (before ++ after)) - matchedQty (fillsOf before)) ≤
      (machine.run fresh (before ++ after)).pnlState.realizedPnl -
        (machine.run fresh before).pnlState.realizedPnl := by
  have refreshed := run_refreshed fresh_refreshed before
  have start := run_captures (fresh_captures low high) fresh_refreshed before
    (fun fill member => quoted fill (List.mem_append_left _ member))
  have finish := run_captures start.rebase refreshed after
    (fun fill member => quoted fill (List.mem_append_right _ member))
  have profit := finish.earns.profit
  have whole : fillsOf (before ++ after) =
      [] ++ fillsOf before ++ acceptedFills (machine.history (machine.run fresh before) after) := by
    rw [fillsOf, fillsOf, Machine.history_append, acceptedFills, List.filterMap_append]
    rfl
  rw [← (run_refreshed refreshed after).realized, ← Machine.run_append, ← refreshed.realized,
    ← matchedQty, ← fillsOf, ← whole, List.nil_append] at profit
  linarith

end Run

theorem sideQty_flip (side : Side) (fills : List Fill) :
    sideQty (oppositeSide side) (fills.map flipFill) = sideQty side fills := by
  have same : ∀ other, oppositeSide other = oppositeSide side ↔ other = side := by
    intro other
    cases other <;> cases side <;> simp [oppositeSide]
  simp [sideQty, Function.comp_def, flipFill, same]

theorem acceptedFills_flip (engine : Engine) (calls : List Call) :
    acceptedFills (machine.history (mirror engine) (calls.map flipCall)) =
      (acceptedFills (machine.history engine calls)).map flipFill := by
  induction calls generalizing engine with
  | nil => rfl
  | cons call rest ih =>
    have flipped : ∀ reply, acceptedFill (flipCall call, reply) =
        (acceptedFill (call, reply)).map flipFill := by
      intro reply
      cases call with
      | markToMarket midPrice => rfl
      | applyFill fill =>
        rcases reply with (_ | _) | _ <;> rfl
    have later := ih (machine.step engine call).2
    simp only [acceptedFills] at later ⊢
    rw [List.map_cons, Machine.history_cons, Machine.history_cons, step_mirror,
      List.filterMap_cons, List.filterMap_cons, flipped, later]
    cases acceptedFill (call, (machine.step engine call).1) with
    | none => rfl
    | some fill => rfl

theorem matchedQty_flip (calls : List Call) :
    matchedQty (fillsOf (calls.map flipCall)) = matchedQty (fillsOf calls) := by
  have fills : fillsOf (calls.map flipCall) = (fillsOf calls).map flipFill :=
    acceptedFills_flip fresh calls
  rw [fills, matchedQty, matchedQty, ← sideQty_flip .buy (fillsOf calls),
    ← sideQty_flip .sell (fillsOf calls), oppositeSide, oppositeSide, min_comm]

/-- The fill trades between the worst and the best price of its side. -/
structure Within (lowBuy highBuy lowSell highSell : Price) (fill : Fill) : Prop where
  buys : fill.side = .buy → lowBuy ≤ fill.price ∧ fill.price ≤ highBuy
  sells : fill.side = .sell → lowSell ≤ fill.price ∧ fill.price ≤ highSell

section Between
variable {lowBuy highBuy lowSell highSell : Price} {fill : Fill}

theorem Within.quoted (within : Within lowBuy highBuy lowSell highSell fill) :
    Quoted highBuy lowSell fill.side fill.price :=
  ⟨fun side => (within.buys side).2, fun side => (within.sells side).1⟩

theorem Within.quoted_flip (within : Within lowBuy highBuy lowSell highSell fill) :
    Quoted highSell lowBuy (flipFill fill).side (flipFill fill).price := by
  constructor
  · intro bought
    cases side : fill.side with
    | buy => simp [flipFill, side, oppositeSide] at bought
    | sell => exact (within.sells side).2
  · intro sold
    cases side : fill.side with
    | buy => exact (within.buys side).1
    | sell => simp [flipFill, side, oppositeSide] at sold

end Between

/-- Realized profit lies between the narrowest and the widest spread. Over any
stretch of any run whose fills trade within price bounds, each newly matched
unit realizes at least the lowest sale less the highest purchase and at most
the highest sale less the lowest purchase. -/
theorem run_realized_between (before after : List Call)
    (lowBuy highBuy lowSell highSell : Price)
    (within : ∀ fill, .applyFill fill ∈ before ++ after →
      Within lowBuy highBuy lowSell highSell fill) :
    let start := machine.run fresh before
    let finish := machine.run start after
    let newly := matchedQty (fillsOf (before ++ after)) - matchedQty (fillsOf before)
    (lowSell - highBuy) * newly ≤ finish.pnlState.realizedPnl - start.pnlState.realizedPnl ∧
      finish.pnlState.realizedPnl - start.pnlState.realizedPnl ≤
        (highSell - lowBuy) * newly := by
  intro start finish newly
  have joined : machine.run fresh (before ++ after) = finish := Machine.run_append ..
  constructor
  · rw [← joined]
    exact run_earns before after (fun fill member => (within fill member).quoted)
  · have flipped := @run_earns highSell lowBuy (before.map flipCall)
      (after.map flipCall) (by
        intro fill member
        rw [← List.map_append] at member
        obtain ⟨call, original, same⟩ := List.mem_map.1 member
        cases call with
        | markToMarket midPrice => cases same
        | applyFill fill =>
          obtain rfl : flipFill fill = _ := Call.applyFill.inj same
          exact (within fill original).quoted_flip)
    rw [← List.map_append, matchedQty_flip, matchedQty_flip, ← mirror_fresh, run_mirror,
      run_mirror, joined] at flipped
    have mirrored : (lowBuy - highSell) * newly ≤
        -finish.pnlState.realizedPnl - -start.pnlState.realizedPnl := flipped
    linarith

/-- A long built at two prices, sold short at a third and covered in part. -/
theorem run_realized_between_flip :
    let before := [.applyFill ⟨1, 100, 7, .buy⟩, .applyFill ⟨2, 103, 4, .buy⟩, .markToMarket 101]
    let after := [.applyFill ⟨3, 120, 15, .sell⟩, .applyFill ⟨4, 101, 3, .buy⟩]
    let start := machine.run fresh before
    let finish := machine.run start after
    let newly := matchedQty (fillsOf (before ++ after)) - matchedQty (fillsOf before)
    (120 - 103) * newly ≤ finish.pnlState.realizedPnl - start.pnlState.realizedPnl ∧
      finish.pnlState.realizedPnl - start.pnlState.realizedPnl ≤ (120 - 100) * newly :=
  run_realized_between _ _ 100 103 120 120 (by
    intro fill member
    simp only [List.cons_append, List.nil_append, List.mem_cons, Call.applyFill.injEq, reduceCtorEq,
      List.not_mem_nil, or_false, false_or] at member
    rcases member with rfl | rfl | rfl | rfl <;> constructor <;> simp)

end TradingKernel.SpreadCapture
