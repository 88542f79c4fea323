import TradingKernel.AccountingEngine
import TradingKernel.Library.Truncation

/-!
Fills cut into pieces. Reducing a position in any number of steps leaves the
average price alone, and a fill traded in two parts differs from the whole fill
in at most one unit of open cost.
-/

namespace TradingKernel.FillSplitting
open Library AccountingEngine

/-- A fill on `side` trades against a position of `netQty` units. -/
def Opposite (netQty : Int) (side : Side) : Prop :=
  0 < netQty ∧ side = .sell ∨ netQty < 0 ∧ side = .buy

instance (netQty : Int) (side : Side) : Decidable (Opposite netQty side) :=
  inferInstanceAs (Decidable (_ ∨ _))

def PartialClose (netQty : Int) (side : Side) (qty : Int) : Prop :=
  Opposite netQty side ∧ 0 < qty ∧ qty < netQty.natAbs

instance (netQty : Int) (side : Side) (qty : Int) : Decidable (PartialClose netQty side qty) :=
  inferInstanceAs (Decidable (_ ∧ _))

theorem exists_unit_mul (cost : Int) :
    ∃ sign, (sign = 1 ∨ sign = -1) ∧ cost = sign * cost.natAbs := by
  rcases Int.natAbs_eq cost with same | negated
  · exact ⟨1, .inl rfl, by rw [one_mul]; exact same⟩
  · exact ⟨-1, .inr rfl, by rw [neg_one_mul]; exact negated⟩

theorem opposite_iff (fill : Fill) (positive : 0 < fill.quantity) (netQty : Int) :
    (Opposite netQty fill.side ↔
        0 < netQty ∧ signedQty fill < 0 ∨ netQty < 0 ∧ 0 < signedQty fill) ∧
      ((signedQty fill).natAbs : Int) = fill.quantity := by
  cases side : fill.side <;> simp [Opposite, signedQty, side, sideSign] <;> omega

section Fill
variable {engine : Engine} {fill : Fill}

theorem applyFill_joins (positive : 0 < fill.quantity)
    (joins : ¬Opposite engine.positionState.netQty fill.side) :
    (applyFill engine fill).2.openCost = engine.openCost + signedQty fill * fill.price := by
  obtain ⟨sides, magnitude⟩ := opposite_iff fill positive engine.positionState.netQty
  have branch : engine.positionState.netQty = 0 ∨
      (engine.positionState.netQty > 0 ↔ signedQty fill > 0) := by
    rw [sides] at joins
    omega
  have opened : engine.positionState.netQty + signedQty fill ≠ 0 := by omega
  rw [applyFill_openCost engine fill positive, if_neg opened, nextOpenCost, if_pos branch]

/-- A fill that closes the position or more opens what is left at its own price. -/
theorem applyFill_crosses (positive : 0 < fill.quantity)
    (opposite : Opposite engine.positionState.netQty fill.side)
    (covers : (engine.positionState.netQty.natAbs : Int) ≤ fill.quantity) :
    (applyFill engine fill).2.openCost =
      (engine.positionState.netQty + signedQty fill) * fill.price := by
  obtain ⟨sides, magnitude⟩ := opposite_iff fill positive engine.positionState.netQty
  have against := sides.1 opposite
  have leaves : ¬(engine.positionState.netQty = 0 ∨
      (engine.positionState.netQty > 0 ↔ signedQty fill > 0)) := by omega
  rw [applyFill_openCost engine fill positive]
  by_cases closed : engine.positionState.netQty + signedQty fill = 0
  · rw [if_pos closed, closed, zero_mul]
  · have flips : ¬(engine.positionState.netQty + signedQty fill > 0 ↔
        engine.positionState.netQty > 0) := by omega
    rw [if_neg closed, nextOpenCost, if_neg leaves, if_neg closed, if_neg flips]

/-- What a partial close leaves: fewer units on the same side and their share of the cost. -/
theorem applyFill_reduces
    (closes : PartialClose engine.positionState.netQty fill.side fill.quantity) {sign : Int}
    {cost : Nat} (unit : sign = 1 ∨ sign = -1) (openCost : engine.openCost = sign * cost) :
    let next := (applyFill engine fill).2
    (next.positionState.netQty.natAbs : Int) =
        engine.positionState.netQty.natAbs - fill.quantity ∧
      (∀ side, Opposite next.positionState.netQty side ↔
        Opposite engine.positionState.netQty side) ∧
      next.openCost = sign * share cost next.positionState.netQty.natAbs
        engine.positionState.netQty.natAbs := by
  intro next
  obtain ⟨opposite, positive, fewer⟩ := closes
  have netQty : next.positionState.netQty = engine.positionState.netQty + signedQty fill :=
    applyFill_netQty engine fill positive
  obtain ⟨sides, magnitude⟩ := opposite_iff fill positive engine.positionState.netQty
  have against := sides.1 opposite
  have leaves : ¬(engine.positionState.netQty = 0 ∨
      (engine.positionState.netQty > 0 ↔ signedQty fill > 0)) := by omega
  have opened : next.positionState.netQty ≠ 0 := by omega
  have stays : next.positionState.netQty > 0 ↔ engine.positionState.netQty > 0 := by omega
  have below : next.positionState.netQty < 0 ↔ engine.positionState.netQty < 0 := by omega
  refine ⟨by omega, ?_, ?_⟩
  · intro side
    exact or_congr (and_congr_left' stays) (and_congr_left' below)
  · rw [applyFill_openCost engine fill positive, nextOpenCost, if_neg leaves, ← netQty,
      if_neg opened, if_neg opened, if_pos stays, absQty_eq, absQty_eq, openCost]
    exact tdiv_share unit _ _ _

theorem applyFill_keeps_average (refreshed : Refreshed engine)
    (closes : PartialClose engine.positionState.netQty fill.side fill.quantity) :
    (applyFill engine fill).2.positionState.avgPrice = engine.positionState.avgPrice := by
  obtain ⟨sign, unit, openCost⟩ := exists_unit_mul engine.openCost
  obtain ⟨left, _, cost⟩ := applyFill_reduces closes unit openCost
  obtain ⟨_, _, fewer⟩ := closes
  have magnitude : (applyFill engine fill).2.openCost.natAbs =
      share engine.openCost.natAbs (applyFill engine fill).2.positionState.netQty.natAbs
        engine.positionState.netQty.natAbs := by
    rw [cost]
    rcases unit with rfl | rfl <;> simp
  rw [(applyFill_refreshed refreshed fill).average (by omega), refreshed.average (by omega),
    magnitude, share_div (by omega)]

end Fill

/-- The units a list of fills trades; a fill of no positive quantity is refused. -/
def tradedQty (fills : List Fill) : Nat := (fills.map fun fill => fill.quantity.toNat).sum

/-- Reducing a position by any fills on the other side, however many and at
whatever prices, leaves the average price as it was before the first of them. -/
theorem run_reduces_keep_average (calls : List Call) (fills : List Fill)
    (opposite : ∀ fill ∈ fills,
      Opposite (machine.run fresh calls).positionState.netQty fill.side)
    (fewer : tradedQty fills < (machine.run fresh calls).positionState.netQty.natAbs) :
    (machine.run (machine.run fresh calls) (fills.map .applyFill)).positionState.avgPrice =
      (machine.run fresh calls).positionState.avgPrice := by
  have refreshed : Refreshed (machine.run fresh calls) := run_refreshed fresh_refreshed calls
  revert opposite fewer refreshed
  generalize machine.run fresh calls = engine
  intro opposite fewer refreshed
  induction fills generalizing engine with
  | nil => rfl
  | cons fill rest ih =>
    obtain ⟨first, later⟩ := List.forall_mem_cons.1 opposite
    have total : tradedQty (fill :: rest) = fill.quantity.toNat + tradedQty rest := by
      simp [tradedQty]
    rw [List.map_cons, Machine.run_cons]
    simp only [machine]
    by_cases positive : 0 < fill.quantity
    · have closes : PartialClose engine.positionState.netQty fill.side fill.quantity :=
        ⟨first, positive, by omega⟩
      obtain ⟨sign, unit, openCost⟩ := exists_unit_mul engine.openCost
      obtain ⟨left, sides, _⟩ := applyFill_reduces closes unit openCost
      rw [← applyFill_keeps_average refreshed closes]
      apply ih
      · exact fun other member => (sides other.side).2 (later other member)
      · omega
      · exact applyFill_refreshed refreshed fill
    · have refused : (applyFill engine fill).2 = engine := by
        apply applyFill_refused
        simpa using mt (applyFill_accepted engine fill).1 positive
      rw [refused]
      exact ih engine later (by omega) refreshed

/-- A short position of five units reduced by two fills and one that is refused. -/
theorem run_reduces_keep_average_short :
    let engine := machine.run fresh [.applyFill ⟨1, 14, 5, .sell⟩]
    let fills := [⟨2, 9, 1, .buy⟩, ⟨3, 20, -4, .buy⟩, ⟨4, 12, 2, .buy⟩]
    (machine.run engine (fills.map .applyFill)).positionState.avgPrice =
      engine.positionState.avgPrice :=
  run_reduces_keep_average _ _ (by decide) (by decide)

def filled (engine : Engine) (tsNs : TimestampNs) (price : Price) (qty : Int) (side : Side) :
    Engine :=
  (applyFill engine ⟨tsNs, price, qty, side⟩).2

theorem filled_reduces {engine : Engine} (tsNs : TimestampNs) (price : Price) {qty : Int}
    {side : Side} (closes : PartialClose engine.positionState.netQty side qty) {sign : Int}
    {cost : Nat} (unit : sign = 1 ∨ sign = -1) (openCost : engine.openCost = sign * cost) :
    let next := filled engine tsNs price qty side
    (next.positionState.netQty.natAbs : Int) = engine.positionState.netQty.natAbs - qty ∧
      (∀ side, Opposite next.positionState.netQty side ↔
        Opposite engine.positionState.netQty side) ∧
      next.openCost = sign * share cost next.positionState.netQty.natAbs
        engine.positionState.netQty.natAbs :=
  applyFill_reduces (show PartialClose engine.positionState.netQty
    (⟨tsNs, price, qty, side⟩ : Fill).side (⟨tsNs, price, qty, side⟩ : Fill).quantity from closes)
    unit openCost

section Split
variable {engine : Engine} (side : Side) (price : Price)
  (ts ts₁ ts₂ : TimestampNs) {first second : Int} (some : 0 < first) (more : 0 < second)
include some more

theorem split_ledger :
    let whole := filled engine ts price (first + second) side
    let split := filled (filled engine ts₁ price first side) ts₂ price second side
    split.positionState.netQty = whole.positionState.netQty ∧
      split.pnlState.cash = whole.pnlState.cash := by
  have total : 0 < first + second := by omega
  simp only [filled]
  rw [applyFill_netQty _ _ more, applyFill_netQty _ _ some, applyFill_netQty _ _ total,
    applyFill_cash _ _ more, applyFill_cash _ _ some, applyFill_cash _ _ total]
  simp only [signedQty]
  constructor
  · ring
  · ring

omit some more in
theorem split_signed :
    (signedQty ⟨ts₁, price, first, side⟩ = first ∧ signedQty ⟨ts₂, price, second, side⟩ = second ∨
        signedQty ⟨ts₁, price, first, side⟩ = -first ∧
          signedQty ⟨ts₂, price, second, side⟩ = -second) ∧
      signedQty ⟨ts, price, first + second, side⟩ =
        signedQty ⟨ts₁, price, first, side⟩ + signedQty ⟨ts₂, price, second, side⟩ := by
  constructor
  · cases side <;> simp [signedQty, sideSign]
  · simp only [signedQty]
    ring

theorem split_crosses (opposite : Opposite engine.positionState.netQty side)
    (covers : (engine.positionState.netQty.natAbs : Int) ≤ first + second) :
    (filled (filled engine ts₁ price first side) ts₂ price second side).openCost =
      (filled engine ts price (first + second) side).openCost := by
  have total : 0 < first + second := by omega
  let part : Fill := ⟨ts₁, price, first, side⟩
  let rest : Fill := ⟨ts₂, price, second, side⟩
  let whole : Fill := ⟨ts, price, first + second, side⟩
  obtain ⟨signed, sum⟩ : (signedQty part = first ∧ signedQty rest = second ∨
      signedQty part = -first ∧ signedQty rest = -second) ∧
        signedQty whole = signedQty part + signedQty rest := split_signed side price ts ts₁ ts₂
  have netQty := applyFill_netQty engine part some
  have against := (opposite_iff part some engine.positionState.netQty).1.1 opposite
  have restSides := (opposite_iff rest more (applyFill engine part).2.positionState.netQty).1
  calc
    (applyFill (applyFill engine part).2 rest).2.openCost =
        (engine.positionState.netQty + signedQty part + signedQty rest) * price := by
      by_cases crossed : (engine.positionState.netQty.natAbs : Int) ≤ first
      -- The first fill already ends the old position, so the second one only adds.
      · have joins : ¬Opposite (applyFill engine part).2.positionState.netQty side := by
          intro opposed
          have again := restSides.1 opposed
          omega
        rw [applyFill_joins more joins, applyFill_crosses some opposite crossed]
        ring
      · have opposed : Opposite (applyFill engine part).2.positionState.netQty side := by
          apply restSides.2
          omega
        rw [applyFill_crosses more opposed (by simp only [rest]; omega), netQty]
    _ = (applyFill engine whole).2.openCost := by
      rw [applyFill_crosses total opposite covers, sum]
      ring

theorem split_joins (joins : ¬Opposite engine.positionState.netQty side) :
    (filled (filled engine ts₁ price first side) ts₂ price second side).openCost =
      (filled engine ts price (first + second) side).openCost := by
  have total : 0 < first + second := by omega
  let part : Fill := ⟨ts₁, price, first, side⟩
  let rest : Fill := ⟨ts₂, price, second, side⟩
  let whole : Fill := ⟨ts, price, first + second, side⟩
  obtain ⟨signed, sum⟩ : (signedQty part = first ∧ signedQty rest = second ∨
      signedQty part = -first ∧ signedQty rest = -second) ∧
        signedQty whole = signedQty part + signedQty rest := split_signed side price ts ts₁ ts₂
  have netQty := applyFill_netQty engine part some
  have apart := mt (opposite_iff part some engine.positionState.netQty).1.2 joins
  have restJoins : ¬Opposite (applyFill engine part).2.positionState.netQty side := by
    intro opposed
    have again :=
      (opposite_iff rest more (applyFill engine part).2.positionState.netQty).1.1 opposed
    omega
  calc
    (applyFill (applyFill engine part).2 rest).2.openCost =
        engine.openCost + signedQty part * price + signedQty rest * price := by
      rw [applyFill_joins more restJoins, applyFill_joins some joins]
    _ = (applyFill engine whole).2.openCost := by
      rw [applyFill_joins total joins, sum]
      ring

/-- Outside a partial close every unit is worth the price of the fill. -/
theorem split_openCost
    (closes : ¬PartialClose engine.positionState.netQty side (first + second)) :
    (filled (filled engine ts₁ price first side) ts₂ price second side).openCost =
      (filled engine ts price (first + second) side).openCost := by
  by_cases opposite : Opposite engine.positionState.netQty side
  · apply split_crosses side price ts ts₁ ts₂ some more opposite
    by_contra fewer
    exact closes ⟨opposite, by omega, by omega⟩
  · exact split_joins side price ts ts₁ ts₂ some more opposite

theorem partialClose_parts
    (closes : PartialClose engine.positionState.netQty side (first + second)) :
    PartialClose engine.positionState.netQty side first ∧
      PartialClose (filled engine ts₁ price first side).positionState.netQty side second := by
  obtain ⟨opposite, total, fewer⟩ := closes
  have partCloses : PartialClose engine.positionState.netQty side first :=
    ⟨opposite, some, by omega⟩
  obtain ⟨sign, unit, openCost⟩ := exists_unit_mul engine.openCost
  obtain ⟨left, sides, _⟩ := filled_reduces ts₁ price partCloses unit openCost
  exact ⟨partCloses, (sides side).2 opposite, more, by omega⟩

theorem split_average (refreshed : Refreshed engine)
    (closes : PartialClose engine.positionState.netQty side (first + second)) :
    (filled (filled engine ts₁ price first side) ts₂ price second side).positionState.avgPrice =
      (filled engine ts price (first + second) side).positionState.avgPrice := by
  obtain ⟨partCloses, restCloses⟩ := partialClose_parts side price ts₁ some more closes
  let part : Fill := ⟨ts₁, price, first, side⟩
  let rest : Fill := ⟨ts₂, price, second, side⟩
  let whole : Fill := ⟨ts, price, first + second, side⟩
  have partRefreshed : Refreshed (applyFill engine part).2 := applyFill_refreshed refreshed _
  calc
    (applyFill (applyFill engine part).2 rest).2.positionState.avgPrice =
        (applyFill engine part).2.positionState.avgPrice :=
      applyFill_keeps_average partRefreshed restCloses
    _ = engine.positionState.avgPrice := applyFill_keeps_average refreshed partCloses
    _ = (applyFill engine whole).2.positionState.avgPrice :=
      (applyFill_keeps_average refreshed closes).symm

/-- In a partial close the second rounding costs at most one unit, on the side of the cost. -/
theorem split_rounding (closes : PartialClose engine.positionState.netQty side (first + second)) :
    let whole := filled engine ts price (first + second) side
    let split := filled (filled engine ts₁ price first side) ts₂ price second side
    ∃ sign lost : Int, (sign = 1 ∨ sign = -1) ∧ (lost = 0 ∨ lost = 1) ∧
      (split.openCost.natAbs : Int) = whole.openCost.natAbs - lost ∧
      split.openCost = whole.openCost - sign * lost := by
  intro whole split
  let part := filled engine ts₁ price first side
  obtain ⟨partCloses, restCloses⟩ := partialClose_parts side price ts₁ some more closes
  obtain ⟨sign, unit, openCost⟩ := exists_unit_mul engine.openCost
  obtain ⟨wholeLeft, _, wholeCost⟩ := filled_reduces ts price closes unit openCost
  obtain ⟨partLeft, sides, partCost⟩ := filled_reduces ts₁ price partCloses unit openCost
  change (whole.positionState.netQty.natAbs : Int) = _ at wholeLeft
  change (part.positionState.netQty.natAbs : Int) = _ at partLeft
  obtain ⟨splitLeft, _, splitCost⟩ := filled_reduces ts₂ price restCloses unit partCost
  change (split.positionState.netQty.natAbs : Int) = part.positionState.netQty.natAbs - _
    at splitLeft
  have same : split.positionState.netQty.natAbs = whole.positionState.netQty.natAbs := by omega
  have between : whole.positionState.netQty.natAbs ≤ part.positionState.netQty.natAbs := by omega
  have opened : 0 < part.positionState.netQty.natAbs := by omega
  change split.openCost = sign * share (share engine.openCost.natAbs
    part.positionState.netQty.natAbs engine.positionState.netQty.natAbs)
      split.positionState.netQty.natAbs part.positionState.netQty.natAbs at splitCost
  have twice := share_share_le engine.openCost.natAbs whole.positionState.netQty.natAbs
    engine.positionState.netQty.natAbs opened
  have once := share_le_share_share engine.openCost.natAbs engine.positionState.netQty.natAbs
    between
  rw [← same] at twice once wholeCost
  generalize share (share _ _ _) _ _ = rounded at twice once splitCost
  generalize share _ _ _ = exact at twice once wholeCost
  refine ⟨sign, exact - rounded, unit, by omega, ?_, ?_⟩
  · rw [wholeCost, splitCost]
    rcases unit with rfl | rfl <;> omega
  · rw [wholeCost, splitCost]
    ring

end Split

/-- Trading a fill in two parts gives the same position, cash and average price
as trading it at once, and the same cost and profit unless the whole fill is a
partial close; there the second rounding moves at most one unit of cost between
the realized and the unrealized profit. A flip is a full close and an opening. -/
theorem run_split_fill (calls : List Call) (side : Side) (price : Price)
    (ts ts₁ ts₂ : TimestampNs) (first second : Int) (some : 0 < first) (more : 0 < second) :
    let engine := machine.run fresh calls
    let whole := filled engine ts price (first + second) side
    let part := filled engine ts₁ price first side
    let split := filled part ts₂ price second side
    (split.positionState.netQty = whole.positionState.netQty ∧
        split.pnlState.cash = whole.pnlState.cash ∧
        split.positionState.avgPrice = whole.positionState.avgPrice) ∧
      (¬PartialClose engine.positionState.netQty side (first + second) → split = whole) ∧
      (PartialClose engine.positionState.netQty side (first + second) →
        ∃ sign lost : Int, (sign = 1 ∨ sign = -1) ∧ (lost = 0 ∨ lost = 1) ∧
          (split.openCost.natAbs : Int) = whole.openCost.natAbs - lost ∧
          split.pnlState.realizedPnl = whole.pnlState.realizedPnl - sign * lost ∧
          split.pnlState.unrealizedPnl = whole.pnlState.unrealizedPnl + sign * lost) ∧
      (Opposite engine.positionState.netQty side → first = engine.positionState.netQty.natAbs →
        part.positionState.netQty = 0 ∧ part.openCost = 0 ∧ split = whole) := by
  intro engine whole part split
  have refreshed : Refreshed engine := run_refreshed fresh_refreshed calls
  have wholeRefreshed : Refreshed whole := applyFill_refreshed refreshed _
  have partRefreshed : Refreshed part := applyFill_refreshed refreshed _
  have splitRefreshed : Refreshed split := applyFill_refreshed partRefreshed _
  obtain ⟨netQty, cash⟩ : split.positionState.netQty = whole.positionState.netQty ∧
      split.pnlState.cash = whole.pnlState.cash :=
    split_ledger side price ts ts₁ ts₂ some more
  have markPrice : split.markPrice = whole.markPrice := by
    simp only [split, part, whole, filled, applyFill_markPrice]
  have equal : ¬PartialClose engine.positionState.netQty side (first + second) → split = whole :=
    fun closes => splitRefreshed.eq_of_truth wholeRefreshed netQty cash
      (split_openCost side price ts ts₁ ts₂ some more closes) markPrice
  have average : split.positionState.avgPrice = whole.positionState.avgPrice := by
    by_cases closes : PartialClose engine.positionState.netQty side (first + second)
    · exact split_average side price ts ts₁ ts₂ some more refreshed closes
    · rw [equal closes]
  refine ⟨⟨netQty, cash, average⟩, equal, ?_, ?_⟩
  · intro closes
    obtain ⟨sign, lost, unit, small, magnitude, openCost⟩ :=
      split_rounding side price ts ts₁ ts₂ some more closes
    have moved : split.openCost = whole.openCost - sign * lost := openCost
    refine ⟨sign, lost, unit, small, magnitude, ?_, ?_⟩
    · rw [splitRefreshed.realized, wholeRefreshed.realized, cash, moved]
      ring
    · rw [splitRefreshed.unrealized, wholeRefreshed.unrealized, netQty, markPrice, moved]
      ring
  · intro opposite all
    have flat : part.positionState.netQty = 0 := by
      obtain ⟨sides, magnitude⟩ := opposite_iff ⟨ts₁, price, first, side⟩ some
        engine.positionState.netQty
      have against := sides.1 opposite
      have moved : part.positionState.netQty = engine.positionState.netQty +
          signedQty ⟨ts₁, price, first, side⟩ := applyFill_netQty engine _ some
      simp only at magnitude
      omega
    refine ⟨flat, (partRefreshed.flat flat).1, equal ?_⟩
    rintro ⟨_, _, fewer⟩
    omega

/-- Five units bought at two prices, for a cost of 56. -/
def boughtFive : List Call := [.applyFill ⟨1, 10, 3, .buy⟩, .applyFill ⟨2, 13, 2, .buy⟩]

/-- Four of the five units sold in two halves keep a cost of 10 where selling them at once
keeps 11. -/
theorem run_split_fill_halves :
    let engine := machine.run fresh boughtFive
    let whole := filled engine 3 12 (2 + 2) .sell
    let split := filled (filled engine 3 12 2 .sell) 4 12 2 .sell
    ∃ sign lost : Int, (sign = 1 ∨ sign = -1) ∧ (lost = 0 ∨ lost = 1) ∧
      (split.openCost.natAbs : Int) = whole.openCost.natAbs - lost ∧
      split.pnlState.realizedPnl = whole.pnlState.realizedPnl - sign * lost ∧
      split.pnlState.unrealizedPnl = whole.pnlState.unrealizedPnl + sign * lost :=
  (run_split_fill boughtFive .sell 12 3 3 4 2 2 (by decide) (by decide)).2.2.1 (by decide)

end TradingKernel.FillSplitting
