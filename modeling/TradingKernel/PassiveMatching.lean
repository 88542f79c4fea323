import Mathlib.Algebra.Order.Group.Int
import Mathlib.Algebra.BigOperators.Group.List.Basic
import Mathlib.Algebra.Ring.Int.Defs
import TradingKernel.ExecutionSimulator
import TradingKernel.Library.Machine

/-!
Passive matching in closed form. What a resting order has traded depends only
on the liquidity its marketable ticks displayed, summed: the first part of the
sum consumes the queue ahead, the rest fills the order. Cancels interleave
without changing that law until one of them is acknowledged.
-/

namespace TradingKernel.PassiveMatching
open Library ExecutionSimulator

inductive Call where
  | onTick (tick : MarketTick)
  | requestCancel (tsNs : TimestampNs)
  deriving DecidableEq, Repr

inductive Reply where
  | report (report : ExecutionReport)
  | accepted (ok : Bool)
  deriving DecidableEq, Repr

def machine : Machine Simulator Call Reply where
  step sim
    | .onTick tick =>
      let result := onTick sim tick
      (.report result.1, result.2)
    | .requestCancel tsNs =>
      let result := requestCancel sim tsNs
      (.accepted result.1, result.2)

def Admissible : Call → Prop
  | .onTick tick => NonNegative tick
  | .requestCancel _ => True

/-- The tick trades at the order's limit or better. -/
def crosses (order : OrderRequest) (tick : MarketTick) : Bool :=
  match order.side with
  | .buy => tick.askPrice ≤ order.limitPrice
  | .sell => order.limitPrice ≤ tick.bidPrice

/-- The opposite quantity that a call offers to the order. -/
def offered (order : OrderRequest) : Call → Int
  | .onTick tick => if crosses order tick then tick.oppositeQty order.side else 0
  | .requestCancel _ => 0

/-- The opposite quantity displayed on the marketable ticks of a history. -/
def supply (order : OrderRequest) (past : List (Call × Reply)) : Int :=
  (past.map fun step => offered order step.1).sum

def Reply.fillQty : Reply → Int
  | .report answer => if answer.hasFill then answer.fill.quantity else 0
  | .accepted _ => 0

def totalFilled (past : List (Call × Reply)) : Int := (past.map fun step => step.2.fillQty).sum

def acceptedCancel : Call × Reply → List TimestampNs
  | (.requestCancel tsNs, .accepted true) => [tsNs]
  | _ => []

/-- The times of the cancel requests that the simulator accepted. -/
def cancelRequests (past : List (Call × Reply)) : List TimestampNs := past.flatMap acceptedCancel

def Reply.acksCancel : Reply → Bool
  | .report answer => answer.cancelAcked
  | .accepted _ => false

def Acked (past : List (Call × Reply)) : Prop := ∃ step ∈ past, step.2.acksCancel = true

/-- What an order of some quantity has traded once `supplied` met the queue
ahead of it. -/
def filledBy (quantity queueAhead supplied : Int) : Int :=
  min quantity (max 0 (supplied - queueAhead))

def queueLeft (queueAhead supplied : Int) : Int := max 0 (queueAhead - supplied)

/-- Liquidity first consumes what is left of the queue, then what is left of the order. -/
theorem filledBy_add {quantity queueAhead supplied more : Int} (nonneg : 0 ≤ more) :
    filledBy quantity queueAhead (supplied + more) =
      filledBy quantity queueAhead supplied +
        min (quantity - filledBy quantity queueAhead supplied)
          (max 0 (more - queueLeft queueAhead supplied)) := by
  unfold filledBy queueLeft
  omega

theorem queueLeft_add {queueAhead supplied more : Int} (nonneg : 0 ≤ more) :
    queueLeft queueAhead (supplied + more) =
      queueLeft queueAhead supplied - min (queueLeft queueAhead supplied) more := by
  unfold queueLeft
  omega

@[simp] theorem supply_append (order : OrderRequest) (past : List (Call × Reply))
    (step : Call × Reply) :
    supply order (past ++ [step]) = supply order past + offered order step.1 := by
  simp [supply]

@[simp] theorem totalFilled_append (past : List (Call × Reply)) (step : Call × Reply) :
    totalFilled (past ++ [step]) = totalFilled past + step.2.fillQty := by
  simp [totalFilled]

@[simp] theorem cancelRequests_append (past : List (Call × Reply)) (step : Call × Reply) :
    cancelRequests (past ++ [step]) = cancelRequests past ++ acceptedCancel step := by
  simp [cancelRequests]

@[simp] theorem acked_append (past : List (Call × Reply)) (step : Call × Reply) :
    Acked (past ++ [step]) ↔ Acked past ∨ step.2.acksCancel = true := by
  simp [Acked, or_and_right, exists_or]

/-- What the simulator and the history of its calls say about the order while it rests. -/
structure Resting (order : OrderRequest) (queueAhead : Int) (past : List (Call × Reply))
    (sim : Simulator) : Prop where
  active : sim.restingOrder.active = true
  side : sim.restingOrder.side = order.side
  price : sim.restingOrder.price = order.limitPrice
  leaves : sim.restingOrder.leavesQty = order.quantity - totalFilled past
  queue : sim.restingOrder.queueAheadQty = queueLeft queueAhead (supply order past)
  unacked : ¬Acked past
  total : totalFilled past = filledBy order.quantity queueAhead (supply order past)
  short : totalFilled past < order.quantity
  cancel : cancelRequests past = if sim.restingOrder.cancelPending then
    [sim.restingOrder.cancelEffectiveTsNs - sim.cancelLatencyNs] else []

/-- The order has left the book, either filled or canceled. -/
structure Closed (order : OrderRequest) (queueAhead : Int) (past : List (Call × Reply))
    (sim : Simulator) : Prop where
  inactive : sim.restingOrder.active = false
  filled : ¬Acked past → totalFilled past = order.quantity ∧
    filledBy order.quantity queueAhead (supply order past) = order.quantity
  atMostOne : (cancelRequests past).length ≤ 1

/-- The relation between a history and its simulator that every call keeps. -/
def Tracks (order : OrderRequest) (queueAhead : Int) (past : List (Call × Reply))
    (sim : Simulator) : Prop :=
  Resting order queueAhead past sim ∨ Closed order queueAhead past sim

section
variable {order : OrderRequest} {queueAhead : Int} {past : List (Call × Reply)} {sim : Simulator}

theorem Resting.marketable (resting : Resting order queueAhead past sim) (tick : MarketTick) :
    isMarketable sim tick = crosses order tick := by
  simp only [isMarketable, crosses, resting.active, resting.side, resting.price]
  cases order.side <;> rfl

/-- What a tick leaves for the order after the queue took its part. -/
theorem Resting.reachable (resting : Resting order queueAhead past sim) {tick : MarketTick}
    (nonneg : NonNegative tick) :
    reachableQty sim tick =
        max 0 (offered order (.onTick tick) - queueLeft queueAhead (supply order past)) ∧
      queueAfter sim tick =
        queueLeft queueAhead (supply order past + offered order (.onTick tick)) := by
  have displayed := nonneg.oppositeQty order.side
  have queue := resting.queue
  have ahead : 0 ≤ queueLeft queueAhead (supply order past) := le_max_left _ _
  have visible : visibleOppositeQty sim tick = tick.oppositeQty order.side := by
    rw [visibleOppositeQty, resting.side]
  simp only [reachableQty, queueAfter, queueConsumed, offered, resting.marketable tick, visible]
  cases crosses order tick with
  | true =>
    simp only [if_true]
    rw [queueLeft_add displayed]
    constructor <;> split_ifs <;> omega
  | false =>
    simp only [Bool.false_eq_true, if_false, Int.add_zero]
    omega

theorem offered_nonneg {tick : MarketTick} (nonneg : NonNegative tick) :
    0 ≤ offered order (.onTick tick) := by
  have displayed := nonneg.oppositeQty order.side
  simp only [offered]
  split_ifs
  · exact displayed
  · exact Int.le_refl 0

/-- The quantity a tick fills is what the law adds for it. -/
theorem Resting.law (resting : Resting order queueAhead past sim) {tick : MarketTick}
    (nonneg : NonNegative tick) :
    filledBy order.quantity queueAhead (supply order past + offered order (.onTick tick)) =
      totalFilled past + passiveFillQty sim tick := by
  rw [filledBy_add (offered_nonneg nonneg), ← resting.total, passiveFillQty, resting.leaves,
    (resting.reachable nonneg).1]

/-- A fill leaves the order resting with the rest of its quantity, or completes it. -/
theorem Resting.fills (resting : Resting order queueAhead past sim) {tick : MarketTick}
    (nonneg : NonNegative tick) {report : ExecutionReport} {next : Simulator}
    (fills : Fills sim tick report next) :
    Tracks order queueAhead (past ++ [(.onTick tick, .report report)]) next := by
  have law := resting.law nonneg
  have leaves := resting.leaves
  have short := resting.short
  have bounded : passiveFillQty sim tick ≤ sim.restingOrder.leavesQty := min_le_left _ _
  have traded : Reply.fillQty (.report report) = passiveFillQty sim tick := by
    simp [Reply.fillQty, fills.hasFill, fills.fill]
  have unacked : ¬Acked (past ++ [(.onTick tick, .report report)]) := by
    simp [resting.unacked, Reply.acksCancel, fills.notAcked]
  have requests : cancelRequests (past ++ [(.onTick tick, .report report)]) =
      cancelRequests past := by
    simp [acceptedCancel]
  have after := fills.resting
  by_cases done : sim.restingOrder.leavesQty - passiveFillQty sim tick = 0
  · right
    constructor
    · simp [after, RestingOrder.afterFill, done]
    · intro _
      rw [totalFilled_append, supply_append, law, traded]
      omega
    · rw [requests, resting.cancel]
      split_ifs <;> simp
  · left
    constructor
    · simp [after, RestingOrder.afterFill, done, resting.active]
    · rw [after]
      exact resting.side
    · rw [after]
      exact resting.price
    · rw [after, totalFilled_append, traded]
      simp only [RestingOrder.afterFill]
      omega
    · rw [after, supply_append]
      exact (resting.reachable nonneg).2
    · exact unacked
    · rw [totalFilled_append, supply_append, law, traded]
    · rw [totalFilled_append, traded]
      omega
    · rw [requests, resting.cancel, after, fills.cancelLatency]
      simp [RestingOrder.afterFill, done]

/-- Without reachable liquidity the law adds nothing. -/
theorem Resting.quiet (resting : Resting order queueAhead past sim) {tick : MarketTick}
    (nonneg : NonNegative tick) (reach : reachableQty sim tick ≤ 0) :
    filledBy order.quantity queueAhead (supply order past + offered order (.onTick tick)) =
      totalFilled past := by
  have law := resting.law nonneg
  have leaves := resting.leaves
  have short := resting.short
  have reachable := (resting.reachable nonneg).1
  rw [law, passiveFillQty]
  omega

theorem Resting.tick (resting : Resting order queueAhead past sim) {tick : MarketTick}
    (nonneg : NonNegative tick) :
    Tracks order queueAhead (past ++ [(.onTick tick, .report (onTick sim tick).1)])
      (onTick sim tick).2 := by
  have rests := onTick_rests tick resting.active
  generalize (onTick sim tick).1 = report at rests ⊢
  generalize (onTick sim tick).2 = next at rests ⊢
  have requests : cancelRequests (past ++ [(.onTick tick, .report report)]) =
      cancelRequests past := by
    simp [acceptedCancel]
  cases rests with
  | fills reach fills => exact resting.fills nonneg fills
  | cancelAcked reach due =>
    right
    constructor
    · rfl
    · simp [Reply.acksCancel]
    · rw [requests, resting.cancel]
      split_ifs <;> simp
  | waits reach early =>
    have law := resting.quiet nonneg reach
    have traded : Reply.fillQty (.report (.quiet true sim.restingOrder.leavesQty)) = 0 := rfl
    left
    constructor
    · exact resting.active
    · exact resting.side
    · exact resting.price
    · rw [totalFilled_append, traded, Int.add_zero]
      exact resting.leaves
    · rw [supply_append]
      exact (resting.reachable nonneg).2
    · simp [resting.unacked, Reply.acksCancel, ExecutionReport.quiet]
    · rw [totalFilled_append, supply_append, traded, Int.add_zero, law]
    · rw [totalFilled_append, traded, Int.add_zero]
      exact resting.short
    · rw [requests]
      exact resting.cancel

theorem onTick_inactive {sim : Simulator} (inactive : sim.restingOrder.active = false)
    (tick : MarketTick) : onTick sim tick = (.quiet true 0, sim) := by
  simp [onTick, inactive]

theorem Closed.tick (closed : Closed order queueAhead past sim) {tick : MarketTick}
    (nonneg : NonNegative tick) :
    Closed order queueAhead (past ++ [(.onTick tick, .report (onTick sim tick).1)])
      (onTick sim tick).2 := by
  have more := @offered_nonneg order tick nonneg
  rw [onTick_inactive closed.inactive tick]
  constructor
  · exact closed.inactive
  · intro unacked
    obtain ⟨total, law⟩ := closed.filled fun acked => unacked (by simp [acked])
    rw [totalFilled_append, supply_append, filledBy_add more, law, total]
    simp [Reply.fillQty, ExecutionReport.quiet]
  · simpa [acceptedCancel] using closed.atMostOne

theorem requestCancel_closed (inactive : sim.restingOrder.active = false) (tsNs : TimestampNs) :
    requestCancel sim tsNs = (false, sim) := by
  simp [requestCancel, inactive]

/-- A cancel request leaves the order where it is. -/
theorem Tracks.cancel (tracks : Tracks order queueAhead past sim) (tsNs : TimestampNs) :
    Tracks order queueAhead
      (past ++ [(.requestCancel tsNs, .accepted (requestCancel sim tsNs).1)])
      (requestCancel sim tsNs).2 := by
  have noFill : ∀ ok, Reply.fillQty (.accepted ok) = 0 := fun _ => rfl
  rcases tracks with resting | closed
  · left
    have requests := resting.cancel
    constructor
    · rw [requestCancel_restingOrder]
      split_ifs <;> exact resting.active
    · rw [requestCancel_restingOrder]
      split_ifs <;> exact resting.side
    · rw [requestCancel_restingOrder]
      split_ifs <;> exact resting.price
    · rw [requestCancel_restingOrder, totalFilled_append, noFill, Int.add_zero]
      split_ifs <;> exact resting.leaves
    · rw [requestCancel_restingOrder, supply_append, offered, Int.add_zero]
      split_ifs <;> exact resting.queue
    · simp [resting.unacked, Reply.acksCancel]
    · rw [totalFilled_append, supply_append, noFill, offered, Int.add_zero, Int.add_zero]
      exact resting.total
    · rw [totalFilled_append, noFill, Int.add_zero]
      exact resting.short
    · cases pending : sim.restingOrder.cancelPending with
      | false => simp [requestCancel, resting.active, pending, acceptedCancel, requests]
      | true => simp [requestCancel, pending, acceptedCancel, requests]
  · right
    rw [requestCancel_closed closed.inactive tsNs]
    constructor
    · exact closed.inactive
    · intro unacked
      rw [totalFilled_append, supply_append, noFill, offered, Int.add_zero, Int.add_zero]
      exact closed.filled fun acked => unacked (by simp [acked])
    · simpa [acceptedCancel] using closed.atMostOne

theorem step_tracks (tracks : Tracks order queueAhead past sim) {call : Call}
    (admissible : Admissible call) :
    Tracks order queueAhead (past ++ [(call, (machine.step sim call).1)])
      (machine.step sim call).2 := by
  cases call with
  | onTick tick =>
    rcases tracks with resting | closed
    · exact resting.tick admissible
    · exact .inr (closed.tick admissible)
  | requestCancel tsNs => exact tracks.cancel tsNs

/-- A cancel request has become effective and the tick offers the order nothing. -/
def CancelLaw (order : OrderRequest) (queueAhead : Int) (cancelLatencyNs : TimestampNs)
    (past : List (Call × Reply)) (tick : MarketTick) : Prop :=
  (∃ tsNs ∈ cancelRequests past, tsNs + cancelLatencyNs ≤ tick.receiveTsNs) ∧
    filledBy order.quantity queueAhead (supply order past + offered order (.onTick tick)) =
      filledBy order.quantity queueAhead (supply order past) ∧
    filledBy order.quantity queueAhead (supply order past) < order.quantity

/-- The cancel is acknowledged on the first tick that meets the law. -/
theorem Tracks.acks_iff (tracks : Tracks order queueAhead past sim) {tick : MarketTick}
    (nonneg : NonNegative tick) :
    (onTick sim tick).1.cancelAcked = true ↔
      CancelLaw order queueAhead sim.cancelLatencyNs past tick ∧ ¬Acked past := by
  rcases tracks with resting | closed
  · have rests := onTick_rests tick resting.active
    have total := resting.total
    have law := resting.law nonneg
    have short := resting.short
    have leaves := resting.leaves
    have request : (∃ tsNs ∈ cancelRequests past,
        tsNs + sim.cancelLatencyNs ≤ tick.receiveTsNs) ↔ CancelDue sim tick := by
      rw [resting.cancel, CancelDue]
      split_ifs with pending
      · simp [pending]
      · simp [pending]
    rw [CancelLaw, request, ← total, law, and_iff_left resting.unacked]
    generalize (onTick sim tick).1 = report at rests ⊢
    generalize (onTick sim tick).2 = next at rests
    cases rests with
    | fills reach fills =>
      have positive : 0 < passiveFillQty sim tick := lt_min (by omega) reach
      rw [fills.notAcked]
      simp only [Bool.false_eq_true, false_iff, not_and]
      omega
    | cancelAcked reach due =>
      have quiet := resting.quiet nonneg reach
      rw [law] at quiet
      simp [due, quiet, short]
    | waits reach early => simp [ExecutionReport.quiet, early]
  · rw [onTick_inactive closed.inactive tick]
    simp only [ExecutionReport.quiet, Bool.false_eq_true, false_iff, not_and, not_not]
    rintro ⟨_, _, short⟩
    by_contra unacked
    have law := (closed.filled unacked).2
    omega

end

theorem step_cancelLatency (sim : Simulator) (call : Call) :
    (machine.step sim call).2.cancelLatencyNs = sim.cancelLatencyNs := by
  cases call with
  | onTick tick => exact (onTick_settings sim tick).1
  | requestCancel tsNs => exact requestCancel_cancelLatency sim tsNs

/-- A free simulator accepts the order and rests it behind the displayed quantity. -/
theorem submitOrder_rests {sim : Simulator} {first : MarketTick} {order : OrderRequest}
    (free : sim.restingOrder.active = false) (positive : 0 < order.quantity)
    (nonneg : NonNegative first) :
    (submitOrder sim first order .passive).1.accepted = true ∧
      (submitOrder sim first order .passive).2.cancelLatencyNs = sim.cancelLatencyNs ∧
      Resting order (first.ownQty order.side) [] (submitOrder sim first order .passive).2 := by
  have own := nonneg.ownQty order.side
  have quantity : ¬order.quantity ≤ 0 := by omega
  have result : submitOrder sim first order .passive =
      (.quiet true order.quantity, { sim with restingOrder :=
        ⟨true, order.side, order.limitPrice, order.quantity, first.ownQty order.side,
          first.receiveTsNs, false, 0⟩ }) := by
    simp [submitOrder, quantity, free]
  rw [result]
  refine ⟨rfl, rfl, ?_⟩
  constructor
  · rfl
  · rfl
  · rfl
  · simp [totalFilled]
  · simp [supply, queueLeft, own]
  · simp [Acked]
  · simp only [totalFilled, supply, filledBy, List.map_nil, List.sum_nil]
    omega
  · simpa [totalFilled] using positive
  · rfl

section
variable {order : OrderRequest} {queueAhead : Int} {start : Simulator}

theorem run_tracks (resting : Resting order queueAhead [] start) {calls : List Call}
    (admissible : ∀ call ∈ calls, Admissible call) :
    Tracks order queueAhead (machine.history start calls) (machine.run start calls) := by
  apply machine.history_induction Admissible (motive := Tracks order queueAhead)
  · exact .inl resting
  · exact fun past sim call tracks admissible => step_tracks tracks admissible
  · exact admissible

theorem run_cancelLatency (calls : List Call) :
    (machine.run start calls).cancelLatencyNs = start.cancelLatencyNs := by
  apply machine.run_invariant (fun sim => sim.cancelLatencyNs = start.cancelLatencyNs)
    (fun _ => True)
  · rfl
  · exact fun sim call same _ => (step_cancelLatency sim call).trans same
  · exact fun _ _ => trivial

/-- A history contains an acknowledgment exactly when one of its ticks met the law. -/
theorem acked_iff_law (resting : Resting order queueAhead [] start) {before : List Call}
    (admissible : ∀ call ∈ before, Admissible call) :
    Acked (machine.history start before) ↔
      ∃ earlier other rest, before = earlier ++ .onTick other :: rest ∧
        CancelLaw order queueAhead start.cancelLatencyNs (machine.history start earlier) other := by
  have local_iff : ∀ earlier other rest, before = earlier ++ .onTick other :: rest →
      ((onTick (machine.run start earlier) other).1.cancelAcked = true ↔
        CancelLaw order queueAhead start.cancelLatencyNs (machine.history start earlier) other ∧
          ¬Acked (machine.history start earlier)) := by
    intro earlier other rest split
    have early : ∀ call ∈ earlier, Admissible call :=
      fun call member => admissible call (by simp [split, member])
    have tracks := run_tracks resting early
    rw [← run_cancelLatency earlier]
    exact tracks.acks_iff (admissible (.onTick other) (by simp [split]))
  constructor
  · rintro ⟨step, member, acks⟩
    obtain ⟨earlier, rest, split, reply⟩ := machine.mem_history member
    rw [reply] at acks
    cases call : step.1 with
    | requestCancel tsNs =>
      rw [call] at acks
      cases acks
    | onTick other =>
      rw [call] at split acks
      exact ⟨earlier, other, rest, split, ((local_iff earlier other rest split).1 acks).1⟩
  · rintro ⟨earlier, other, rest, split, law⟩
    rw [split, machine.history_append, machine.history_cons]
    by_cases acked : Acked (machine.history start earlier)
    · obtain ⟨step, member, acks⟩ := acked
      exact ⟨step, List.mem_append_left _ member, acks⟩
    · have acks := (local_iff earlier other rest split).2 ⟨law, acked⟩
      exact ⟨_, List.mem_append_right _ (List.mem_cons_self ..), acks⟩

end

/-- What holds of a resting order's history and of the simulator after it. -/
structure RunLaw (order : OrderRequest) (queueAhead : Int) (past : List (Call × Reply))
    (sim : Simulator) : Prop where
  total : ¬Acked past → totalFilled past = filledBy order.quantity queueAhead (supply order past)
  rests : ¬Acked past →
    (sim.restingOrder.active = true ↔ totalFilled past < order.quantity)
  atMostOne : (cancelRequests past).length ≤ 1

/-- What holds of the report of one tick of a run. -/
structure TickLaw (order : OrderRequest) (queueAhead : Int) (start : Simulator)
    (before : List Call) (tick : MarketTick) (report : ExecutionReport) : Prop where
  price : report.hasFill = true → report.fill.price = order.limitPrice
  leaves : ¬Acked (machine.history start (before ++ [.onTick tick])) →
    report.leavesQty =
      order.quantity - totalFilled (machine.history start (before ++ [.onTick tick]))
  acked : report.cancelAcked = true ↔
    CancelLaw order queueAhead start.cancelLatencyNs (machine.history start before) tick ∧
      ∀ earlier other rest, before = earlier ++ .onTick other :: rest →
        ¬CancelLaw order queueAhead start.cancelLatencyNs (machine.history start earlier) other
  ends : Acked (machine.history start before) ∨
      totalFilled (machine.history start before) = order.quantity →
    report.hasFill = false ∧ report.cancelAcked = false

theorem Tracks.runLaw {order : OrderRequest} {queueAhead : Int} {past : List (Call × Reply)}
    {sim : Simulator} (tracks : Tracks order queueAhead past sim) :
    RunLaw order queueAhead past sim := by
  rcases tracks with resting | closed
  · constructor
    · exact fun _ => resting.total
    · exact fun _ => iff_of_true resting.active resting.short
    · rw [resting.cancel]
      split_ifs <;> simp
  · constructor
    · intro unacked
      obtain ⟨total, law⟩ := closed.filled unacked
      rw [total, law]
    · intro unacked
      have total := (closed.filled unacked).1
      simp [closed.inactive, total]
    · exact closed.atMostOne

/-- The report of a tick on a simulator that tracks its history. -/
theorem Tracks.report {order : OrderRequest} {queueAhead : Int} {past : List (Call × Reply)}
    {sim : Simulator} (tracks : Tracks order queueAhead past sim) (tick : MarketTick) :
    ((onTick sim tick).1.hasFill = true → (onTick sim tick).1.fill.price = order.limitPrice) ∧
      (¬Acked (past ++ [(.onTick tick, .report (onTick sim tick).1)]) →
        (onTick sim tick).1.leavesQty = order.quantity -
          totalFilled (past ++ [(.onTick tick, .report (onTick sim tick).1)])) ∧
      (Acked past ∨ totalFilled past = order.quantity →
        (onTick sim tick).1.hasFill = false ∧ (onTick sim tick).1.cancelAcked = false) := by
  rcases tracks with resting | closed
  · have rests := onTick_rests tick resting.active
    have leaves := resting.leaves
    have short := resting.short
    have unfinished : ¬(Acked past ∨ totalFilled past = order.quantity) := by
      rintro (acked | complete)
      · exact resting.unacked acked
      · omega
    generalize (onTick sim tick).1 = report at rests ⊢
    generalize (onTick sim tick).2 = next at rests
    refine ⟨?_, ?_, fun closed => absurd closed unfinished⟩
    · intro filled
      cases rests with
      | fills reach fills => rw [fills.fill, resting.price]
      | cancelAcked reach due => cases filled
      | waits reach early => cases filled
    · intro unacked
      rw [totalFilled_append]
      cases rests with
      | fills reach fills =>
        simp only [Reply.fillQty, fills.hasFill, fills.fill, fills.leaves, if_true]
        omega
      | cancelAcked reach due => simp [Reply.acksCancel] at unacked
      | waits reach early =>
        simp only [Reply.fillQty, ExecutionReport.quiet, Bool.false_eq_true, if_false]
        omega
  · rw [onTick_inactive closed.inactive tick]
    refine ⟨fun filled => ?_, fun unacked => ?_, fun _ => ⟨rfl, rfl⟩⟩
    · cases filled
    · obtain ⟨total, _⟩ := closed.filled fun acked => unacked (by simp [acked])
      simp [Reply.fillQty, ExecutionReport.quiet, total]

/-- The simulator that has just accepted a passive order. -/
def placed (sim : Simulator) (first : MarketTick) (order : OrderRequest) : Simulator :=
  (submitOrder sim first order .passive).2

/-- The order is accepted, and every run from there obeys the closed form. -/
structure PassiveLaw (sim : Simulator) (first : MarketTick) (order : OrderRequest)
    (calls : List Call) : Prop where
  accepted : (submitOrder sim first order .passive).1.accepted = true
  latency : (placed sim first order).cancelLatencyNs = sim.cancelLatencyNs
  run : RunLaw order (first.ownQty order.side) (machine.history (placed sim first order) calls)
    (machine.run (placed sim first order) calls)
  ticks : ∀ before tick after, calls = before ++ .onTick tick :: after →
    TickLaw order (first.ownQty order.side) (placed sim first order) before tick
      (onTick (machine.run (placed sim first order) before) tick).1

/-- From placement on, a passive order follows the law through every run. -/
theorem passive_follows_law (sim : Simulator) (first : MarketTick) (order : OrderRequest)
    (free : sim.restingOrder.active = false) (positive : 0 < order.quantity)
    (nonneg : NonNegative first) (calls : List Call)
    (admissible : ∀ call ∈ calls, Admissible call) : PassiveLaw sim first order calls := by
  obtain ⟨accepted, latency, resting⟩ := submitOrder_rests free positive nonneg
  change Resting order (first.ownQty order.side) [] (placed sim first order) at resting
  refine ⟨accepted, latency, (run_tracks resting admissible).runLaw, ?_⟩
  intro before tick after split
  have early : ∀ call ∈ before, Admissible call :=
    fun call member => admissible call (by simp [split, member])
  have tracks := run_tracks resting early
  have steps : machine.history (placed sim first order) (before ++ [.onTick tick]) =
      machine.history (placed sim first order) before ++ [(.onTick tick,
        .report (onTick (machine.run (placed sim first order) before) tick).1)] :=
    machine.history_append (placed sim first order) before [.onTick tick]
  obtain ⟨price, leaves, ends⟩ := tracks.report tick
  constructor
  · exact price
  · rw [steps]
    exact leaves
  · have acks := tracks.acks_iff (admissible (.onTick tick) (by simp [split]))
    rw [run_cancelLatency, acked_iff_law resting early] at acks
    apply acks.trans
    apply and_congr_right'
    constructor
    · exact fun none earlier other rest split law => none ⟨earlier, other, rest, split, law⟩
    · rintro none ⟨earlier, other, rest, split, law⟩
      exact none earlier other rest split law
  · exact ends

/-- A buy of 5 behind a queue of 2 trades 1 before its cancel becomes effective. -/
theorem passive_follows_law_behindQueue :
    PassiveLaw fresh ⟨1000, 1000, 99900, 100000, 1, 2, 9⟩ ⟨.buy, 5, 99950⟩
      [.onTick ⟨2000, 2000, 99800, 99950, 1, 4, 3⟩, .requestCancel 2100,
        .onTick ⟨3100, 3100, 99900, 100000, 1, 4, 7⟩] :=
  passive_follows_law fresh _ _ rfl (by decide) ⟨by decide, by decide⟩ _ (by
    simp only [List.forall_mem_cons, Admissible, List.not_mem_nil, false_imp_iff, implies_true,
      and_true, true_and]
    exact ⟨⟨by decide, by decide⟩, by decide, by decide⟩)

end TradingKernel.PassiveMatching
