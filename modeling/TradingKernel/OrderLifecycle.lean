import Mathlib.Algebra.Ring.Int.Defs
import TradingKernel.OrderManager

/-!
Invariants of the order manager under arbitrary command and event sequences:
the state determines what has been filled and what is left, and an order that
reached a terminal state stays as it is.
-/

namespace TradingKernel.OrderLifecycle
open Library OrderManager

/-- One reply's contribution to the quantity filled since the last submission. -/
def tally (total : Int) : Call × Reply → Int
  | (.submitNew .., .accepted true) => 0
  | (_, .outcome .applied fillOut) => total + fillOut.quantity
  | _ => total

def filledSinceSubmit (past : List (Call × Reply)) : Int := past.foldl tally 0

/-- A live order's remainder is positive and exactly what is not yet filled. -/
def Outstanding (order : ManagedOrder) : Prop :=
  order.leavesQty = order.orderQty - order.cumQty ∧ 0 < order.leavesQty

/-- What each state says about the order's quantities and venue id. -/
def QuantitiesIn (order : ManagedOrder) : OrderState → Prop
  | .idle => True
  | .pendingNewAck => order.cumQty = 0 ∧ order.venueOrderId = 0 ∧ Outstanding order
  | .acked => order.cumQty = 0 ∧ 0 < order.venueOrderId ∧ Outstanding order
  | .partiallyFilled => 0 < order.cumQty ∧ order.cumQty < order.orderQty ∧ Outstanding order
  | .pendingCancel => order.cumQty < order.orderQty ∧ Outstanding order
  | .filled => order.cumQty = order.orderQty
  | .canceled => order.cumQty < order.orderQty
  | .rejected => True
  | .expired => order.cumQty < order.orderQty

/-- The correspondence between the order's state and its quantities, `filled`
being the quantity filled since the order was submitted. -/
structure QuantityInvariant (order : ManagedOrder) (filled : Int) : Prop where
  cum_nonneg : 0 ≤ order.cumQty
  cum_le : order.cumQty ≤ order.orderQty
  cum_filled : order.state ≠ .idle → order.cumQty = filled
  quantities : QuantitiesIn order order.state

theorem QuantityInvariant.outstanding {order : ManagedOrder} {filled : Int}
    (invariant : QuantityInvariant order filled) (live : order.state.isLive = true) :
    Outstanding order := by
  have quantities := invariant.quantities
  cases state : order.state <;> rw [state] at live quantities <;> cases live
  · exact quantities.2.2
  · exact quantities.2.2
  · exact quantities.2.2
  · exact quantities.2

/-- Once acknowledged, a live order carries a positive venue id. -/
def Identified (order : ManagedOrder) : Prop :=
  order.state = .acked ∨ order.state = .partiallyFilled ∨ order.state = .pendingCancel →
    0 < order.venueOrderId

theorem quantityInvariant_idle (filled : Int) : QuantityInvariant .idle filled :=
  ⟨Int.le_refl 0, Int.le_refl 0, fun busy => absurd rfl busy, trivial⟩

theorem quantityInvariant_submitted (clientOrderId : Int) (side : Side) (limitPrice : Price)
    {qty : Int} (positive : 0 < qty) :
    QuantityInvariant ⟨clientOrderId, 0, side, limitPrice, qty, 0, qty, .pendingNewAck⟩ 0 :=
  ⟨Int.le_refl 0, Int.le_of_lt positive, fun _ => rfl, rfl, rfl, (Int.sub_zero qty).symm, positive⟩

theorem stateAfterFill_cases (leavesQty : Int) :
    (leavesQty = 0 ∧ stateAfterFill leavesQty = .filled) ∨
      (leavesQty ≠ 0 ∧ stateAfterFill leavesQty = .partiallyFilled) := by
  unfold stateAfterFill
  split_ifs with done
  · exact .inl ⟨done, rfl⟩
  · exact .inr ⟨done, rfl⟩

theorem stateAfterCancelReject_cases (order : ManagedOrder) :
    (order.leavesQty = order.orderQty ∧ stateAfterCancelReject order = .acked) ∨
      (order.leavesQty ≠ order.orderQty ∧ stateAfterCancelReject order = .partiallyFilled) := by
  unfold stateAfterCancelReject
  split_ifs with untouched
  · exact .inl ⟨untouched, rfl⟩
  · exact .inr ⟨untouched, rfl⟩

theorem applies_invariant {order next : ManagedOrder} {event : VenueEvent} {fill : Fill}
    {filled : Int} (applies : Applies order event fill next) (identified : Identified order)
    (invariant : QuantityInvariant order filled) :
    QuantityInvariant next (filled + fill.quantity) := by
  have nonneg := invariant.cum_nonneg
  have bounded := invariant.cum_le
  have live := applies.live
  have busy : order.state ≠ .idle := by
    intro idle
    rw [idle] at live
    cases live
  have total := invariant.cum_filled busy
  obtain ⟨left, rest⟩ := invariant.outstanding live
  have quantities := invariant.quantities
  cases applies with
  | newAck kind state id =>
    rw [state] at quantities
    exact ⟨nonneg, bounded, fun _ => by simpa [Fill.empty] using total,
      quantities.1, id, quantities.2.2⟩
  | newReject kind state =>
    exact ⟨nonneg, bounded, fun _ => by simpa [Fill.empty] using total, trivial⟩
  | fill kind state named positive enough =>
    rcases stateAfterFill_cases (order.leavesQty - event.fillQty) with ⟨done, after⟩ | ⟨more, after⟩
    · refine ⟨by simp only; omega, by simp only; omega, fun _ => by simp only; omega, ?_⟩
      simp only [after, QuantitiesIn]
      omega
    · refine ⟨by simp only; omega, by simp only; omega, fun _ => by simp only; omega, ?_⟩
      simp only [after, QuantitiesIn, Outstanding]
      omega
  | cancelAck kind state named =>
    rw [state] at quantities
    exact ⟨nonneg, bounded, fun _ => by simpa [Fill.empty] using total, quantities.1⟩
  | cancelReject kind state named =>
    rw [state] at quantities
    have short := quantities.1
    refine ⟨nonneg, bounded, fun _ => by simpa [Fill.empty] using total, ?_⟩
    rcases stateAfterCancelReject_cases order with ⟨untouched, after⟩ | ⟨touched, after⟩
    · simp only [after]
      exact ⟨by simp only; omega, identified (by tauto), left, rest⟩
    · simp only [after]
      exact ⟨by simp only; omega, short, left, rest⟩
  | expired kind state named =>
    exact ⟨nonneg, bounded, fun _ => by simpa [Fill.empty] using total,
      by simp only [QuantitiesIn]; omega⟩

theorem applies_identified {order next : ManagedOrder} {event : VenueEvent} {fill : Fill}
    (applies : Applies order event fill next) (identified : Identified order) :
    Identified next := by
  unfold Identified at identified ⊢
  cases applies with
  | newAck kind state id => exact fun _ => id
  | newReject kind state => simp
  | fill kind state named positive bounded => exact fun _ => identified state
  | cancelAck kind state named => simp
  | cancelReject kind state named => exact fun _ => identified (by tauto)
  | expired kind state named => simp

/-- The state carried through a run: both invariants, with the running total. -/
def Consistent (past : List (Call × Reply)) (order : ManagedOrder) : Prop :=
  QuantityInvariant order (filledSinceSubmit past) ∧ Identified order

theorem step_consistent {past : List (Call × Reply)} {order next : ManagedOrder} {call : Call}
    {reply : Reply} (steps : Steps order call reply next) (held : Consistent past order) :
    Consistent (past ++ [(call, reply)]) next := by
  obtain ⟨invariant, identified⟩ := held
  have snoc : filledSinceSubmit (past ++ [(call, reply)]) =
      tally (filledSinceSubmit past) (call, reply) := by
    simp [filledSinceSubmit]
  rw [Consistent, snoc]
  cases steps with
  | submitted positive free =>
    exact ⟨quantityInvariant_submitted _ _ _ positive, by simp [Identified]⟩
  | recycled terminal => exact ⟨quantityInvariant_idle _, by simp [Identified, ManagedOrder.idle]⟩
  | unsubmitted terminal => exact ⟨invariant, identified⟩
  | canceling state =>
    have left := invariant.outstanding (OrderState.live_of_cancelable state)
    have busy : order.state ≠ .idle := by
      rcases state with state | state <;> simp [state]
    refine ⟨⟨invariant.cum_nonneg, invariant.cum_le, fun _ => invariant.cum_filled busy, ?_, left⟩,
      fun _ => identified (by tauto)⟩
    have := left.1
    have := left.2
    simp only
    omega
  | uncanceled acked partially => exact ⟨invariant, identified⟩
  | applied applies =>
    exact ⟨applies_invariant applies identified invariant, applies_identified applies identified⟩
  | @refused event outcome refused =>
    cases outcome with
    | applied => exact absurd rfl refused
    | wrongState => exact ⟨invariant, identified⟩
    | wrongOrder => exact ⟨invariant, identified⟩
    | invalidQuantity => exact ⟨invariant, identified⟩
    | invalidVenueOrderId => exact ⟨invariant, identified⟩

theorem run_consistent (calls : List Call) :
    Consistent (machine.history .idle calls) (machine.run .idle calls) := by
  refine machine.history_induction (fun _ => True)
    ⟨quantityInvariant_idle _, by simp [Identified, ManagedOrder.idle]⟩ ?_ calls (by simp)
  intro past order call held _
  exact step_consistent (machine_steps order call) held

def InInt32 (value : Int) : Prop := -2 ^ 31 ≤ value ∧ value < 2 ^ 31

/-- The quantity a submission passes is a 32-bit integer of the source. -/
def Call.QtyInInt32 : Call → Prop
  | .submitNew _ _ _ qty => InInt32 qty
  | _ => True

/-- The order quantity never leaves the 32-bit range of the submitted ones. -/
theorem run_orderQty_lt (calls : List Call) (typed : ∀ call ∈ calls, Call.QtyInInt32 call) :
    (machine.run .idle calls).orderQty < 2 ^ 31 := by
  refine machine.run_invariant (fun order => order.orderQty < 2 ^ 31) Call.QtyInInt32
    (by simp [ManagedOrder.idle]) ?_ calls typed
  intro order call bound typed
  have steps := machine_steps order call
  generalize (machine.step order call).1 = reply at steps
  generalize (machine.step order call).2 = next at steps
  cases steps with
  | submitted positive free => exact typed.2
  | recycled terminal => simp [ManagedOrder.idle]
  | unsubmitted terminal => exact bound
  | canceling state => exact bound
  | uncanceled acked partially => exact bound
  | applied applies => cases applies <;> exact bound
  | refused refused => exact bound

/-- The quantity invariant over every call sequence, and the range of the two
in-place updates an applied fill makes. -/
theorem run_quantities (calls : List Call) :
    QuantityInvariant (machine.run .idle calls) (filledSinceSubmit (machine.history .idle calls)) ∧
      ((∀ call ∈ calls, Call.QtyInInt32 call) →
        ∀ event, event.type = .fill → (onVenueEvent (machine.run .idle calls) event).1 = .applied →
          InInt32 ((machine.run .idle calls).cumQty + event.fillQty) ∧
            InInt32 ((machine.run .idle calls).leavesQty - event.fillQty)) := by
  have invariant := (run_consistent calls).1
  refine ⟨invariant, ?_⟩
  intro typed event kind outcome
  have bound := run_orderQty_lt calls typed
  rcases onVenueEvent_cases (machine.run .idle calls) event with
    ⟨fill, next, result, applies⟩ | ⟨refusal, refused, result⟩
  · cases applies with
    | fill _ state named positive bounded =>
      obtain ⟨left, rest⟩ := invariant.outstanding (OrderState.live_of_acknowledged state)
      have nonneg := invariant.cum_nonneg
      unfold InInt32
      omega
    | newAck other => simp [kind] at other
    | newReject other => simp [kind] at other
    | cancelAck other => simp [kind] at other
    | cancelReject other => simp [kind] at other
    | expired other => simp [kind] at other
  · rw [result] at outcome
    exact absurd outcome refused

/-- A terminal order has nothing left and no event or cancel request moves it. -/
def Closed (order : ManagedOrder) : Prop :=
  order.state.isTerminal = true →
    order.leavesQty = 0 ∧ (∀ event, (onVenueEvent order event).2.2 = order) ∧
      (requestCancel order).2 = order

theorem terminal_absorbs {order : ManagedOrder} (terminal : order.state.isTerminal = true) :
    (∀ event, (onVenueEvent order event).2.2 = order) ∧ (requestCancel order).2 = order := by
  constructor
  · intro event
    rcases onVenueEvent_cases order event with ⟨fill, next, _, applies⟩ | ⟨_, _, result⟩
    · rw [OrderState.not_terminal_of_live applies.live] at terminal
      cases terminal
    · rw [result]
  · rcases requestCancel_cases order with ⟨cancelable, _⟩ | ⟨_, _, result⟩
    · rw [OrderState.not_terminal_of_live (OrderState.live_of_cancelable cancelable)] at terminal
      cases terminal
    · rw [result]

theorem closed_iff (order : ManagedOrder) :
    Closed order ↔ (order.state.isTerminal = true → order.leavesQty = 0) :=
  ⟨fun closed terminal => (closed terminal).1,
    fun empty terminal => ⟨empty terminal, terminal_absorbs terminal⟩⟩

/-- A venue rejection reaches the order it was meant for. -/
def RejectsPending (order : ManagedOrder) (call : Call) : Prop :=
  order.state = .pendingNewAck ∧ ∃ event, call = .onVenueEvent event ∧ event.type = .newReject

/-- A step that rejects no pending order keeps every terminal order empty. -/
theorem step_closed {order next : ManagedOrder} {call : Call} {reply : Reply}
    (steps : Steps order call reply next) (closed : Closed order)
    (guard : ¬RejectsPending order call) : Closed next := by
  rw [closed_iff] at closed ⊢
  cases steps with
  | submitted positive free => simp [OrderState.isTerminal]
  | recycled terminal => simp [ManagedOrder.idle]
  | unsubmitted terminal => exact closed
  | canceling state => simp [OrderState.isTerminal]
  | uncanceled acked partially => exact closed
  | refused refused => exact closed
  | @applied event fill _ applies =>
    cases applies with
    | newAck kind state id => simp [OrderState.isTerminal]
    | newReject kind state => exact absurd ⟨state, event, rfl, kind⟩ guard
    | fill kind state named positive enough =>
      rcases stateAfterFill_cases (order.leavesQty - event.fillQty) with
        ⟨done, after⟩ | ⟨rest, after⟩
      · exact fun _ => done
      · simp [after, OrderState.isTerminal]
    | cancelAck kind state named => exact fun _ => rfl
    | cancelReject kind state named =>
      rcases stateAfterCancelReject_cases order with ⟨_, after⟩ | ⟨_, after⟩ <;>
        simp [after, OrderState.isTerminal]
    | expired kind state named => exact fun _ => rfl

/-- Rejecting a pending order leaves its whole quantity behind. -/
theorem reject_not_closed {order : ManagedOrder} {call : Call} {filled : Int}
    (invariant : QuantityInvariant order filled) (rejects : RejectsPending order call) :
    ¬Closed (machine.step order call).2 := by
  obtain ⟨state, event, rfl, kind⟩ := rejects
  have result := (Applies.newReject kind state).eq
  have left := (invariant.outstanding (by rw [state]; rfl)).2
  intro closed
  have empty := (closed (by simp [machine, result, OrderState.isTerminal])).1
  simp only [machine, result] at empty
  omega

/-- Along every run, terminal orders are closed in all states reached exactly
when no `NewReject` is applied to a pending order. -/
theorem closed_iff_never_rejected (calls : List Call) :
    (∀ before, before <+: calls → Closed (machine.run .idle before)) ↔
      ∀ before call after, calls = before ++ call :: after →
        ¬RejectsPending (machine.run .idle before) call := by
  have idle : Closed ManagedOrder.idle := by simp [Closed, ManagedOrder.idle, OrderState.isTerminal]
  rw [machine.prefixes_iff, and_iff_right idle]
  refine machine.safe_iff_guarded
    (fun order => Closed order ∧ ∃ past, Consistent past order) (fun _ => True)
    (fun order call => Closed (machine.step order call).2)
    (fun order call => ¬RejectsPending order call) ?_ ?_ ⟨idle, [], run_consistent []⟩
    calls (by simp)
  · rintro order call ⟨closed, past, held⟩ _ guarded
    have steps := machine_steps order call
    have next := step_closed steps closed guarded
    exact ⟨next, next, _, step_consistent steps held⟩
  · rintro order call ⟨_, past, held⟩ _ rejects closed
    exact reject_not_closed held.1 (not_not.1 rejects) closed

/-- A venue rejection leaves the submitted quantity on a terminal order. -/
theorem rejected_order_not_closed :
    ¬∀ calls, Closed (machine.run .idle calls) := by
  intro all
  have closed := all [.submitNew 1 .buy 100000 50, .onVenueEvent ⟨.newReject, 1000, 0, 0, 0⟩]
  exact absurd (closed rfl).1 (by decide)

end TradingKernel.OrderLifecycle
