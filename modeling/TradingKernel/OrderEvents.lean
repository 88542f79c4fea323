import TradingKernel.OrderLifecycle

/-!
Venue events as the order manager's counterpart sends them. A refused event
leaves no trace in a run, and the answer to a cancel is only understood as long
as no fill has come in between.
-/

namespace TradingKernel.OrderEvents
open Library OrderManager OrderLifecycle

theorem run_applied {order next : ManagedOrder} {event : VenueEvent} {fill : Fill}
    (applies : Applies order event fill next) (rest : List Call) :
    machine.run order (.onVenueEvent event :: rest) = machine.run next rest := by
  rw [Machine.run_cons]
  change machine.run (onVenueEvent order event).2.2 rest = machine.run next rest
  rw [applies.eq]

/-- A fill the order manager has to take, as far as its quantity is left. -/
def FillOf (order : ManagedOrder) (event : VenueEvent) : Prop :=
  event.type = .fill ∧ Names event order ∧ 0 < event.fillQty

def totalQty (fills : List VenueEvent) : Int := (fills.map VenueEvent.fillQty).sum

@[simp] theorem totalQty_nil : totalQty [] = 0 := rfl

@[simp] theorem totalQty_cons (event : VenueEvent) (rest : List VenueEvent) :
    totalQty (event :: rest) = event.fillQty + totalQty rest := List.sum_cons

theorem totalQty_nonneg {order : ManagedOrder} {fills : List VenueEvent}
    (valid : ∀ event ∈ fills, FillOf order event) : 0 ≤ totalQty fills := by
  induction fills with
  | nil => simp
  | cons event rest ih =>
    have positive := (valid event (by simp)).2.2
    have later := ih (fun other member => valid other (List.mem_cons_of_mem event member))
    rw [totalQty_cons]
    omega

/-- Fills short of the remainder are all taken, and each of them leaves the
order partially filled, whatever state it was in. -/
theorem run_fills (order : ManagedOrder) {fills : List VenueEvent}
    (state : order.state = .acked ∨ order.state = .partiallyFilled ∨ order.state = .pendingCancel)
    (valid : ∀ event ∈ fills, FillOf order event) (short : totalQty fills < order.leavesQty) :
    machine.run order (fills.map .onVenueEvent) =
      { order with
        cumQty := order.cumQty + totalQty fills
        leavesQty := order.leavesQty - totalQty fills
        state := if fills = [] then order.state else .partiallyFilled } := by
  induction fills generalizing order with
  | nil => simp
  | cons event rest ih =>
    obtain ⟨kind, named, positive⟩ := valid event (by simp)
    have later : ∀ other ∈ rest, FillOf order other := fun other member =>
      valid other (List.mem_cons_of_mem event member)
    have nonneg := totalQty_nonneg later
    rw [totalQty_cons] at short
    have applies := Applies.fill kind state named positive (by omega)
    have opened : stateAfterFill (order.leavesQty - event.fillQty) = .partiallyFilled := by
      rw [stateAfterFill, if_neg (by omega)]
    rw [opened] at applies
    have after := @ih
      { order with
        cumQty := order.cumQty + event.fillQty
        leavesQty := order.leavesQty - event.fillQty
        state := .partiallyFilled } (.inr (.inl rfl)) later (by simp only; omega)
    rw [List.map_cons, run_applied applies, after, totalQty_cons]
    simp only [reduceCtorEq, if_false, ite_self, ManagedOrder.mk.injEq, and_true, true_and]
    omega

/-- The venue's answer to the cancel of `order`, received by `late` when `filled`
more has been filled, ends the cancel one way or the other. -/
structure AnswersCancel (order late : ManagedOrder) (filled : Int) : Prop where
  ack : ∀ event, event.type = .cancelAck → Names event order →
    ∃ next, onVenueEvent late event = (.applied, Fill.empty, next) ∧ next.state = .canceled ∧
      next.leavesQty = 0 ∧ next.cumQty = order.cumQty + filled
  reject : ∀ event, event.type = .cancelReject → Names event order →
    ∃ next, onVenueEvent late event = (.applied, Fill.empty, next) ∧
      next.state = (if order.cumQty + filled = 0 then .acked else .partiallyFilled) ∧
      next.leavesQty = order.leavesQty - filled ∧ next.cumQty = order.cumQty + filled

/-- A prompt answer finds the order as the cancel left it. -/
theorem prompt_answers {order : ManagedOrder}
    (left : order.leavesQty = order.orderQty - order.cumQty) :
    AnswersCancel order { order with state := .pendingCancel } 0 := by
  have belongs : ∀ event, Names event order → Names event { order with state := .pendingCancel } :=
    fun _ named => named
  constructor
  · intro event kind named
    exact ⟨_, (Applies.cancelAck kind rfl (belongs event named)).eq, rfl, rfl, by simp⟩
  · intro event kind named
    refine ⟨_, (Applies.cancelReject kind rfl (belongs event named)).eq, ?_, by simp, by simp⟩
    simp only [stateAfterCancelReject]
    split_ifs <;> first | rfl | omega

/-- The answer to a cancel is understood exactly when no fill came before it. -/
theorem answers_cancel_iff (calls : List Call) (fills : List VenueEvent)
    (requested : (requestCancel (machine.run .idle calls)).1 = true)
    (valid : ∀ event ∈ fills, FillOf (machine.run .idle calls) event)
    (short : totalQty fills < (machine.run .idle calls).leavesQty) :
    AnswersCancel (machine.run .idle calls)
        (machine.run (requestCancel (machine.run .idle calls)).2 (fills.map .onVenueEvent))
        (totalQty fills) ↔
      fills = [] := by
  obtain ⟨invariant, identified⟩ := run_consistent calls
  generalize machine.run .idle calls = order at requested valid short invariant identified ⊢
  rcases requestCancel_cases order with ⟨state, result⟩ | ⟨_, _, result⟩
  · have id := identified (state.imp_right .inl)
    obtain ⟨left, _⟩ := invariant.outstanding (OrderState.live_of_cancelable state)
    rw [result, run_fills { order with state := .pendingCancel } (.inr (.inr rfl)) valid short]
    constructor
    · intro answers
      by_contra some
      obtain ⟨next, applied, _⟩ := answers.ack
        ⟨.cancelAck, 0, order.venueOrderId, 0, 0⟩ rfl ⟨id, rfl⟩
      simp [onVenueEvent, refuse, some] at applied
    · rintro rfl
      simpa using prompt_answers left
  · rw [result] at requested
    cases requested

/-- An acknowledged order of 100 that is to be canceled. -/
def cancelingCalls : List Call :=
  [.submitNew 101 .buy 100000 100, .onVenueEvent ⟨.newAck, 1000, 555, 0, 0⟩]

theorem answers_cancel_iff_oneFill :
    AnswersCancel (machine.run .idle cancelingCalls)
        (machine.run (requestCancel (machine.run .idle cancelingCalls)).2
          ([⟨.fill, 1100, 555, 40, 99950⟩].map .onVenueEvent))
        (totalQty [⟨.fill, 1100, 555, 40, 99950⟩]) ↔
      [(⟨.fill, 1100, 555, 40, 99950⟩ : VenueEvent)] = [] :=
  answers_cancel_iff cancelingCalls [⟨.fill, 1100, 555, 40, 99950⟩] rfl
    (by
      intro event member
      obtain rfl := List.mem_singleton.1 member
      exact ⟨rfl, ⟨by decide, rfl⟩, by decide⟩)
    (by decide)

/-- A fill of 40 overtakes the acknowledgment of the cancel. -/
theorem late_fill_refuses_answer :
    ¬∀ (calls : List Call) (fills : List VenueEvent),
      (requestCancel (machine.run .idle calls)).1 = true →
      (∀ event ∈ fills, FillOf (machine.run .idle calls) event) →
      totalQty fills < (machine.run .idle calls).leavesQty →
      AnswersCancel (machine.run .idle calls)
        (machine.run (requestCancel (machine.run .idle calls)).2 (fills.map .onVenueEvent))
        (totalQty fills) := by
  intro all
  have answers := all cancelingCalls [⟨.fill, 1100, 555, 40, 99950⟩] rfl
    (by
      intro event member
      obtain rfl := List.mem_singleton.1 member
      exact ⟨rfl, ⟨by decide, rfl⟩, by decide⟩)
    (by decide)
  obtain ⟨next, applied, _⟩ := answers.ack ⟨.cancelAck, 1200, 555, 0, 0⟩ rfl ⟨by decide, rfl⟩
  have refused : (onVenueEvent (machine.run (requestCancel (machine.run .idle cancelingCalls)).2
      ([⟨.fill, 1100, 555, 40, 99950⟩].map .onVenueEvent))
      ⟨.cancelAck, 1200, 555, 0, 0⟩).1 = .wrongState := by decide
  rw [applied] at refused
  cases refused

end TradingKernel.OrderEvents
