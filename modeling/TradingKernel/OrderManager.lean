import TradingKernel.Types
import TradingKernel.Library.Machine

/-!
The order manager: one order at a time, driven by local commands and by venue
events that may be stale, foreign or malformed.
-/

namespace TradingKernel.OrderManager
open Library

inductive OrderState where
  | idle
  | pendingNewAck
  | acked
  | partiallyFilled
  | pendingCancel
  | filled
  | canceled
  | rejected
  | expired
  deriving DecidableEq, Repr

/-- The numeric value of the source's enumerator. -/
def OrderState.code : OrderState → Int
  | .idle => 0
  | .pendingNewAck => 1
  | .acked => 2
  | .partiallyFilled => 3
  | .pendingCancel => 4
  | .filled => 5
  | .canceled => 6
  | .rejected => 7
  | .expired => 8

def OrderState.isTerminal : OrderState → Bool
  | .filled | .canceled | .rejected | .expired => true
  | _ => false

def OrderState.isLive : OrderState → Bool
  | .pendingNewAck | .acked | .partiallyFilled | .pendingCancel => true
  | _ => false

theorem OrderState.live_of_acknowledged {state : OrderState}
    (acknowledged : state = .acked ∨ state = .partiallyFilled ∨ state = .pendingCancel) :
    state.isLive = true := by
  rcases acknowledged with rfl | rfl | rfl
  · rfl
  · rfl
  · rfl

theorem OrderState.live_of_cancelable {state : OrderState}
    (cancelable : state = .acked ∨ state = .partiallyFilled) : state.isLive = true := by
  apply live_of_acknowledged
  exact cancelable.imp_right .inl

theorem OrderState.not_terminal_of_live {state : OrderState} (live : state.isLive = true) :
    state.isTerminal = false := by
  cases state <;> first | rfl | cases live

theorem OrderState.not_live_of_terminal {state : OrderState} (terminal : state.isTerminal = true) :
    state.isLive = false := by
  cases state <;> first | rfl | cases terminal

inductive VenueEventType where
  | newAck
  | newReject
  | fill
  | cancelAck
  | cancelReject
  | expired
  deriving DecidableEq, Repr

inductive VenueEventOutcome where
  | applied
  | wrongState
  | wrongOrder
  | invalidQuantity
  | invalidVenueOrderId
  deriving DecidableEq, Repr

structure VenueEvent where
  type : VenueEventType
  tsNs : TimestampNs
  venueOrderId : Int
  fillQty : Int
  fillPrice : Price
  deriving DecidableEq, Repr

structure ManagedOrder where
  clientOrderId : Int
  venueOrderId : Int
  side : Side
  limitPrice : Price
  orderQty : Int
  cumQty : Int
  leavesQty : Int
  state : OrderState
  deriving DecidableEq, Repr

/-- The all-zero order of a manager that holds none. -/
def ManagedOrder.idle : ManagedOrder := ⟨0, 0, .buy, 0, 0, 0, 0, .idle⟩

/-- A manager is its order; a fresh one holds `ManagedOrder.idle`. -/
abbrev Manager := ManagedOrder

def submitNew (order : Manager) (clientOrderId : Int) (side : Side) (limitPrice : Price)
    (qty : Int) : Bool × Manager :=
  let order := if order.state.isTerminal then ManagedOrder.idle else order
  if qty ≤ 0 ∨ order.state ≠ .idle then (false, order)
  else (true, ⟨clientOrderId, 0, side, limitPrice, qty, 0, qty, .pendingNewAck⟩)

def requestCancel (order : Manager) : Bool × Manager :=
  if order.state ≠ .acked ∧ order.state ≠ .partiallyFilled then (false, order)
  else (true, { order with state := .pendingCancel })

/-- The state a fill leaves behind, given the remaining quantity. -/
def stateAfterFill (leavesQty : Int) : OrderState :=
  if leavesQty = 0 then .filled else .partiallyFilled

/-- The live state a rejected cancel returns to. -/
def stateAfterCancelReject (order : ManagedOrder) : OrderState :=
  if order.leavesQty = order.orderQty then .acked else .partiallyFilled

/-- A refusal returns its outcome with the cleared fill and leaves the order alone. -/
def refuse (order : Manager) (outcome : VenueEventOutcome) : VenueEventOutcome × Fill × Manager :=
  (outcome, Fill.empty, order)

/-- Applies one venue event; the second component is the source's `fill_out`. -/
def onVenueEvent (order : Manager) (event : VenueEvent) : VenueEventOutcome × Fill × Manager :=
  match event.type with
  | .newAck =>
    if order.state ≠ .pendingNewAck then refuse order .wrongState
    else if event.venueOrderId ≤ 0 then refuse order .invalidVenueOrderId
    else (.applied, Fill.empty, { order with venueOrderId := event.venueOrderId, state := .acked })
  | .newReject =>
    if order.state ≠ .pendingNewAck then refuse order .wrongState
    else (.applied, Fill.empty, { order with state := .rejected })
  | .fill =>
    if order.state ≠ .acked ∧ order.state ≠ .partiallyFilled ∧ order.state ≠ .pendingCancel then
      refuse order .wrongState
    else if event.venueOrderId ≤ 0 then refuse order .invalidVenueOrderId
    else if event.venueOrderId ≠ order.venueOrderId then refuse order .wrongOrder
    else if event.fillQty ≤ 0 ∨ event.fillQty > order.leavesQty then refuse order .invalidQuantity
    else
      (.applied, ⟨event.tsNs, event.fillPrice, event.fillQty, order.side⟩,
        { order with
          cumQty := order.cumQty + event.fillQty
          leavesQty := order.leavesQty - event.fillQty
          state := stateAfterFill (order.leavesQty - event.fillQty) })
  | .cancelAck =>
    if order.state ≠ .pendingCancel then refuse order .wrongState
    else if event.venueOrderId ≤ 0 then refuse order .invalidVenueOrderId
    else if event.venueOrderId ≠ order.venueOrderId then refuse order .wrongOrder
    else (.applied, Fill.empty, { order with state := .canceled, leavesQty := 0 })
  | .cancelReject =>
    if order.state ≠ .pendingCancel then refuse order .wrongState
    else if event.venueOrderId ≤ 0 then refuse order .invalidVenueOrderId
    else if event.venueOrderId ≠ order.venueOrderId then refuse order .wrongOrder
    else (.applied, Fill.empty, { order with state := stateAfterCancelReject order })
  | .expired =>
    if order.state ≠ .acked ∧ order.state ≠ .partiallyFilled then refuse order .wrongState
    else if event.venueOrderId ≤ 0 then refuse order .invalidVenueOrderId
    else if event.venueOrderId ≠ order.venueOrderId then refuse order .wrongOrder
    else (.applied, Fill.empty, { order with leavesQty := 0, state := .expired })

/-- The event names the venue order the manager tracks. -/
def Names (event : VenueEvent) (order : ManagedOrder) : Prop :=
  0 < event.venueOrderId ∧ event.venueOrderId = order.venueOrderId

/-- Everything an applied venue event can do, with the guards it passed. -/
inductive Applies (order : ManagedOrder) (event : VenueEvent) : Fill → ManagedOrder → Prop where
  | newAck : event.type = .newAck → order.state = .pendingNewAck → 0 < event.venueOrderId →
      Applies order event Fill.empty
        { order with venueOrderId := event.venueOrderId, state := .acked }
  | newReject : event.type = .newReject → order.state = .pendingNewAck →
      Applies order event Fill.empty { order with state := .rejected }
  | fill : event.type = .fill →
      order.state = .acked ∨ order.state = .partiallyFilled ∨ order.state = .pendingCancel →
      Names event order → 0 < event.fillQty → event.fillQty ≤ order.leavesQty →
      Applies order event ⟨event.tsNs, event.fillPrice, event.fillQty, order.side⟩
        { order with
          cumQty := order.cumQty + event.fillQty
          leavesQty := order.leavesQty - event.fillQty
          state := stateAfterFill (order.leavesQty - event.fillQty) }
  | cancelAck : event.type = .cancelAck → order.state = .pendingCancel → Names event order →
      Applies order event Fill.empty { order with state := .canceled, leavesQty := 0 }
  | cancelReject : event.type = .cancelReject → order.state = .pendingCancel → Names event order →
      Applies order event Fill.empty
        { order with state := stateAfterCancelReject order }
  | expired : event.type = .expired → order.state = .acked ∨ order.state = .partiallyFilled →
      Names event order →
      Applies order event Fill.empty { order with leavesQty := 0, state := .expired }

/-- A venue event is either applied or refused without a trace. -/
theorem onVenueEvent_cases (order : Manager) (event : VenueEvent) :
    (∃ fill next, onVenueEvent order event = (.applied, fill, next) ∧
        Applies order event fill next) ∨
      ∃ outcome, outcome ≠ .applied ∧ onVenueEvent order event = (outcome, Fill.empty, order) := by
  cases kind : event.type with
  | newAck =>
    simp only [onVenueEvent, kind, refuse]
    split_ifs with state id
    · exact .inr ⟨_, by decide, rfl⟩
    · exact .inr ⟨_, by decide, rfl⟩
    · exact .inl ⟨_, _, rfl, .newAck kind (not_not.1 state) (by omega)⟩
  | newReject =>
    simp only [onVenueEvent, kind, refuse]
    split_ifs with state
    · exact .inr ⟨_, by decide, rfl⟩
    · exact .inl ⟨_, _, rfl, .newReject kind (not_not.1 state)⟩
  | fill =>
    simp only [onVenueEvent, kind, refuse]
    split_ifs with state id other qty
    · exact .inr ⟨_, by decide, rfl⟩
    · exact .inr ⟨_, by decide, rfl⟩
    · exact .inr ⟨_, by decide, rfl⟩
    · exact .inr ⟨_, by decide, rfl⟩
    · exact .inl ⟨_, _, rfl, .fill kind (by tauto) ⟨by omega, not_not.1 other⟩ (by omega)
        (by omega)⟩
  | cancelAck =>
    simp only [onVenueEvent, kind, refuse]
    split_ifs with state id other
    · exact .inr ⟨_, by decide, rfl⟩
    · exact .inr ⟨_, by decide, rfl⟩
    · exact .inr ⟨_, by decide, rfl⟩
    · exact .inl ⟨_, _, rfl, .cancelAck kind (not_not.1 state) ⟨by omega, not_not.1 other⟩⟩
  | cancelReject =>
    simp only [onVenueEvent, kind, refuse]
    split_ifs with state id other
    · exact .inr ⟨_, by decide, rfl⟩
    · exact .inr ⟨_, by decide, rfl⟩
    · exact .inr ⟨_, by decide, rfl⟩
    · exact .inl ⟨_, _, rfl, .cancelReject kind (not_not.1 state) ⟨by omega, not_not.1 other⟩⟩
  | expired =>
    simp only [onVenueEvent, kind, refuse]
    split_ifs with state id other
    · exact .inr ⟨_, by decide, rfl⟩
    · exact .inr ⟨_, by decide, rfl⟩
    · exact .inr ⟨_, by decide, rfl⟩
    · exact .inl ⟨_, _, rfl, .expired kind (by tauto) ⟨by omega, not_not.1 other⟩⟩

/-- The guards of `Applies` are also sufficient. -/
theorem Applies.eq {order : Manager} {event : VenueEvent} {fill : Fill} {next : Manager}
    (applies : Applies order event fill next) :
    onVenueEvent order event = (.applied, fill, next) := by
  cases applies with
  | newAck kind state id => simp [onVenueEvent, kind, state, show ¬event.venueOrderId ≤ 0 by omega]
  | newReject kind state => simp [onVenueEvent, kind, state]
  | fill kind state named positive bounded =>
    have id : ¬order.venueOrderId ≤ 0 := by have := named.1; have := named.2; omega
    have qty : ¬(event.fillQty ≤ 0 ∨ event.fillQty > order.leavesQty) := by omega
    rcases state with state | state | state <;> simp [onVenueEvent, kind, state, named.2, id, qty]
  | cancelAck kind state named =>
    have id : ¬order.venueOrderId ≤ 0 := by have := named.1; have := named.2; omega
    simp [onVenueEvent, kind, state, named.2, id]
  | cancelReject kind state named =>
    have id : ¬order.venueOrderId ≤ 0 := by have := named.1; have := named.2; omega
    simp [onVenueEvent, kind, state, named.2, id]
  | expired kind state named =>
    have id : ¬order.venueOrderId ≤ 0 := by have := named.1; have := named.2; omega
    rcases state with state | state <;> simp [onVenueEvent, kind, state, named.2, id]

/-- Only a live order has anything applied to it. -/
theorem Applies.live {order : Manager} {event : VenueEvent} {fill : Fill} {next : Manager}
    (applies : Applies order event fill next) : order.state.isLive = true := by
  cases applies with
  | newAck kind state id => rw [state]; rfl
  | newReject kind state => rw [state]; rfl
  | fill kind state named positive bounded => exact OrderState.live_of_acknowledged state
  | cancelAck kind state named => rw [state]; rfl
  | cancelReject kind state named => rw [state]; rfl
  | expired kind state named => exact OrderState.live_of_cancelable state

/-- Submission needs a positive quantity and no live order; a refused one still
recycles a terminal order. -/
theorem submitNew_eq (order : Manager) (clientOrderId : Int) (side : Side) (limitPrice : Price)
    (qty : Int) :
    submitNew order clientOrderId side limitPrice qty =
      if 0 < qty ∧ order.state.isLive = false then
        (true, ⟨clientOrderId, 0, side, limitPrice, qty, 0, qty, .pendingNewAck⟩)
      else (false, if order.state.isTerminal then ManagedOrder.idle else order) := by
  by_cases positive : 0 < qty
  · have quantity : ¬qty ≤ 0 := by omega
    cases state : order.state <;>
      simp [submitNew, state, OrderState.isLive, OrderState.isTerminal, ManagedOrder.idle,
        positive, quantity]
  · have quantity : qty ≤ 0 := by omega
    cases state : order.state <;>
      simp [submitNew, state, OrderState.isTerminal, positive, quantity]

theorem submitNew_free {order : Manager} (free : order.state.isLive = false) (clientOrderId : Int)
    (side : Side) (limitPrice : Price) {qty : Int} (positive : 0 < qty) :
    submitNew order clientOrderId side limitPrice qty =
      (true, ⟨clientOrderId, 0, side, limitPrice, qty, 0, qty, .pendingNewAck⟩) := by
  rw [submitNew_eq, if_pos ⟨positive, free⟩]

theorem submitNew_live {order : Manager} (live : order.state.isLive = true) (clientOrderId : Int)
    (side : Side) (limitPrice : Price) (qty : Int) :
    submitNew order clientOrderId side limitPrice qty = (false, order) := by
  rw [submitNew_eq, if_neg (by simp [live]), OrderState.not_terminal_of_live live]
  rfl

theorem requestCancel_cases (order : Manager) :
    ((order.state = .acked ∨ order.state = .partiallyFilled) ∧
        requestCancel order = (true, { order with state := .pendingCancel })) ∨
      (order.state ≠ .acked ∧ order.state ≠ .partiallyFilled ∧
        requestCancel order = (false, order)) := by
  unfold requestCancel
  split_ifs with state
  · exact .inr ⟨state.1, state.2, rfl⟩
  · exact .inl ⟨by tauto, rfl⟩

inductive Call where
  | submitNew (clientOrderId : Int) (side : Side) (limitPrice : Price) (qty : Int)
  | requestCancel
  | onVenueEvent (event : VenueEvent)
  deriving DecidableEq, Repr

inductive Reply where
  | accepted (ok : Bool)
  | outcome (outcome : VenueEventOutcome) (fillOut : Fill)
  deriving DecidableEq, Repr

def machine : Machine Manager Call Reply where
  step order
    | .submitNew clientOrderId side limitPrice qty =>
      let result := submitNew order clientOrderId side limitPrice qty
      (.accepted result.1, result.2)
    | .requestCancel =>
      let result := requestCancel order
      (.accepted result.1, result.2)
    | .onVenueEvent event =>
      let result := onVenueEvent order event
      (.outcome result.1 result.2.1, result.2.2)

/-- Everything one call can do to the order. -/
inductive Steps (order : Manager) : Call → Reply → Manager → Prop where
  | submitted {clientOrderId side limitPrice qty} : 0 < qty → order.state.isLive = false →
      Steps order (.submitNew clientOrderId side limitPrice qty) (.accepted true)
        ⟨clientOrderId, 0, side, limitPrice, qty, 0, qty, .pendingNewAck⟩
  | recycled {clientOrderId side limitPrice qty} : order.state.isTerminal = true →
      Steps order (.submitNew clientOrderId side limitPrice qty) (.accepted false) ManagedOrder.idle
  | unsubmitted {clientOrderId side limitPrice qty} : order.state.isTerminal = false →
      Steps order (.submitNew clientOrderId side limitPrice qty) (.accepted false) order
  | canceling : order.state = .acked ∨ order.state = .partiallyFilled →
      Steps order .requestCancel (.accepted true) { order with state := .pendingCancel }
  | uncanceled : order.state ≠ .acked → order.state ≠ .partiallyFilled →
      Steps order .requestCancel (.accepted false) order
  | applied {event fill next} : Applies order event fill next →
      Steps order (.onVenueEvent event) (.outcome .applied fill) next
  | refused {event outcome} : outcome ≠ .applied →
      Steps order (.onVenueEvent event) (.outcome outcome Fill.empty) order

theorem machine_steps (order : Manager) (call : Call) :
    Steps order call (machine.step order call).1 (machine.step order call).2 := by
  cases call with
  | submitNew clientOrderId side limitPrice qty =>
    simp only [machine, submitNew_eq]
    by_cases ok : 0 < qty ∧ order.state.isLive = false
    · simp only [if_pos ok]
      exact .submitted ok.1 ok.2
    · simp only [if_neg ok]
      cases terminal : order.state.isTerminal with
      | true => exact .recycled terminal
      | false => exact .unsubmitted terminal
  | requestCancel =>
    rcases requestCancel_cases order with ⟨state, result⟩ | ⟨acked, partialState, result⟩
    · simpa only [machine, result] using Steps.canceling state
    · simpa only [machine, result] using Steps.uncanceled acked partialState
  | onVenueEvent event =>
    rcases onVenueEvent_cases order event with ⟨fill, next, result, applies⟩ | ⟨outcome, no, result⟩
    · simpa only [machine, result] using Steps.applied applies
    · simpa only [machine, result] using Steps.refused no

end TradingKernel.OrderManager
