import TradingKernel.AccountingEngine
import TradingKernel.ReplayPhases

/-!
The commands that can refuse, over all the objects they touch. A refusal leaves
everything as it was, with one exception: an order manager that is handed an
empty order forgets the finished one before it refuses.
-/

namespace TradingKernel.Commands
open Library OrderManager GatewayInvariant ReplayPhases
open MockVenueGateway (Gateway GatewayNewOrder sendNew sendCancel submitCancelRequest)
open ExecutionSimulator (Simulator)
open AccountingEngine (Engine applyFill markToMarket)

/-- One of each object; the simulator is one of its own, besides the gateway's. -/
structure Desk where
  accounting : Engine
  gateway : Gateway
  orderManager : Manager
  simulator : Simulator
  deriving DecidableEq, Repr

def assemble (gateway : Gateway) (simulator : Simulator) : Desk where
  accounting := AccountingEngine.fresh
  gateway := gateway
  orderManager := .idle
  simulator := simulator

inductive Call where
  | submitNew (clientOrderId : Int) (side : Side) (limitPrice : Price) (qty : Int)
  | requestCancel
  | onVenueEvent (event : VenueEvent)
  | sendNew (request : GatewayNewOrder)
  | sendCancel (requestTsNs : TimestampNs)
  | gatewayTick (tick : MarketTick)
  | submitOrder (tick : MarketTick) (request : OrderRequest) (style : ExecutionStyle)
  | cancelResting (tsNs : TimestampNs)
  | simulatorTick (tick : MarketTick)
  | applyFill (fill : Fill)
  | markToMarket (midPrice : Price)
  | submitCancelRequest (requestTsNs : TimestampNs)
  deriving DecidableEq, Repr

/-- What one call does; the commands reply whether they succeeded. -/
def machine : Machine Desk Call (Option Bool) where
  step desk
    | .submitNew clientOrderId side limitPrice qty =>
      let result := submitNew desk.orderManager clientOrderId side limitPrice qty
      (some result.1, { desk with orderManager := result.2 })
    | .requestCancel =>
      let result := requestCancel desk.orderManager
      (some result.1, { desk with orderManager := result.2 })
    | .onVenueEvent event =>
      (none, { desk with orderManager := (onVenueEvent desk.orderManager event).2.2 })
    | .sendNew request =>
      let result := sendNew desk.gateway request
      (some result.1, { desk with gateway := result.2 })
    | .sendCancel requestTsNs =>
      let result := sendCancel desk.gateway requestTsNs
      (some result.1, { desk with gateway := result.2 })
    | .gatewayTick tick =>
      (none, { desk with gateway := (MockVenueGateway.onTick desk.gateway tick).2 })
    | .submitOrder tick request style =>
      (none, { desk with
        simulator := (ExecutionSimulator.submitOrder desk.simulator tick request style).2 })
    | .cancelResting tsNs =>
      let result := ExecutionSimulator.requestCancel desk.simulator tsNs
      (some result.1, { desk with simulator := result.2 })
    | .simulatorTick tick =>
      (none, { desk with simulator := (ExecutionSimulator.onTick desk.simulator tick).2 })
    | .applyFill fill =>
      let result := applyFill desk.accounting fill
      (some result.1, { desk with accounting := result.2 })
    | .markToMarket midPrice =>
      (none, { desk with accounting := markToMarket desk.accounting midPrice })
    | .submitCancelRequest requestTsNs =>
      let result := submitCancelRequest desk.gateway desk.orderManager requestTsNs
      (some result.1, { desk with gateway := result.2.1, orderManager := result.2.2 })

/-- A refused command leaves every object as it was, and a cancel that both
sides are told of has been taken by both. -/
structure Faithful (desk : Desk) (call : Call) : Prop where
  refused : (machine.step desk call).1 = some false → (machine.step desk call).2 = desk
  taken : ∀ requestTsNs, call = .submitCancelRequest requestTsNs →
    (machine.step desk call).1 = some true →
      (machine.step desk call).2.gateway.activeOrder.cancelSent = true ∧
        (machine.step desk call).2.orderManager.state = .pendingCancel

/-- The call does not submit an empty order while the last one is finished. -/
def Spares (desk : Desk) : Call → Prop
  | .submitNew _ _ _ qty => qty ≤ 0 → desk.orderManager.state.isTerminal = false
  | _ => True

theorem faithful_iff_of_refused {desk : Desk} {call : Call}
    (single : ∀ requestTsNs, call ≠ .submitCancelRequest requestTsNs) (spares : Spares desk call)
    (refused : (machine.step desk call).1 = some false → (machine.step desk call).2 = desk) :
    Faithful desk call ↔ Spares desk call :=
  iff_of_true ⟨refused, fun requestTsNs same => absurd same (single requestTsNs)⟩ spares

theorem submitNew_faithful_iff (desk : Desk) (clientOrderId : Int) (side : Side)
    (limitPrice : Price) (qty : Int) :
    Faithful desk (.submitNew clientOrderId side limitPrice qty) ↔
      Spares desk (.submitNew clientOrderId side limitPrice qty) := by
  constructor
  · intro faithful empty
    by_contra terminal
    rw [Bool.not_eq_false] at terminal
    have result : submitNew desk.orderManager clientOrderId side limitPrice qty =
        (false, ManagedOrder.idle) := by
      rw [submitNew_eq, if_neg (by omega), if_pos terminal]
    have unchanged := faithful.refused (by simp only [machine, result])
    simp only [machine, result] at unchanged
    rw [← congrArg Desk.orderManager unchanged] at terminal
    cases terminal
  · intro spares
    refine ⟨?_, by simp⟩
    intro refused
    simp only [machine, submitNew_eq] at refused ⊢
    by_cases ok : 0 < qty ∧ desk.orderManager.state.isLive = false
    · rw [if_pos ok] at refused
      cases refused
    · have kept : desk.orderManager.state.isTerminal = false := by
        by_contra finished
        rw [Bool.not_eq_false] at finished
        -- A finished order keeps no submission away but an empty one.
        have free := OrderState.not_live_of_terminal finished
        have empty : qty ≤ 0 := by
          by_contra positive
          exact ok ⟨by omega, free⟩
        rw [spares empty] at finished
        cases finished
      rw [if_neg ok, kept]
      rfl

theorem step_faithful_iff (desk : Desk) (call : Call) : Faithful desk call ↔ Spares desk call := by
  cases call with
  | submitNew clientOrderId side limitPrice qty =>
    exact submitNew_faithful_iff desk clientOrderId side limitPrice qty
  | requestCancel =>
    refine faithful_iff_of_refused (by simp) trivial ?_
    intro refused
    rcases requestCancel_cases desk.orderManager with ⟨_, result⟩ | ⟨_, _, result⟩
    · simp [machine, result] at refused
    · simp only [machine, result]
  | sendNew request =>
    refine faithful_iff_of_refused (by simp) trivial ?_
    intro refused
    rcases sendNew_cases desk.gateway request with ⟨_, _, _, result⟩ | ⟨_, result⟩
    · simp [machine, result] at refused
    · simp only [machine, result]
  | sendCancel requestTsNs =>
    refine faithful_iff_of_refused (by simp) trivial ?_
    intro refused
    rcases sendCancel_cases desk.gateway requestTsNs with
      ⟨_, _, result⟩ | ⟨_, result⟩
    · simp [machine, result] at refused
    · simp only [machine, result]
  | cancelResting tsNs =>
    refine faithful_iff_of_refused (by simp) trivial ?_
    intro refused
    simp only [machine, Option.some.injEq] at refused ⊢
    rw [ExecutionSimulator.requestCancel_refused refused]
  | applyFill fill =>
    refine faithful_iff_of_refused (by simp) trivial ?_
    intro refused
    simp only [machine, Option.some.injEq] at refused ⊢
    rw [AccountingEngine.applyFill_refused refused]
  | submitCancelRequest requestTsNs =>
    apply iff_of_true _ trivial
    rcases submitCancelRequest_cases desk.gateway desk.orderManager requestTsNs with
      ⟨_, active, unsent, result⟩ | result
    · have sent : (sendCancel desk.gateway requestTsNs).2.activeOrder.cancelSent = true := by
        simp [sendCancel, active, unsent]
      constructor
      · simp [machine, result]
      · intro _ _ _
        simp only [machine, result, sent, and_self]
    · constructor
      · intro _
        simp only [machine, result]
      · simp [machine, result]
  | onVenueEvent event => exact faithful_iff_of_refused (by simp) trivial (by simp [machine])
  | gatewayTick tick => exact faithful_iff_of_refused (by simp) trivial (by simp [machine])
  | submitOrder tick request style =>
    exact faithful_iff_of_refused (by simp) trivial (by simp [machine])
  | simulatorTick tick => exact faithful_iff_of_refused (by simp) trivial (by simp [machine])
  | markToMarket midPrice => exact faithful_iff_of_refused (by simp) trivial (by simp [machine])

/-- Along every run on newly constructed objects, refused commands change
nothing and paired cancels are taken by both sides if and only if nothing empty
is ever submitted to an order manager whose last order is finished. -/
theorem run_faithful_iff (newAckLatencyNs cancelSendLatencyNs cancelLatencyNs staleAfterNs :
      TimestampNs) (adverseMoveThreshold : Price) (calls : List Call) :
    let desk := assemble (MockVenueGateway.create newAckLatencyNs cancelSendLatencyNs)
      (ExecutionSimulator.create cancelLatencyNs staleAfterNs adverseMoveThreshold)
    (∀ before call after, calls = before ++ call :: after →
        Faithful (machine.run desk before) call) ↔
      ∀ before call after, calls = before ++ call :: after →
        Spares (machine.run desk before) call := by
  intro desk
  constructor
  · intro faithful before call after split
    exact (step_faithful_iff _ _).1 (faithful before call after split)
  · intro spares before call after split
    exact (step_faithful_iff _ _).2 (spares before call after split)

def emptyAfterRejected : List Call :=
  [.submitNew 3 .buy 100000 1, .onVenueEvent ⟨.newReject, 10, 0, 0, 0⟩]

/-- The refused submission turns the rejected order into no order. -/
theorem empty_submission_forgets :
    let desk := machine.run (assemble MockVenueGateway.fresh ExecutionSimulator.fresh)
      emptyAfterRejected
    (machine.step desk (.submitNew 4 .buy 100000 0)).1 = some false ∧
      (machine.step desk (.submitNew 4 .buy 100000 0)).2 ≠ desk := by
  decide

end TradingKernel.Commands
