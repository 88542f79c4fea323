import TradingKernel.GatewayGrammar
import TradingKernel.GatewayLink
import TradingKernel.OrderLifecycle

/-!
Aggressive orders live for one tick. Whatever the tick displays, the gateway
answers with a batch that takes the order manager to a terminal state, and no
part of the gateway keeps the order.
-/

namespace TradingKernel.IocCompleteness
open Library OrderManager MockVenueGateway GatewayInvariant GatewayLink OrderLifecycle

/-- The batch of one tick settles the pending order on both sides. -/
structure Settles (gateway : Gateway) (order : Manager) (tick : MarketTick) : Prop where
  noOverflow : (onTick gateway tick).1.overflowCount = 0
  accepts : Accepts order (onTick gateway tick).1.events
  state : (applyEvents order (onTick gateway tick).1.events).state =
    if gateway.pendingNew.request.quantity ≤ tick.oppositeQty gateway.pendingNew.request.side then
      .filled
    else .expired
  cumQty : (applyEvents order (onTick gateway tick).1.events).cumQty =
    min gateway.pendingNew.request.quantity (tick.oppositeQty gateway.pendingNew.request.side)
  leavesQty : (applyEvents order (onTick gateway tick).1.events).leavesQty = 0
  price : ∀ event ∈ (onTick gateway tick).1.events, event.type = .fill →
    event.fillPrice = tick.touchPrice gateway.pendingNew.request.side
  unpending : (onTick gateway tick).2.pendingNew.active = false
  idle : (onTick gateway tick).2.activeOrder.active = false
  notResting : (onTick gateway tick).2.execution.restingOrder.active = false
  gatewayFree : ∀ request, 0 < request.quantity → (sendNew (onTick gateway tick).2 request).1 = true
  managerFree : ∀ clientOrderId side limitPrice qty, 0 < qty →
    (submitNew (applyEvents order (onTick gateway tick).1.events) clientOrderId side limitPrice
      qty).1 = true

theorem run_awaits {orderCalls : List OrderManager.Call} {request : GatewayNewOrder}
    (state : (machine.run .idle orderCalls).state = .pendingNewAck)
    (side : (machine.run .idle orderCalls).side = request.side)
    (quantity : (machine.run .idle orderCalls).orderQty = request.quantity) :
    Awaits request (machine.run .idle orderCalls) ∧ (machine.run .idle orderCalls).cumQty = 0 := by
  have invariant := (run_consistent orderCalls).1
  have quantities := invariant.quantities
  rw [state] at quantities
  obtain ⟨untouched, _, left, _⟩ := quantities
  refine ⟨⟨state, side, ?_⟩, untouched⟩
  rw [left, untouched, quantity, Int.sub_zero]

theorem onTick_ioc {gateway : Gateway} {tick : MarketTick} (coherent : Coherent gateway)
    (due : AckDue gateway tick) (accepted : gateway.pendingNew.shouldReject = false)
    (style : gateway.pendingNew.request.style = .aggressive) :
    onTick gateway tick =
      (⟨iocEvents gateway.pendingNew.request tick gateway.nextVenueOrderId, 0⟩,
        iocDone gateway tick) := by
  obtain ⟨events, next, ticks, result⟩ := onTick_ticks coherent tick
  rw [result]
  cases ticks with
  | quiet early idle => exact absurd due early
  | newReject _ reject => simp [accepted] at reject
  | ioc _ _ _ => rfl
  | passive _ _ other matched => simp [style] at other
  | cancelReject active arrives rejects => exact absurd due (coherent.notDue active tick)
  | matching active answer matched => exact absurd due (coherent.notDue active tick)

theorem iocEvents_price {request : GatewayNewOrder} {tick : MarketTick} {venueOrderId : Int} :
    ∀ event ∈ iocEvents request tick venueOrderId, event.type = .fill →
      event.fillPrice = tick.touchPrice request.side := by
  intro event member kind
  rcases mem_iocEvents member with rfl | rfl | rfl
  · cases kind
  · rfl
  · cases kind

theorem iocOrder_quantities {gateway : Gateway} {order : Manager} {tick : MarketTick}
    (awaits : Awaits gateway.pendingNew.request order) (untouched : order.cumQty = 0)
    (positive : 0 < gateway.pendingNew.request.quantity) (nonneg : NonNegative tick) :
    (iocOrder gateway order tick).state =
        (if gateway.pendingNew.request.quantity ≤
            tick.oppositeQty gateway.pendingNew.request.side then .filled else .expired) ∧
      (iocOrder gateway order tick).cumQty =
        min gateway.pendingNew.request.quantity
          (tick.oppositeQty gateway.pendingNew.request.side) ∧
      (iocOrder gateway order tick).leavesQty = 0 := by
  have leaves := awaits.leaves
  have displayed := nonneg.oppositeQty gateway.pendingNew.request.side
  have traded : iocFillQty gateway.pendingNew.request tick =
      min (tick.oppositeQty gateway.pendingNew.request.side)
        gateway.pendingNew.request.quantity := rfl
  by_cases enough : gateway.pendingNew.request.quantity ≤
      tick.oppositeQty gateway.pendingNew.request.side
  · have full : iocFillQty gateway.pendingNew.request tick =
        gateway.pendingNew.request.quantity := by
      rw [traded, min_eq_right enough]
    have none : order.leavesQty - gateway.pendingNew.request.quantity = 0 := by omega
    simp [iocOrder, full, positive, filledOrder, ackedOrder, stateAfterFill, none, enough,
      untouched]
  · have short : iocFillQty gateway.pendingNew.request tick <
        gateway.pendingNew.request.quantity := by omega
    have shown : iocFillQty gateway.pendingNew.request tick =
        tick.oppositeQty gateway.pendingNew.request.side := by omega
    rw [if_neg enough, min_comm, ← traded]
    simp only [iocOrder, if_pos short, expiredOrder]
    by_cases reach : 0 < iocFillQty gateway.pendingNew.request tick
    · simp [reach, filledOrder, ackedOrder, untouched]
    · have none : iocFillQty gateway.pendingNew.request tick = 0 := by omega
      simp [none, ackedOrder, untouched]

/-- Every accepted aggressive order is settled on its first due tick. -/
theorem aggressive_settles (newAckLatencyNs cancelSendLatencyNs : TimestampNs)
    (calls : List GatewayGrammar.Call) (orderCalls : List OrderManager.Call) (tick : MarketTick)
    (nonneg : NonNegative tick)
    (due : AckDue (GatewayGrammar.machine.run (create newAckLatencyNs cancelSendLatencyNs) calls)
      tick)
    (accepted : (GatewayGrammar.machine.run (create newAckLatencyNs cancelSendLatencyNs)
      calls).pendingNew.shouldReject = false)
    (style : (GatewayGrammar.machine.run (create newAckLatencyNs cancelSendLatencyNs)
      calls).pendingNew.request.style = .aggressive)
    (state : (machine.run .idle orderCalls).state = .pendingNewAck)
    (side : (machine.run .idle orderCalls).side =
      (GatewayGrammar.machine.run (create newAckLatencyNs cancelSendLatencyNs)
        calls).pendingNew.request.side)
    (quantity : (machine.run .idle orderCalls).orderQty =
      (GatewayGrammar.machine.run (create newAckLatencyNs cancelSendLatencyNs)
        calls).pendingNew.request.quantity) :
    Settles (GatewayGrammar.machine.run (create newAckLatencyNs cancelSendLatencyNs) calls)
      (machine.run .idle orderCalls) tick := by
  have coherent := GatewayGrammar.run_coherent newAckLatencyNs cancelSendLatencyNs calls
  obtain ⟨awaits, untouched⟩ := run_awaits state side quantity
  generalize GatewayGrammar.machine.run (create newAckLatencyNs cancelSendLatencyNs) calls =
    gateway at *
  generalize machine.run .idle orderCalls = order at *
  have positive := coherent.pendingQty due.1
  have result := onTick_ioc coherent due accepted style
  obtain ⟨accepts, after⟩ := ioc_accepts coherent due awaits
  obtain ⟨final, cumQty, leavesQty⟩ := iocOrder_quantities awaits untouched positive nonneg
  have next := onTick_coherent coherent tick
  rw [result] at next
  constructor <;> rw [result] <;> try simp only [after]
  · exact accepts
  · exact final
  · exact cumQty
  · exact leavesQty
  · exact iocEvents_price
  · rfl
  · rfl
  · exact next.resting
  · intro request valid
    rw [sendNew_free rfl rfl valid]
  · intro clientOrderId side limitPrice qty valid
    rw [submitNew_free (iocOrder_closed awaits positive) _ _ _ valid]

/-- A buy of 50 meets 20 on offer: 20 trade and the rest expires. -/
theorem aggressive_settles_partially :
    Settles
      (GatewayGrammar.machine.run (create 200 200)
        [.sendNew ⟨1, .buy, 50, 100000, .aggressive, 1000⟩])
      (machine.run .idle [.submitNew 1 .buy 100000 50])
      ⟨1200, 1200, 99900, 100000, 1, 10, 20⟩ :=
  aggressive_settles 200 200 _ _ _ ⟨by decide, by decide⟩ ⟨by decide, by decide⟩ rfl rfl rfl rfl rfl

end TradingKernel.IocCompleteness
