import TradingKernel.ReplayReconstruction

/-!
The orders a gateway holds during a replay. A property that the venue's
answers, cancels and submissions keep is kept by every tick; applied to the
requests behind the orders it says what can ever be traded, and at which price.
-/

namespace TradingKernel.HeldOrders
open Library OrderManager MockVenueGateway GatewayInvariant ReplayRunner ReplayRun
open ReplayPhases ReplayAgreement ReplayJournal

/-- Every order in the gateway comes from a request with the property; an order
that is active was sent as a passive one. -/
structure HoldsOnly (asked : GatewayNewOrder → Prop) (gateway : Gateway) : Prop where
  pending : gateway.pendingNew.active = true → asked gateway.pendingNew.request
  active : gateway.activeOrder.active = true → ∃ request, asked request ∧
    request.style = .passive ∧ gateway.activeOrder.side = request.side ∧
    gateway.activeOrder.limitPrice = request.limitPrice

/-- An aggressive order trades at the touch, a passive one at its limit. -/
def tradePrice (request : GatewayNewOrder) (tick : MarketTick) : Price :=
  match request.style with
  | .aggressive => tick.touchPrice request.side
  | .passive => request.limitPrice

/-- The fill row trades something of a request with the property. -/
def TradesFor (asked : GatewayNewOrder → Prop) (tick : MarketTick) (row : TradeEvent) : Prop :=
  ∃ request, asked request ∧ row.side = request.side ∧ 0 < row.quantity ∧
    row.price = tradePrice request tick

theorem fresh_holdsOnly (asked : GatewayNewOrder → Prop) :
    HoldsOnly asked MockVenueGateway.fresh := by
  constructor
  · intro pending
    cases pending
  · intro active
    cases active

/-- Aggressive orders are answered on one tick, so that none is ever active. -/
theorem HoldsOnly.idle {asked : GatewayNewOrder → Prop} {gateway : Gateway}
    (holds : HoldsOnly asked gateway)
    (aggressive : ∀ request, asked request → request.style = .aggressive) :
    gateway.activeOrder.active = false := by
  by_contra active
  obtain ⟨request, member, passive, _⟩ := holds.active (by simpa using active)
  simp [aggressive request member] at passive

section Gateway
variable {gateway next : Gateway} {tick : MarketTick} {events : List VenueEvent}

theorem ticks_pending (ticks : Ticks gateway tick events next)
    (pending : next.pendingNew.active = true) : next.pendingNew = gateway.pendingNew := by
  cases ticks with
  | quiet early idle => rfl
  | newReject due reject => simp at pending
  | ioc due accepted style => simp [iocDone] at pending
  | passive due accepted style matched =>
    rw [matches_pendingNew matched] at pending
    simp [acknowledged] at pending
  | cancelReject active arrives rejects => rfl
  | matching active answer matched =>
    rw [matches_pendingNew matched, forwarded_pendingNew]

theorem matches_order (matched : Matches gateway tick events next) (coherent : Coherent gateway)
    (active : gateway.activeOrder.active = true) :
    next.activeOrder.side = gateway.activeOrder.side ∧
      next.activeOrder.limitPrice = gateway.activeOrder.limitPrice ∧
      ∀ event ∈ events, event.type = .fill →
        0 < event.fillQty ∧ event.fillPrice = gateway.activeOrder.limitPrice := by
  cases matched with
  | fills reach fills =>
    have leaves := (coherent.leaves active).2
    refine ⟨rfl, rfl, ?_⟩
    intro event member _
    rw [List.mem_singleton.1 member]
    exact ⟨lt_min leaves reach, rfl⟩
  | cancelAcked reach due => exact ⟨rfl, rfl, by simp⟩
  | waits reach early => exact ⟨rfl, rfl, by simp⟩

theorem forwarded_order (gateway : Gateway) (tick : MarketTick) :
    (forwarded gateway tick).activeOrder.side = gateway.activeOrder.side ∧
      (forwarded gateway tick).activeOrder.limitPrice = gateway.activeOrder.limitPrice := by
  unfold forwarded
  split_ifs <;> exact ⟨rfl, rfl⟩

theorem ioc_fills {request : GatewayNewOrder} {venueOrderId : Int} {event : VenueEvent}
    (member : event ∈ iocEvents request tick venueOrderId) (fill : event.type = .fill) :
    0 < event.fillQty ∧ event.fillPrice = tick.touchPrice request.side := by
  simp only [iocEvents, List.mem_cons, List.mem_append] at member
  rcases member with rfl | filled | expired
  · cases fill
  · split_ifs at filled with reach
    · rw [List.mem_singleton.1 filled]
      exact ⟨reach, rfl⟩
    · cases filled
  · split_ifs at expired
    · rw [List.mem_singleton.1 expired] at fill
      cases fill
    · cases expired

variable {asked : GatewayNewOrder → Prop}

/-- A gateway tick adds no order, and trades only those it held. -/
theorem ticks_holdsOnly (ticks : Ticks gateway tick events next) (coherent : Coherent gateway)
    (holds : HoldsOnly asked gateway) :
    HoldsOnly asked next ∧ ∀ event ∈ events, event.type = .fill →
      TradesFor asked tick (fillRow (servedSide gateway tick) event) := by
  have pending : next.pendingNew.active = true → asked next.pendingNew.request := by
    intro pends
    have kept := ticks_pending ticks pends
    rw [kept] at pends ⊢
    exact holds.pending pends
  cases ticks with
  | quiet due idle => exact ⟨holds, by simp⟩
  | newReject due reject => exact ⟨⟨pending, holds.active⟩, by simp⟩
  | ioc due accepted style =>
    refine ⟨⟨pending, fun active => (by cases active)⟩, ?_⟩
    intro event member fill
    obtain ⟨positive, price⟩ := ioc_fills member fill
    refine ⟨gateway.pendingNew.request, holds.pending due.1, ?_, positive, ?_⟩
    · simp only [fillRow, servedSide, if_pos due]
    · simp only [fillRow, tradePrice, style, price]
  | passive due accepted style matched =>
    obtain ⟨side, limit, fills⟩ := matches_order matched (acknowledged_coherent coherent due) rfl
    have request := holds.pending due.1
    refine ⟨⟨pending, fun _ => ⟨_, request, style, side, limit⟩⟩, ?_⟩
    intro event member fill
    rcases List.mem_cons.1 member with rfl | traded
    · cases fill
    · obtain ⟨positive, price⟩ := fills event traded fill
      refine ⟨gateway.pendingNew.request, request, ?_, positive, ?_⟩
      · simp only [fillRow, servedSide, if_pos due]
      · simp only [fillRow, tradePrice, style, price]
        rfl
  | cancelReject active arrives rejects => exact ⟨⟨pending, holds.active⟩, by simp⟩
  | matching active answer matched =>
    obtain ⟨side, limit, fills⟩ := matches_order matched (forwarded_coherent coherent answer)
      ((forwarded_active gateway tick).trans active)
    obtain ⟨sameSide, sameLimit⟩ := forwarded_order gateway tick
    obtain ⟨request, member, style, ownSide, ownLimit⟩ := holds.active active
    refine ⟨⟨pending, fun _ => ⟨request, member, style, ?_, ?_⟩⟩, ?_⟩
    · rw [side, sameSide, ownSide]
    · rw [limit, sameLimit, ownLimit]
    · intro event traded fill
      obtain ⟨positive, price⟩ := fills event traded fill
      refine ⟨request, member, ?_, positive, ?_⟩
      · simp only [fillRow, servedSide, if_neg (coherent.notDue active tick), ownSide]
      · simp only [fillRow, tradePrice, style, price, sameLimit, ownLimit]

theorem sendCancel_holdsOnly (holds : HoldsOnly asked gateway) (requestTsNs : TimestampNs) :
    HoldsOnly asked (sendCancel gateway requestTsNs).2 := by
  rcases sendCancel_cases gateway requestTsNs with ⟨_, _, result⟩ | ⟨_, result⟩
  · rw [result]
    exact ⟨holds.pending, holds.active⟩
  · rwa [result]

end Gateway

section Replay
variable {env : ReplayEnv} {config : ReplayConfig} {objects : ReplayObjects} {tick : MarketTick}

/-- What the venue's answers, cancels and submissions keep of the gateway, a tick keeps. -/
theorem tick_gateway {holds : Gateway → Prop} (sound : Sound objects) (nonneg : NonNegative tick)
    (answers : ∀ events next, Ticks objects.gateway tick events next → holds next)
    (cancels : ∀ gateway, holds gateway → holds (sendCancel gateway tick.receiveTsNs).2)
    (submits : (strategy.onTick tick).hasOrder = true → ∀ gateway clientOrderId, holds gateway →
      holds (requested gateway (gatewayRequest config tick clientOrderId
        (orderToSend config tick (strategy.onTick tick).order)))) :
    holds (tickEffect config tick objects).objects.gateway := by
  obtain ⟨events, next, ticks, result⟩ := onTick_ticks sound.wellFormed.coherent tick
  have venue : holds (venuePhase tick (markObjects tick objects)).objects.gateway := by
    rw [(venuePhase_objects tick (markObjects tick objects)).1,
      show (markObjects tick objects).gateway = objects.gateway from rfl, result]
    exact answers events next ticks
  have gateway := (stopTimer_keeps (venuePhase tick (markObjects tick objects)).objects).1
  have canceled := ((sound.answered nonneg).canceled config tick).sound
  have cancel : holds (cancelPhase config tick (stopTimer
      (venuePhase tick (markObjects tick objects)).objects)).objects.gateway := by
    rcases cancelPhase_cases config tick (stopTimer (venuePhase tick
      (markObjects tick objects)).objects) with ⟨_, _, _, sent⟩ | kept
    · rw [sent, gateway]
      exact cancels _ venue
    · rwa [kept, gateway]
  obtain ⟨effect, decides, decided⟩ := decisionPhase_decides canceled config tick
  rw [tickEffect_eq]
  simp only [ownPhase, andThen_objects, decided]
  cases decides with
  | noSignal quiet => exact cancel
  | riskReject signal refused => exact cancel
  | busy signal live => exact cancel
  | submits signal accepted live => exact submits signal _ _ cancel

variable {asked : GatewayNewOrder → Prop}

/-- If every submission has the property, a tick keeps it and trades such orders only. -/
theorem tick_holdsOnly (sound : Sound objects) (nonneg : NonNegative tick)
    (holds : HoldsOnly asked objects.gateway)
    (submits : (strategy.onTick tick).hasOrder = true → ∀ clientOrderId,
      asked (gatewayRequest config tick clientOrderId
        (orderToSend config tick (strategy.onTick tick).order))) :
    HoldsOnly asked (tickEffect config tick objects).objects.gateway ∧
      ∀ row ∈ venueFills objects.gateway tick, TradesFor asked tick row := by
  constructor
  · apply tick_gateway sound nonneg
    · exact fun events next ticks => (ticks_holdsOnly ticks sound.wellFormed.coherent holds).1
    · exact fun gateway kept => sendCancel_holdsOnly kept tick.receiveTsNs
    · exact fun signal gateway clientOrderId kept =>
        ⟨fun _ => submits signal clientOrderId, kept.active⟩
  · obtain ⟨events, next, ticks, result⟩ := onTick_ticks sound.wellFormed.coherent tick
    obtain ⟨_, fills⟩ := ticks_holdsOnly ticks sound.wellFormed.coherent holds
    intro row member
    rw [venueFills, result] at member
    obtain ⟨event, filled, rfl⟩ := List.mem_map.1 member
    obtain ⟨emits, fill⟩ := List.mem_filter.1 filled
    exact fills event emits (by simpa using fill)

variable {admissible : MarketTick → Prop} (nonneg : ∀ tick, admissible tick → NonNegative tick)
  (submits : ∀ tick, admissible tick → (strategy.onTick tick).hasOrder = true → ∀ clientOrderId,
    asked (gatewayRequest config tick clientOrderId
      (orderToSend config tick (strategy.onTick tick).order)))
include nonneg submits

theorem run_holdsOnly (tickCount : Nat) {ticks : List MarketTick}
    (all : ∀ tick ∈ ticks, admissible tick) :
    HoldsOnly asked (stateAfter env config tickCount ticks).objects.gateway :=
  ((machine env config).run_invariant
    (fun s => Sound s.objects ∧ HoldsOnly asked s.objects.gateway) admissible
    ⟨initialObjects_sound, fresh_holdsOnly asked⟩
    (fun _ tick held ok => ⟨tickEffect_sound held.1 config (nonneg tick ok),
      (tick_holdsOnly held.1 (nonneg tick ok) held.2 (submits tick ok)).1⟩) ticks all).2

/-- Every fill of a run trades an order with the property, at the price of its tick. -/
theorem run_tradesFor {s : ReplayState} (sound : Sound s.objects)
    (holds : HoldsOnly asked s.objects.gateway) {ticks : List MarketTick}
    (all : ∀ tick ∈ ticks, admissible tick) :
    ∀ row ∈ gatewayFills env config s ticks, ∃ tick ∈ ticks, TradesFor asked tick row := by
  induction ticks generalizing s with
  | nil => simp [gatewayFills]
  | cons tick rest ih =>
    obtain ⟨first, later⟩ := List.forall_mem_cons.1 all
    obtain ⟨after, fills⟩ := tick_holdsOnly sound (nonneg tick first) holds (submits tick first)
    intro row member
    rcases List.mem_append.1 member with now | next
    · exact ⟨tick, List.mem_cons_self, fills row now⟩
    · obtain ⟨other, inside, trades⟩ :=
        ih (tickEffect_sound sound config (nonneg tick first)) after later row next
      exact ⟨other, List.mem_cons_of_mem tick inside, trades⟩

end Replay

end TradingKernel.HeldOrders
