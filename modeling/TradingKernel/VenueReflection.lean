import TradingKernel.AccountingSymmetry
import TradingKernel.ReplayPhases
import Mathlib.Tactic.Linarith

/-!
The venue in a mirror. Reflecting every price exchanges bids and asks, and with
them the side that may trade; a venue that is fair to both sides answers the
reflected ticks with the reflected events. Half a price unit is all that
truncating a mid can cost, and only the adverse selection counter looks there.
-/

namespace TradingKernel.VenueReflection
open Library OrderManager MockVenueGateway ReplayRunner
open AccountingEngine (oppositeSide)
open ExecutionSimulator (Simulator ExecutionReport RestingOrder)

/-- A quote seen from the other side of the book. -/
abbrev reflectTick (pivot : Price) (tick : MarketTick) : MarketTick :=
  { tick with
    bidPrice := pivot - tick.askPrice
    askPrice := pivot - tick.bidPrice
    bidQty := tick.askQty
    askQty := tick.bidQty }

/-- The middle of the quote is a price. -/
def Centered (tick : MarketTick) : Prop := (tick.bidPrice + tick.askPrice) % 2 = 0

instance (tick : MarketTick) : Decidable (Centered tick) :=
  inferInstanceAs (Decidable (_ = _))

section Tick
variable (pivot : Price) (tick : MarketTick)

@[simp] theorem reflectTick_receiveTsNs :
    (reflectTick pivot tick).receiveTsNs = tick.receiveTsNs := rfl

@[simp] theorem reflectTick_oppositeQty (side : Side) :
    (reflectTick pivot tick).oppositeQty (oppositeSide side) = tick.oppositeQty side := by
  cases side <;> rfl

@[simp] theorem reflectTick_ownQty (side : Side) :
    (reflectTick pivot tick).ownQty (oppositeSide side) = tick.ownQty side := by
  cases side <;> rfl

@[simp] theorem reflectTick_touchPrice (side : Side) :
    (reflectTick pivot tick).touchPrice (oppositeSide side) = pivot - tick.touchPrice side := by
  cases side <;> rfl

theorem reflectTick_mid {tick : MarketTick} (centered : Centered tick) :
    (reflectTick pivot tick).mid = pivot - tick.mid := by
  unfold Centered at centered
  have half : tick.bidPrice + tick.askPrice = 2 * tick.mid := by
    unfold MarketTick.mid
    rw [Int.mul_tdiv_cancel' (Int.dvd_of_emod_eq_zero centered)]
  calc (reflectTick pivot tick).mid
      = (2 * (pivot - tick.mid)).tdiv 2 := by
        unfold reflectTick MarketTick.mid at *
        dsimp only at *
        congr 1
        linarith
    _ = pivot - tick.mid := Int.mul_tdiv_cancel_left _ (by decide)

end Tick

/-- A simulator whose order stands on another side, at another price, with
another count of adverse fills. -/
abbrev turnSim (sim : Simulator) (side : Side) (price : Price) (adverseFillCount : Int) :
    Simulator :=
  { sim with
    restingOrder := { sim.restingOrder with side := side, price := price }
    stats := { sim.stats with adverseFillCount := adverseFillCount } }

/-- The second simulator is the first one in the mirror; `exact` says that no
mid has been truncated. -/
inductive MirrorSim (pivot : Price) (exact : Prop) (sim : Simulator) : Simulator → Prop where
  | mk {side : Side} {price : Price} {adverseFillCount : Int} :
      (sim.restingOrder.active = true →
        side = oppositeSide sim.restingOrder.side ∧ price = pivot - sim.restingOrder.price) →
      (exact → adverseFillCount = sim.stats.adverseFillCount) →
      MirrorSim pivot exact sim (turnSim sim side price adverseFillCount)

/-- What the gateway reads of a report, in the mirror. -/
structure MirrorReport (pivot : Price) (report other : ExecutionReport) : Prop where
  hasFill : other.hasFill = report.hasFill
  cancelAcked : other.cancelAcked = report.cancelAcked
  leavesQty : other.leavesQty = report.leavesQty
  quantity : other.fill.quantity = report.fill.quantity
  price : report.hasFill = true → other.fill.price = pivot - report.fill.price

/-- A report without a fill is its own mirror image. -/
theorem mirrorReport_quiet (pivot : Price) {report : ExecutionReport}
    (quiet : report.hasFill = false) : MirrorReport pivot report report :=
  ⟨rfl, rfl, rfl, rfl, fun filled => by simp [quiet] at filled⟩

section Simulator
variable {pivot : Price} {exact : Prop} {sim other : Simulator} {tick : MarketTick}

/-- The resting order trades when the other side's price reaches its limit. -/
theorem isMarketable_reflect (active : sim.restingOrder.active = true) (adverseFillCount : Int) :
    ExecutionSimulator.isMarketable (turnSim sim (oppositeSide sim.restingOrder.side)
        (pivot - sim.restingOrder.price) adverseFillCount) (reflectTick pivot tick) =
      ExecutionSimulator.isMarketable sim tick := by
  unfold ExecutionSimulator.isMarketable
  rw [if_neg (by simp [active]), if_neg (by simp [active])]
  cases sim.restingOrder.side with
  | buy => exact decide_eq_decide.2 (sub_le_sub_iff_left pivot)
  | sell => exact decide_eq_decide.2 (sub_le_sub_iff_left pivot)

theorem detectAdverseSelection_reflect (centered : Centered tick) (adverseFillCount : Int) :
    ExecutionSimulator.detectAdverseSelection (turnSim sim (oppositeSide sim.restingOrder.side)
        (pivot - sim.restingOrder.price) adverseFillCount) (reflectTick pivot tick) =
      ExecutionSimulator.detectAdverseSelection sim tick := by
  have mid := reflectTick_mid pivot centered
  unfold ExecutionSimulator.detectAdverseSelection
  rw [mid]
  cases sim.restingOrder.side with
  | buy =>
    apply decide_eq_decide.2
    constructor <;> intro moved <;> dsimp only at moved ⊢ <;> linarith
  | sell =>
    apply decide_eq_decide.2
    constructor <;> intro moved <;> dsimp only at moved ⊢ <;> linarith

theorem passiveFillFromMarket_mirror (centered : exact → Centered tick)
    (active : sim.restingOrder.active = true) {adverseFillCount : Int}
    (counted : exact → adverseFillCount = sim.stats.adverseFillCount) :
    let turned := turnSim sim (oppositeSide sim.restingOrder.side)
      (pivot - sim.restingOrder.price) adverseFillCount
    MirrorReport pivot (ExecutionSimulator.passiveFillFromMarket sim tick).1
        (ExecutionSimulator.passiveFillFromMarket turned (reflectTick pivot tick)).1 ∧
      MirrorSim pivot exact (ExecutionSimulator.passiveFillFromMarket sim tick).2
        (ExecutionSimulator.passiveFillFromMarket turned (reflectTick pivot tick)).2 := by
  intro turned
  have market : ExecutionSimulator.isMarketable turned (reflectTick pivot tick) =
      ExecutionSimulator.isMarketable sim tick := isMarketable_reflect active adverseFillCount
  have visible : ExecutionSimulator.visibleOppositeQty turned (reflectTick pivot tick) =
      ExecutionSimulator.visibleOppositeQty sim tick :=
    reflectTick_oppositeQty pivot tick sim.restingOrder.side
  have consumed : ExecutionSimulator.queueConsumed turned (reflectTick pivot tick) =
      ExecutionSimulator.queueConsumed sim tick := by
    unfold ExecutionSimulator.queueConsumed
    rw [visible]
  have adverse : exact → ExecutionSimulator.detectAdverseSelection turned (reflectTick pivot tick) =
      ExecutionSimulator.detectAdverseSelection sim tick :=
    fun holds => detectAdverseSelection_reflect (centered holds) adverseFillCount
  simp only [ExecutionSimulator.passiveFillFromMarket, market, visible, consumed,
    ExecutionSimulator.min_eq_if]
  by_cases quiet : (!ExecutionSimulator.isMarketable sim tick) = true
  · simp only [if_pos quiet]
    exact ⟨mirrorReport_quiet pivot rfl, .mk (fun _ => ⟨rfl, rfl⟩) counted⟩
  by_cases none : ExecutionSimulator.visibleOppositeQty sim tick -
      ExecutionSimulator.queueConsumed sim tick ≤ 0
  · simp only [if_neg quiet, if_pos none]
    exact ⟨mirrorReport_quiet pivot rfl, .mk (fun _ => ⟨rfl, rfl⟩) counted⟩
  simp only [if_neg quiet, if_neg none]
  constructor
  · refine ⟨rfl, rfl, rfl, rfl, fun _ => ?_⟩
    dsimp only
    split_ifs <;> rfl
  · have counts : exact → adverseFillCount +
          (if ExecutionSimulator.detectAdverseSelection turned (reflectTick pivot tick) = true
            then 1 else 0) =
        sim.stats.adverseFillCount +
          if ExecutionSimulator.detectAdverseSelection sim tick = true then 1 else 0 := by
      intro holds
      rw [counted holds, adverse holds]
    have sameLeaves : turned.restingOrder.leavesQty = sim.restingOrder.leavesQty := rfl
    simp only [sameLeaves]
    by_cases done : sim.restingOrder.leavesQty - min sim.restingOrder.leavesQty
        (ExecutionSimulator.visibleOppositeQty sim tick -
          ExecutionSimulator.queueConsumed sim tick) = 0
    · simp only [if_pos done]
      exact .mk (fun again => by cases again) counts
    · simp only [if_neg done]
      exact .mk (fun _ => ⟨rfl, rfl⟩) counts

theorem MirrorSim.active (mirrored : MirrorSim pivot exact sim other) :
    other.restingOrder.active = sim.restingOrder.active := by
  cases mirrored
  rfl

/-- The adverse fills are all that a truncated mid can make a difference to. -/
theorem MirrorSim.stats (mirrored : MirrorSim pivot exact sim other) :
    { other.stats with adverseFillCount := sim.stats.adverseFillCount } = sim.stats ∧
      (exact → other.stats.adverseFillCount = sim.stats.adverseFillCount) := by
  cases mirrored with
  | mk turned counted => exact ⟨rfl, counted⟩

theorem onTick_mirror (mirrored : MirrorSim pivot exact sim other)
    (centered : exact → Centered tick) :
    MirrorReport pivot (ExecutionSimulator.onTick sim tick).1
        (ExecutionSimulator.onTick other (reflectTick pivot tick)).1 ∧
      MirrorSim pivot exact (ExecutionSimulator.onTick sim tick).2
        (ExecutionSimulator.onTick other (reflectTick pivot tick)).2 := by
  cases mirrored with
  | @mk side price adverseFillCount turned counted =>
    by_cases active : sim.restingOrder.active = true
    · obtain ⟨rfl, rfl⟩ := turned active
      obtain ⟨report, next⟩ := @passiveFillFromMarket_mirror pivot exact sim tick centered active _
        counted
      simp only [ExecutionSimulator.onTick, active, Bool.not_true, Bool.false_eq_true, if_false,
        report.hasFill]
      generalize ExecutionSimulator.passiveFillFromMarket sim tick = result at *
      generalize ExecutionSimulator.passiveFillFromMarket (turnSim sim
        (oppositeSide sim.restingOrder.side) (pivot - sim.restingOrder.price) adverseFillCount)
        (reflectTick pivot tick) = otherResult at *
      obtain ⟨otherReport, otherNext⟩ := otherResult
      by_cases filled : result.1.hasFill = true
      · simp only [if_pos filled]
        exact ⟨report, next⟩
      · simp only [if_neg filled]
        cases next with
        | mk turnedNext countedNext =>
          split_ifs
          · exact ⟨mirrorReport_quiet pivot rfl, .mk (by simp) countedNext⟩
          · exact ⟨mirrorReport_quiet pivot rfl, .mk turnedNext countedNext⟩
          · exact ⟨mirrorReport_quiet pivot rfl, .mk turnedNext countedNext⟩
    · simp only [ExecutionSimulator.onTick, active, Bool.not_false, if_true]
      exact ⟨mirrorReport_quiet pivot rfl, .mk turned counted⟩

theorem requestCancel_mirror (mirrored : MirrorSim pivot exact sim other) (tsNs : TimestampNs) :
    MirrorSim pivot exact (ExecutionSimulator.requestCancel sim tsNs).2
      (ExecutionSimulator.requestCancel other tsNs).2 := by
  cases mirrored with
  | mk turned counted =>
    simp only [ExecutionSimulator.requestCancel]
    split_ifs
    · exact .mk turned counted
    · exact .mk turned counted

/-- A request on the other side; only a passive one has a limit to reflect. -/
structure MirrorRequest (pivot : Price) (style : ExecutionStyle) (request other : OrderRequest) :
    Prop where
  side : other.side = oppositeSide request.side
  quantity : other.quantity = request.quantity
  limitPrice : style = .passive → other.limitPrice = pivot - request.limitPrice

theorem aggressiveFill_mirror (mirrored : MirrorSim pivot exact sim other)
    {request otherRequest : OrderRequest} {style : ExecutionStyle}
    (requested : MirrorRequest pivot style request otherRequest) :
    MirrorReport pivot (ExecutionSimulator.aggressiveFill sim tick request).1
        (ExecutionSimulator.aggressiveFill other (reflectTick pivot tick) otherRequest).1 ∧
      MirrorSim pivot exact (ExecutionSimulator.aggressiveFill sim tick request).2
        (ExecutionSimulator.aggressiveFill other (reflectTick pivot tick) otherRequest).2 := by
  cases mirrored with
  | mk turned counted =>
    simp only [ExecutionSimulator.aggressiveFill, requested.side, requested.quantity,
      reflectTick_oppositeQty, reflectTick_touchPrice, ExecutionSimulator.min_eq_if]
    split_ifs
    · exact ⟨mirrorReport_quiet pivot rfl, .mk turned counted⟩
    · exact ⟨⟨rfl, rfl, rfl, rfl, fun _ => rfl⟩, .mk turned counted⟩
    · exact ⟨⟨rfl, rfl, rfl, rfl, fun _ => rfl⟩, .mk turned counted⟩

theorem submitOrder_mirror (mirrored : MirrorSim pivot exact sim other)
    {request otherRequest : OrderRequest} {style : ExecutionStyle}
    (requested : MirrorRequest pivot style request otherRequest) :
    MirrorReport pivot (ExecutionSimulator.submitOrder sim tick request style).1
        (ExecutionSimulator.submitOrder other (reflectTick pivot tick) otherRequest style).1 ∧
      MirrorSim pivot exact (ExecutionSimulator.submitOrder sim tick request style).2
        (ExecutionSimulator.submitOrder other (reflectTick pivot tick) otherRequest style).2 := by
  have traded := @aggressiveFill_mirror _ _ _ _ tick mirrored _ _ _ requested
  simp only [ExecutionSimulator.submitOrder, requested.quantity, mirrored.active]
  split_ifs with nothing aggressive resting
  · exact ⟨mirrorReport_quiet pivot rfl, mirrored⟩
  · exact traded
  · cases mirrored with
    | mk turned counted => exact ⟨mirrorReport_quiet pivot rfl, .mk turned counted⟩
  · have passive : style = .passive := by
      cases style
      · exact absurd rfl aggressive
      · rfl
    cases mirrored with
    | mk turned counted =>
      simp only [requested.side, requested.limitPrice passive, reflectTick_ownQty]
      exact ⟨mirrorReport_quiet pivot rfl, .mk (fun _ => ⟨rfl, rfl⟩) counted⟩

end Simulator

/-- Fills are the only venue events that carry a price. -/
def reflectEvent (pivot : Price) (event : VenueEvent) : VenueEvent :=
  if event.type = .fill then { event with fillPrice := pivot - event.fillPrice } else event

def reflectBatch (pivot : Price) (batch : VenueEventBatch) : VenueEventBatch :=
  { batch with events := batch.events.map (reflectEvent pivot) }

theorem pushEvent_reflect (pivot : Price) (batch : VenueEventBatch) (event : VenueEvent) :
    pushEvent (reflectBatch pivot batch) (reflectEvent pivot event) =
      reflectBatch pivot (pushEvent batch event) := by
  simp only [pushEvent, reflectBatch, List.length_map]
  split_ifs
  · rfl
  · simp

/-- Every other event is pushed as it is. -/
theorem pushEvent_priceless (pivot : Price) (batch : VenueEventBatch) {event : VenueEvent}
    (other : event.type ≠ .fill) :
    pushEvent (reflectBatch pivot batch) event = reflectBatch pivot (pushEvent batch event) := by
  rw [← pushEvent_reflect, reflectEvent, if_neg other]

/-- A gateway with another simulator, and other sides and limits in its orders. -/
abbrev turnGateway (gateway : Gateway) (execution : Simulator) (side : Side) (limitPrice : Price)
    (servedSide : Side) (servedPrice : Price) : Gateway :=
  { gateway with
    pendingNew := { gateway.pendingNew with
      request := { gateway.pendingNew.request with side := side, limitPrice := limitPrice } }
    activeOrder := { gateway.activeOrder with side := servedSide, limitPrice := servedPrice }
    execution := execution }

/-- The second gateway is the first one in the mirror. -/
inductive MirrorGateway (pivot : Price) (exact : Prop) (gateway : Gateway) : Gateway → Prop where
  | mk {execution : Simulator} {side servedSide : Side} {limitPrice servedPrice : Price} :
      MirrorSim pivot exact gateway.execution execution →
      (gateway.pendingNew.active = true →
        MirrorRequest pivot gateway.pendingNew.request.style
          (orderRequest gateway.pendingNew.request)
          ⟨side, gateway.pendingNew.request.quantity, limitPrice⟩) →
      MirrorGateway pivot exact gateway
        (turnGateway gateway execution side limitPrice servedSide servedPrice)

section Gateway
variable {pivot : Price} {exact : Prop} {gateway other : Gateway} {tick : MarketTick}

theorem MirrorGateway.execution (mirrored : MirrorGateway pivot exact gateway other) :
    MirrorSim pivot exact gateway.execution other.execution := by
  cases mirrored with
  | mk execution pending => exact execution

theorem applyExecutionReport_mirror (mirrored : MirrorGateway pivot exact gateway other)
    {report otherReport : ExecutionReport} (reported : MirrorReport pivot report otherReport)
    (batch : VenueEventBatch) (eventTsNs : TimestampNs) :
    applyExecutionReport other (reflectBatch pivot batch) otherReport eventTsNs =
      reflectBatch pivot (applyExecutionReport gateway batch report eventTsNs) := by
  cases mirrored with
  | mk execution pending =>
    have filled : report.hasFill = true →
        pushEvent (reflectBatch pivot batch) ⟨.fill, eventTsNs, gateway.activeOrder.venueOrderId,
            otherReport.fill.quantity, otherReport.fill.price⟩ =
          reflectBatch pivot (pushEvent batch ⟨.fill, eventTsNs,
            gateway.activeOrder.venueOrderId, report.fill.quantity, report.fill.price⟩) := by
      intro hasFill
      rw [← pushEvent_reflect, reported.quantity, reported.price hasFill]
      rfl
    simp only [applyExecutionReport, reported.hasFill, reported.cancelAcked]
    by_cases fills : (report.hasFill && gateway.activeOrder.active) = true
    · have hasFill : report.hasFill = true := (Bool.and_eq_true_iff.1 fills).1
      simp only [if_pos fills, filled hasFill]
      split_ifs
      · exact pushEvent_priceless pivot _ (by simp)
      · rfl
    · simp only [if_neg fills]
      split_ifs
      · exact pushEvent_priceless pivot _ (by simp)
      · rfl

theorem closeActiveOrderIfDone_mirror (mirrored : MirrorGateway pivot exact gateway other) :
    MirrorGateway pivot exact (closeActiveOrderIfDone gateway) (closeActiveOrderIfDone other) := by
  cases mirrored with
  | mk execution pending =>
    simp only [closeActiveOrderIfDone, execution.active]
    split_ifs
    · exact .mk execution pending
    · exact .mk execution pending

theorem matchResting_mirror (mirrored : MirrorGateway pivot exact gateway other)
    (centered : exact → Centered tick) (batch : VenueEventBatch) :
    (matchResting other (reflectTick pivot tick) (reflectBatch pivot batch)).1 =
        reflectBatch pivot (matchResting gateway tick batch).1 ∧
      MirrorGateway pivot exact (matchResting gateway tick batch).2
        (matchResting other (reflectTick pivot tick) (reflectBatch pivot batch)).2 := by
  cases mirrored with
  | @mk _ side servedSide limitPrice servedPrice execution pending =>
    obtain ⟨report, next⟩ := onTick_mirror execution centered
    simp only [matchResting, execution.active, report.leavesQty]
    split_ifs
    · have matched := @MirrorGateway.mk pivot exact { gateway with
          activeOrder := { gateway.activeOrder with
            leavesQty := (ExecutionSimulator.onTick gateway.execution tick).1.leavesQty }
          execution := (ExecutionSimulator.onTick gateway.execution tick).2 } _ side servedSide
        limitPrice servedPrice next pending
      exact ⟨applyExecutionReport_mirror matched report batch _,
        closeActiveOrderIfDone_mirror matched⟩
    · exact ⟨rfl, .mk execution pending⟩

theorem cancelAndMatch_mirror (mirrored : MirrorGateway pivot exact gateway other)
    (centered : exact → Centered tick) (batch : VenueEventBatch) :
    (cancelAndMatch other (reflectTick pivot tick) (reflectBatch pivot batch)).1 =
        reflectBatch pivot (cancelAndMatch gateway tick batch).1 ∧
      MirrorGateway pivot exact (cancelAndMatch gateway tick batch).2
        (cancelAndMatch other (reflectTick pivot tick) (reflectBatch pivot batch)).2 := by
  have matched := matchResting_mirror mirrored centered batch
  cases mirrored with
  | @mk _ side servedSide limitPrice servedPrice execution pending =>
    simp only [cancelAndMatch]
    split_ifs
    · exact ⟨pushEvent_priceless pivot batch (by simp), .mk execution pending⟩
    · have forwarded := @MirrorGateway.mk pivot exact { gateway with
          activeOrder := { gateway.activeOrder with cancelSent := false }
          execution :=
            (ExecutionSimulator.requestCancel gateway.execution tick.receiveTsNs).2 } _ side
        servedSide limitPrice servedPrice (requestCancel_mirror execution tick.receiveTsNs) pending
      exact matchResting_mirror forwarded centered batch
    · exact matched

theorem acknowledge_mirror (mirrored : MirrorGateway pivot exact gateway other)
    (active : gateway.pendingNew.active = true) (tick : MarketTick) :
    (acknowledge other (reflectTick pivot tick)).1 =
        reflectBatch pivot (acknowledge gateway tick).1 ∧
      MirrorGateway pivot exact (acknowledge gateway tick).2
        (acknowledge other (reflectTick pivot tick)).2 := by
  cases mirrored with
  | @mk otherExecution side servedSide limitPrice servedPrice execution pending =>
    obtain ⟨report, next⟩ := @submitOrder_mirror _ _ _ _ tick execution _ _ _ (pending active)
    have acked : pushEvent .empty ⟨.newAck, tick.receiveTsNs, gateway.nextVenueOrderId, 0, 0⟩ =
        reflectBatch pivot (pushEvent .empty
          ⟨.newAck, tick.receiveTsNs, gateway.nextVenueOrderId, 0, 0⟩) :=
      pushEvent_priceless pivot .empty (by simp)
    let result := ExecutionSimulator.submitOrder gateway.execution tick
      (orderRequest gateway.pendingNew.request) gateway.pendingNew.request.style
    -- The gateway that serves the order, before it is known whether anything is left of it.
    let serving : Gateway := { gateway with
      nextVenueOrderId := gateway.nextVenueOrderId + 1
      activeOrder := ⟨true, gateway.pendingNew.request.clientOrderId, gateway.nextVenueOrderId,
        gateway.pendingNew.request.side, gateway.pendingNew.request.limitPrice,
        result.1.leavesQty, false, 0, false⟩
      execution := result.2 }
    have served := @MirrorGateway.mk pivot exact serving _ side side limitPrice limitPrice next
      pending
    have reported := applyExecutionReport_mirror served report
      (pushEvent .empty ⟨.newAck, tick.receiveTsNs, gateway.nextVenueOrderId, 0, 0⟩)
      tick.receiveTsNs
    rw [← acked] at reported
    have sameRequest : orderRequest (turnGateway gateway otherExecution side limitPrice servedSide
        servedPrice).pendingNew.request =
          ⟨side, gateway.pendingNew.request.quantity, limitPrice⟩ := rfl
    simp only [acknowledge, sameRequest, report.leavesQty]
    split_ifs
    · have done := @MirrorGateway.mk pivot exact { serving with
          activeOrder := { serving.activeOrder with leavesQty := 0 }
          pendingNew := { serving.pendingNew with active := false } } _ side side limitPrice
        limitPrice next (by simp)
      exact ⟨(congrArg (pushEvent · _) reported).trans (pushEvent_priceless pivot _ (by simp)),
        closeActiveOrderIfDone_mirror done⟩
    · have kept := @MirrorGateway.mk pivot exact { serving with
          pendingNew := { serving.pendingNew with active := false } } _ side side limitPrice
        limitPrice next (by simp)
      exact ⟨reported, closeActiveOrderIfDone_mirror kept⟩

/-- The reflected gateway answers a reflected tick with the reflected batch. -/
theorem gatewayTick_mirror (mirrored : MirrorGateway pivot exact gateway other)
    (centered : exact → Centered tick) :
    (MockVenueGateway.onTick other (reflectTick pivot tick)).1 =
        reflectBatch pivot (MockVenueGateway.onTick gateway tick).1 ∧
      MirrorGateway pivot exact (MockVenueGateway.onTick gateway tick).2
        (MockVenueGateway.onTick other (reflectTick pivot tick)).2 := by
  have unanswered := cancelAndMatch_mirror mirrored centered .empty
  have acknowledged := fun active => @acknowledge_mirror _ _ _ _ mirrored active tick
  cases mirrored with
  | mk execution pending =>
    simp only [MockVenueGateway.onTick]
    split_ifs with ready rejects
    · exact ⟨rfl, .mk execution (by simp)⟩
    · obtain ⟨batch, next⟩ := acknowledged (Bool.and_eq_true_iff.1 ready).1
      rw [batch]
      exact cancelAndMatch_mirror next centered _
    · exact unanswered

/-- A gateway order on the other side. -/
structure MirrorOrder (pivot : Price) (request other : GatewayNewOrder) : Prop where
  clientOrderId : other.clientOrderId = request.clientOrderId
  style : other.style = request.style
  submitTsNs : other.submitTsNs = request.submitTsNs
  request : MirrorRequest pivot request.style (orderRequest request) (orderRequest other)

theorem sendNew_mirror (mirrored : MirrorGateway pivot exact gateway other)
    {request otherRequest : GatewayNewOrder} (requested : MirrorOrder pivot request otherRequest) :
    (sendNew other otherRequest).1 = (sendNew gateway request).1 ∧
      MirrorGateway pivot exact (sendNew gateway request).2 (sendNew other otherRequest).2 := by
  obtain ⟨clientOrderId, side, quantity, limitPrice, style, submitTsNs⟩ := otherRequest
  obtain ⟨sameId, sameStyle, sameTs, sameRequest⟩ := requested
  dsimp only at sameId sameStyle sameTs
  have sameQuantity : quantity = request.quantity := sameRequest.quantity
  subst sameId sameStyle sameTs sameQuantity
  cases mirrored with
  | mk execution pending =>
    simp only [sendNew]
    split_ifs
    · exact ⟨rfl, .mk execution pending⟩
    · exact ⟨rfl, .mk execution (fun _ => sameRequest)⟩

theorem sendCancel_mirror (mirrored : MirrorGateway pivot exact gateway other)
    (requestTsNs : TimestampNs) :
    (sendCancel other requestTsNs).1 = (sendCancel gateway requestTsNs).1 ∧
      MirrorGateway pivot exact (sendCancel gateway requestTsNs).2
        (sendCancel other requestTsNs).2 := by
  cases mirrored with
  | mk execution pending =>
    simp only [sendCancel]
    split_ifs
    · exact ⟨rfl, .mk execution pending⟩
    · exact ⟨rfl, .mk execution pending⟩

end Gateway

end TradingKernel.VenueReflection
