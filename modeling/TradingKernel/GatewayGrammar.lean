import Mathlib.Algebra.Ring.Int.Defs
import TradingKernel.GatewayInvariant

/-!
The event stream of a gateway under any interleaving of its calls. Every
non-empty batch belongs to the lifecycle of one accepted order; lifecycles
follow one another in submission order and never overlap.
-/

namespace TradingKernel.GatewayGrammar
open Library OrderManager MockVenueGateway GatewayInvariant
open ExecutionSimulator (passiveFillQty reachableQty)

inductive Call where
  | sendNew (request : GatewayNewOrder)
  | sendCancel (requestTsNs : TimestampNs)
  | onTick (tick : MarketTick)
  deriving DecidableEq, Repr

inductive Reply where
  | accepted (ok : Bool)
  | batch (batch : VenueEventBatch)
  deriving DecidableEq, Repr

def machine : Machine Gateway Call Reply where
  step gateway
    | .sendNew request =>
      let result := sendNew gateway request
      (.accepted result.1, result.2)
    | .sendCancel requestTsNs =>
      let result := sendCancel gateway requestTsNs
      (.accepted result.1, result.2)
    | .onTick tick =>
      let result := onTick gateway tick
      (.batch result.1, result.2)

theorem step_coherent {gateway : Gateway} (coherent : Coherent gateway) (call : Call) :
    Coherent (machine.step gateway call).2 := by
  cases call with
  | sendNew request => exact sendNew_coherent coherent request
  | sendCancel requestTsNs => exact sendCancel_coherent coherent requestTsNs
  | onTick tick => exact onTick_coherent coherent tick

/-- Every gateway a run can reach, whatever its ticks display, is coherent. -/
theorem run_coherent (newAckLatencyNs cancelSendLatencyNs : TimestampNs) (calls : List Call) :
    Coherent (machine.run (create newAckLatencyNs cancelSendLatencyNs) calls) := by
  apply machine.run_invariant Coherent (fun _ => True)
  · exact (create_wellFormed newAckLatencyNs cancelSendLatencyNs).coherent
  · exact fun gateway call coherent _ => step_coherent coherent call
  · exact fun _ _ => trivial

/-- Commands are arbitrary; ticks display non-negative quantities. -/
def Admissible : Call → Prop
  | .onTick tick => NonNegative tick
  | _ => True

/-- A returned batch with the tick it answers. -/
abbrev TickBatch := MarketTick × List VenueEvent

def nonEmpty (tick : MarketTick) (events : List VenueEvent) : List TickBatch :=
  if events = [] then [] else [(tick, events)]

/-- The non-empty batches of a history. -/
def batches (past : List (Call × Reply)) : List TickBatch :=
  past.flatMap fun
    | (.onTick tick, .batch batch) => nonEmpty tick batch.events
    | _ => []

/-- The orders that `sendNew` accepted in a history. -/
def accepted (past : List (Call × Reply)) : List GatewayNewOrder :=
  past.flatMap fun
    | (.sendNew request, .accepted true) => [request]
    | _ => []

def stream (answers : List TickBatch) : List VenueEvent := answers.flatMap Prod.snd

def ofType (type : VenueEventType) (events : List VenueEvent) : List VenueEvent :=
  events.filter (fun event => event.type = type)

/-- Total quantity of the fills among some events. -/
def filled (events : List VenueEvent) : Int := ((ofType .fill events).map (·.fillQty)).sum

def ackedIds (answers : List TickBatch) : List Int :=
  (ofType .newAck (stream answers)).map (·.venueOrderId)

def EndsWithFill (events : List VenueEvent) : Prop :=
  ∃ last ∈ events.getLast?, last.type = .fill

structure Lifecycle where
  order : GatewayNewOrder
  answers : List TickBatch
  deriving DecidableEq, Repr

def Lifecycle.events (lifecycle : Lifecycle) : List VenueEvent := stream lifecycle.answers

/-- Fills and at most one cancel reject, the latter only under an odd venue id. -/
structure Body (venueOrderId : Int) (body : List VenueEvent) : Prop where
  named : ∀ event ∈ body, event.venueOrderId = venueOrderId
  kinds : ∀ event ∈ body, event.type = .fill ∨ event.type = .cancelReject
  oddReject : ∀ event ∈ body, event.type = .cancelReject → venueOrderId.tmod 2 = 1
  oneReject : (ofType .cancelReject body).length ≤ 1

/-- The event that ends a passive lifecycle. -/
def Finishes (order : GatewayNewOrder) (body : List VenueEvent) (last : VenueEvent) : Prop :=
  filled body < order.quantity ∧
    (last.type = .cancelAck ∨ last.type = .fill ∧ filled body + last.fillQty = order.quantity)

inductive Complete : Lifecycle → Prop where
  | rejected (order : GatewayNewOrder) (tick : MarketTick) :
      Complete ⟨order, [(tick, [⟨.newReject, tick.receiveTsNs, 0, 0, 0⟩])]⟩
  | aggressive {order : GatewayNewOrder} {tick : MarketTick} {ack : VenueEvent}
      {fills expiry : List VenueEvent} :
      order.style = .aggressive → ack.type = .newAck →
      fills.length ≤ 1 →
      (∀ event ∈ fills, event.type = .fill ∧ event.venueOrderId = ack.venueOrderId) →
      filled fills ≤ order.quantity →
      expiry = (if filled fills < order.quantity then
        [⟨.expired, tick.receiveTsNs, ack.venueOrderId, 0, 0⟩] else []) →
      Complete ⟨order, [(tick, ack :: (fills ++ expiry))]⟩
  | passive {order : GatewayNewOrder} {answers : List TickBatch} {ack last : VenueEvent}
      {body : List VenueEvent} :
      order.style = .passive → stream answers = ack :: (body ++ [last]) → ack.type = .newAck →
      Body ack.venueOrderId body → last.venueOrderId = ack.venueOrderId →
      Finishes order body last → Complete ⟨order, answers⟩

/-- The lifecycle of a passive order that is still at the venue. -/
inductive Unfinished : Lifecycle → Prop where
  | passive {order : GatewayNewOrder} {answers : List TickBatch} {ack : VenueEvent}
      {body : List VenueEvent} :
      order.style = .passive → stream answers = ack :: body → ack.type = .newAck →
      Body ack.venueOrderId body → filled body < order.quantity → Unfinished ⟨order, answers⟩

/-- What holds of each batch answered to an order of the given side. -/
structure BatchFits (side : Side) (answer : TickBatch) : Prop where
  atTick : ∀ event ∈ answer.2, event.tsNs = answer.1.receiveTsNs
  room : answer.2.length ≤ 3
  oneFill : (ofType .fill answer.2).length ≤ 1
  positive : ∀ event ∈ answer.2, event.type = .fill → 0 < event.fillQty
  displayed : ∀ event ∈ answer.2, event.type = .fill →
    event.fillQty ≤ answer.1.oppositeQty side

/-- The grammar of a history, given its split into lifecycles. -/
structure Grammar (past : List (Call × Reply)) (finished : List Lifecycle)
    (current : Option Lifecycle) : Prop where
  split : batches past = (finished ++ current.toList).flatMap Lifecycle.answers
  complete : ∀ lifecycle ∈ finished, Complete lifecycle
  unfinished : ∀ lifecycle ∈ current, Unfinished lifecycle
  inOrder : (finished ++ current.toList).map Lifecycle.order <+: accepted past
  atMostOnePending : (accepted past).length ≤ finished.length + 1
  freshIds : (ackedIds (batches past)).Pairwise (· < ·)
  fits : ∀ lifecycle ∈ finished ++ current.toList, ∀ answer ∈ lifecycle.answers,
    BatchFits lifecycle.order.side answer
  total : ∀ lifecycle ∈ finished, filled lifecycle.events ≤ lifecycle.order.quantity ∧
    (filled lifecycle.events = lifecycle.order.quantity ↔ EndsWithFill lifecycle.events)
  short : ∀ lifecycle ∈ current, filled lifecycle.events < lifecycle.order.quantity
  noOverflow : ∀ call batch, (call, Reply.batch batch) ∈ past → batch.overflowCount = 0

@[simp] theorem stream_nil : stream [] = [] := rfl

@[simp] theorem stream_append (first second : List TickBatch) :
    stream (first ++ second) = stream first ++ stream second := List.flatMap_append

@[simp] theorem stream_singleton (answer : TickBatch) : stream [answer] = answer.2 := by
  simp [stream]

@[simp] theorem stream_nonEmpty (tick : MarketTick) (events : List VenueEvent) :
    stream (nonEmpty tick events) = events := by
  by_cases empty : events = []
  · simp [nonEmpty, empty]
  · simp [nonEmpty, empty]

@[simp] theorem ofType_nil (type : VenueEventType) : ofType type [] = [] := rfl

@[simp] theorem ofType_append (type : VenueEventType) (first second : List VenueEvent) :
    ofType type (first ++ second) = ofType type first ++ ofType type second :=
  List.filter_append first second

theorem ofType_cons (type : VenueEventType) (event : VenueEvent) (events : List VenueEvent) :
    ofType type (event :: events) =
      if event.type = type then event :: ofType type events else ofType type events := by
  simp [ofType, List.filter_cons]

@[simp] theorem filled_nil : filled [] = 0 := rfl

@[simp] theorem filled_append (first second : List VenueEvent) :
    filled (first ++ second) = filled first + filled second := by
  simp [filled]

theorem filled_cons (event : VenueEvent) (events : List VenueEvent) :
    filled (event :: events) =
      (if event.type = .fill then event.fillQty else 0) + filled events := by
  by_cases fill : event.type = .fill <;> simp [filled, ofType_cons, fill]

/-- The events answered to an open order describe the gateway's active order. -/
structure Follows (gateway : Gateway) (order : GatewayNewOrder) (body : List VenueEvent) :
    Prop where
  side : gateway.activeOrder.side = order.side
  shape : Body gateway.activeOrder.venueOrderId body
  unrejected : gateway.activeOrder.cancelRejectOnceDone = false → ofType .cancelReject body = []
  leaves : filled body + gateway.activeOrder.leavesQty = order.quantity

theorem Body.append_fill {venueOrderId : Int} {body : List VenueEvent}
    (held : Body venueOrderId body) {event : VenueEvent} (named : event.venueOrderId = venueOrderId)
    (fill : event.type = .fill) : Body venueOrderId (body ++ [event]) := by
  have plain : event.type ≠ .cancelReject := by simp [fill]
  constructor
  · exact List.forall_mem_append.2 ⟨held.named, List.forall_mem_singleton.2 named⟩
  · exact List.forall_mem_append.2 ⟨held.kinds, List.forall_mem_singleton.2 (.inl fill)⟩
  · exact List.forall_mem_append.2
      ⟨held.oddReject, List.forall_mem_singleton.2 fun reject => absurd reject plain⟩
  · simpa [ofType_cons, plain] using held.oneReject

theorem Body.append_reject {venueOrderId : Int} {body : List VenueEvent}
    (held : Body venueOrderId body) {event : VenueEvent} (named : event.venueOrderId = venueOrderId)
    (reject : event.type = .cancelReject) (odd : venueOrderId.tmod 2 = 1)
    (first : ofType .cancelReject body = []) : Body venueOrderId (body ++ [event]) := by
  constructor
  · exact List.forall_mem_append.2 ⟨held.named, List.forall_mem_singleton.2 named⟩
  · exact List.forall_mem_append.2 ⟨held.kinds, List.forall_mem_singleton.2 (.inr reject)⟩
  · exact fun _ _ _ => odd
  · simp [ofType_cons, reject, first]

theorem BatchFits.quiet {side : Side} {tick : MarketTick} : BatchFits side (tick, []) := by
  constructor <;> simp

/-- A batch of one event fits if its fill, when it is one, is displayed. -/
theorem BatchFits.single {side : Side} {tick : MarketTick} {event : VenueEvent}
    (atTick : event.tsNs = tick.receiveTsNs)
    (displayed : event.type = .fill → 0 < event.fillQty ∧ event.fillQty ≤ tick.oppositeQty side) :
    BatchFits side (tick, [event]) := by
  constructor
  · simpa using atTick
  · simp
  · exact (List.length_filter_le _ _).trans (by simp)
  · simpa using fun fill => (displayed fill).1
  · simpa using fun fill => (displayed fill).2

theorem BatchFits.afterAck {side : Side} {tick : MarketTick} {events : List VenueEvent}
    (fits : BatchFits side (tick, events)) (short : events.length ≤ 2) {ack : VenueEvent}
    (newAck : ack.type = .newAck) (atTick : ack.tsNs = tick.receiveTsNs) :
    BatchFits side (tick, ack :: events) := by
  have plain : ack.type ≠ .fill := by simp [newAck]
  constructor
  · exact List.forall_mem_cons.2 ⟨atTick, fits.atTick⟩
  · simp only [List.length_cons]
    omega
  · simpa [ofType_cons, plain] using fits.oneFill
  · exact List.forall_mem_cons.2 ⟨fun fill => absurd fill plain, fits.positive⟩
  · exact List.forall_mem_cons.2 ⟨fun fill => absurd fill plain, fits.displayed⟩

/-- Matching either keeps the order open or ends it with its last event. -/
theorem matches_follows {gateway next : Gateway} {tick : MarketTick} {events : List VenueEvent}
    {order : GatewayNewOrder} {body : List VenueEvent} (matched : Matches gateway tick events next)
    (wellFormed : WellFormed gateway) (active : gateway.activeOrder.active = true)
    (follows : Follows gateway order body) :
    (next.activeOrder.active = true ∧
        next.activeOrder.venueOrderId = gateway.activeOrder.venueOrderId ∧
        Follows next order (body ++ events)) ∨
      (next.activeOrder.active = false ∧ ∃ last, events = [last] ∧
        last.venueOrderId = gateway.activeOrder.venueOrderId ∧ Finishes order body last) := by
  obtain ⟨leaves, positive⟩ := wellFormed.leaves active
  have total := follows.leaves
  cases matched with
  | fills reach fills =>
    by_cases done : gateway.activeOrder.leavesQty - passiveFillQty gateway.execution tick = 0
    · refine .inr ⟨by simp [done], _, rfl, rfl, by omega, .inr ⟨rfl, ?_⟩⟩
      simp only
      omega
    · refine .inl ⟨by simp [done], rfl, follows.side, ?_, ?_, ?_⟩
      · exact follows.shape.append_fill rfl rfl
      · intro notDone
        simp [ofType_cons, follows.unrejected notDone]
      · simp only [filled_append, filled_cons, filled_nil, if_true]
        omega
  | cancelAcked reach due =>
    exact .inr ⟨rfl, _, rfl, rfl, by omega, .inl rfl⟩
  | waits reach early =>
    refine .inl ⟨active, rfl, ?_⟩
    rw [List.append_nil]
    exact ⟨follows.side, follows.shape, follows.unrejected, follows.leaves⟩

theorem matches_fits {gateway next : Gateway} {tick : MarketTick} {events : List VenueEvent}
    (matched : Matches gateway tick events next) (wellFormed : WellFormed gateway)
    (active : gateway.activeOrder.active = true) (nonneg : NonNegative tick) :
    BatchFits gateway.activeOrder.side (tick, events) ∧ events.length ≤ 1 := by
  obtain ⟨leaves, positive⟩ := wellFormed.leaves active
  have side := (wellFormed.order active).1
  have bounds := ExecutionSimulator.reachable_bounds (wellFormed.queue active)
    (nonneg.oppositeQty gateway.execution.restingOrder.side)
  cases matched with
  | fills reach fills =>
    refine ⟨.single rfl fun _ => ⟨?_, ?_⟩, by simp⟩
    · exact lt_min positive reach
    · rw [← side]
      exact (min_le_right _ _).trans bounds.2.1
  | cancelAcked reach due => exact ⟨.single rfl (by simp), by simp⟩
  | waits reach early => exact ⟨.quiet, by simp⟩

theorem iocFillQty_le (request : GatewayNewOrder) (tick : MarketTick) :
    iocFillQty request tick ≤ request.quantity ∧
      iocFillQty request tick ≤ tick.oppositeQty request.side :=
  ⟨min_le_right _ _, min_le_left _ _⟩

/-- The fills of an aggressive order's only batch. -/
def iocFills (request : GatewayNewOrder) (tick : MarketTick) (venueOrderId : Int) :
    List VenueEvent :=
  if 0 < iocFillQty request tick then
    [⟨.fill, tick.receiveTsNs, venueOrderId, iocFillQty request tick,
      tick.touchPrice request.side⟩]
  else []

theorem filled_iocFills (request : GatewayNewOrder) {tick : MarketTick} (venueOrderId : Int)
    (nonneg : NonNegative tick) (positive : 0 < request.quantity) :
    filled (iocFills request tick venueOrderId) = iocFillQty request tick := by
  have displayed := nonneg.oppositeQty request.side
  by_cases reach : 0 < iocFillQty request tick
  · simp [iocFills, reach, filled_cons]
  · have least : 0 ≤ iocFillQty request tick :=
      le_min displayed (by simpa [orderRequest] using positive.le)
    simp only [iocFills, if_neg reach, filled_nil]
    omega

theorem ioc_complete {request : GatewayNewOrder} {tick : MarketTick} (venueOrderId : Int)
    (nonneg : NonNegative tick) (positive : 0 < request.quantity)
    (style : request.style = .aggressive) :
    Complete ⟨request, [(tick, iocEvents request tick venueOrderId)]⟩ := by
  have total := filled_iocFills request venueOrderId nonneg positive
  apply @Complete.aggressive _ _ _ (iocFills request tick venueOrderId) _ style rfl
  · unfold iocFills
    split_ifs <;> simp
  · unfold iocFills
    split_ifs <;> simp
  · rw [total]
    exact (iocFillQty_le request tick).1
  · rw [total]

theorem ioc_fits (request : GatewayNewOrder) (tick : MarketTick) (venueOrderId : Int) :
    BatchFits request.side (tick, iocEvents request tick venueOrderId) := by
  have displayed := (iocFillQty_le request tick).2
  unfold iocEvents
  apply BatchFits.afterAck _ _ rfl rfl
  · constructor
    · split_ifs <;> simp
    · split_ifs <;> simp
    · split_ifs <;> simp [ofType]
    · split_ifs with reach <;> simp [reach]
    · split_ifs <;> simp [displayed]
  · split_ifs <;> simp

/-- The gateway's active order is the open lifecycle, if there is one. -/
inductive Holds (gateway : Gateway) : Option Lifecycle → Prop where
  | free : gateway.activeOrder.active = false → Holds gateway none
  | resting {order : GatewayNewOrder} {answers : List TickBatch} {ack : VenueEvent}
      {body : List VenueEvent} :
      gateway.activeOrder.active = true → order.style = .passive →
      stream answers = ack :: body → ack.type = .newAck →
      gateway.activeOrder.venueOrderId = ack.venueOrderId → Follows gateway order body →
      Holds gateway (some ⟨order, answers⟩)

def pendingOrder (gateway : Gateway) : List GatewayNewOrder :=
  if gateway.pendingNew.active then [gateway.pendingNew.request] else []

/-- The lifecycles seen so far account for every answer and every order. -/
structure Tracks (answers : List TickBatch) (orders : List GatewayNewOrder) (gateway : Gateway)
    (finished : List Lifecycle) (current : Option Lifecycle) : Prop where
  wellFormed : WellFormed gateway
  split : answers = (finished ++ current.toList).flatMap Lifecycle.answers
  inOrder : orders = (finished ++ current.toList).map Lifecycle.order ++ pendingOrder gateway
  complete : ∀ lifecycle ∈ finished, Complete lifecycle
  holds : Holds gateway current
  positive : ∀ lifecycle ∈ finished ++ current.toList, 0 < lifecycle.order.quantity
  fits : ∀ lifecycle ∈ finished ++ current.toList, ∀ answer ∈ lifecycle.answers,
    BatchFits lifecycle.order.side answer

/-- What one tick does to the order it answers. -/
def Answered (next : Gateway) (lifecycle : Lifecycle) : Prop :=
  (next.activeOrder.active = false ∧ Complete lifecycle) ∨ Holds next (some lifecycle)

/-- Appending one tick's answer to the order it concerns keeps the account. -/
theorem tracks_advance {gateway next : Gateway} {answers : List TickBatch}
    {orders : List GatewayNewOrder} {finished : List Lifecycle} {current : Option Lifecycle}
    (tracks : Tracks answers orders gateway finished current) {order : GatewayNewOrder}
    {earlier : List TickBatch} {tick : MarketTick} {events : List VenueEvent}
    (split : answers = finished.flatMap Lifecycle.answers ++ earlier)
    (inOrder : orders = finished.map Lifecycle.order ++ [order])
    (earlierFits : ∀ answer ∈ earlier, BatchFits order.side answer)
    (fits : BatchFits order.side (tick, events)) (positive : 0 < order.quantity)
    (wellFormed : WellFormed next) (free : next.pendingNew.active = false)
    (answered : Answered next ⟨order, earlier ++ nonEmpty tick events⟩) :
    ∃ finished current,
      Tracks (answers ++ nonEmpty tick events) orders next finished current := by
  have none : pendingOrder next = [] := by simp [pendingOrder, free]
  have nextFits : ∀ answer ∈ earlier ++ nonEmpty tick events, BatchFits order.side answer := by
    refine List.forall_mem_append.2 ⟨earlierFits, ?_⟩
    unfold nonEmpty
    split_ifs
    · exact List.forall_mem_nil _
    · exact List.forall_mem_singleton.2 fits
  have oldFits := (List.forall_mem_append.1 tracks.fits).1
  have oldPositive := (List.forall_mem_append.1 tracks.positive).1
  rcases answered with ⟨idle, complete⟩ | holds
  · refine ⟨finished ++ [⟨order, earlier ++ nonEmpty tick events⟩], .none, wellFormed, ?_, ?_, ?_,
      .free idle, ?_, ?_⟩
    · simp [split]
    · simp [inOrder, none]
    · exact List.forall_mem_append.2 ⟨tracks.complete, List.forall_mem_singleton.2 complete⟩
    · rw [Option.toList_none, List.append_nil]
      exact List.forall_mem_append.2 ⟨oldPositive, List.forall_mem_singleton.2 positive⟩
    · rw [Option.toList_none, List.append_nil]
      exact List.forall_mem_append.2 ⟨oldFits, List.forall_mem_singleton.2 nextFits⟩
  · refine ⟨finished, some ⟨order, earlier ++ nonEmpty tick events⟩, wellFormed, ?_, ?_,
      tracks.complete, holds, ?_, ?_⟩
    · simp [split]
    · simp [inOrder, none]
    · exact List.forall_mem_append.2 ⟨oldPositive, List.forall_mem_singleton.2 positive⟩
    · exact List.forall_mem_append.2 ⟨oldFits, List.forall_mem_singleton.2 nextFits⟩

/-- Matching answers the order that the gateway holds. -/
theorem matches_answered {gateway next : Gateway} {tick : MarketTick} {events : List VenueEvent}
    {order : GatewayNewOrder} {answers : List TickBatch} {ack : VenueEvent}
    {body : List VenueEvent} (matched : Matches gateway tick events next)
    (wellFormed : WellFormed gateway) (active : gateway.activeOrder.active = true)
    (style : order.style = .passive) (ackType : ack.type = .newAck)
    (named : gateway.activeOrder.venueOrderId = ack.venueOrderId)
    (follows : Follows gateway order body) (shape : stream answers = ack :: (body ++ events)) :
    Answered next ⟨order, answers⟩ := by
  rcases matches_follows matched wellFormed active follows with
    ⟨still, sameId, after⟩ | ⟨idle, last, rfl, lastId, finishes⟩
  · exact .inr (.resting still style shape ackType (sameId.trans named) after)
  · refine .inl ⟨idle, .passive style shape ackType ?_ (lastId.trans named) finishes⟩
    rw [← named]
    exact follows.shape

theorem forwarded_venueOrderId (gateway : Gateway) (tick : MarketTick) :
    (forwarded gateway tick).activeOrder.venueOrderId = gateway.activeOrder.venueOrderId := by
  unfold forwarded
  split_ifs <;> rfl

theorem acknowledged_follows (gateway : Gateway) (tick : MarketTick) :
    Follows (acknowledged gateway tick) gateway.pendingNew.request [] := by
  constructor
  · rfl
  · constructor <;> simp
  · simp
  · simp [acknowledged]

theorem forwarded_follows {gateway : Gateway} {order : GatewayNewOrder} {body : List VenueEvent}
    (follows : Follows gateway order body) (tick : MarketTick) :
    Follows (forwarded gateway tick) order body := by
  unfold forwarded
  split_ifs
  · exact ⟨follows.side, follows.shape, follows.unrejected, follows.leaves⟩
  · exact follows

theorem rejected_follows {gateway : Gateway} {order : GatewayNewOrder} {body : List VenueEvent}
    (follows : Follows gateway order body) (rejects : RejectsCancel gateway.activeOrder)
    (tsNs : TimestampNs) :
    Follows { gateway with activeOrder := { gateway.activeOrder with
        cancelSent := false
        cancelRejectOnceDone := true } } order
      (body ++ [⟨.cancelReject, tsNs, gateway.activeOrder.venueOrderId, 0, 0⟩]) := by
  constructor
  · exact follows.side
  · exact follows.shape.append_reject rfl rfl rejects.2 (follows.unrejected rejects.1)
  · simp
  · simpa [filled_cons] using follows.leaves

/-- A due request meets an idle gateway whose lifecycles are all finished. -/
theorem tracks_due {gateway : Gateway} {answers : List TickBatch} {orders : List GatewayNewOrder}
    {finished : List Lifecycle} {current : Option Lifecycle}
    (tracks : Tracks answers orders gateway finished current) {tick : MarketTick}
    (due : AckDue gateway tick) :
    answers = finished.flatMap Lifecycle.answers ++ [] ∧
      orders = finished.map Lifecycle.order ++ [gateway.pendingNew.request] := by
  have idle := tracks.wellFormed.exclusive due.1
  have split := tracks.split
  have inOrder := tracks.inOrder
  cases tracks.holds with
  | free _ =>
    simp only [Option.toList_none, List.append_nil] at split inOrder
    exact ⟨by simpa using split, by simpa [pendingOrder, due.1] using inOrder⟩
  | resting active _ _ _ _ _ => simp [idle] at active

/-- An active order is the one open lifecycle. -/
theorem tracks_active {gateway : Gateway} {answers : List TickBatch}
    {orders : List GatewayNewOrder} {finished : List Lifecycle} {current : Option Lifecycle}
    (tracks : Tracks answers orders gateway finished current)
    (active : gateway.activeOrder.active = true) :
    ∃ order earlier ack body, order.style = .passive ∧ stream earlier = ack :: body ∧
      ack.type = .newAck ∧ gateway.activeOrder.venueOrderId = ack.venueOrderId ∧
      Follows gateway order body ∧ 0 < order.quantity ∧
      (∀ answer ∈ earlier, BatchFits order.side answer) ∧
      answers = finished.flatMap Lifecycle.answers ++ earlier ∧
      orders = finished.map Lifecycle.order ++ [order] := by
  have pending := tracks.wellFormed.notPending active
  have split := tracks.split
  have inOrder := tracks.inOrder
  cases tracks.holds with
  | free idle => simp [idle] at active
  | @resting order earlier ack body _ style shape ackType named follows =>
    refine ⟨order, earlier, ack, body, style, shape, ackType, named, follows,
      tracks.positive ⟨order, earlier⟩ (by simp), tracks.fits ⟨order, earlier⟩ (by simp), ?_, ?_⟩
    · simpa using split
    · simpa [pendingOrder, pending] using inOrder

theorem tick_tracks {gateway next : Gateway} {answers : List TickBatch}
    {orders : List GatewayNewOrder} {finished : List Lifecycle} {current : Option Lifecycle}
    (tracks : Tracks answers orders gateway finished current) {tick : MarketTick}
    {events : List VenueEvent} (nonneg : NonNegative tick)
    (ticks : Ticks gateway tick events next) :
    ∃ finished current,
      Tracks (answers ++ nonEmpty tick events) orders next finished current := by
  have wellFormed := tracks.wellFormed
  have nextWellFormed := ticks.wellFormed wellFormed nonneg
  cases ticks with
  | quiet early idle => exact ⟨finished, current, by simpa [nonEmpty] using tracks⟩
  | newReject due reject =>
    obtain ⟨split, inOrder⟩ := tracks_due tracks due
    refine tracks_advance tracks split inOrder (by simp) (.single rfl (by simp))
      (wellFormed.pendingQty due.1) nextWellFormed rfl (.inl ⟨wellFormed.exclusive due.1, ?_⟩)
    exact .rejected _ tick
  | ioc due accepted style =>
    obtain ⟨split, inOrder⟩ := tracks_due tracks due
    have positive := wellFormed.pendingQty due.1
    refine tracks_advance tracks split inOrder (by simp) (ioc_fits _ tick _) positive
      nextWellFormed rfl (.inl ⟨rfl, ?_⟩)
    exact ioc_complete _ nonneg positive style
  | @passive events next due accepted style matched =>
    obtain ⟨split, inOrder⟩ := tracks_due tracks due
    have after := acknowledged_wellFormed wellFormed nonneg due
    obtain ⟨fits, short⟩ := matches_fits matched after rfl nonneg
    have follows := acknowledged_follows gateway tick
    apply tracks_advance tracks split inOrder (by simp) (fits.afterAck (by omega) rfl rfl)
      (wellFormed.pendingQty due.1) nextWellFormed
    · rw [matches_pendingNew matched]
      rfl
    · refine @matches_answered _ _ _ _ _ _
        ⟨.newAck, tick.receiveTsNs, gateway.nextVenueOrderId, 0, 0⟩ _ matched after rfl style rfl
        rfl follows ?_
      simp
  | cancelReject active arrives rejects =>
    obtain ⟨order, earlier, ack, body, style, shape, ackType, named, follows, positive, oldFits,
      split, inOrder⟩ := tracks_active tracks active
    refine tracks_advance tracks split inOrder oldFits (.single rfl (by simp)) positive
      nextWellFormed (wellFormed.notPending active) (.inr ?_)
    refine .resting active style ?_ ackType named
      (rejected_follows follows rejects tick.receiveTsNs)
    simp [shape]
  | matching active answer matched =>
    obtain ⟨order, earlier, ack, body, style, shape, ackType, named, follows, positive, oldFits,
      split, inOrder⟩ := tracks_active tracks active
    have after := forwarded_wellFormed wellFormed answer
    have stillActive := (forwarded_active gateway tick).trans active
    have forward := forwarded_follows follows tick
    obtain ⟨fits, short⟩ := matches_fits matched after stillActive nonneg
    rw [forward.side] at fits
    apply tracks_advance tracks split inOrder oldFits fits positive nextWellFormed
    · rw [matches_pendingNew matched, forwarded_pendingNew]
      exact wellFormed.notPending active
    · refine matches_answered matched after stillActive style ackType ?_ forward (by simp [shape])
      exact (forwarded_venueOrderId gateway tick).trans named

/-- Acknowledged ids grow and stay below the gateway's next one. -/
structure Fresh (answers : List TickBatch) (gateway : Gateway) : Prop where
  increasing : (ackedIds answers).Pairwise (· < ·)
  below : ∀ venueOrderId ∈ ackedIds answers, venueOrderId < gateway.nextVenueOrderId

theorem matches_noAck {gateway next : Gateway} {tick : MarketTick} {events : List VenueEvent}
    (matched : Matches gateway tick events next) :
    ofType .newAck events = [] ∧ next.nextVenueOrderId = gateway.nextVenueOrderId := by
  cases matched <;> simp [ofType_cons]

/-- A tick acknowledges nothing, or exactly the next id. -/
theorem ticks_acks {gateway next : Gateway} {tick : MarketTick} {events : List VenueEvent}
    (ticks : Ticks gateway tick events next) :
    ((ofType .newAck events).map (·.venueOrderId) = [] ∧
        next.nextVenueOrderId = gateway.nextVenueOrderId) ∨
      ((ofType .newAck events).map (·.venueOrderId) = [gateway.nextVenueOrderId] ∧
        next.nextVenueOrderId = gateway.nextVenueOrderId + 1) := by
  cases ticks with
  | quiet early idle => exact .inl ⟨rfl, rfl⟩
  | newReject due reject => exact .inl ⟨rfl, rfl⟩
  | ioc due accepted style =>
    refine .inr ⟨?_, rfl⟩
    unfold iocEvents
    split_ifs <;> simp [ofType_cons]
  | passive due accepted style matched =>
    obtain ⟨none, same⟩ := matches_noAck matched
    exact .inr ⟨by simp [ofType_cons, none], same⟩
  | cancelReject active arrives rejects => exact .inl ⟨rfl, rfl⟩
  | matching active answer matched =>
    obtain ⟨none, same⟩ := matches_noAck matched
    refine .inl ⟨by simp [none], same.trans ?_⟩
    unfold forwarded
    split_ifs <;> rfl

theorem tick_fresh {gateway next : Gateway} {answers : List TickBatch}
    (fresh : Fresh answers gateway) {tick : MarketTick} {events : List VenueEvent}
    (ticks : Ticks gateway tick events next) : Fresh (answers ++ nonEmpty tick events) next := by
  have ids : ackedIds (answers ++ nonEmpty tick events) =
      ackedIds answers ++ (ofType .newAck events).map (·.venueOrderId) := by
    simp [ackedIds]
  rcases ticks_acks ticks with ⟨none, same⟩ | ⟨one, more⟩
  · rw [none, List.append_nil] at ids
    constructor
    · rw [ids]
      exact fresh.increasing
    · rw [ids, same]
      exact fresh.below
  · rw [one] at ids
    constructor
    · rw [ids, List.pairwise_append]
      exact ⟨fresh.increasing, List.pairwise_singleton _ _, by simpa using fresh.below⟩
    · rw [ids, more]
      intro venueOrderId member
      rcases List.mem_append.1 member with old | new
      · have := fresh.below venueOrderId old
        omega
      · rw [List.mem_singleton.1 new]
        omega

theorem endsWithFill_append (events : List VenueEvent) (last : VenueEvent) :
    EndsWithFill (events ++ [last]) ↔ last.type = .fill := by
  simp [EndsWithFill]

/-- A finished order is filled completely exactly when a fill ended it. -/
theorem complete_total {lifecycle : Lifecycle} (complete : Complete lifecycle)
    (positive : 0 < lifecycle.order.quantity) :
    filled lifecycle.events ≤ lifecycle.order.quantity ∧
      (filled lifecycle.events = lifecycle.order.quantity ↔ EndsWithFill lifecycle.events) := by
  cases complete with
  | rejected order tick =>
    have quiet : ¬EndsWithFill [⟨.newReject, tick.receiveTsNs, 0, 0, 0⟩] := by
      simp [EndsWithFill]
    have none : filled [⟨.newReject, tick.receiveTsNs, 0, 0, 0⟩] = 0 := rfl
    simp only [Lifecycle.events, stream_singleton, none, quiet, iff_false] at positive ⊢
    omega
  | @aggressive order tick ack fills expiry style ackType few kinds bounded expires =>
    simp only at positive
    have total : filled (ack :: (fills ++ expiry)) = filled fills := by
      subst expires
      split_ifs <;> simp [filled_cons, ackType]
    simp only [Lifecycle.events, stream_singleton, total]
    refine ⟨bounded, ?_⟩
    by_cases short : filled fills < order.quantity
    · have ends := endsWithFill_append (ack :: fills)
        ⟨.expired, tick.receiveTsNs, ack.venueOrderId, 0, 0⟩
      rw [if_pos short] at expires
      rw [expires, ← List.cons_append, ends]
      simp only [reduceCtorEq, iff_false]
      omega
    · rw [if_neg short] at expires
      rw [expires, List.append_nil]
      cases fills with
      | nil =>
        simp only [filled_nil] at short
        omega
      | cons fill rest =>
        obtain rfl : rest = [] := by simpa using few
        have ends := endsWithFill_append [ack] fill
        simp only [List.cons_append, List.nil_append] at ends
        simp only [ends, (kinds fill (by simp)).1, iff_true]
        omega
  | @passive order answers ack last body style shape ackType held named finishes =>
    have ends := endsWithFill_append (ack :: body) last
    simp only [List.cons_append] at ends
    simp only [Lifecycle.events, shape, ends, filled_cons, filled_append, filled_nil, ackType]
    obtain ⟨short, cancel | ⟨fill, full⟩⟩ := finishes
    · simp only [cancel, reduceCtorEq, if_false, iff_false]
      omega
    · simp only [fill, reduceCtorEq, if_true, if_false, iff_true]
      omega

theorem unfinished_short {lifecycle : Lifecycle} (unfinished : Unfinished lifecycle) :
    filled lifecycle.events < lifecycle.order.quantity := by
  cases unfinished with
  | passive style shape ackType held short =>
    simpa [Lifecycle.events, shape, filled_cons, ackType] using short

theorem holds_unfinished {gateway : Gateway} {current : Option Lifecycle}
    (wellFormed : WellFormed gateway) (held : Holds gateway current) :
    ∀ lifecycle ∈ current, Unfinished lifecycle := by
  intro lifecycle member
  cases held with
  | free idle => simp at member
  | @resting order answers ack body active style shape ackType named follows =>
    obtain rfl := Option.mem_some_iff.1 member
    have leaves := wellFormed.leaves active
    have total := follows.leaves
    refine .passive style shape ackType ?_ (by omega)
    rw [← named]
    exact follows.shape

/-- What a run's history and its gateway satisfy together. -/
def Explained (past : List (Call × Reply)) (gateway : Gateway) : Prop :=
  Fresh (batches past) gateway ∧
    (∀ call batch, (call, Reply.batch batch) ∈ past → batch.overflowCount = 0) ∧
    ∃ finished current, Tracks (batches past) (accepted past) gateway finished current

theorem Explained.grammar {past : List (Call × Reply)} {gateway : Gateway}
    (explained : Explained past gateway) : ∃ finished current, Grammar past finished current := by
  obtain ⟨fresh, noOverflow, finished, current, tracks⟩ := explained
  refine ⟨finished, current, ?_⟩
  have unfinished := holds_unfinished tracks.wellFormed tracks.holds
  constructor
  · exact tracks.split
  · exact tracks.complete
  · exact unfinished
  · rw [tracks.inOrder]
    exact List.prefix_append _ _
  · rw [tracks.inOrder]
    cases tracks.holds with
    | free idle =>
      unfold pendingOrder
      split_ifs <;> simp
    | resting active _ _ _ _ _ =>
      simp [pendingOrder, tracks.wellFormed.notPending active]
  · exact fresh.increasing
  · exact tracks.fits
  · intro lifecycle member
    exact complete_total (tracks.complete lifecycle member)
      (tracks.positive lifecycle (List.mem_append_left _ member))
  · exact fun lifecycle member => unfinished_short (unfinished lifecycle member)
  · exact noOverflow

theorem sendNew_explained {past : List (Call × Reply)} {gateway : Gateway}
    (explained : Explained past gateway) (request : GatewayNewOrder) :
    Explained (past ++ [(.sendNew request, .accepted (sendNew gateway request).1)])
      (sendNew gateway request).2 := by
  obtain ⟨fresh, noOverflow, finished, current, tracks⟩ := explained
  have next := sendNew_wellFormed tracks.wellFormed request
  obtain ⟨wellFormed, split, inOrder, complete, holds, positive, fits⟩ := tracks
  rcases sendNew_cases gateway request with ⟨valid, unpending, idle, result⟩ | ⟨_, result⟩
  · rw [result] at next ⊢
    have none : pendingOrder gateway = [] := by simp [pendingOrder, unpending]
    refine ⟨?_, by simpa using noOverflow, finished, current, next, ?_, ?_, complete, ?_, positive,
      fits⟩
    · simpa [batches] using ⟨fresh.increasing, fresh.below⟩
    · simpa [batches] using split
    · have grown : accepted (past ++ [(.sendNew request, .accepted true)]) =
          accepted past ++ [request] := by
        simp [accepted]
      rw [none, List.append_nil] at inOrder
      rw [grown, inOrder]
      simp [pendingOrder]
    · cases holds with
      | free _ => exact .free idle
      | resting active _ _ _ _ _ => simp [idle] at active
  · rw [result] at next ⊢
    refine ⟨?_, by simpa using noOverflow, finished, current, next, ?_, ?_, complete, holds,
      positive, fits⟩
    · simpa [batches] using fresh
    · simpa [batches] using split
    · simpa [accepted] using inOrder

theorem sendCancel_explained {past : List (Call × Reply)} {gateway : Gateway}
    (explained : Explained past gateway) (requestTsNs : TimestampNs) :
    Explained (past ++ [(.sendCancel requestTsNs, .accepted (sendCancel gateway requestTsNs).1)])
      (sendCancel gateway requestTsNs).2 := by
  obtain ⟨fresh, noOverflow, finished, current, tracks⟩ := explained
  have next := sendCancel_wellFormed tracks.wellFormed requestTsNs
  obtain ⟨wellFormed, split, inOrder, complete, holds, positive, fits⟩ := tracks
  have sameBatches : batches (past ++
      [(.sendCancel requestTsNs, .accepted (sendCancel gateway requestTsNs).1)]) =
        batches past := by
    simp [batches]
  have sameOrders : accepted (past ++
      [(.sendCancel requestTsNs, .accepted (sendCancel gateway requestTsNs).1)]) =
        accepted past := by
    simp [accepted]
  rw [Explained, sameBatches, sameOrders]
  refine ⟨?_, by simpa using noOverflow, finished, current, next, split, ?_, complete, ?_, positive,
    fits⟩
  · rcases sendCancel_cases gateway requestTsNs with ⟨_, _, result⟩ | ⟨_, result⟩
    · rw [result]
      exact ⟨fresh.increasing, fresh.below⟩
    · rwa [result]
  · rcases sendCancel_cases gateway requestTsNs with ⟨_, _, result⟩ | ⟨_, result⟩
    · rw [result]
      exact inOrder
    · rwa [result]
  · rcases sendCancel_cases gateway requestTsNs with ⟨active, _, result⟩ | ⟨_, result⟩
    · rw [result]
      cases holds with
      | free idle => exact .free idle
      | resting active style shape ackType named follows =>
        exact .resting active style shape ackType named
          ⟨follows.side, follows.shape, follows.unrejected, follows.leaves⟩
    · rwa [result]

theorem onTick_explained {past : List (Call × Reply)} {gateway : Gateway}
    (explained : Explained past gateway) {tick : MarketTick} (nonneg : NonNegative tick) :
    Explained (past ++ [(.onTick tick, .batch (onTick gateway tick).1)])
      (onTick gateway tick).2 := by
  obtain ⟨fresh, noOverflow, finished, current, tracks⟩ := explained
  obtain ⟨events, next, ticks, result⟩ := onTick_ticks tracks.wellFormed.coherent tick
  rw [result]
  have grown : batches (past ++ [(.onTick tick, .batch ⟨events, 0⟩)]) =
      batches past ++ nonEmpty tick events := by
    simp [batches]
  have sameOrders : accepted (past ++ [(.onTick tick, .batch ⟨events, 0⟩)]) = accepted past := by
    simp [accepted]
  rw [Explained, grown, sameOrders]
  refine ⟨tick_fresh fresh ticks, ?_, tick_tracks tracks nonneg ticks⟩
  intro call batch member
  rcases List.mem_append.1 member with old | new
  · exact noOverflow call batch old
  · simp only [List.mem_singleton, Prod.mk.injEq, Reply.batch.injEq] at new
    rw [new.2]

theorem create_explained (newAckLatencyNs cancelSendLatencyNs : TimestampNs) :
    Explained [] (create newAckLatencyNs cancelSendLatencyNs) := by
  refine ⟨⟨List.Pairwise.nil, by simp [ackedIds, batches]⟩, by simp, [], none,
    create_wellFormed _ _, rfl, ?_, by simp, .free rfl, by simp, by simp⟩
  simp [accepted, pendingOrder, create]

/-- Every run of a gateway produces a stream that parses into order lifecycles. -/
theorem run_grammar (newAckLatencyNs cancelSendLatencyNs : TimestampNs) (calls : List Call)
    (admissible : ∀ call ∈ calls, Admissible call) :
    ∃ finished current,
      Grammar (machine.history (create newAckLatencyNs cancelSendLatencyNs) calls) finished
        current := by
  have explained := machine.history_induction Admissible (motive := Explained)
    (create_explained newAckLatencyNs cancelSendLatencyNs)
    (by
      intro past gateway call explained admissible
      cases call with
      | sendNew request => exact sendNew_explained explained request
      | sendCancel requestTsNs => exact sendCancel_explained explained requestTsNs
      | onTick tick => exact onTick_explained explained admissible)
    calls admissible
  exact explained.grammar

/-- An aggressive buy of 50 meets 20 on offer. -/
theorem run_grammar_partialIoc : ∃ finished current,
    Grammar (machine.history (create 200 200)
      [.sendNew ⟨1, .buy, 50, 100000, .aggressive, 1000⟩,
        .onTick ⟨1200, 1200, 99900, 100000, 1, 10, 20⟩]) finished current :=
  run_grammar 200 200 _ (by
    intro call member
    rcases List.mem_pair.1 member with rfl | rfl
    · trivial
    · exact ⟨by decide, by decide⟩)

end TradingKernel.GatewayGrammar
