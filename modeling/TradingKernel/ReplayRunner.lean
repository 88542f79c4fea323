import TradingKernel.AccountingEngine
import TradingKernel.MockVenueGateway
import TradingKernel.Decision
import TradingKernel.LatencyStats

/-!
One replay: the tick loop that drives accounting, gateway, order manager,
strategy and risk. The loop never reads what it reports about itself, so each
part returns the objects it leaves behind and the actions it performs on the
report, in order; performing them needs an environment for what a run cannot
decide itself (measured durations, sink answers, queue answers).
-/

namespace TradingKernel.ReplayRunner
open Library OrderManager MockVenueGateway Decision
open AccountingEngine (Engine applyFill markToMarket)
open LatencyStats (initializeStats)

inductive EventKind where
  | fill
  | riskReject
  | omsTransition
  | venueReject
  deriving DecidableEq, Repr

structure TradeEvent where
  tsNs : TimestampNs
  price : Price
  quantity : Int
  kind : EventKind
  side : Side
  rejectReason : RejectReason
  deriving DecidableEq, Repr

inductive ReplaySinkMode where
  | sync
  | async
  deriving DecidableEq, Repr

structure ReplayConfig where
  sinkMode : ReplaySinkMode
  executionStyle : ExecutionStyle
  passiveCancelAfterNs : TimestampNs
  deriving DecidableEq, Repr

structure ReplayCounters where
  strategySignals : Nat
  localSubmissions : Nat
  gatewaySubmissions : Nat
  riskRejects : Nat
  venueRejects : Nat
  invalidVenueEvents : Nat
  fills : Nat
  acceptedEvents : Nat
  persistedEvents : Nat
  droppedEvents : Nat
  venueBatchOverflows : Nat
  wrongStateEvents : Nat
  wrongOrderEvents : Nat
  invalidQuantityEvents : Nat
  invalidVenueOrderIdEvents : Nat
  accountingRejectedFills : Nat
  deriving DecidableEq, Repr

def ReplayCounters.zero : ReplayCounters := ⟨0, 0, 0, 0, 0, 0, 0, 0, 0, 0, 0, 0, 0, 0, 0, 0⟩

/-- The counters the loop itself counts up; the event counters follow the events. -/
inductive Counter where
  | strategySignals
  | localSubmissions
  | gatewaySubmissions
  | riskRejects
  | venueRejects
  | invalidVenueEvents
  | fills
  | venueBatchOverflows
  | wrongStateEvents
  | wrongOrderEvents
  | invalidQuantityEvents
  | invalidVenueOrderIdEvents
  | accountingRejectedFills
  deriving DecidableEq, Repr

def ReplayCounters.get (counters : ReplayCounters) : Counter → Nat
  | .strategySignals => counters.strategySignals
  | .localSubmissions => counters.localSubmissions
  | .gatewaySubmissions => counters.gatewaySubmissions
  | .riskRejects => counters.riskRejects
  | .venueRejects => counters.venueRejects
  | .invalidVenueEvents => counters.invalidVenueEvents
  | .fills => counters.fills
  | .venueBatchOverflows => counters.venueBatchOverflows
  | .wrongStateEvents => counters.wrongStateEvents
  | .wrongOrderEvents => counters.wrongOrderEvents
  | .invalidQuantityEvents => counters.invalidQuantityEvents
  | .invalidVenueOrderIdEvents => counters.invalidVenueOrderIdEvents
  | .accountingRejectedFills => counters.accountingRejectedFills

def ReplayCounters.add (counters : ReplayCounters) (counter : Counter) (amount : Nat) :
    ReplayCounters :=
  match counter with
  | .strategySignals => { counters with strategySignals := counters.strategySignals + amount }
  | .localSubmissions => { counters with localSubmissions := counters.localSubmissions + amount }
  | .gatewaySubmissions =>
    { counters with gatewaySubmissions := counters.gatewaySubmissions + amount }
  | .riskRejects => { counters with riskRejects := counters.riskRejects + amount }
  | .venueRejects => { counters with venueRejects := counters.venueRejects + amount }
  | .invalidVenueEvents =>
    { counters with invalidVenueEvents := counters.invalidVenueEvents + amount }
  | .fills => { counters with fills := counters.fills + amount }
  | .venueBatchOverflows =>
    { counters with venueBatchOverflows := counters.venueBatchOverflows + amount }
  | .wrongStateEvents => { counters with wrongStateEvents := counters.wrongStateEvents + amount }
  | .wrongOrderEvents => { counters with wrongOrderEvents := counters.wrongOrderEvents + amount }
  | .invalidQuantityEvents =>
    { counters with invalidQuantityEvents := counters.invalidQuantityEvents + amount }
  | .invalidVenueOrderIdEvents =>
    { counters with invalidVenueOrderIdEvents := counters.invalidVenueOrderIdEvents + amount }
  | .accountingRejectedFills =>
    { counters with accountingRejectedFills := counters.accountingRejectedFills + amount }

inductive Collector where
  | strategy
  | risk
  | execution
  | accounting
  | eventSink
  | endToEnd
  deriving DecidableEq, Repr

/-- The per-tick bound each collector is initialised with. -/
def Collector.maxPerTick : Collector → Nat
  | .strategy => 1
  | .risk => 1
  | .execution => 2
  | .accounting => 1
  | .eventSink => 4
  | .endToEnd => 1

structure ReplayLatencies where
  strategy : LatencyStats
  risk : LatencyStats
  execution : LatencyStats
  accounting : LatencyStats
  eventSink : LatencyStats
  endToEnd : LatencyStats
  deriving DecidableEq, Repr

def ReplayLatencies.get (latencies : ReplayLatencies) : Collector → LatencyStats
  | .strategy => latencies.strategy
  | .risk => latencies.risk
  | .execution => latencies.execution
  | .accounting => latencies.accounting
  | .eventSink => latencies.eventSink
  | .endToEnd => latencies.endToEnd

def ReplayLatencies.record (latencies : ReplayLatencies) (collector : Collector)
    (latencyNs : Int) : ReplayLatencies :=
  match collector with
  | .strategy => { latencies with strategy := (latencies.strategy.record latencyNs).2 }
  | .risk => { latencies with risk := (latencies.risk.record latencyNs).2 }
  | .execution => { latencies with execution := (latencies.execution.record latencyNs).2 }
  | .accounting => { latencies with accounting := (latencies.accounting.record latencyNs).2 }
  | .eventSink => { latencies with eventSink := (latencies.eventSink.record latencyNs).2 }
  | .endToEnd => { latencies with endToEnd := (latencies.endToEnd.record latencyNs).2 }

/-- The collectors of a replay of `tickCount` ticks, once they are initialised. -/
def ReplayLatencies.allocate (tickCount : Nat) : ReplayLatencies where
  strategy := .allocate tickCount Collector.strategy.maxPerTick
  risk := .allocate tickCount Collector.risk.maxPerTick
  execution := .allocate tickCount Collector.execution.maxPerTick
  accounting := .allocate tickCount Collector.accounting.maxPerTick
  eventSink := .allocate tickCount Collector.eventSink.maxPerTick
  endToEnd := .allocate tickCount Collector.endToEnd.maxPerTick

/-- The initialisation of all six collectors, `maxSize` being the limit of a sample vector. -/
def initializeLatencies (maxSize tickCount : Nat) : Except String ReplayLatencies := do
  let strategy ← initializeStats maxSize "strategy" tickCount Collector.strategy.maxPerTick
  let risk ← initializeStats maxSize "risk" tickCount Collector.risk.maxPerTick
  let execution ← initializeStats maxSize "execution" tickCount Collector.execution.maxPerTick
  let accounting ← initializeStats maxSize "accounting" tickCount Collector.accounting.maxPerTick
  let eventSink ← initializeStats maxSize "event_sink" tickCount Collector.eventSink.maxPerTick
  let endToEnd ← initializeStats maxSize "end_to_end" tickCount Collector.endToEnd.maxPerTick
  return ⟨strategy, risk, execution, accounting, eventSink, endToEnd⟩

def ReplayLatencies.overflow (latencies : ReplayLatencies) : Bool :=
  [Collector.strategy, .risk, .execution, .accounting, .eventSink, .endToEnd].any fun collector =>
    decide ((latencies.get collector).overflowCount ≠ 0)

/-- What a run observes: the n-th measured duration, the sink's answer to the
n-th emitted event, and whether the queue takes the n-th emitted event. -/
structure ReplayEnv where
  elapsed : Nat → Int
  consume : Nat → Bool
  push : Nat → Bool

/-- The report of a run; `events` are the emitted ones in order. -/
structure ReplayRecord where
  counters : ReplayCounters
  latencies : ReplayLatencies
  events : List TradeEvent
  persistedEvents : Nat
  sinkFailed : Bool
  measured : Nat
  deriving DecidableEq, Repr

inductive Action where
  | measure (collector : Collector)
  | count (counter : Counter) (amount : Nat)
  | emit (event : TradeEvent)
  deriving DecidableEq, Repr

/-- Stops the running clock and stores the duration in a collector. -/
def recordLatency (env : ReplayEnv) (collector : Collector) (record : ReplayRecord) :
    ReplayRecord :=
  { record with
    latencies := record.latencies.record collector (env.elapsed record.measured)
    measured := record.measured + 1 }

/-- Hands an event to the sink or to the queue. -/
def deliver (env : ReplayEnv) (config : ReplayConfig) (index : Nat) (record : ReplayRecord) :
    ReplayRecord :=
  match config.sinkMode with
  | .sync =>
    if env.consume index then { record with persistedEvents := record.persistedEvents + 1 }
    else { record with sinkFailed := true }
  | .async =>
    if env.push index then record
    else { record with counters := { record.counters with
      droppedEvents := record.counters.droppedEvents + 1 } }

def emitEvent (env : ReplayEnv) (config : ReplayConfig) (event : TradeEvent)
    (record : ReplayRecord) : ReplayRecord :=
  let index := record.events.length
  let record := { record with
    counters := { record.counters with acceptedEvents := record.counters.acceptedEvents + 1 }
    events := record.events ++ [event] }
  recordLatency env .eventSink (deliver env config index record)

def perform (env : ReplayEnv) (config : ReplayConfig) (record : ReplayRecord) :
    Action → ReplayRecord
  | .measure collector => recordLatency env collector record
  | .count counter amount => { record with counters := record.counters.add counter amount }
  | .emit event => emitEvent env config event record

def performAll (env : ReplayEnv) (config : ReplayConfig) (record : ReplayRecord)
    (actions : List Action) : ReplayRecord :=
  actions.foldl (perform env config) record

/-- The objects a replay drives, with the loop's own two variables. -/
structure ReplayObjects where
  accounting : Engine
  gateway : Gateway
  orderManager : Manager
  clientOrderId : Int
  passiveSubmitTs : TimestampNs
  deriving DecidableEq, Repr

/-- What a part of the loop leaves behind. -/
structure Effect where
  objects : ReplayObjects
  actions : List Action
  deriving DecidableEq, Repr

/-- Runs another part on the objects an effect left behind. -/
def Effect.andThen (effect : Effect) (next : ReplayObjects → Effect) : Effect :=
  ⟨(next effect.objects).objects, effect.actions ++ (next effect.objects).actions⟩

def risk : RiskEngine := ⟨200⟩

def strategy : Strategy := ⟨100000, 120000, 50⟩

def emitTransition (tsNs : TimestampNs) (source target : OrderState) (side : Side) :
    List Action :=
  if source = target then []
  else [.emit ⟨tsNs, source.code, target.code, .omsTransition, side, .none⟩]

def handleFill (fill : Fill) (tick : MarketTick) (objects : ReplayObjects) : Effect :=
  if fill.quantity ≤ 0 then ⟨objects, []⟩
  else
    let (ok, accounting) := applyFill objects.accounting fill
    if !ok then
      ⟨{ objects with accounting := accounting }, [.count .accountingRejectedFills 1]⟩
    else
      ⟨{ objects with accounting := markToMarket accounting tick.mid },
        [.measure .accounting,
          .emit ⟨fill.tsNs, fill.price, fill.quantity, .fill, fill.side, .none⟩,
          .count .fills 1]⟩

/-- The reject row of an applied venue event, if it is a reject. -/
def venueRejectActions (event : VenueEvent) (side : Side) (order : ManagedOrder) : List Action :=
  match event.type with
  | .newReject =>
    [.count .venueRejects 1,
      .emit ⟨event.tsNs, 0, order.orderQty, .venueReject, side, .newRejectedByVenue⟩]
  | .cancelReject =>
    [.count .venueRejects 1,
      .emit ⟨event.tsNs, 0, order.leavesQty, .venueReject, side, .cancelRejectedByVenue⟩]
  | _ => []

/-- The counters of a venue event the order manager did not apply. -/
def refusedActions (outcome : VenueEventOutcome) : List Action :=
  .count .invalidVenueEvents 1 ::
    match outcome with
    | .wrongState => [.count .wrongStateEvents 1]
    | .wrongOrder => [.count .wrongOrderEvents 1]
    | .invalidQuantity => [.count .invalidQuantityEvents 1]
    | .invalidVenueOrderId => [.count .invalidVenueOrderIdEvents 1]
    | .applied => []

def handleVenueEvent (event : VenueEvent) (fallbackSide : Side) (tick : MarketTick)
    (objects : ReplayObjects) : Effect :=
  let source := objects.orderManager.state
  let side := if source = .idle then fallbackSide else objects.orderManager.side
  let (outcome, fill, orderManager) := onVenueEvent objects.orderManager event
  let objects := { objects with orderManager := orderManager }
  if outcome = .applied then
    let filled := handleFill fill tick objects
    ⟨filled.objects, emitTransition event.tsNs source orderManager.state side ++ filled.actions ++
      venueRejectActions event side orderManager⟩
  else ⟨objects, refusedActions outcome⟩

/-- The events of one venue batch, handled in order. -/
def handleBatch (tick : MarketTick) : List VenueEvent → ReplayObjects → Effect
  | [], objects => ⟨objects, []⟩
  | event :: rest, objects =>
    (handleVenueEvent event objects.orderManager.side tick objects).andThen
      (handleBatch tick rest)

/-- The mark at the start of a tick. -/
def markObjects (tick : MarketTick) (objects : ReplayObjects) : ReplayObjects :=
  { objects with accounting := markToMarket objects.accounting tick.mid }

/-- The venue part of a tick: ask the gateway and apply its batch. -/
def venuePhase (tick : MarketTick) (objects : ReplayObjects) : Effect :=
  let (batch, gateway) := MockVenueGateway.onTick objects.gateway tick
  Effect.andThen
    ⟨{ objects with gateway := gateway },
      [.count .venueBatchOverflows batch.overflowCount, .measure .execution]⟩
    (handleBatch tick batch.events)

/-- Filled, canceled and expired orders stop the cancel timer. -/
def stopTimer (objects : ReplayObjects) : ReplayObjects :=
  if objects.orderManager.state = .filled ∨ objects.orderManager.state = .canceled ∨
      objects.orderManager.state = .expired then
    { objects with passiveSubmitTs := -1 }
  else objects

def CancelDue (config : ReplayConfig) (tick : MarketTick) (objects : ReplayObjects) : Prop :=
  config.executionStyle = .passive ∧
    (objects.orderManager.state = .acked ∨ objects.orderManager.state = .partiallyFilled) ∧
    objects.passiveSubmitTs ≥ 0 ∧
    tick.receiveTsNs - objects.passiveSubmitTs ≥ config.passiveCancelAfterNs

instance (config : ReplayConfig) (tick : MarketTick) (objects : ReplayObjects) :
    Decidable (CancelDue config tick objects) :=
  inferInstanceAs (Decidable (_ ∧ _))

/-- The timer part of a tick: cancel a passive order that has rested long enough. -/
def cancelPhase (config : ReplayConfig) (tick : MarketTick) (objects : ReplayObjects) : Effect :=
  if CancelDue config tick objects then
    let order := objects.orderManager
    let (sent, gateway, orderManager) :=
      submitCancelRequest objects.gateway order tick.receiveTsNs
    ⟨{ objects with gateway := gateway, orderManager := orderManager },
      if sent then emitTransition tick.receiveTsNs order.state .pendingCancel order.side else []⟩
  else ⟨objects, []⟩

/-- The order actually sent: a passive one joins its own side of the book. -/
def orderToSend (config : ReplayConfig) (tick : MarketTick) (order : OrderRequest) :
    OrderRequest :=
  if config.executionStyle = .passive then
    { order with limitPrice := if order.side = .buy then tick.bidPrice else tick.askPrice }
  else order

def gatewayRequest (config : ReplayConfig) (tick : MarketTick) (clientOrderId : Int)
    (order : OrderRequest) : GatewayNewOrder :=
  ⟨clientOrderId, order.side, order.quantity, order.limitPrice, config.executionStyle,
    tick.receiveTsNs⟩

/-- Hands a locally submitted order to the gateway; a refusal comes back as a reject. -/
def sendOrder (config : ReplayConfig) (tick : MarketTick) (request : GatewayNewOrder)
    (objects : ReplayObjects) : Effect :=
  let (accepted, gateway) := sendNew objects.gateway request
  let objects := { objects with gateway := gateway }
  if accepted then
    ⟨if config.executionStyle = .passive then { objects with passiveSubmitTs := tick.receiveTsNs }
      else objects, []⟩
  else handleVenueEvent ⟨.newReject, tick.receiveTsNs, 0, 0, 0⟩ request.side tick objects

/-- The submission part of a tick, after risk has accepted the order. -/
def submitPhase (config : ReplayConfig) (tick : MarketTick) (order : OrderRequest)
    (objects : ReplayObjects) : Effect :=
  let order := orderToSend config tick order
  let currentClientId := objects.clientOrderId
  let (submitted, orderManager) := submitNew objects.orderManager currentClientId order.side
    order.limitPrice order.quantity
  let objects := { objects with
    clientOrderId := currentClientId + 1
    orderManager := orderManager }
  if submitted then
    let sent := sendOrder config tick (gatewayRequest config tick currentClientId order) objects
    ⟨sent.objects,
      .count .localSubmissions 1 ::
        emitTransition tick.receiveTsNs .idle .pendingNewAck order.side ++
        .count .gatewaySubmissions 1 :: sent.actions ++ [.measure .execution]⟩
  else ⟨objects, [.measure .execution]⟩

/-- The decision part of a tick: strategy, risk, and submission. -/
def decisionPhase (config : ReplayConfig) (tick : MarketTick) (objects : ReplayObjects) : Effect :=
  let decision := strategy.onTick tick
  if decision.hasOrder then
    let riskDecision := risk.evaluate objects.accounting.positionState decision.order
    Effect.andThen ⟨objects, [.measure .strategy, .count .strategySignals 1, .measure .risk]⟩
      fun objects =>
        if riskDecision.accepted then submitPhase config tick decision.order objects
        else
          ⟨objects, [.count .riskRejects 1,
            .emit ⟨tick.receiveTsNs, 0, decision.order.quantity, .riskReject, decision.order.side,
              riskDecision.rejectReason⟩]⟩
  else ⟨objects, [.measure .strategy]⟩

/-- One iteration of the tick loop. -/
def tickEffect (config : ReplayConfig) (tick : MarketTick) (objects : ReplayObjects) : Effect :=
  let effect := venuePhase tick (markObjects tick objects)
  let effect := effect.andThen fun objects => cancelPhase config tick (stopTimer objects)
  let effect := effect.andThen (decisionPhase config tick)
  ⟨effect.objects, effect.actions ++ [.measure .endToEnd]⟩

structure ReplayState where
  objects : ReplayObjects
  record : ReplayRecord
  deriving DecidableEq, Repr

def runTick (env : ReplayEnv) (config : ReplayConfig) (tick : MarketTick) (s : ReplayState) :
    ReplayState :=
  let effect := tickEffect config tick s.objects
  ⟨effect.objects, performAll env config s.record effect.actions⟩

def initialObjects : ReplayObjects where
  accounting := AccountingEngine.fresh
  gateway := MockVenueGateway.fresh
  orderManager := ManagedOrder.idle
  clientOrderId := 1
  passiveSubmitTs := -1

def initialState (tickCount : Nat) : ReplayState :=
  ⟨initialObjects, ⟨.zero, .allocate tickCount, [], 0, false, 0⟩⟩

/-- The tick loop, which refuses a second symbol. -/
def replayLoop (env : ReplayEnv) (config : ReplayConfig) (symbolId : Nat) :
    ReplayState → List MarketTick → Except String ReplayState
  | s, [] => .ok s
  | s, tick :: rest =>
    if tick.symbolId ≠ symbolId then .error "run_replay supports exactly one symbol"
    else replayLoop env config symbolId (runTick env config tick s) rest

structure ReplayResult where
  counters : ReplayCounters
  position : PositionState
  pnl : PnlState
  order : ManagedOrder
  executionStats : ExecutionSimulator.ExecutionStats
  latencies : ReplayLatencies
  sinkFailed : Bool
  latencyOverflow : Bool
  deriving DecidableEq, Repr

/-- The result of a run, given what the sink has persisted and whether it failed. -/
def result (s : ReplayState) (persistedEvents : Nat) (sinkFailed : Bool) : ReplayResult where
  counters := { s.record.counters with persistedEvents := persistedEvents }
  position := s.objects.accounting.positionState
  pnl := s.objects.accounting.pnlState
  order := s.objects.orderManager
  executionStats := s.objects.gateway.execution.stats
  latencies := s.record.latencies
  sinkFailed := sinkFailed
  latencyOverflow := s.record.latencies.overflow

/-- The state in which the loop ends. -/
def replayTicks (env : ReplayEnv) (config : ReplayConfig) (ticks : List MarketTick) :
    Except String ReplayState :=
  match ticks with
  | [] => .error "run_replay requires at least one tick"
  | first :: rest =>
    replayLoop env config first.symbolId (initialState (first :: rest).length) (first :: rest)

/-- A whole replay whose sink runs on the replay thread. -/
def runReplay (env : ReplayEnv) (config : ReplayConfig) (ticks : List MarketTick) :
    Except String ReplayResult :=
  match replayTicks env config ticks with
  | .error message => .error message
  | .ok s => .ok (result s s.record.persistedEvents s.record.sinkFailed)

end TradingKernel.ReplayRunner
