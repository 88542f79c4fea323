import TradingKernel.Types
import TradingKernel.Library.Machine
import TradingKernel.Library.Circular
import TradingKernel.Library.Truncation
import TradingKernel.Library.Decimal
import TradingKernel.Library.Delimited
import TradingKernel.CsvReader
import TradingKernel.CsvAcceptance
import TradingKernel.CsvDiagnostics
import TradingKernel.AccountingEngine
import TradingKernel.AccountingSymmetry
import TradingKernel.CostBasis
import TradingKernel.FillSplitting
import TradingKernel.SpreadCapture
import TradingKernel.OrderManager
import TradingKernel.OrderLifecycle
import TradingKernel.OrderEvents
import TradingKernel.ExecutionSimulator
import TradingKernel.PassiveMatching
import TradingKernel.MockVenueGateway
import TradingKernel.GatewayInvariant
import TradingKernel.GatewayGrammar
import TradingKernel.GatewayTiming
import TradingKernel.GenerateReplay
import TradingKernel.CancelRejection
import TradingKernel.Decision
import TradingKernel.LatencyStats
import TradingKernel.LatencyRanks
import TradingKernel.Library.OrderStatistics
import TradingKernel.LatencySummary
import TradingKernel.ReplayRunner
import TradingKernel.FillLogger
import TradingKernel.EventLog
import TradingKernel.ReplayRun
import TradingKernel.GatewayLink
import TradingKernel.IocCompleteness
import TradingKernel.ReplayPhases
import TradingKernel.Commands
import TradingKernel.ReplayAgreement
import TradingKernel.ReplayExposure
import TradingKernel.ReplayJournal
import TradingKernel.ReplayReconstruction
import TradingKernel.HeldOrders
import TradingKernel.PassiveProfit
import TradingKernel.ReplayTiming
import TradingKernel.ReplayBounds
import TradingKernel.TimeShift
import TradingKernel.ReplayTranslation
import TradingKernel.CancelTimer
import TradingKernel.Arithmetic
import TradingKernel.AccountLimits
import TradingKernel.ReplayArithmetic
import TradingKernel.ReplayRange
import TradingKernel.SpscRingBuffer
import TradingKernel.AsyncSink
import TradingKernel.BenchReplay
import TradingKernel.ReplayTallies
import TradingKernel.ReplaySamples
import TradingKernel.VenueReflection
import TradingKernel.ReplayReflection
import TradingKernel.WindDown
import TradingKernel.Conflation
import TradingKernel.SinkProgress
import TradingKernel.EventSink
import TradingKernel.LoggingSink
import TradingKernel.TradingMain
import TradingKernel.ThreadPool
