import TradingKernel.EventLog
import TradingKernel.EventSink

/-!
The sink of the trading program: it logs every event to the console and appends
it to the journal, a file stream that stays failed once a write has failed.
-/

namespace TradingKernel.LoggingSink
open Library ReplayRunner FillLogger

/-- A file stream opened for writing. What reaches the file is known as long as
no write has failed. -/
structure Stream where
  text : List UInt8
  good : Bool
  writes : Nat
  deriving DecidableEq, Repr

/-- One insertion, or a flush when there is nothing to insert; the device says
which of them succeed. -/
def Stream.write (device : Nat → Bool) (text : List UInt8) (stream : Stream) : Stream :=
  let good := stream.good && device stream.writes
  ⟨if good then stream.text ++ text else stream.text, good, stream.writes + 1⟩

structure LoggingEventSink where
  log : List UInt8
  persistence : Stream
  deriving DecidableEq, Repr

def consume (device : Nat → Bool) (event : TradeEvent) (sink : LoggingEventSink) :
    Bool × LoggingEventSink :=
  let persistence := sink.persistence.write device (writeTradeEventPersistence event)
  (persistence.good, ⟨sink.log ++ writeTradeEventLog event, persistence⟩)

def loggingSink (device : Nat → Bool) : ReplayEventSink LoggingEventSink := ⟨consume device⟩

section Sink
variable (device : Nat → Bool) (sink : LoggingEventSink)

theorem consumeAll_log (events : List TradeEvent) :
    ((loggingSink device).consumeAll events sink).log = sink.log ++ logText events := by
  induction events using List.reverseRecOn with
  | nil => simp [ReplayEventSink.consumeAll, logText]
  | append_singleton events event ih =>
    rw [ReplayEventSink.consumeAll_snoc, logText, List.flatMap_append, ← List.append_assoc,
      ← logText, ← ih]
    simp [loggingSink, consume]

/-- A stream that is good in the end has always been, and holds the line of
every event. -/
theorem consumeAll_good (events : List TradeEvent)
    (good : ((loggingSink device).consumeAll events sink).persistence.good = true) :
    sink.persistence.good = true ∧ false ∉ (loggingSink device).replies events sink ∧
      ((loggingSink device).consumeAll events sink).persistence.text =
        sink.persistence.text ++ journalText events := by
  induction events using List.reverseRecOn with
  | nil => exact ⟨good, by simp [ReplayEventSink.replies],
      by simp [ReplayEventSink.consumeAll, journalText]⟩
  | append_singleton events event ih =>
    rw [ReplayEventSink.consumeAll_snoc] at good ⊢
    have both : (((loggingSink device).consumeAll events sink).persistence.good &&
        device ((loggingSink device).consumeAll events sink).persistence.writes) = true := good
    obtain ⟨opened, answered, text⟩ := ih (Bool.and_eq_true_iff.1 both).1
    have last : ((loggingSink device).consume event
        ((loggingSink device).consumeAll events sink)).1 = true := both
    refine ⟨opened, ?_, ?_⟩
    · simpa [ReplayEventSink.replies_snoc, last] using answered
    · simp only [loggingSink, consume, Stream.write] at both text ⊢
      rw [both, if_pos rfl, text]
      simp [journalText]

end Sink

end TradingKernel.LoggingSink
