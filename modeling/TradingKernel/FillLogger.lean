import TradingKernel.CsvReader
import TradingKernel.Library.Delimited
import TradingKernel.ReplayRunner

/-!
The persisted journal. Every trade event becomes one line of six fields between
commas; the golden replays compare these lines byte for byte, so the text has to
tell any two event lists apart.
-/

namespace TradingKernel.FillLogger
open Library Library.Decimal
open CsvReader (comma newline)
open ReplayRunner (EventKind TradeEvent)

/-- The bytes of a text of the source. -/
def ascii (text : String) : List UInt8 :=
  text.toList.map fun character => UInt8.ofNat character.toNat

def rejectReasonName : RejectReason → String
  | .none => "NONE"
  | .maxPosition => "MAX_POSITION"
  | .newRejectedByVenue => "NEW_REJECTED_BY_VENUE"
  | .cancelRejectedByVenue => "CANCEL_REJECTED_BY_VENUE"
  | .invalidQuantity => "INVALID_QUANTITY"

/-- The name of an event kind in the journal. -/
def kindName (kind : EventKind) : List UInt8 :=
  ascii (if kind = .fill then "FILL"
    else if kind = .riskReject then "RISK_REJECT"
    else if kind = .omsTransition then "OMS_TRANSITION" else "VENUE_REJECT")

def sideName (side : Side) : List UInt8 := ascii (if side = .buy then "BUY" else "SELL")

def reasonName (reason : RejectReason) : List UInt8 := ascii (rejectReasonName reason)

/-- What one event appends to the journal. -/
def writeTradeEventPersistence (event : TradeEvent) : List UInt8 :=
  kindName event.kind ++ [comma] ++ renderInt event.tsNs ++ [comma] ++ sideName event.side ++
    [comma] ++ renderInt event.price ++ [comma] ++ renderInt event.quantity ++ [comma] ++
    reasonName event.rejectReason ++ [newline]

/-- The journal of a list of events, written one after the other. -/
def journalText (events : List TradeEvent) : List UInt8 :=
  events.flatMap writeTradeEventPersistence

def fields (event : TradeEvent) : List (List UInt8) :=
  [kindName event.kind, renderInt event.tsNs, sideName event.side, renderInt event.price,
    renderInt event.quantity, reasonName event.rejectReason]

/-- The line of an event without its end. -/
def journalLine (event : TradeEvent) : List UInt8 := [comma].intercalate (fields event)

theorem kindName_injective : Function.Injective kindName := by
  intro first second same
  cases first <;> cases second <;> first | rfl | exact absurd same (by decide)

theorem sideName_injective : Function.Injective sideName := by
  intro first second same
  cases first <;> cases second <;> first | rfl | exact absurd same (by decide)

theorem reasonName_injective : Function.Injective reasonName := by
  intro first second same
  cases first <;> cases second <;> first | rfl | exact absurd same (by decide)

theorem kindName_not_mem (kind : EventKind) : comma ∉ kindName kind ∧ newline ∉ kindName kind := by
  cases kind <;> decide

theorem sideName_not_mem (side : Side) : comma ∉ sideName side ∧ newline ∉ sideName side := by
  cases side <;> decide

theorem reasonName_not_mem (reason : RejectReason) :
    comma ∉ reasonName reason ∧ newline ∉ reasonName reason := by
  cases reason <;> decide

theorem renderInt_not_mem (number : Int) :
    comma ∉ renderInt number ∧ newline ∉ renderInt number := by
  have text : Numeral true (renderInt number) number := numeral_renderInt (.inr rfl)
  exact ⟨text.not_mem (by decide) (by decide), text.not_mem (by decide) (by decide)⟩

/-- No field holds a separator of fields or lines. -/
theorem fields_not_mem (event : TradeEvent) :
    ∀ field ∈ fields event, comma ∉ field ∧ newline ∉ field := by
  intro field member
  simp only [fields, List.mem_cons, List.not_mem_nil, or_false] at member
  rcases member with rfl | rfl | rfl | rfl | rfl | rfl
  · exact kindName_not_mem event.kind
  · exact renderInt_not_mem event.tsNs
  · exact sideName_not_mem event.side
  · exact renderInt_not_mem event.price
  · exact renderInt_not_mem event.quantity
  · exact reasonName_not_mem event.rejectReason

theorem fields_injective : Function.Injective fields := by
  intro first second same
  simp only [fields, List.cons.injEq, and_true] at same
  obtain ⟨kind, ts, side, price, quantity, reason⟩ := same
  cases first
  cases second
  simp only [TradeEvent.mk.injEq]
  exact ⟨renderInt_injective ts, renderInt_injective price, renderInt_injective quantity,
    kindName_injective kind, sideName_injective side, reasonName_injective reason⟩

theorem fields_clean (event : TradeEvent) : ∀ field ∈ fields event, comma ∉ field :=
  fun field member => (fields_not_mem event field member).1

theorem fields_ne_nil (event : TradeEvent) : fields event ≠ [] := by
  simp [fields]

theorem journalLine_injective : Function.Injective journalLine := by
  intro first second same
  apply fields_injective
  exact Delimited.intercalate_inj comma (fields_clean first) (fields_clean second)
    (fields_ne_nil first) (fields_ne_nil second) same

theorem journalLine_not_mem (event : TradeEvent) : newline ∉ journalLine event := by
  intro member
  rcases Delimited.mem_intercalate comma member with separator | ⟨field, inside, found⟩
  · cases separator
  · exact (fields_not_mem event field inside).2 found

theorem writeTradeEventPersistence_eq (event : TradeEvent) :
    writeTradeEventPersistence event = journalLine event ++ [newline] := by
  simp [writeTradeEventPersistence, journalLine, fields, List.intercalate_cons_cons]

theorem journalText_eq (events : List TradeEvent) :
    journalText events = Delimited.terminate newline (events.map journalLine) := by
  have written : writeTradeEventPersistence = fun event => journalLine event ++ [newline] := by
    funext event
    exact writeTradeEventPersistence_eq event
  rw [journalText, Delimited.terminate, List.flatMap_map, written]

theorem journalLines_injective : Function.Injective fun events : List TradeEvent =>
    Delimited.terminate newline (events.map journalLine) :=
  Delimited.terminate_map_injective newline journalLine_injective journalLine_not_mem

/-- The journal identifies the run: two event lists with the same text are the
same list, in every field of every event. -/
theorem journalText_injective : Function.Injective journalText := by
  intro first second same
  rw [journalText_eq, journalText_eq] at same
  exact journalLines_injective same

end TradingKernel.FillLogger
