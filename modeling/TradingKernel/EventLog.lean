import TradingKernel.FillLogger

/-!
The console log. Each event is one line of words between spaces; what a line
shows depends on the kind of the event, and two logs are the same text exactly
when they show the same.
-/

namespace TradingKernel.FillLogger
open Library Library.Decimal OrderManager
open CsvReader (newline)
open ReplayRunner (EventKind TradeEvent)

def space : UInt8 := 32

def orderStateName : OrderState → String
  | .idle => "Idle"
  | .pendingNewAck => "PendingNewAck"
  | .acked => "Acked"
  | .partiallyFilled => "PartiallyFilled"
  | .pendingCancel => "PendingCancel"
  | .filled => "Filled"
  | .canceled => "Canceled"
  | .rejected => "Rejected"
  | .expired => "Expired"

def orderStates : List OrderState :=
  [.idle, .pendingNewAck, .acked, .partiallyFilled, .pendingCancel, .filled, .canceled, .rejected,
    .expired]

/-- The cast of a number to the one-byte enumeration, if it names a state. -/
def orderStateOf (number : Int) : Option OrderState :=
  orderStates.find? fun state => decide (state.code = number % 2 ^ 8)

/-- The name the log shows for a number cast to a state. -/
def stateName (number : Int) : List UInt8 :=
  ascii (((orderStateOf number).map orderStateName).getD "Unknown")

/-- What one event prints to the console. -/
def writeTradeEventLog (event : TradeEvent) : List UInt8 :=
  if event.kind = .fill then
    ascii "fill ts_ns=" ++ renderInt event.tsNs ++ ascii " side=" ++ sideName event.side ++
      ascii " price=" ++ renderInt event.price ++ ascii " qty=" ++ renderInt event.quantity ++
      [newline]
  else if event.kind = .omsTransition then
    ascii "oms_transition ts_ns=" ++ renderInt event.tsNs ++ ascii " from=" ++
      stateName event.price ++ ascii " to=" ++ stateName event.quantity ++ [newline]
  else if event.kind = .venueReject then
    ascii "venue_reject ts_ns=" ++ renderInt event.tsNs ++ ascii " side=" ++ sideName event.side ++
      ascii " qty=" ++ renderInt event.quantity ++ ascii " reason=" ++
      reasonName event.rejectReason ++ [newline]
  else
    ascii "reject ts_ns=" ++ renderInt event.tsNs ++ ascii " side=" ++ sideName event.side ++
      ascii " qty=" ++ renderInt event.quantity ++ ascii " reason=" ++
      reasonName event.rejectReason ++ [newline]

/-- The console output of a list of events. -/
def logText (events : List TradeEvent) : List UInt8 := events.flatMap writeTradeEventLog

/-- What the log shows of an event. -/
inductive Shown where
  | fill (tsNs : TimestampNs) (side : Side) (price : Price) (quantity : Int)
  | transition (tsNs : TimestampNs) (source target : Option OrderState)
  | venueReject (tsNs : TimestampNs) (side : Side) (quantity : Int) (reason : RejectReason)
  | reject (tsNs : TimestampNs) (side : Side) (quantity : Int) (reason : RejectReason)
  deriving DecidableEq, Repr

def shown (event : TradeEvent) : Shown :=
  match event.kind with
  | .fill => .fill event.tsNs event.side event.price event.quantity
  | .omsTransition =>
    .transition event.tsNs (orderStateOf event.price) (orderStateOf event.quantity)
  | .venueReject => .venueReject event.tsNs event.side event.quantity event.rejectReason
  | .riskReject => .reject event.tsNs event.side event.quantity event.rejectReason

def shownState (state : Option OrderState) : List UInt8 :=
  ascii ((state.map orderStateName).getD "Unknown")

/-- The words of a log line. -/
def words : Shown → List (List UInt8)
  | .fill tsNs side price quantity =>
    [ascii "fill", ascii "ts_ns=" ++ renderInt tsNs, ascii "side=" ++ sideName side,
      ascii "price=" ++ renderInt price, ascii "qty=" ++ renderInt quantity]
  | .transition tsNs source target =>
    [ascii "oms_transition", ascii "ts_ns=" ++ renderInt tsNs,
      ascii "from=" ++ shownState source, ascii "to=" ++ shownState target]
  | .venueReject tsNs side quantity reason =>
    [ascii "venue_reject", ascii "ts_ns=" ++ renderInt tsNs, ascii "side=" ++ sideName side,
      ascii "qty=" ++ renderInt quantity, ascii "reason=" ++ reasonName reason]
  | .reject tsNs side quantity reason =>
    [ascii "reject", ascii "ts_ns=" ++ renderInt tsNs, ascii "side=" ++ sideName side,
      ascii "qty=" ++ renderInt quantity, ascii "reason=" ++ reasonName reason]

/-- The line that shows something. -/
def logLine (shown : Shown) : List UInt8 := [space].intercalate (words shown)

theorem writeTradeEventLog_eq (event : TradeEvent) :
    writeTradeEventLog event = logLine (shown event) ++ [newline] := by
  obtain ⟨ts, price, quantity, kind, side, reason⟩ := event
  cases kind with
  | fill | riskReject | omsTransition | venueReject =>
    simp [writeTradeEventLog, logLine, shown, words, List.intercalate_cons_cons, ascii, space,
      stateName, shownState]

/-- The text breaks neither a word nor a line. -/
def Clean (text : List UInt8) : Prop := space ∉ text ∧ newline ∉ text

instance (text : List UInt8) : Decidable (Clean text) := inferInstanceAs (Decidable (_ ∧ _))

theorem Clean.append {first second : List UInt8} (left : Clean first) (right : Clean second) :
    Clean (first ++ second) :=
  ⟨fun member => (List.mem_append.1 member).elim left.1 right.1,
    fun member => (List.mem_append.1 member).elim left.2 right.2⟩

theorem clean_renderInt (number : Int) : Clean (renderInt number) := by
  have text : Numeral true (renderInt number) number := numeral_renderInt (.inr rfl)
  exact ⟨text.not_mem (by decide) (by decide), text.not_mem (by decide) (by decide)⟩

theorem clean_sideName (side : Side) : Clean (sideName side) := by
  cases side <;> decide

theorem clean_reasonName (reason : RejectReason) : Clean (reasonName reason) := by
  cases reason <;> decide

theorem clean_shownState (state : Option OrderState) : Clean (shownState state) := by
  cases state with
  | none => decide
  | some state => cases state <;> decide

theorem words_clean (shown : Shown) : ∀ word ∈ words shown, Clean word := by
  have labels : ∀ label ∈ ["fill", "ts_ns=", "side=", "price=", "qty=", "oms_transition", "from=",
      "to=", "venue_reject", "reason=", "reject"], Clean (ascii label) := by decide
  have labelled : ∀ label ∈ ["fill", "ts_ns=", "side=", "price=", "qty=", "oms_transition", "from=",
      "to=", "venue_reject", "reason=", "reject"], ∀ text, Clean text →
        Clean (ascii label ++ text) :=
    fun label member text clean => (labels label member).append clean
  intro word member
  cases shown with
  | fill tsNs side price quantity =>
    simp only [words, List.mem_cons, List.not_mem_nil, or_false] at member
    rcases member with rfl | rfl | rfl | rfl | rfl
    · exact labels _ (by simp)
    · exact labelled _ (by simp) _ (clean_renderInt tsNs)
    · exact labelled _ (by simp) _ (clean_sideName side)
    · exact labelled _ (by simp) _ (clean_renderInt price)
    · exact labelled _ (by simp) _ (clean_renderInt quantity)
  | transition tsNs source target =>
    simp only [words, List.mem_cons, List.not_mem_nil, or_false] at member
    rcases member with rfl | rfl | rfl | rfl
    · exact labels _ (by simp)
    · exact labelled _ (by simp) _ (clean_renderInt tsNs)
    · exact labelled _ (by simp) _ (clean_shownState source)
    · exact labelled _ (by simp) _ (clean_shownState target)
  | venueReject tsNs side quantity reason =>
    simp only [words, List.mem_cons, List.not_mem_nil, or_false] at member
    rcases member with rfl | rfl | rfl | rfl | rfl
    · exact labels _ (by simp)
    · exact labelled _ (by simp) _ (clean_renderInt tsNs)
    · exact labelled _ (by simp) _ (clean_sideName side)
    · exact labelled _ (by simp) _ (clean_renderInt quantity)
    · exact labelled _ (by simp) _ (clean_reasonName reason)
  | reject tsNs side quantity reason =>
    simp only [words, List.mem_cons, List.not_mem_nil, or_false] at member
    rcases member with rfl | rfl | rfl | rfl | rfl
    · exact labels _ (by simp)
    · exact labelled _ (by simp) _ (clean_renderInt tsNs)
    · exact labelled _ (by simp) _ (clean_sideName side)
    · exact labelled _ (by simp) _ (clean_renderInt quantity)
    · exact labelled _ (by simp) _ (clean_reasonName reason)

theorem shownState_injective : Function.Injective shownState := by
  intro first second same
  rcases first with _ | first <;> rcases second with _ | second
  · rfl
  · cases second <;> exact absurd same (by decide)
  · cases first <;> exact absurd same (by decide)
  · cases first <;> cases second <;> first | rfl | exact absurd same (by decide)

/-- The words of a line tell everything it shows. -/
theorem words_injective : Function.Injective words := by
  intro first second same
  cases first with
  | fill tsNs side price quantity =>
    cases second with
    | fill tsNs' side' price' quantity' =>
      simp only [words, List.cons.injEq, List.append_cancel_left_eq, true_and, and_true] at same
      obtain ⟨ts, sides, prices, quantities⟩ := same
      rw [renderInt_injective ts, sideName_injective sides, renderInt_injective prices,
        renderInt_injective quantities]
    | transition | venueReject | reject =>
      exact absurd (List.cons.inj same).1 (by decide)
  | transition tsNs source target =>
    cases second with
    | transition tsNs' source' target' =>
      simp only [words, List.cons.injEq, List.append_cancel_left_eq, true_and, and_true] at same
      obtain ⟨ts, sources, targets⟩ := same
      rw [renderInt_injective ts, shownState_injective sources, shownState_injective targets]
    | fill | venueReject | reject => exact absurd (List.cons.inj same).1 (by decide)
  | venueReject tsNs side quantity reason =>
    cases second with
    | venueReject tsNs' side' quantity' reason' =>
      simp only [words, List.cons.injEq, List.append_cancel_left_eq, true_and, and_true] at same
      obtain ⟨ts, sides, quantities, reasons⟩ := same
      rw [renderInt_injective ts, sideName_injective sides, renderInt_injective quantities,
        reasonName_injective reasons]
    | fill | transition | reject => exact absurd (List.cons.inj same).1 (by decide)
  | reject tsNs side quantity reason =>
    cases second with
    | reject tsNs' side' quantity' reason' =>
      simp only [words, List.cons.injEq, List.append_cancel_left_eq, true_and, and_true] at same
      obtain ⟨ts, sides, quantities, reasons⟩ := same
      rw [renderInt_injective ts, sideName_injective sides, renderInt_injective quantities,
        reasonName_injective reasons]
    | fill | transition | venueReject => exact absurd (List.cons.inj same).1 (by decide)

theorem words_ne_nil (shown : Shown) : words shown ≠ [] := by
  cases shown <;> simp [words]

theorem logLine_clean (shown : Shown) : newline ∉ logLine shown := by
  intro member
  rcases Delimited.mem_intercalate space member with separator | ⟨word, inside, found⟩
  · cases separator
  · exact (words_clean shown word inside).2 found

theorem logLine_injective : Function.Injective logLine := by
  intro first second same
  apply words_injective
  exact Delimited.intercalate_inj space (fun word member => (words_clean first word member).1)
    (fun word member => (words_clean second word member).1) (words_ne_nil first)
    (words_ne_nil second) same

theorem logText_eq (events : List TradeEvent) :
    logText events = Delimited.terminate newline ((events.map shown).map logLine) := by
  have written : writeTradeEventLog = fun event => logLine (shown event) ++ [newline] := by
    funext event
    exact writeTradeEventLog_eq event
  rw [logText, Delimited.terminate, List.map_map, List.flatMap_map, written]
  rfl

/-- The console log tells two event lists apart exactly by what it shows of
them: kinds, times, sides, prices and quantities of fills, the states of
transitions, quantities and reasons of rejects. -/
theorem logText_eq_iff (first second : List TradeEvent) :
    logText first = logText second ↔ first.map shown = second.map shown := by
  rw [logText_eq, logText_eq]
  constructor
  · intro same
    exact Delimited.terminate_map_injective newline logLine_injective logLine_clean same
  · intro same
    rw [same]

end TradingKernel.FillLogger
