import TradingKernel.CsvAcceptance

/-!
What the tick reader says about a bad file. The error names the first row that
breaks a rule and the first rule it breaks; of the rows before, only their
number, their symbol and their last timestamp can be told from it, of the bytes
after that row nothing.
-/

namespace TradingKernel.CsvDiagnostics
open Library.Decimal CsvReader CsvAcceptance

/-- The first rule a row breaks after the given ones, in the order of checking. -/
inductive Fault (ticks : List MarketTick) (row : List UInt8) : CsvErrorCategory → Prop where
  | schema : (∀ tick, ¬RowText row tick) → Fault ticks row .schemaError
  | value {tick} : RowText row tick → ¬ValidTick tick → Fault ticks row .valueError
  | ordering {tick earlier} : RowText row tick → ValidTick tick → earlier ∈ ticks →
      tick.receiveTsNs < earlier.receiveTsNs → Fault ticks row .orderingError
  | multiSymbol {tick earlier} : RowText row tick → ValidTick tick →
      (∀ earlier ∈ ticks, earlier.receiveTsNs ≤ tick.receiveTsNs) → earlier ∈ ticks →
      earlier.symbolId ≠ tick.symbolId → Fault ticks row .multiSymbolError

/-- Reading the file comes to a row after a header and rows that together are
the text of valid ticks. -/
structure Reaches (content header : List UInt8) (good : List (List UInt8)) (row : List UInt8)
    (ticks : List MarketTick) : Prop where
  lines : ∃ rest, linesOf content = header :: (good ++ row :: rest)
  texts : RowsText good ticks
  valid : ValidTicks ticks

section Row
variable (path : String) (lineNumber : Nat)

/-- The error of a line that is not a row. -/
def IsSchemaError (error : CsvReadError) : Prop :=
  error.category = .schemaError ∧ error.path = path ∧ error.line = lineNumber

theorem parseField_error (name : String) (type : IntType) (field : List UInt8) :
    ∀ error, parseField path lineNumber name type field = .error error →
      IsSchemaError path lineNumber error := by
  intro error refused
  unfold parseField at refused
  split at refused
  · cases refused
  · obtain rfl := Except.error.inj refused
    exact ⟨rfl, rfl, rfl⟩

theorem parseLine_error (line : List UInt8) :
    ∀ error, parseLine path lineNumber line = .error error →
      IsSchemaError path lineNumber error := by
  intro error refused
  unfold parseLine at refused
  split at refused
  next =>
    split at refused
    next =>
      obtain rfl := Except.error.inj refused
      exact ⟨rfl, rfl, rfl⟩
    next =>
      revert error
      iterate 7
        refine bind_fails (parseField_error path lineNumber _ _ _) ?_
        intro _
      intro _ read
      cases read
  next =>
    obtain rfl := Except.error.inj refused
    exact ⟨rfl, rfl, rfl⟩

variable {path lineNumber}

theorem checkRow_error {ticks : List MarketTick} (valid : ValidTicks ticks) {row : List UInt8}
    {tick : MarketTick} (text : RowText row tick) {error : CsvReadError}
    (refused : checkRow path lineNumber ticks tick = .error error) :
    Fault ticks row error.category ∧ error.path = path ∧ error.line = lineNumber := by
  unfold checkRow at refused
  split_ifs at refused with prices quantities crossed late ordering symbol
  all_goals
    obtain rfl := Except.error.inj refused
    refine ⟨?_, rfl, rfl⟩
  · refine .value text fun row => prices.elim ?_ ?_
    · exact not_le.2 row.bid_pos
    · exact not_le.2 row.ask_pos
  · refine .value text fun row => quantities.elim ?_ ?_
    · exact not_lt.2 row.bidQty_nonneg
    · exact not_lt.2 row.askQty_nonneg
  · exact .value text fun row => not_lt.2 row.bid_le_ask crossed
  · exact .value text fun row => not_lt.2 row.exchange_le_receive late
  all_goals
    obtain ⟨bid, ask⟩ := not_or.1 prices
    obtain ⟨bidQty, askQty⟩ := not_or.1 quantities
    have row : ValidTick tick := ⟨not_le.1 bid, not_le.1 ask, not_lt.1 crossed, not_lt.1 bidQty,
      not_lt.1 askQty, not_lt.1 late⟩
  · have regresses := mt (latest_iff valid tick).2 (ne_of_eq_of_ne ordering (by decide))
    push Not at regresses
    obtain ⟨earlier, member, later⟩ := regresses
    exact .ordering text row member later
  · have differs := mt (sameSymbol_iff valid tick).2 (ne_of_eq_of_ne symbol (by decide))
    push Not at differs
    obtain ⟨earlier, member, other⟩ := differs
    have latest := (latest_iff valid tick).1 (by simpa using ordering)
    exact .multiSymbol text row latest member other

theorem readRow_error_iff (progress : Progress) (row : List UInt8) (error : CsvReadError) :
    readRow path progress row = .error error ↔
      parseLine path (progress.lineNumber + 1) (stripCarriageReturn row) = .error error ∨
        ∃ tick, parseLine path (progress.lineNumber + 1) (stripCarriageReturn row) = .ok tick ∧
          checkRow path (progress.lineNumber + 1) progress.ticks tick = .error error := by
  simp only [readRow, bind_error_iff, reduceCtorEq, and_false, exists_false, or_false]

theorem readRow_error {progress : Progress} (valid : ValidTicks progress.ticks) {row : List UInt8}
    {error : CsvReadError} (refused : readRow path progress row = .error error) :
    Fault progress.ticks (stripCarriageReturn row) error.category ∧ error.path = path ∧
      error.line = progress.lineNumber + 1 := by
  rcases (readRow_error_iff progress row error).1 refused with failed | ⟨tick, parsed, failed⟩
  · obtain ⟨category, named, numbered⟩ := parseLine_error _ _ _ error failed
    refine ⟨?_, named, numbered⟩
    rw [category]
    refine .schema fun tick text => ?_
    rw [(parseLine_ok_iff path _ _ tick).2 text] at failed
    cases failed
  · exact checkRow_error valid ((parseLine_ok_iff path _ _ tick).1 parsed) failed

end Row

/-- What a row's checks see of the rows before it. -/
def SameContext (ticks other : List MarketTick) : Prop :=
  ticks.head?.map (·.symbolId) = other.head?.map (·.symbolId) ∧
    ticks.getLast?.map (·.receiveTsNs) = other.getLast?.map (·.receiveTsNs)

theorem readRow_congr (path : String) (lineNumber : Nat) {ticks other : List MarketTick}
    (same : SameContext ticks other) {row : List UInt8} {error : CsvReadError}
    (refused : readRow path ⟨lineNumber, ticks⟩ row = .error error) :
    readRow path ⟨lineNumber, other⟩ row = .error error := by
  obtain ⟨symbol, last⟩ := same
  have checks : ∀ tick, checkRow path (lineNumber + 1) ticks tick =
      checkRow path (lineNumber + 1) other tick := by
    intro tick
    have regress : ∀ rows : List MarketTick,
        rows.getLast?.any (fun back => decide (tick.receiveTsNs < back.receiveTsNs)) =
          (rows.getLast?.map (·.receiveTsNs)).any fun ts => decide (tick.receiveTsNs < ts) := by
      intro rows
      cases rows.getLast? <;> rfl
    have differ : ∀ rows : List MarketTick,
        rows.head?.any (fun front => decide (tick.symbolId ≠ front.symbolId)) =
          (rows.head?.map (·.symbolId)).any fun id => decide (tick.symbolId ≠ id) := by
      intro rows
      cases rows.head? <;> rfl
    simp only [checkRow, regress, differ, symbol, last]
  simp only [readRow_error_iff, checks] at refused ⊢
  exact refused

theorem readRows_error_iff (path : String) (rows : List (List UInt8)) (progress : Progress)
    (valid : ValidTicks progress.ticks) (error : CsvReadError) :
    rows.foldlM (readRow path) progress = .error error ↔
      ∃ good bad rest ticks, rows = good ++ bad :: rest ∧ RowsText good ticks ∧
        ValidTicks (progress.ticks ++ ticks) ∧
        readRow path ⟨progress.lineNumber + good.length, progress.ticks ++ ticks⟩ bad =
          .error error := by
  constructor
  · intro failed
    induction rows generalizing progress with
    | nil => cases failed
    | cons row rest ih =>
      rw [List.foldlM_cons] at failed
      cases step : readRow path progress row with
      | error fault =>
        rw [step] at failed
        obtain rfl : fault = error := Except.error.inj failed
        exact ⟨[], row, rest, [], rfl, .nil, by simpa using valid, by simpa using step⟩
      | ok next =>
        rw [step] at failed
        obtain ⟨tick, text, longer, rfl⟩ := (readRow_ok_iff path valid row next).1 step
        obtain ⟨good, bad, later, ticks, rfl, texts, whole, refused⟩ := ih _ longer failed
        refine ⟨row :: good, bad, later, tick :: ticks, rfl, .cons text texts, ?_, ?_⟩
        · simpa using whole
        · rw [List.append_assoc, Nat.add_assoc, Nat.add_comm 1] at refused
          exact refused
  · rintro ⟨good, bad, rest, ticks, rfl, texts, whole, refused⟩
    have read := (readRows_ok_iff path good progress valid _).2 ⟨ticks, texts, whole, rfl⟩
    rw [List.foldlM_append, read]
    change (readRow path _ bad >>= _) = _
    rw [refused]
    rfl

theorem linesOf_split (front other : List UInt8) :
    linesOf (front ++ newline :: other) = front.splitOn newline ++ linesOf other := by
  have some : other.splitOn newline ≠ [] := List.splitOn_ne_nil newline other
  have last : (front.splitOn newline ++ other.splitOn newline).getLast? =
      (other.splitOn newline).getLast? :=
    List.getLast?_append_of_ne_nil _ some
  rw [linesOf, linesOf, List.splitOn_append_cons_self]
  simp only [last, List.dropLast_append_of_ne_nil some]
  split_ifs <;> rfl

theorem length_splitOn (bytes : List UInt8) :
    (bytes.splitOn newline).length = bytes.count newline + 1 := by
  induction bytes with
  | nil => rfl
  | cons byte rest ih =>
    rw [List.splitOn_cons_eq_if_modifyHead]
    by_cases ends : byte = newline
    · simp [ends, ih]
    · simp [ends, ih]

section Named
variable {name : String} (named : name ≠ "") {content header : List UInt8} {error : CsvReadError}
include named

/-- With data rows, only the row loop can refuse a readable file. -/
theorem readAll_error_iff {row : List UInt8} {rows : List (List UInt8)}
    (lines : linesOf content = header :: row :: rows) :
    readAll (some name) (some ⟨content, false⟩) = .error error ↔
      (row :: rows).foldlM (readRow name) ⟨1, []⟩ = .error error := by
  have opened : ¬(some name = none ∨ some name = some "") := by simp [named]
  simp only [readAll, if_neg opened, getlines_lines, lines, bind_error_iff, Option.getD_some,
    Bool.false_eq_true, if_false]
  apply or_iff_left
  rintro ⟨progress, read, refused⟩
  obtain ⟨ticks, texts, _, rfl⟩ := (readRows_ok_iff name _ ⟨1, []⟩ validTicks_nil _).1 read
  cases texts
  split_ifs at refused with empty
  simp at empty

/-- The error of a row is the error of every file in which reading reaches it
after equally many rows with the same context. -/
theorem readAll_reaches {good : List (List UInt8)} {row : List UInt8} {ticks : List MarketTick}
    (reaches : Reaches content header good row ticks)
    (refused : readRow name ⟨1 + good.length, ticks⟩ row = .error error) :
    readAll (some name) (some ⟨content, false⟩) = .error error := by
  obtain ⟨⟨rest, lines⟩, texts, valid⟩ := reaches
  have failed : (good ++ row :: rest).foldlM (readRow name) ⟨1, []⟩ = .error error :=
    (readRows_error_iff name _ ⟨1, []⟩ validTicks_nil error).2
      ⟨good, row, rest, ticks, rfl, texts, valid, refused⟩
  obtain ⟨first, more, rows⟩ := List.exists_cons_of_ne_nil
    (show good ++ row :: rest ≠ [] by simp)
  rw [rows] at lines failed
  exact (readAll_error_iff named lines).2 failed

/-- A file refused because of its data rows is refused at the first row that
breaks a rule, with that row's line number and the category of the first rule it
breaks. Bytes after that row's line end do not matter, and of the rows before it
only their number, their symbol and their last timestamp do. -/
theorem readAll_names_first_bad {row : List UInt8} {rows : List (List UInt8)}
    (lines : linesOf content = header :: row :: rows)
    (refused : readAll (some name) (some ⟨content, false⟩) = .error error) :
    ∃ good bad ticks, Reaches content header good bad ticks ∧
      error.path = name ∧ error.line = good.length + 2 ∧
      Fault ticks (stripCarriageReturn bad) error.category ∧
      (∀ front after other, content = front ++ newline :: after →
        front.count newline + 1 = error.line →
          readAll (some name) (some ⟨front ++ newline :: other, false⟩) = .error error) ∧
      ∀ content' header' good' ticks', Reaches content' header' good' bad ticks' →
        good'.length = good.length → SameContext ticks ticks' →
          readAll (some name) (some ⟨content', false⟩) = .error error := by
  have failed := (readAll_error_iff named lines).1 refused
  obtain ⟨good, bad, rest, ticks, whole, texts, valid, broken⟩ :=
    (readRows_error_iff name _ ⟨1, []⟩ validTicks_nil error).1 failed
  rw [List.nil_append] at valid broken
  obtain ⟨fault, path, numbered⟩ := readRow_error valid broken
  have line : error.line = good.length + 2 := by
    rw [numbered]
    change 1 + good.length + 1 = good.length + 2
    omega
  have reaches : Reaches content header good bad ticks :=
    ⟨⟨rest, by rw [lines, whole]⟩, texts, valid⟩
  refine ⟨good, bad, ticks, reaches, path, line, fault, ?_, ?_⟩
  · intro front after other split ended
    -- The line end of the bad row is the newline the front stands before.
    have counted : (front.splitOn newline).length = (header :: (good ++ [bad])).length := by
      rw [length_splitOn, ended, line]
      simp
    have pieces : front.splitOn newline ++ linesOf after = header :: (good ++ [bad]) ++ rest := by
      rw [← linesOf_split, ← split, lines, whole]
      simp
    have prefixed := List.append_inj_left pieces counted
    have lines' : linesOf (front ++ newline :: other) =
        header :: (good ++ bad :: linesOf other) := by
      rw [linesOf_split, prefixed]
      simp
    exact readAll_reaches named ⟨⟨linesOf other, lines'⟩, texts, valid⟩ broken
  · intro content' header' good' ticks' reachesToo length same
    apply readAll_reaches named reachesToo
    rw [length]
    exact readRow_congr name _ same broken

end Named

/-- Two rows in order, one that goes back in time and one without a price. -/
def regressingRows : List MarketTick :=
  [⟨1000, 1000, 99500, 99900, 1, 50, 50⟩, ⟨1200, 1200, 99500, 99900, 1, 50, 50⟩,
    ⟨1100, 1100, 99500, 99900, 1, 50, 50⟩, ⟨1300, 1300, 0, 99900, 1, 50, 50⟩]

def regressError : CsvReadError :=
  ⟨.orderingError, "ticks.csv", 4, "receive timestamps are not nondecreasing"⟩

/-- The third row is named, whatever follows it. -/
theorem readAll_names_first_bad_regress :
    readAll (some "ticks.csv") (some ⟨renderFile [] false true regressingRows, false⟩) =
        .error regressError ∧
      (∃ good bad ticks, Reaches (renderFile [] false true regressingRows) [] good bad ticks ∧
        4 = good.length + 2 ∧ Fault ticks (stripCarriageReturn bad) .orderingError) ∧
      ∀ other, readAll (some "ticks.csv")
        (some ⟨renderFile [] false false (regressingRows.take 3) ++ newline :: other, false⟩) =
          .error regressError := by
  have lines : linesOf (renderFile [] false true regressingRows) = [] :: _ :: _ := rfl
  have refused : readAll (some "ticks.csv")
      (some ⟨renderFile [] false true regressingRows, false⟩) = .error regressError := by
    decide +kernel
  obtain ⟨good, bad, ticks, reaches, _, line, fault, after, _⟩ :=
    readAll_names_first_bad (show "ticks.csv" ≠ "" by decide) lines refused
  refine ⟨refused, ⟨good, bad, ticks, reaches, line, fault⟩, fun other => ?_⟩
  exact after _ (renderRow ⟨1300, 1300, 0, 99900, 1, 50, 50⟩ ++ [newline]) other (by decide +kernel)
    (by decide +kernel)

end TradingKernel.CsvDiagnostics
