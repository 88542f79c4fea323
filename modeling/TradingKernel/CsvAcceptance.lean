import Mathlib.Data.List.Forall2
import Mathlib.Data.List.TakeWhile
import TradingKernel.CsvReader
import TradingKernel.Library.Delimited

/-!
What the tick reader accepts. Each stage of the reader is characterised by what
it lets through, and together they say that the accepted files are exactly the
well-formed ones and that their values are the ones written in them.
-/

namespace TradingKernel.CsvAcceptance
open Library Library.Decimal CsvReader

/-- The text is one complete integer of the type. -/
structure IsField (type : IntType) (text : List UInt8) (number : Int) : Prop where
  numeral : Numeral type.signed text number
  above : type.min ≤ number
  below : number ≤ type.max

/-- The digits of a text and the integer they make, given its sign. -/
theorem numeral_iff (signed : Bool) (text : List UInt8) (number : Int) :
    Numeral signed text number ↔
      let negative := signed && text.head? == some minus
      let digits := if negative then text.tail else text
      digits ≠ [] ∧ (∀ byte ∈ digits, isDigit byte = true) ∧
        number = if negative then -(value digits : Int) else (value digits : Int) := by
  constructor
  · intro numeral
    cases numeral with
    | @plain digits nonempty allDigits =>
      have unsigned : (signed && text.head? == some minus) = false := by
        cases text with
        | nil => exact absurd rfl nonempty
        | cons first rest =>
          have digit := allDigits first (List.mem_cons_self ..)
          have other : first ≠ minus := by
            rintro rfl
            cases digit
          simp [other]
      simp only [unsigned]
      exact ⟨nonempty, allDigits, rfl⟩
    | @negative digits allowed nonempty allDigits =>
      simp only [allowed]
      exact ⟨nonempty, allDigits, rfl⟩
  · intro scanned
    generalize sign : (signed && text.head? == some minus) = negative at scanned
    cases negative with
    | false =>
      obtain ⟨some, allDigits, rfl⟩ := scanned
      exact .plain some allDigits
    | true =>
      obtain ⟨some, allDigits, rfl⟩ := scanned
      obtain ⟨allowed, first⟩ := Bool.and_eq_true_iff.1 sign
      cases text with
      | nil => cases first
      | cons byte rest =>
        obtain rfl : byte = minus := by simpa using first
        exact .negative allowed some allDigits

/-- `from_chars` consumes the whole text of an integer, and of nothing else. -/
theorem parseInteger_iff (type : IntType) (text : List UInt8) (number : Int) :
    parseInteger type text = some number ↔ IsField type text number := by
  have fields : IsField type text number ↔
      Numeral type.signed text number ∧ type.min ≤ number ∧ number ≤ type.max :=
    ⟨fun field => ⟨field.1, field.2, field.3⟩, fun ⟨h1, h2, h3⟩ => ⟨h1, h2, h3⟩⟩
  rw [fields, numeral_iff, parseInteger, fromChars]
  generalize (type.signed && text.head? == some minus) = negative
  simp only
  generalize (if negative = true then text.tail else text) = digits
  by_cases complete : ∀ byte ∈ digits, isDigit byte = true
  · rw [List.takeWhile_eq_self_iff.2 complete, List.dropWhile_eq_nil_iff.2 complete]
    generalize (if negative = true then -(value digits : Int) else (value digits : Int)) = read
    by_cases nothing : digits = []
    · simp [nothing]
    · simp only [nothing, if_false, ne_eq, not_false_eq_true, true_and]
      by_cases fits : type.min ≤ read ∧ read ≤ type.max
      · simp only [if_pos fits, if_true, Option.some.injEq]
        constructor
        · rintro rfl
          exact ⟨⟨complete, rfl⟩, fits⟩
        · rintro ⟨⟨_, rfl⟩, _⟩
          rfl
      · simp only [if_neg fits, if_true, reduceCtorEq, false_iff]
        rintro ⟨⟨_, rfl⟩, within⟩
        exact fits within
  · have rest : digits.dropWhile isDigit ≠ [] := mt List.dropWhile_eq_nil_iff.1 complete
    constructor
    · intro parsed
      split_ifs at parsed
    · rintro ⟨⟨_, allDigits, _⟩, _⟩
      exact absurd allDigits complete

theorem modifyHead_same (pieces : List (List UInt8)) :
    pieces.modifyHead (fun piece => piece) = pieces :=
  congrFun List.modifyHead_id pieces

/-- A byte put before a piece is a byte put after what comes before it. -/
theorem append_comp_cons (field : List UInt8) (byte : UInt8) :
    ((fun piece => field ++ piece) ∘ fun piece => byte :: piece) =
      fun piece => field ++ [byte] ++ piece := by
  funext piece
  simp

/-- The field loop cuts the line at its commas, as long as they make at most
seven fields. -/
theorem splitFields_eq (fields : List (List UInt8)) (field line : List UInt8) :
    splitFields fields field line =
      let pieces := (line.splitOn comma).modifyHead (field ++ ·)
      if fields.length + pieces.length ≤ 7 then some (fields ++ pieces) else none := by
  induction line generalizing fields field with
  | nil =>
    simp only [splitFields, List.splitOn_nil, List.modifyHead_cons, List.append_nil,
      List.length_singleton]
    split_ifs <;> first | rfl | omega
  | cons byte rest ih =>
    rw [splitFields, List.splitOn_cons_eq_if_modifyHead]
    by_cases separator : byte = comma
    · have more : 0 < (rest.splitOn comma).length :=
        List.length_pos_iff.2 (List.splitOn_ne_nil comma rest)
      simp only [separator, if_true, beq_self_eq_true, ih, List.nil_append, List.modifyHead_cons,
        List.append_nil, List.length_append, List.length_cons, List.length_nil,
        List.length_modifyHead, List.append_assoc, List.cons_append, modifyHead_same]
      split_ifs <;> first | rfl | omega
    · simp only [separator, if_false, ih, beq_iff_eq, List.modifyHead_modifyHead,
        List.length_modifyHead, append_comp_cons]

theorem parseField_ok_iff (path : String) (lineNumber : Nat) (name : String) (type : IntType)
    (text : List UInt8) (number : Int) :
    parseField path lineNumber name type text = .ok number ↔ IsField type text number := by
  rw [← parseInteger_iff, parseField]
  cases parseInteger type text with
  | none => simp
  | some parsed => simp

/-- A step that may fail lets a result through when the rest does after it. -/
theorem bind_ok_iff {Error First Second : Type} (first : Except Error First)
    (rest : First → Except Error Second) (result : Second) :
    (first >>= rest) = .ok result ↔ ∃ value, first = .ok value ∧ rest value = .ok result := by
  cases first with
  | error fault => simp [bind, Except.bind]
  | ok value => simp [bind, Except.bind]

theorem bind_error_iff {Error First Second : Type} (first : Except Error First)
    (rest : First → Except Error Second) (fault : Error) :
    (first >>= rest) = .error fault ↔
      first = .error fault ∨ ∃ value, first = .ok value ∧ rest value = .error fault := by
  cases first with
  | error other => simp [bind, Except.bind]
  | ok value => simp [bind, Except.bind]

/-- A step that may fail fails only the way its parts do. -/
theorem bind_fails {Error First Second : Type} {fails : Error → Prop}
    {first : Except Error First} {rest : First → Except Error Second}
    (now : ∀ fault, first = .error fault → fails fault)
    (later : ∀ value fault, rest value = .error fault → fails fault) :
    ∀ fault, (first >>= rest) = .error fault → fails fault := by
  intro fault failed
  rcases (bind_error_iff first rest fault).1 failed with early | ⟨value, _, late⟩
  · exact now fault early
  · exact later value fault late

/-- The types and values of a row, in the order they are written. -/
def columns (tick : MarketTick) : List (IntType × Int) :=
  [(int64, tick.exchangeTsNs), (int64, tick.receiveTsNs), (uint32, tick.symbolId),
    (int64, tick.bidPrice), (int64, tick.askPrice), (int32, tick.bidQty), (int32, tick.askQty)]

/-- The line is exactly the values of the tick, separated by commas. -/
def RowText (line : List UInt8) (tick : MarketTick) : Prop :=
  ∃ texts, line = [comma].intercalate texts ∧
    List.Forall₂ (fun text column => IsField column.1 text column.2) texts (columns tick)

theorem IsField.not_mem {type : IntType} {text : List UInt8} {number : Int}
    (field : IsField type text number) : comma ∉ text ∧ carriageReturn ∉ text ∧ newline ∉ text :=
  ⟨field.numeral.not_mem (by decide) (by decide), field.numeral.not_mem (by decide) (by decide),
    field.numeral.not_mem (by decide) (by decide)⟩

/-- Fields in seven texts are what a line of seven columns holds. -/
theorem columns_iff (texts : List (List UInt8)) (tick : MarketTick) :
    List.Forall₂ (fun text column => IsField column.1 text column.2) texts (columns tick) ↔
      ∃ t₁ t₂ t₃ t₄ t₅ t₆ t₇, texts = [t₁, t₂, t₃, t₄, t₅, t₆, t₇] ∧
        IsField int64 t₁ tick.exchangeTsNs ∧ IsField int64 t₂ tick.receiveTsNs ∧
        IsField uint32 t₃ tick.symbolId ∧ IsField int64 t₄ tick.bidPrice ∧
        IsField int64 t₅ tick.askPrice ∧ IsField int32 t₆ tick.bidQty ∧
        IsField int32 t₇ tick.askQty := by
  simp only [columns, List.forall₂_cons_right_iff, List.forall₂_nil_right_iff]
  constructor
  · rintro ⟨t₁, _, h₁, ⟨t₂, _, h₂, ⟨t₃, _, h₃, ⟨t₄, _, h₄, ⟨t₅, _, h₅, ⟨t₆, _, h₆,
      ⟨t₇, _, h₇, rfl, rfl⟩, rfl⟩, rfl⟩, rfl⟩, rfl⟩, rfl⟩, rfl⟩
    exact ⟨t₁, t₂, t₃, t₄, t₅, t₆, t₇, rfl, h₁, h₂, h₃, h₄, h₅, h₆, h₇⟩
  · rintro ⟨t₁, t₂, t₃, t₄, t₅, t₆, t₇, rfl, h₁, h₂, h₃, h₄, h₅, h₆, h₇⟩
    exact ⟨t₁, _, h₁, ⟨t₂, _, h₂, ⟨t₃, _, h₃, ⟨t₄, _, h₄, ⟨t₅, _, h₅, ⟨t₆, _, h₆,
      ⟨t₇, _, h₇, rfl, rfl⟩, rfl⟩, rfl⟩, rfl⟩, rfl⟩, rfl⟩, rfl⟩

theorem isField_of_mem {texts : List (List UInt8)} {columns : List (IntType × Int)}
    (fields : List.Forall₂ (fun text column => IsField column.1 text column.2) texts columns)
    {text : List UInt8} (member : text ∈ texts) : ∃ column : IntType × Int,
      IsField column.1 text column.2 := by
  obtain ⟨index, inside, rfl⟩ := List.getElem_of_mem member
  exact ⟨_, fields.get inside (fields.length_eq ▸ inside)⟩

theorem rowText_iff (line : List UInt8) (tick : MarketTick) :
    RowText line tick ↔
      List.Forall₂ (fun text column => IsField column.1 text column.2) (line.splitOn comma)
        (columns tick) := by
  constructor
  · rintro ⟨texts, rfl, fields⟩
    have separate : ∀ text ∈ texts, comma ∉ text := by
      intro text member
      obtain ⟨column, field⟩ := isField_of_mem fields member
      exact field.not_mem.1
    have some : texts ≠ [] := by
      rintro rfl
      cases fields
    rwa [List.splitOn_intercalate comma separate some]
  · intro fields
    exact ⟨_, (List.intercalate_splitOn comma).symm, fields⟩

theorem splitFields_line (line : List UInt8) :
    splitFields [] [] line =
      if (line.splitOn comma).length ≤ 7 then some (line.splitOn comma) else none := by
  simp only [splitFields_eq, List.nil_append, modifyHead_same, List.length_nil, Nat.zero_add]

/-- A line is parsed to a tick exactly when it is the text of that tick. -/
theorem parseLine_ok_iff (path : String) (lineNumber : Nat) (line : List UInt8)
    (tick : MarketTick) :
    parseLine path lineNumber line = .ok tick ↔ RowText line tick := by
  rw [rowText_iff, columns_iff, parseLine, splitFields_line]
  generalize line.splitOn comma = texts
  constructor
  · intro parsed
    split at parsed
    next t₁ t₂ t₃ t₄ t₅ t₆ t₇ same =>
      obtain ⟨_, whole⟩ := Option.ite_none_right_eq_some.1 same
      obtain rfl := Option.some.inj whole
      split at parsed
      next => cases parsed
      next =>
        simp only [bind_ok_iff, parseField_ok_iff] at parsed
        obtain ⟨exchangeTsNs, h₁, receiveTsNs, h₂, symbolId, h₃, bidPrice, h₄, askPrice, h₅,
          bidQty, h₆, askQty, h₇, made⟩ := parsed
        obtain rfl := Except.ok.inj made
        refine ⟨t₁, t₂, t₃, t₄, t₅, t₆, t₇, rfl, h₁, h₂, ?_, h₄, h₅, h₆, h₇⟩
        rwa [Int.toNat_of_nonneg h₃.above]
    next => cases parsed
  · rintro ⟨t₁, t₂, t₃, t₄, t₅, t₆, t₇, rfl, h₁, h₂, h₃, h₄, h₅, h₆, h₇⟩
    have filled : [] ∉ [t₁, t₂, t₃, t₄, t₅, t₆, t₇] := by
      simp only [List.mem_cons, List.not_mem_nil, not_or, or_false]
      exact ⟨h₁.numeral.ne_nil.symm, h₂.numeral.ne_nil.symm, h₃.numeral.ne_nil.symm,
        h₄.numeral.ne_nil.symm, h₅.numeral.ne_nil.symm, h₆.numeral.ne_nil.symm,
        h₇.numeral.ne_nil.symm⟩
    simp only [List.length_cons, List.length_nil, Nat.reduceAdd, Nat.le_refl, if_true,
      if_neg filled, bind_ok_iff, parseField_ok_iff]
    exact ⟨_, h₁, _, h₂, _, h₃, _, h₄, _, h₅, _, h₆, _, h₇, by rw [Int.toNat_natCast]⟩

section Rows
variable {ticks : List MarketTick} (valid : ValidTicks ticks) (tick : MarketTick)
include valid

/-- In ordered rows the last one is the latest. -/
theorem latest_iff :
    ticks.getLast?.any (fun back => decide (tick.receiveTsNs < back.receiveTsNs)) = false ↔
      ∀ earlier ∈ ticks, earlier.receiveTsNs ≤ tick.receiveTsNs := by
  rcases List.eq_nil_or_concat ticks with rfl | ⟨before, back, rfl⟩
  · simp
  · rw [List.concat_eq_append] at valid ⊢
    have ordered := (List.pairwise_append.1 valid.ordered).2.2
    simp only [List.getLast?_concat, Option.any_some, decide_eq_false_iff_not, not_lt]
    constructor
    · intro last earlier member
      rcases List.mem_append.1 member with inside | final
      · exact (ordered earlier inside back (List.mem_singleton_self back)).trans last
      · rwa [List.mem_singleton.1 final]
    · intro all
      exact all back (by simp)

/-- In rows of one symbol the first one has it. -/
theorem sameSymbol_iff :
    ticks.head?.any (fun front => decide (tick.symbolId ≠ front.symbolId)) = false ↔
      ∀ earlier ∈ ticks, earlier.symbolId = tick.symbolId := by
  cases ticks with
  | nil => simp
  | cons front rest =>
    have same := (List.pairwise_cons.1 valid.oneSymbol).1
    simp only [List.head?_cons, Option.any_some, decide_eq_false_iff_not, not_not]
    constructor
    · intro first earlier member
      rcases List.mem_cons.1 member with rfl | inside
      · exact first.symm
      · exact (same earlier inside).symm.trans first.symm
    · intro all
      exact (all front (List.mem_cons_self ..)).symm

theorem validTicks_append_iff :
    ValidTicks (ticks ++ [tick]) ↔
      ValidTick tick ∧ (∀ earlier ∈ ticks, earlier.receiveTsNs ≤ tick.receiveTsNs) ∧
        ∀ earlier ∈ ticks, earlier.symbolId = tick.symbolId := by
  constructor
  · intro longer
    refine ⟨longer.rows tick (by simp), ?_, ?_⟩
    · intro earlier member
      exact (List.pairwise_append.1 longer.ordered).2.2 earlier member tick (by simp)
    · intro earlier member
      exact (List.pairwise_append.1 longer.oneSymbol).2.2 earlier member tick (by simp)
  · rintro ⟨row, order, symbol⟩
    refine ⟨List.forall_mem_append.2 ⟨valid.rows, by simpa using row⟩, ?_, ?_⟩
    · exact List.pairwise_append.2 ⟨valid.ordered, List.pairwise_singleton .., by simpa using order⟩
    · exact List.pairwise_append.2
        ⟨valid.oneSymbol, List.pairwise_singleton .., by simpa using symbol⟩

/-- The checks of a row are those of a valid tick list that it would extend. -/
theorem checkRow_ok_iff (path : String) (lineNumber : Nat) :
    checkRow path lineNumber ticks tick = .ok () ↔ ValidTicks (ticks ++ [tick]) := by
  rw [validTicks_append_iff valid, ← latest_iff valid, ← sameSymbol_iff valid, checkRow]
  constructor
  · intro passed
    split_ifs at passed with prices quantities crossed late ordering symbol
    obtain ⟨bid, ask⟩ := not_or.1 prices
    obtain ⟨bidQty, askQty⟩ := not_or.1 quantities
    exact ⟨⟨not_le.1 bid, not_le.1 ask, not_lt.1 crossed, not_lt.1 bidQty, not_lt.1 askQty,
      not_lt.1 late⟩, by simpa using ordering, by simpa using symbol⟩
  · rintro ⟨⟨bid, ask, crossed, bidQty, askQty, late⟩, ordering, symbol⟩
    have prices : ¬(tick.bidPrice ≤ 0 ∨ tick.askPrice ≤ 0) := by simp [bid, ask]
    have quantities : ¬(tick.bidQty < 0 ∨ tick.askQty < 0) := by simp [bidQty, askQty]
    rw [if_neg prices, if_neg quantities, if_neg (not_lt.2 crossed), if_neg (not_lt.2 late),
      ordering, symbol]
    rfl

end Rows

/-- The rows of a file and the ticks they are read as. -/
def RowsText (rows : List (List UInt8)) (ticks : List MarketTick) : Prop :=
  List.Forall₂ (fun row tick => RowText (stripCarriageReturn row) tick) rows ticks

theorem readRow_ok_iff (path : String) {progress : Progress} (valid : ValidTicks progress.ticks)
    (row : List UInt8) (next : Progress) :
    readRow path progress row = .ok next ↔
      ∃ tick, RowText (stripCarriageReturn row) tick ∧ ValidTicks (progress.ticks ++ [tick]) ∧
        next = ⟨progress.lineNumber + 1, progress.ticks ++ [tick]⟩ := by
  simp only [readRow, bind_ok_iff, parseLine_ok_iff]
  apply exists_congr
  intro tick
  apply and_congr_right
  intro _
  constructor
  · rintro ⟨_, passed, made⟩
    exact ⟨(checkRow_ok_iff valid tick path _).1 passed, (Except.ok.inj made).symm⟩
  · rintro ⟨longer, rfl⟩
    exact ⟨(), (checkRow_ok_iff valid tick path _).2 longer, rfl⟩

/-- The row loop ends well exactly when every row is the text of a tick and the
ticks read are a valid list. -/
theorem readRows_ok_iff (path : String) (rows : List (List UInt8)) (progress : Progress)
    (valid : ValidTicks progress.ticks) (final : Progress) :
    rows.foldlM (readRow path) progress = .ok final ↔
      ∃ ticks, RowsText rows ticks ∧ ValidTicks (progress.ticks ++ ticks) ∧
        final = ⟨progress.lineNumber + rows.length, progress.ticks ++ ticks⟩ := by
  induction rows generalizing progress with
  | nil =>
    simp only [List.foldlM_nil, RowsText, List.forall₂_nil_left_iff, List.length_nil, Nat.add_zero]
    constructor
    · intro same
      exact ⟨[], rfl, by simpa using valid, by simpa using (Except.ok.inj same).symm⟩
    · rintro ⟨_, rfl, _, rfl⟩
      simp [pure, Except.pure]
  | cons row rest ih =>
    simp only [List.foldlM_cons, bind_ok_iff, readRow_ok_iff path valid]
    constructor
    · rintro ⟨_, ⟨tick, text, longer, rfl⟩, later⟩
      obtain ⟨ticks, texts, whole, rfl⟩ := (ih _ longer).1 later
      refine ⟨tick :: ticks, .cons text texts, by simpa using whole, ?_⟩
      simp
      omega
    · rintro ⟨_, texts, whole, rfl⟩
      cases texts with
      | @cons _ tick _ ticks text texts =>
        have shorter : ValidTicks (progress.ticks ++ [tick]) :=
          whole.take ⟨ticks, by simp⟩
        refine ⟨_, ⟨tick, text, shorter, rfl⟩,
          (ih _ shorter).2 ⟨ticks, texts, by simpa using whole, ?_⟩⟩
        simp
        omega

/-- The lines of a text: its pieces between newlines, without the empty piece
after a final newline. -/
def linesOf (content : List UInt8) : List (List UInt8) :=
  let pieces := content.splitOn newline
  if pieces.getLast? = some [] then pieces.dropLast else pieces

theorem getlines_eq (line content : List UInt8) :
    getlines false line content =
      let pieces := (content.splitOn newline).modifyHead (line ++ ·)
      if pieces.getLast? = some [] then pieces.dropLast else pieces := by
  induction content generalizing line with
  | nil =>
    simp only [getlines, List.splitOn_nil, List.modifyHead_cons, List.append_nil]
    cases line with
    | nil => rfl
    | cons byte rest => simp
  | cons byte rest ih =>
    rw [getlines, List.splitOn_cons_eq_if_modifyHead]
    by_cases ends : byte = newline
    · simp only [ends, if_true, beq_self_eq_true, List.modifyHead_cons, List.append_nil, ih,
        List.nil_append, modifyHead_same]
      obtain ⟨first, more, pieces⟩ := List.exists_cons_of_ne_nil (List.splitOn_ne_nil newline rest)
      rw [pieces, List.getLast?_cons_cons, List.dropLast_cons_cons]
      split_ifs <;> rfl
    · simp only [ends, if_false, ih, beq_iff_eq, List.modifyHead_modifyHead, append_comp_cons]

/-- What `std::getline` delivers from a sound file is its lines. -/
theorem getlines_lines (content : List UInt8) : getlines false [] content = linesOf content := by
  simp only [getlines_eq, List.nil_append, modifyHead_same, linesOf]

/-- A file of ticks has a header line and at least one more, and every further
line is the text of a tick, up to one carriage return; the ticks are valid. -/
def FileText (content : List UInt8) (ticks : List MarketTick) : Prop :=
  ∃ header rows, linesOf content = header :: rows ∧ rows ≠ [] ∧ RowsText rows ticks ∧
    ValidTicks ticks

theorem validTicks_nil : ValidTicks [] := ⟨by simp, .nil, .nil⟩

section Named
variable {name : String} (named : name ≠ "") (bytes : List UInt8) (ticks : List MarketTick)
include named

/-- A file that opens and can be read to its end. -/
theorem readAll_sound_iff :
    readAll (some name) (some ⟨bytes, false⟩) = .ok ticks ↔ FileText bytes ticks := by
  have opened : ¬(some name = none ∨ some name = some "") := by simp [named]
  simp only [readAll, if_neg opened, getlines_lines, FileText]
  cases lines : linesOf bytes with
  | nil => simp
  | cons header rows =>
    simp only [bind_ok_iff, readRows_ok_iff _ rows ⟨1, []⟩ validTicks_nil,
      Option.getD_some, List.nil_append, List.cons.injEq, Bool.false_eq_true, if_false]
    constructor
    · rintro ⟨_, ⟨read, texts, valid, rfl⟩, made⟩
      split_ifs at made with empty
      obtain rfl := Except.ok.inj made
      refine ⟨header, rows, ⟨rfl, rfl⟩, ?_, texts, valid⟩
      rintro rfl
      cases texts
      exact empty rfl
    · rintro ⟨_, _, ⟨rfl, rfl⟩, some, texts, valid⟩
      refine ⟨_, ⟨ticks, texts, valid, rfl⟩, if_neg ?_⟩
      rintro rfl
      cases texts
      exact some rfl

/-- A file whose reading fails gives no ticks, however much of it was read. -/
theorem readAll_bad : readAll (some name) (some ⟨bytes, true⟩) ≠ .ok ticks := by
  intro read
  have opened : ¬(some name = none ∨ some name = some "") := by simp [named]
  simp only [readAll, if_neg opened] at read
  split at read
  · cases read
  · obtain ⟨progress, _, failed⟩ := (bind_ok_iff _ _ _).1 read
    cases failed

end Named

/-- The reader returns a tick list exactly on the files that hold its text. -/
theorem readAll_ok_iff (path : Option String) (file : Option Input) (ticks : List MarketTick) :
    readAll path file = .ok ticks ↔
      ∃ name content, path = some name ∧ name ≠ "" ∧ file = some ⟨content, false⟩ ∧
        FileText content ticks := by
  constructor
  · intro read
    cases path with
    | none => cases read
    | some name =>
      by_cases named : name = ""
      · simp [readAll, named] at read
      · cases file with
        | none => simp [readAll, named] at read
        | some input =>
          obtain ⟨bytes, bad⟩ := input
          cases bad with
          | false =>
            exact ⟨name, bytes, rfl, named, rfl, (readAll_sound_iff named bytes ticks).1 read⟩
          | true => exact absurd read (readAll_bad named bytes ticks)
  · rintro ⟨name, content, rfl, named, rfl, text⟩
    exact (readAll_sound_iff named content ticks).2 text

/-- What ends a line of a rendered file. -/
def lineEnd (crlf : Bool) : List UInt8 :=
  if crlf then [carriageReturn, newline] else [newline]

def renderRow (tick : MarketTick) : List UInt8 :=
  [comma].intercalate ((columns tick).map fun column => renderInt column.2)

/-- The rows of a file, with or without an end after the last one. -/
def renderRows (crlf final : Bool) : List MarketTick → List UInt8
  | [] => []
  | [tick] => renderRow tick ++ if final then lineEnd crlf else []
  | tick :: rest => renderRow tick ++ lineEnd crlf ++ renderRows crlf final rest

def renderFile (header : List UInt8) (crlf final : Bool) (ticks : List MarketTick) : List UInt8 :=
  header ++ lineEnd crlf ++ renderRows crlf final ticks

/-- The values of a tick fit the types of its fields. -/
def Representable (tick : MarketTick) : Prop :=
  ∀ column ∈ columns tick, column.1.min ≤ column.2 ∧ column.2 ≤ column.1.max

instance (tick : MarketTick) : Decidable (Representable tick) :=
  inferInstanceAs (Decidable (∀ column ∈ columns tick, _))

theorem renderRow_text {tick : MarketTick} (fits : Representable tick) :
    RowText (renderRow tick) tick := by
  refine ⟨_, rfl, ?_⟩
  rw [List.forall₂_map_left_iff, List.forall₂_same]
  intro column member
  obtain ⟨above, below⟩ := fits column member
  refine ⟨numeral_renderInt ?_, above, below⟩
  have sign : ∀ column ∈ columns tick, column.1.signed = true ∨ column.1.min = 0 := by
    simp [columns, int64, int32, uint32]
  rcases sign column member with signed | zero
  · exact .inr signed
  · exact .inl (zero ▸ above)

/-- A row's text is not empty and has no line end inside it. -/
theorem RowText.not_mem {line : List UInt8} {tick : MarketTick} (text : RowText line tick) :
    newline ∉ line ∧ carriageReturn ∉ line ∧ line ≠ [] := by
  have pieces := ((rowText_iff line tick).1 text).length_eq
  obtain ⟨texts, rfl, fields⟩ := text
  refine ⟨?_, ?_, ?_⟩
  · intro member
    rcases Delimited.mem_intercalate comma member with separator | ⟨text, inside, found⟩
    · cases separator
    · obtain ⟨column, field⟩ := isField_of_mem fields inside
      exact field.not_mem.2.2 found
  · intro member
    rcases Delimited.mem_intercalate comma member with separator | ⟨text, inside, found⟩
    · cases separator
    · obtain ⟨column, field⟩ := isField_of_mem fields inside
      exact field.not_mem.2.1 found
  · intro empty
    rw [empty] at pieces
    simp [columns] at pieces

theorem linesOf_nil : linesOf [] = [] := by
  simp [linesOf]

theorem linesOf_append {line : List UInt8} (clean : newline ∉ line) (rest : List UInt8) :
    linesOf (line ++ newline :: rest) = line :: linesOf rest := by
  obtain ⟨first, more, pieces⟩ := List.exists_cons_of_ne_nil (List.splitOn_ne_nil newline rest)
  simp only [linesOf, List.splitOn_append_cons_self_of_not_mem clean, pieces,
    List.getLast?_cons_cons, List.dropLast_cons_cons]
  split_ifs <;> rfl

theorem linesOf_last {line : List UInt8} (clean : newline ∉ line) (some : line ≠ []) :
    linesOf line = [line] := by
  simp [linesOf, List.splitOn_eq_singleton clean, some]

/-- What a line looks like to the reader before its carriage return is removed. -/
def delivered (crlf : Bool) (line : List UInt8) : List UInt8 :=
  line ++ if crlf then [carriageReturn] else []

theorem linesOf_lineEnd (crlf : Bool) {line : List UInt8} (clean : newline ∉ line)
    (rest : List UInt8) :
    linesOf (line ++ lineEnd crlf ++ rest) = delivered crlf line :: linesOf rest := by
  have inside : newline ∉ delivered crlf line := by
    intro member
    rcases List.mem_append.1 member with early | late
    · exact clean early
    · cases crlf <;> simp [newline, carriageReturn] at late
  rw [← linesOf_append inside]
  cases crlf <;> simp [delivered, lineEnd]

theorem strip_delivered (crlf : Bool) {line : List UInt8} (clean : carriageReturn ∉ line) :
    stripCarriageReturn (delivered crlf line) = line := by
  cases crlf with
  | true => simp [stripCarriageReturn, delivered]
  | false =>
    have last : ¬line.getLast? = some carriageReturn := by
      intro last
      exact clean (List.mem_of_getLast? last)
    simp [stripCarriageReturn, delivered, last]

/-- The rendered rows are the text of their ticks. -/
theorem renderRows_text (crlf final : Bool) {ticks : List MarketTick}
    (fits : ∀ tick ∈ ticks, Representable tick) :
    RowsText (linesOf (renderRows crlf final ticks)) ticks := by
  induction ticks with
  | nil =>
    rw [renderRows, linesOf_nil]
    exact .nil
  | cons tick rest ih =>
    obtain ⟨first, later⟩ := List.forall_mem_cons.1 fits
    have text := renderRow_text first
    obtain ⟨noNewline, noReturn, some⟩ := text.not_mem
    have ended : RowText (stripCarriageReturn (delivered crlf (renderRow tick))) tick := by
      rwa [strip_delivered crlf noReturn]
    cases rest with
    | cons next more =>
      rw [renderRows, linesOf_lineEnd crlf noNewline]
      · exact .cons ended (ih later)
      · simp
    | nil =>
      cases final with
      | true =>
        have lines := linesOf_lineEnd crlf noNewline []
        rw [List.append_nil, linesOf_nil] at lines
        simp only [renderRows, if_true, lines]
        exact .cons ended .nil
      | false =>
        have same := strip_delivered false noReturn
        simp only [delivered, Bool.false_eq_true, if_false, List.append_nil] at same
        have unended : RowText (stripCarriageReturn (renderRow tick)) tick := by rwa [same]
        simp only [renderRows, Bool.false_eq_true, if_false, List.append_nil,
          linesOf_last noNewline some]
        exact .cons unended .nil

/-- A rendered file is read back. -/
theorem renderFile_read {name : String} {header : List UInt8} (crlf final : Bool)
    {ticks : List MarketTick} (named : name ≠ "") (oneLine : newline ∉ header) (some : ticks ≠ [])
    (valid : ValidTicks ticks) (fits : ∀ tick ∈ ticks, Representable tick) :
    readAll (.some name) (.some ⟨renderFile header crlf final ticks, false⟩) = .ok ticks := by
  have texts := renderRows_text crlf final fits
  refine (readAll_ok_iff _ _ _).2 ⟨name, _, rfl, named, rfl, delivered crlf header,
    linesOf (renderRows crlf final ticks), linesOf_lineEnd crlf oneLine _, ?_, texts, valid⟩
  intro none
  rw [none] at texts
  cases texts
  exact some rfl

theorem RowText.representable {line : List UInt8} {tick : MarketTick} (text : RowText line tick) :
    Representable tick := by
  obtain ⟨texts, _, fields⟩ := text
  intro column member
  obtain ⟨index, inside, rfl⟩ := List.getElem_of_mem member
  have field := fields.get (fields.length_eq ▸ inside) inside
  exact ⟨field.above, field.below⟩

/-- What the reader returns is some valid ticks whose values fit their fields. -/
theorem readAll_accepted {path : Option String} {file : Option Input} {ticks : List MarketTick}
    (read : readAll path file = .ok ticks) :
    ValidTicks ticks ∧ ∀ tick ∈ ticks, Representable tick := by
  obtain ⟨_, _, _, _, _, _, _, _, _, rows, valid⟩ := (readAll_ok_iff path file ticks).1 read
  refine ⟨valid, ?_⟩
  intro tick member
  obtain ⟨index, inside, rfl⟩ := List.getElem_of_mem member
  have text := rows.get (rows.length_eq ▸ inside) inside
  exact text.representable

/-- The reader accepts exactly its format and returns exactly its values, so
that every valid tick list can be written and read back. -/
theorem readAll_exact :
    (∀ path file ticks, readAll path file = .ok ticks ↔
        ∃ name content, path = some name ∧ name ≠ "" ∧ file = some ⟨content, false⟩ ∧
          FileText content ticks) ∧
      ∀ name header crlf final ticks, name ≠ "" → newline ∉ header → ticks ≠ [] →
        ValidTicks ticks → (∀ tick ∈ ticks, Representable tick) →
          readAll (some name) (some ⟨renderFile header crlf final ticks, false⟩) = .ok ticks := by
  refine ⟨readAll_ok_iff, ?_⟩
  intro name header crlf final ticks
  exact renderFile_read crlf final

/-- Two rows under an empty header, with a negative timestamp, written with
carriage returns and without a final line end. -/
def twoRows : List MarketTick :=
  [⟨-30, -20, 99990, 100010, 7, 0, 5⟩, ⟨-20, -20, 99995, 100005, 7, 12, 9⟩]

theorem readAll_exact_twoRows :
    readAll (some "ticks.csv") (some ⟨renderFile [] true false twoRows, false⟩) = .ok twoRows :=
  readAll_exact.2 "ticks.csv" [] true false twoRows (by decide) (by decide) (by decide) (by decide)
    (by decide)

end TradingKernel.CsvAcceptance
