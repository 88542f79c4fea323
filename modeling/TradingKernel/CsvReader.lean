import TradingKernel.Types
import TradingKernel.Library.Decimal

/-!
The tick reader. A file is a header line and data rows of seven integers; rows
are parsed and checked one at a time and the first fault ends the reading with
an error that names it.
-/

namespace TradingKernel.CsvReader
open Library.Decimal

def comma : UInt8 := 44

def newline : UInt8 := 10

def carriageReturn : UInt8 := 13

inductive CsvErrorCategory where
  | ioError
  | schemaError
  | valueError
  | orderingError
  | multiSymbolError
  deriving DecidableEq, Repr

def csvErrorCategoryName : CsvErrorCategory → String
  | .ioError => "IoError"
  | .schemaError => "SchemaError"
  | .valueError => "ValueError"
  | .orderingError => "OrderingError"
  | .multiSymbolError => "MultiSymbolError"

structure CsvReadError where
  category : CsvErrorCategory
  path : String
  line : Nat
  detail : String
  deriving DecidableEq, Repr

/-- The text of the exception. -/
def makeErrorMessage (error : CsvReadError) : String :=
  csvErrorCategoryName error.category ++ ": " ++ error.path ++
    (if error.line ≠ 0 then ":" ++ toString error.line else "") ++ ": " ++ error.detail

/-- A fixed-width integer type of the source. -/
structure IntType where
  signed : Bool
  min : Int
  max : Int
  deriving DecidableEq, Repr

def int64 : IntType := ⟨true, -2 ^ 63, 2 ^ 63 - 1⟩

def int32 : IntType := ⟨true, -2 ^ 31, 2 ^ 31 - 1⟩

def uint32 : IntType := ⟨false, 0, 2 ^ 32 - 1⟩

/-- `std::from_chars`: the value, unless there is none or it does not fit, and
the characters after the longest numeral the text starts with. -/
def fromChars (type : IntType) (text : List UInt8) : Option Int × List UInt8 :=
  let negative := type.signed && text.head? == some minus
  let unsignedText := if negative then text.tail else text
  let digits := unsignedText.takeWhile isDigit
  let rest := unsignedText.dropWhile isDigit
  if digits = [] then (none, text)
  else
    let number : Int := if negative then -value digits else value digits
    if type.min ≤ number ∧ number ≤ type.max then (some number, rest) else (none, rest)

def parseInteger (type : IntType) (token : List UInt8) : Option Int :=
  let (number, rest) := fromChars type token
  if rest = [] then number else none

/-- The field loop of `parse_line`; an eighth field ends it without a result. -/
def splitFields (fields : List (List UInt8)) (field : List UInt8) :
    List UInt8 → Option (List (List UInt8))
  | [] => if fields.length ≥ 7 then none else some (fields ++ [field])
  | byte :: rest =>
    if byte = comma then
      if fields.length ≥ 7 then none else splitFields (fields ++ [field]) [] rest
    else splitFields fields (field ++ [byte]) rest

section Line
variable (path : String) (lineNumber : Nat)

def parseField (name : String) (type : IntType) (field : List UInt8) : Except CsvReadError Int :=
  match parseInteger type field with
  | some number => .ok number
  | none => .error ⟨.schemaError, path, lineNumber, name ++ " is not a complete integer"⟩

def parseLine (line : List UInt8) : Except CsvReadError MarketTick :=
  match splitFields [] [] line with
  | some [exchangeTsNs, receiveTsNs, symbolId, bidPrice, askPrice, bidQty, askQty] =>
    if [] ∈ [exchangeTsNs, receiveTsNs, symbolId, bidPrice, askPrice, bidQty, askQty] then
      .error ⟨.schemaError, path, lineNumber, "required field is empty"⟩
    else do
      let exchangeTsNs ← parseField path lineNumber "exchange_ts_ns" int64 exchangeTsNs
      let receiveTsNs ← parseField path lineNumber "receive_ts_ns" int64 receiveTsNs
      let symbolId ← parseField path lineNumber "symbol_id" uint32 symbolId
      let bidPrice ← parseField path lineNumber "bid_price" int64 bidPrice
      let askPrice ← parseField path lineNumber "ask_price" int64 askPrice
      let bidQty ← parseField path lineNumber "bid_qty" int32 bidQty
      let askQty ← parseField path lineNumber "ask_qty" int32 askQty
      .ok ⟨exchangeTsNs, receiveTsNs, bidPrice, askPrice, symbolId.toNat, bidQty, askQty⟩
  -- Too many fields end the loop early, too few are found after it.
  | _ => .error ⟨.schemaError, path, lineNumber, "expected exactly seven fields"⟩

/-- The checks of a parsed row against its own values and the rows before it. -/
def checkRow (ticks : List MarketTick) (tick : MarketTick) : Except CsvReadError Unit :=
  if tick.bidPrice ≤ 0 ∨ tick.askPrice ≤ 0 then
    .error ⟨.valueError, path, lineNumber, "prices must be positive"⟩
  else if tick.bidQty < 0 ∨ tick.askQty < 0 then
    .error ⟨.valueError, path, lineNumber, "displayed quantities must be non-negative"⟩
  else if tick.bidPrice > tick.askPrice then
    .error ⟨.valueError, path, lineNumber, "bid price exceeds ask price"⟩
  else if tick.receiveTsNs < tick.exchangeTsNs then
    .error ⟨.valueError, path, lineNumber, "receive timestamp precedes exchange timestamp"⟩
  else if ticks.getLast?.any (fun back => decide (tick.receiveTsNs < back.receiveTsNs)) then
    .error ⟨.orderingError, path, lineNumber, "receive timestamps are not nondecreasing"⟩
  else if ticks.head?.any (fun front => decide (tick.symbolId ≠ front.symbolId)) then
    .error ⟨.multiSymbolError, path, lineNumber, "multiple symbols are not supported"⟩
  else .ok ()

end Line

/-- The number of the last line read and the ticks read so far. -/
structure Progress where
  lineNumber : Nat
  ticks : List MarketTick
  deriving DecidableEq, Repr

def stripCarriageReturn (line : List UInt8) : List UInt8 :=
  if line.getLast? = some carriageReturn then line.dropLast else line

/-- The body of the row loop. -/
def readRow (path : String) (progress : Progress) (line : List UInt8) :
    Except CsvReadError Progress := do
  let lineNumber := progress.lineNumber + 1
  let tick ← parseLine path lineNumber (stripCarriageReturn line)
  checkRow path lineNumber progress.ticks tick
  .ok ⟨lineNumber, progress.ticks ++ [tick]⟩

/-- An opened file: the bytes it yields, and whether reading past them fails
instead of reaching the end of the file. -/
structure Input where
  bytes : List UInt8
  bad : Bool
  deriving DecidableEq, Repr

/-- The lines that successive calls of `std::getline` deliver, given the start
of the current one. Without a newline the last one needs a character, and none
is delivered when the stream goes bad. -/
def getlines (bad : Bool) (line : List UInt8) : List UInt8 → List (List UInt8)
  | [] => if line = [] ∨ bad = true then [] else [line]
  | byte :: rest =>
    if byte = newline then line :: getlines bad [] rest else getlines bad (line ++ [byte]) rest

/-- `read_all` on a path, null for `none`, and what opening it yields, `none`
when it cannot be opened. -/
def readAll (path : Option String) (file : Option Input) :
    Except CsvReadError (List MarketTick) :=
  let inputPath := path.getD "<null>"
  if path = none ∨ path = some "" then .error ⟨.ioError, inputPath, 0, "input path is empty"⟩
  else
    match file with
    | none => .error ⟨.ioError, inputPath, 0, "cannot open input file"⟩
    | some input =>
      match getlines input.bad [] input.bytes with
      | [] =>
        if input.bad then .error ⟨.ioError, inputPath, 1, "failed while reading header"⟩
        else .error ⟨.schemaError, inputPath, 1, "missing header"⟩
      | _ :: rows => do
        let progress ← rows.foldlM (readRow inputPath) ⟨1, []⟩
        if input.bad then
          .error ⟨.ioError, inputPath, progress.lineNumber + 1, "failed while reading data"⟩
        else if progress.ticks = [] then
          .error ⟨.schemaError, inputPath, 1, "header-only input has no data rows"⟩
        else .ok progress.ticks

end TradingKernel.CsvReader
