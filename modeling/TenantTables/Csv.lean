import TenantTables.Text.Utf8

/-!
# CSV

Records are lines of cells with commas between them. A cell in quotes may hold
commas, line ends and, doubled, quotes. Reading accepts any of the three line
ends and passes over empty lines; a quote opens a quoted cell only in front of
it, text behind the closing quote is kept as it is, and an open quote runs to
the end of the file. Files are bytes: each record is decoded on its own, so a
damaged record is noticed where it stands.

Writing quotes the cells that need it and ends each record with a line feed. A
record that would be an empty line is written as an empty quoted cell.
-/

namespace TenantTables.Csv

/-- Where in a record the reader stands. -/
inductive Place where
  | recordStart
  | cellStart
  | plain
  | inQuotes
  /-- Behind a quote that may be the closing one. -/
  | afterQuote
  deriving DecidableEq, Repr

/-- What has been read; lists are reversed. -/
structure State where
  records : List (List (List UInt8))
  cells : List (List UInt8)
  cell : List UInt8
  place : Place

namespace State

/-- Nothing read yet. -/
def start : State := ⟨[], [], [], .recordStart⟩

/-- Keeps a byte of the current cell. -/
def keep (s : State) (b : UInt8) (place : Place) : State :=
  { s with cell := b :: s.cell, place }

/-- Ends the current cell. -/
def endCell (s : State) : State :=
  { s with cells := s.cell.reverse :: s.cells, cell := [], place := .cellStart }

/-- Ends the current record. -/
def endRecord (s : State) : State :=
  { records := (s.cell.reverse :: s.cells).reverse :: s.records
    cells := [], cell := [], place := .recordStart }

end State

def quoteByte : UInt8 := 34

def commaByte : UInt8 := 44

/-- A byte that ends a line. -/
def isLineEnd (b : UInt8) : Bool :=
  b == 10 || b == 13

/-- Reads a byte outside quotes. -/
def stepPlain (s : State) (b : UInt8) : State :=
  if b == commaByte then s.endCell
  else if isLineEnd b then s.endRecord
  else s.keep b .plain

/-- Reads one byte. -/
def step (s : State) (b : UInt8) : State :=
  match s.place with
  | .recordStart =>
      if isLineEnd b then s
      else if b == quoteByte then { s with place := .inQuotes }
      else stepPlain s b
  | .cellStart =>
      if b == quoteByte then { s with place := .inQuotes } else stepPlain s b
  | .plain => stepPlain s b
  | .inQuotes =>
      if b == quoteByte then { s with place := .afterQuote }
      else s.keep b .inQuotes
  | .afterQuote => if b == quoteByte then s.keep b .inQuotes else stepPlain s b

/-- The file without a byte order mark in front. -/
def dropMark : List UInt8 → List UInt8
  | 0xEF :: 0xBB :: 0xBF :: rest => rest
  | bytes => bytes

/-- All records of a file, not decoded. -/
def readBytes (bytes : List UInt8) : List (List (List UInt8)) :=
  let s := (dropMark bytes).foldl step .start
  let s := if s.place = .recordStart then s else s.endRecord
  s.records.reverse

/-- All records of a file; `none` stands for one that is not UTF-8. -/
def read (bytes : List UInt8) : List (Option (List String)) :=
  (readBytes bytes).map fun cells => cells.mapM Text.decodeUtf8?

/-- Whether a cell has to be quoted. -/
def needsQuotes (cell : String) : Bool :=
  cell.toList.any fun c => c == ',' || c == '"' || c == '\r' || c == '\n'

/-- A cell as it is written. -/
def writeCell (cell : String) : List Char :=
  if needsQuotes cell then
    '"' :: (cell.toList.flatMap fun c => if c = '"' then ['"', '"']
      else [c]) ++ ['"']
  else cell.toList

/-- Cells with commas between them. -/
def joinCells : List (List Char) → List Char
  | [] => []
  | [cell] => cell
  | cell :: cells => cell ++ ',' :: joinCells cells

/-- A record as it is written. -/
def writeRecord (cells : List String) : List Char :=
  let line := joinCells (cells.map writeCell)
  (if line.isEmpty then ['"', '"'] else line) ++ ['\n']

/-- A file of records. -/
def write (records : List (List String)) : String :=
  String.ofList (records.flatMap writeRecord)

end TenantTables.Csv
