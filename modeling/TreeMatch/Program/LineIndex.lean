import TreeMatch.Program
import TreeMatch.Range
import TreeMatch.Text.Lines

/-! From lines and byte columns to character offsets. -/

namespace TreeMatch

/-- The physical lines of a text, each with the offset at which it starts. -/
structure LineIndex where
  lines : List (Nat × List Char)
  length : Nat
  deriving Repr

namespace LineIndex

def withStarts (start : Nat) : List (List Char) → List (Nat × List Char)
  | [] => []
  | line :: rest => (start, line) :: withStarts (start + line.length) rest

def ofText (text : List Char) : LineIndex :=
  ⟨withStarts 0 (Text.physicalLines text), text.length⟩

def byteCount (chars : List Char) : Nat :=
  chars.foldr (fun c bytes => c.utf8Size + bytes) 0

/-- The number of leading characters that lie wholly within a number of bytes. -/
def charsWithin (bytes : Nat) : List Char → Nat
  | [] => 0
  | c :: rest => if c.utf8Size ≤ bytes then charsWithin (bytes - c.utf8Size) rest + 1 else 0

/-- A byte column as a number of bytes: a negative one counts from the end of the line. -/
def columnBytes (column : Int) (line : List Char) : Nat :=
  if column < 0 then (column + byteCount line).toNat else column.toNat

/-- The offset of a byte column in a line. A line that does not exist lies at the end. -/
def offset (index : LineIndex) (line column : Int) : Nat :=
  if line < 1 then index.length
  else
    match index.lines[line.toNat - 1]? with
    | some (start, chars) => start + charsWithin (columnBytes column chars) chars
    | none => index.length

/-- The range of a position. It is empty if its end lies before its start. -/
def rangeOf (index : LineIndex) (position : Position) : Range :=
  .between (index.offset position.line position.column)
    (index.offset position.endLine position.endColumn)

end LineIndex

end TreeMatch
