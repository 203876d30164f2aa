import TreeMatch.Range

/-! Spans: places in a text as people read them, by line and column counted from one. -/

namespace TreeMatch

structure Span where
  file : String
  line : Int
  column : Int
  endLine : Int
  endColumn : Int
  deriving DecidableEq, Repr

namespace Span

/-- A span with the given start and end. An end that is zero counts as unset and falls together
with the start. -/
def make (file : String) (line column endLine endColumn : Int) : Span where
  file := file
  line := line
  column := column
  endLine := if endLine = 0 then line else endLine
  endColumn := if endColumn = 0 then column else endColumn

def point (file : String) (line column : Int) : Span :=
  make file line column 0 0

def unknown : Span :=
  point "" 0 0

/-- The line and the column of an offset: one more than the line feeds before it, and one more
than the characters between the last of them and the offset. -/
def lineColumn (text : List Char) (offset : Nat) : Nat × Nat :=
  let before := text.take offset
  (before.count '\n' + 1, (before.reverse.takeWhile (· ≠ '\n')).length + 1)

def clamp (text : List Char) (offset : Int) : Nat :=
  min offset.toNat text.length

/-- The span between two offsets. Without an end, or with an end that lies no later than the
start, it is a single place. -/
def ofOffsets (text : List Char) (start : Int) (stop : Option Int) (file : String) : Span :=
  let (line, column) := lineColumn text (clamp text start)
  match stop with
  | some stop =>
    if stop ≤ start then point file line column
    else
      let (endLine, endColumn) := lineColumn text (clamp text stop)
      make file line column endLine endColumn
  | none => point file line column

def ofRange (text : List Char) (range : Range) : Span :=
  ofOffsets text range.start (some range.stop) ""

/-- The start of a span as `file:line:column`, leaving out what is not set. -/
def text (span : Span) : String :=
  if span.file = "" ∧ span.line = 0 then "<unknown location>"
  else
    let file := if span.file = "" then [] else [span.file]
    let column := if 0 < span.column then [toString span.column] else []
    let place := if 0 < span.line then toString span.line :: column else []
    ":".intercalate (file ++ place)

end Span

end TreeMatch
