import TreeMatch.Text.Lines

/-! Writing a script line by line. -/

namespace TreeMatch.Script

/-- The text written so far, the text of one level of indentation, and the current level. -/
structure Writer where
  written : String
  step : String
  level : Nat
  deriving DecidableEq, Repr

namespace Writer

def start (step : String) : Writer :=
  ⟨"", step, 0⟩

def indentation (writer : Writer) : String :=
  String.join (List.replicate writer.level writer.step)

/-- Writes a line at the current level. A line of blanks alone is left empty. -/
def line (writer : Writer) (code : String) : Writer :=
  let body := if code.toList.all Text.isTrimmed then "" else writer.indentation ++ code
  { writer with written := writer.written ++ body ++ "\n" }

def lines (writer : Writer) (codes : List String) : Writer :=
  codes.foldl line writer

def comment (writer : Writer) (text : String) : Writer :=
  writer.lines ((Text.splitLineFeeds text.toList).map fun part => "# " ++ String.ofList part)

/-- Writes a text in triple quotes, a text of several lines between lines of their own. -/
def docstring (writer : Writer) (text : String) : Writer :=
  match Text.splitLineFeeds (Text.trim text.toList) with
  | [single] => writer.line ("\"\"\"" ++ String.ofList single ++ "\"\"\"")
  | several => writer.lines ("\"\"\"" :: several.map String.ofList ++ ["\"\"\""])

def indent (writer : Writer) : Writer :=
  { writer with level := writer.level + 1 }

/-- The outermost level stays where it is. -/
def dedent (writer : Writer) : Writer :=
  { writer with level := writer.level - 1 }

def openBlock (writer : Writer) (header : String) : Writer :=
  (writer.line header).indent

end Writer

end TreeMatch.Script
