import TreeMatch.Painting

/-! Displays: what a text is shown on, and whether it can be decorated there. -/

namespace TreeMatch

inductive Decoration
  | reset
  | bold
  | red
  | green
  | yellow
  | cyan
  deriving DecidableEq, Repr

def Decoration.number : Decoration → String
  | reset => "0"
  | bold => "1"
  | red => "31"
  | green => "32"
  | yellow => "33"
  | cyan => "36"

structure Display where
  decorated : Bool
  deriving DecidableEq, Repr

namespace Display

/-- Text is decorated on a terminal, unless a preference, whatever it says, is set against it. -/
def ofTerminal (isTerminal : Bool) (preference : Option String) : Display :=
  ⟨isTerminal && preference.isNone⟩

def code (display : Display) (decoration : Decoration) : String :=
  if display.decorated then ColorScheme.escape decoration.number else ""

def scheme (display : Display) : ColorScheme where
  notVisitable := display.code .cyan
  notVisited := display.code .yellow
  failed := display.code .red
  matched := display.code .green
  reset := display.code .reset

end Display

end TreeMatch
