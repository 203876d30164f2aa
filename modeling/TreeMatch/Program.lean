import TreeMatch.Number.Binary64

/-! Programs as their parser delivers them: constructs with a class, a position and named fields. -/

namespace TreeMatch

/-- A position in a program: lines counted from one, and columns in bytes. -/
structure Position where
  line : Int
  column : Int
  endLine : Int
  endColumn : Int
  deriving DecidableEq, Repr

inductive Construct
  | absent
  | bool (b : Bool)
  | int (i : Int)
  | float (x : Number.Binary64)
  | str (s : String)
  /-- A constant of any other kind, known by its kind and its text. -/
  | foreign (kind text : String)
  | list (items : List Construct)
  /-- The names of the fields stand beside their values. -/
  | node (className : String) (position : Option Position) (names : List String)
    (fields : List Construct)
  deriving Repr, Inhabited

namespace Construct

def className : Construct → String
  | node className .. => className
  | _ => ""

def isAbsent : Construct → Bool
  | absent => true
  | _ => false

def nameText : Construct → String
  | str s => s
  | _ => ""

end Construct

end TreeMatch
