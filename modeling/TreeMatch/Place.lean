import TreeMatch.Text.Quoted

/-! Places: where a test finds the value it examines, seen from the root argument of a matcher. -/

namespace TreeMatch

inductive Step
  /-- To a child; a negative index counts from the last one. -/
  | child (index : Int)
  | parent
  deriving DecidableEq, Repr

inductive Place
  | root
  | child (place : Place) (index : Int)
  | parent (place : Place)
  /-- The children from `start` on, without the last `dropped`. -/
  | slice (place : Place) (start dropped : Int)
  /-- The current element of a repetition. -/
  | element (name : String)
  deriving DecidableEq, Repr

def rootName : String := "node"

namespace Place

/-- The end of a slice; without anything dropped it is left open. -/
def sliceEnd (dropped : Int) : String :=
  if dropped = 0 then "" else "-" ++ toString dropped

def text : Place → String
  | root => rootName
  | child place index => place.text ++ ".children[" ++ toString index ++ "]"
  | parent place => place.text ++ ".parent"
  | slice place start dropped =>
    place.text ++ ".children[" ++ toString start ++ ":" ++ sliceEnd dropped ++ "]"
  | element name => name

/-- The steps from the root to a place. Slices and elements depend on the data and have none, nor
does any place beyond them. -/
def path? : Place → Option (List Step)
  | root => some []
  | child place index => place.path?.map (· ++ [.child index])
  | parent place => place.path?.map (· ++ [.parent])
  | slice .. => none
  | element _ => none

def isSlice : Place → Bool
  | slice .. => true
  | _ => false

end Place

def Step.text : Step → String
  | child index => toString index
  | parent => "'^'"

def pathText : Option (List Step) → String
  | none => "None"
  | some [only] => "(" ++ only.text ++ ",)"
  | some steps => "(" ++ ", ".intercalate (steps.map Step.text) ++ ")"

def Place.exact (place : Place) : String :=
  "Access(" ++ Text.quoted place.text ++ ", path=" ++ pathText place.path? ++ ")"

end TreeMatch
