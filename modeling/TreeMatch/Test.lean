import TreeMatch.Place
import TreeMatch.Term.Printer

/-! Tests: the language into which patterns are compiled. A test is a condition on the values at
certain places; it may also record a value or leave a mark in a trace. -/

namespace TreeMatch

inductive Kind
  | absent
  | true
  | false
  | symbol
  | integer
  | float
  | string
  | node
  deriving DecidableEq, Repr

inductive Count
  | exactly (count : Nat)
  | atLeast (count : Nat)
  | between (least most : Nat)
  deriving DecidableEq, Repr

inductive Test
  | always
  | never
  /-- All of several tests, in order, up to the first that fails. No test at all fails. -/
  | allOf (tests : List Test)
  /-- Any of several tests, in order, up to the first that holds. -/
  | anyOf (tests : List Test)
  | not (test : Test)
  | isNode (place : Place)
  | hasType (place : Place) (type : Term)
  | hasCount (place : Place) (count : Count)
  /-- Equality without any change of type. -/
  | equals (place : Place) (expected : Term)
  | equalsSymbol (place : Place) (name : Term)
  | isKind (place : Place) (kind : Kind)
  | accepts (place : Place) (parameter : String)
  | capture (slot : Nat) (place : Place)
  | enter (id : Nat) (place : Place)
  | succeed (id : Nat) (place : Place)
  | every (name : String) (items : Place) (body : Test)
  deriving Repr

namespace Kind

def condition (kind : Kind) (value : String) : String :=
  match kind with
  | absent => value ++ " is None"
  | true => value ++ " is True"
  | false => value ++ " is False"
  | symbol => "isinstance(" ++ value ++ ", Sym)"
  | integer => "type(" ++ value ++ ") is int"
  | float => "type(" ++ value ++ ") is float"
  | string => "isinstance(" ++ value ++ ", str)"
  | node => "_is_node(" ++ value ++ ")"

end Kind

namespace Count

def condition (count : Count) (number : String) : String :=
  match count with
  | exactly count => number ++ " == " ++ toString count
  | atLeast count => number ++ " >= " ++ toString count
  | between least most => toString least ++ " <= " ++ number ++ " <= " ++ toString most

def holds (count : Count) (number : Nat) : Bool :=
  match count with
  | exactly count => number == count
  | atLeast count => count ≤ number
  | between least most => least ≤ number && number ≤ most

end Count

namespace Test

/-- The value recorded for a place: a series of children is recorded as a list. -/
def recorded (place : Place) : String :=
  if place.isSlice then "list(" ++ place.text ++ ")" else place.text

mutual

def text : Test → String
  | always => "True"
  | never => "False"
  | allOf tests => "(" ++ " and ".intercalate (textAll tests) ++ ")"
  | anyOf tests => "(" ++ " or ".intercalate (textAll tests) ++ ")"
  | not test => "(not " ++ text test ++ ")"
  | isNode place => "_is_node(" ++ place.text ++ ")"
  | hasType place type => place.text ++ ".type == " ++ type.exact
  | hasCount place count => count.condition ("len(" ++ place.text ++ ".children)")
  | equals place expected => "_eq(" ++ place.text ++ ", " ++ expected.exact ++ ")"
  | equalsSymbol place name => "_eq(" ++ place.text ++ ", Sym(" ++ name.exact ++ "))"
  | isKind place kind => "(" ++ kind.condition place.text ++ ")"
  | accepts place parameter => "_param_match(" ++ place.text ++ ", " ++ parameter ++ ")"
  | capture slot place =>
    "_capture(captures, " ++ toString slot ++ ", " ++ recorded place ++ ")"
  | enter id place => "trace.enter(" ++ toString id ++ ", " ++ place.text ++ ")"
  | succeed id place => "trace.success(" ++ toString id ++ ", " ++ place.text ++ ")"
  | every name items body =>
    "all(" ++ text body ++ " for " ++ name ++ " in " ++ items.text ++ ")"
termination_by structural test => test

def textAll : List Test → List String
  | [] => []
  | test :: rest => text test :: textAll rest
termination_by structural tests => tests

end

end Test

end TreeMatch
