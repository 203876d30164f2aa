import TreeMatch.Diagnostic
import TreeMatch.Place
import TreeMatch.Term

/-! Sessions: what all steps of one compilation share. -/

namespace TreeMatch

/-- Numbers given to nodes in the order in which they are first asked for. -/
structure NodeIds where
  nodes : List Term
  deriving Repr

namespace NodeIds

def empty : NodeIds :=
  ⟨[]⟩

def get? (ids : NodeIds) (node : Term) : Option Nat :=
  ids.nodes.findIdx? fun known => known.key? == node.key?

def contains (ids : NodeIds) (node : Term) : Bool :=
  (ids.get? node).isSome

/-- The number of a node; a node not seen before gets the next one. -/
def assign (ids : NodeIds) (node : Term) : Nat × NodeIds :=
  match ids.get? node with
  | some id => (id, ids)
  | none => (ids.nodes.length, ⟨ids.nodes ++ [node]⟩)

/-- The node with a number; a negative number counts from the last node. -/
def node? (ids : NodeIds) (id : Int) : Option Term :=
  let index := if id < 0 then id + ids.nodes.length else id
  if index < 0 then none else ids.nodes[index.toNat]?

def size (ids : NodeIds) : Nat :=
  ids.nodes.length

end NodeIds

inductive CompileCause
  | unsupported (tag : String)
  | multipleVariadic
  | captureInRepetition
  | unbalancedCaptures (counts : List Nat)
  | unknownPredicate (name : String)
  | variadicOutsideSequence (label : String)
  | positionBelowOne
  | reservedName (name : String)
  deriving DecidableEq, Repr

namespace CompileCause

def code : CompileCause → ErrorCode
  | unsupported _ => .unsupportedNode
  | multipleVariadic => .multipleVariadic
  | captureInRepetition => .captureInRepetition
  | unbalancedCaptures _ => .unbalancedCaptures
  | unknownPredicate _ => .unknownPredicate
  | variadicOutsideSequence _ => .variadicOutsideSequence
  | positionBelowOne => .reservedParameter
  | reservedName _ => .reservedParameter

def message : CompileCause → String
  | unsupported tag => Diagnostic.unsupportedMessage tag
  | multipleVariadic => "a sequence may contain only one variadic term"
  | captureInRepetition => "captures are not supported inside a repetition"
  | unbalancedCaptures counts =>
    "each branch of a union must capture the same number of values (got " ++
      ", ".intercalate (counts.map toString) ++ ")"
  | unknownPredicate name => "unknown predicate '" ++ name ++ "'"
  | variadicOutsideSequence label =>
    "'" ++ label ++ "' is only allowed as a direct term of a sequence"
  | positionBelowOne => "positional parameters are numbered from %1"
  | reservedName name => "'%" ++ name ++ "' cannot be used as a parameter name"

def subject : CompileCause → Subject
  | unsupported tag => .unsupported tag
  | _ => .pattern

end CompileCause

inductive MalformedTerm
  | notNode
  | noHead
  | noBranch
  | noChild
  | noOperator
  | unknownOperator
  | notText
  deriving DecidableEq, Repr

inductive CompileFault
  | rejected (cause : CompileCause) (loc : Option Range)
  | malformed (cause : MalformedTerm)
  | unhandled (tag : String)
  deriving DecidableEq, Repr

structure Session where
  /-- The text of the pattern; nothing if it was made by hand. -/
  text : String
  /-- Every test is wrapped in marks for a trace. -/
  recording : Bool
  named : List String
  positional : Nat
  captures : Nat
  fresh : Nat
  /-- The nodes being compiled, innermost first. -/
  stack : List Term
  ids : NodeIds
  /-- The path at which each numbered node was last compiled. -/
  positions : List (Nat × List Step)
  deriving Repr

namespace Session

def start (text : String) (recording : Bool) : Session where
  text := text
  recording := recording
  named := []
  positional := 0
  captures := 0
  fresh := 0
  stack := []
  ids := .empty
  positions := []

def current (session : Session) : Option Term :=
  session.stack.head?

def enter (session : Session) (node : Term) : Session :=
  { session with stack := node :: session.stack }

def leave (session : Session) : Session :=
  { session with stack := session.stack.tail }

@[simp] theorem current_enter (session : Session) (node : Term) :
    (session.enter node).current = some node := rfl

@[simp] theorem leave_enter (session : Session) (node : Term) :
    (session.enter node).leave = session := rfl

def nextCapture (session : Session) : Nat × Session :=
  (session.captures, { session with captures := session.captures + 1 })

def freshName (session : Session) (stem : String) : String × Session :=
  ("_" ++ stem ++ toString (session.fresh + 1), { session with fresh := session.fresh + 1 })

/-- The name of the positional parameter at a place; all parameters before it exist as well. -/
def positionName (index : Int) : String :=
  "_p" ++ toString index

def usePosition (session : Session) (index : Nat) : Session :=
  { session with positional := max session.positional index }

def useName (session : Session) (name : String) : Session :=
  if session.named.contains name then session
  else { session with named := session.named ++ [name] }

def positionalNames (session : Session) : List String :=
  (List.range' 1 session.positional).map fun (index : Nat) => positionName index

def setPosition (session : Session) (id : Nat) (path : List Step) : Session :=
  { session with
    positions := (id, path) :: session.positions.filter fun entry => entry.1 != id }

def spanOf (session : Session) (loc : Option Range) : Option Span :=
  if session.text = "" then none else loc.map (Span.ofRange session.text.toList)

def diagnostic (session : Session) (cause : CompileCause) (loc : Option Range) : Diagnostic :=
  Diagnostic.make cause.subject cause.message (some cause.code) (session.spanOf loc) session.text ""

/-- A report with any message and code, about a node or else about the current one. -/
def report (session : Session) (message : String) (code : ErrorCode) (node : Option Term) :
    Diagnostic :=
  Diagnostic.make .pattern message (some code)
    (session.spanOf ((node.or session.current).bind Term.loc?)) session.text ""

end Session

end TreeMatch
