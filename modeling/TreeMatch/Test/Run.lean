import TreeMatch.Document
import TreeMatch.Test
import TreeMatch.Value.Equality

/-! Running a test against a tree. A run threads the slots that captures write to and the log of
marks left for a trace; both survive a failure. -/

namespace TreeMatch

inductive Argument
  | value (value : Value)
  | set (elements : List Value)
  | function (accepts : Value → Bool)

namespace Argument

def accepts (argument : Argument) (value : Value) : Bool :=
  match argument with
  | .value expected => value.equal expected
  | .set elements => value.memberOf elements
  | .function accepts => accepts value

def ofType (type : String) : Argument :=
  .function fun value =>
    match value.node? with
    | some node => node.type == type
    | none => false

def constant (answer : Value) : Argument :=
  .function fun _ => answer.truthy

end Argument

structure Event where
  id : Nat
  subject : Value
  success : Bool
  deriving Repr

structure Environment where
  document : Document
  root : Value
  arguments : List (String × Argument)
  /-- The elements that the enclosing repetitions have reached, innermost first. -/
  elements : List (String × Value)

structure RunState where
  slots : List Value
  log : List Event
  deriving Repr

inductive RunFault
  | unbound
  | notNode
  | noSuchChild
  | noSuchSlot
  | notSeries
  /-- A builtin where something else stands in the place of the builtins. -/
  | outOfReach
  deriving DecidableEq, Repr

abbrev RunResult := Except RunFault Bool × RunState

namespace Environment

def withElement (env : Environment) (name : String) (value : Value) : Environment :=
  { env with elements := (name, value) :: env.elements }

end Environment

/-- An index into a series of some length, where a negative one counts from the end. -/
def wrapIndex (length : Nat) (index : Int) : Int :=
  if index < 0 then index + length else index

def childAt? (children : List Value) (index : Int) : Option Value :=
  let wrapped := wrapIndex children.length index
  if wrapped < 0 then none else children[wrapped.toNat]?

/-- The children from `start` on, without the last `dropped`. -/
def childSlice (children : List Value) (start dropped : Int) : List Value :=
  let first := (wrapIndex children.length start).toNat
  let last :=
    if dropped = 0 then children.length else (wrapIndex children.length (-dropped)).toNat
  (children.take last).drop first

def Place.value (env : Environment) : Place → Except RunFault Value
  | root => .ok env.root
  | child place index => do
    match (← place.value env).node? with
    | none => throw .notNode
    | some node =>
      match childAt? node.children index with
      | some found => return found
      | none => throw .noSuchChild
  | parent place => do
    match (← place.value env).node? with
    | none => throw .notNode
    | some node =>
      match env.document.parent? node.id with
      | some above => return above.toValue
      | none => return .absent
  | slice place start dropped => do
    match (← place.value env).node? with
    | none => throw .notNode
    | some node => return .tuple (childSlice node.children start dropped)
  | element name =>
    match env.elements.lookup name with
    | some value => .ok value
    | none => .error .unbound

mutual

/-- The value can be written out and read back: all its numbers are finite. -/
def Value.isWritable : Value → Bool
  | .float x => x.isFinite
  | .list items => allWritable items
  | .tuple items => allWritable items
  | .foreign .. => false
  | .node .. => false
  | _ => true
termination_by structural value => value

def Value.allWritable : List Value → Bool
  | [] => true
  | item :: rest => isWritable item && allWritable rest
termination_by structural values => values

end

def Term.constant : Term → Except RunFault Value
  | atom value => if value.isWritable then .ok value else .error .unbound
  | node .. => .error .unbound

def Kind.holds (kind : Kind) (value : Value) : Bool :=
  match kind, value with
  | .absent, .absent => Bool.true
  | .true, .bool b => b
  | .false, .bool b => !b
  | .symbol, .sym _ => Bool.true
  | .integer, .int _ => Bool.true
  | .float, .float _ => Bool.true
  | .string, .str _ => Bool.true
  | .node, .node .. => Bool.true
  | _, _ => Bool.false

def typeMatches (type : String) : Value → Bool
  | .str expected => type == expected
  | _ => Bool.false

/-- A value is the symbol with the name asked for; only a text can be a name. -/
def symbolMatches (value name : Value) : Bool :=
  match value, name with
  | .sym actual, .str expected => actual == expected
  | _, _ => Bool.false

/-- The value that a capture records: a series becomes a list. -/
def recordedValue (place : Place) (value : Value) : Value :=
  match place.isSlice, value with
  | Bool.true, .tuple items => .list items
  | _, value => value

def seriesItems : Value → Except RunFault (List Value)
  | .tuple items => .ok items
  | .list items => .ok items
  | _ => .error .notSeries

namespace Test

def pureRun (answer : Except RunFault Bool) (state : RunState) : RunResult :=
  (answer, state)

def mark (env : Environment) (id : Nat) (place : Place) (success : Bool) (state : RunState) :
    RunResult :=
  match place.value env with
  | .ok subject => (.ok true, { state with log := state.log ++ [⟨id, subject, success⟩] })
  | .error fault => (.error fault, state)

def record (env : Environment) (slot : Nat) (place : Place) (state : RunState) : RunResult :=
  match place.value env with
  | .ok value =>
    if slot < state.slots.length then
      (.ok true, { state with slots := state.slots.set slot (recordedValue place value) })
    else (.error .noSuchSlot, state)
  | .error fault => (.error fault, state)

/-- Runs a check on one element after the other, up to the first that fails it. -/
def everyItem (check : Value → RunState → RunResult) : List Value → RunState → RunResult
  | [], state => (.ok true, state)
  | item :: rest, state =>
    match check item state with
    | (.ok true, state) => everyItem check rest state
    | other => other

def look (env : Environment) : Test → Except RunFault Bool
  | always => .ok true
  | never => .ok false
  | isNode place => do return (← place.value env).isNode
  | hasType place type => do
    match (← place.value env).node? with
    | none => throw .notNode
    | some node => return typeMatches node.type (← type.constant)
  | hasCount place count => do
    match (← place.value env).node? with
    | none => throw .notNode
    | some node => return count.holds node.children.length
  | equals place expected => do
    let value ← place.value env
    return value.identicalTo (← expected.constant)
  | equalsSymbol place name => do
    let value ← place.value env
    return symbolMatches value (← name.constant)
  | isKind place kind => do return kind.holds (← place.value env)
  | accepts place parameter => do
    let value ← place.value env
    match env.arguments.lookup parameter with
    | some argument => return argument.accepts value
    | none => throw .unbound
  | _ => .ok false

mutual

def run : Test → Environment → RunState → RunResult
  | allOf tests, env, state =>
    if tests.isEmpty then (.ok false, state) else runAll tests env state
  | anyOf tests, env, state => runAny tests env state
  | not test, env, state =>
    match run test env state with
    | (.ok answer, state) => (.ok !answer, state)
    | other => other
  | capture slot place, env, state => record env slot place state
  | enter id place, env, state => mark env id place false state
  | succeed id place, env, state => mark env id place true state
  | every name items body, env, state =>
    match items.value env >>= seriesItems with
    | .ok values => everyItem (fun value => run body (env.withElement name value)) values state
    | .error fault => (.error fault, state)
  | test, env, state => pureRun (look env test) state
termination_by structural test => test

def runAll : List Test → Environment → RunState → RunResult
  | [], _, state => (.ok true, state)
  | test :: rest, env, state =>
    match run test env state with
    | (.ok true, state) => runAll rest env state
    | other => other
termination_by structural tests => tests

def runAny : List Test → Environment → RunState → RunResult
  | [], _, state => (.ok false, state)
  | test :: rest, env, state =>
    match run test env state with
    | (.ok false, state) => runAny rest env state
    | other => other
termination_by structural tests => tests

end

end Test

end TreeMatch
