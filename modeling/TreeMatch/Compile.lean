import TreeMatch.Compile.Registry
import TreeMatch.Compile.Session
import TreeMatch.Script.Name
import TreeMatch.Test

/-! Compiling pattern terms into tests. Each node is handed to the handler of its tag; the terms
of a sequence always find the handlers of a sequence. -/

namespace TreeMatch

inductive Fragment
  | always
  | never
  /-- The test of the first child node. -/
  | child
  | notChild
  | isAbsent
  deriving DecidableEq, Repr

inductive Handler
  | sequence
  | nodeType
  | wildcard
  | rest
  | repetition
  | capture
  | negation
  | ascend
  | union
  | intersection
  | symbol
  | literal
  | nil
  | predicate
  | param
  | unsupported
  | custom (fragment : Fragment)
  deriving DecidableEq, Repr

abbrev Handlers := Registry Handler

namespace Handlers

def base : Handlers :=
  ⟨[], some .unsupported⟩

def node : Handlers :=
  .ofList
    [("node_type", .nodeType), ("wildcard", .wildcard), ("capture", .capture),
      ("negation", .negation), ("ascend", .ascend), ("union", .union),
      ("intersection", .intersection), ("symbol", .symbol), ("number", .literal),
      ("string", .literal), ("nil", .nil), ("predicate", .predicate), ("param", .param),
      ("sequence", .sequence)]
    (some .unsupported)

def sequence : Handlers :=
  (node.register "rest" .rest).register "repetition" .repetition

/-- Handlers added to others, with perhaps another handler for the remaining tags. -/
def extend (handlers : Handlers) (added : List (String × Fragment)) (missing : Option Fragment) :
    Handlers :=
  let extended := added.foldl (fun h (tag, fragment) => h.register tag (.custom fragment)) handlers
  match missing with
  | some fragment => { extended with fallback := some (.custom fragment) }
  | none => extended

end Handlers

/-- A step of a compilation. The session survives a failure. -/
abbrev Compile (α : Type) := ExceptT CompileFault (StateM Session) α

namespace Compile

def visiting (term : Term) (step : Compile α) : Compile α := fun session =>
  let (result, session) := step (session.enter term)
  (result, session.leave)

def reject (cause : CompileCause) (term : Term) : Compile α :=
  throw (.rejected cause term.loc?)

def malformed (cause : MalformedTerm) : Compile α :=
  throw (.malformed cause)

def nextCapture : Compile Nat :=
  modifyGet Session.nextCapture

def freshName (stem : String) : Compile String :=
  modifyGet (Session.freshName · stem)

def enroll (term : Term) (place : Place) : Compile Nat := do
  let session ← get
  let (id, ids) := session.ids.assign term
  let session := { session with ids }
  set (match place.path? with
    | some path => session.setPosition id path
    | none => session)
  return id

def traced (id : Nat) (place : Place) (test : Test) : Test :=
  .allOf [.enter id place, test, .succeed id place]

def instrumented (term : Term) (place : Place) (step : Compile Test) : Compile Test := do
  if (← get).recording then
    let id ← enroll term place
    let test ← step
    return traced id place test
  else step

def belowCaptures : Term → Compile Term
  | .atom _ => malformed .notNode
  | .node key tag loc [] =>
    if tag = "capture" then malformed .notNode else return .node key tag loc []
  | .node key tag loc (first :: rest) =>
    if tag = "capture" then belowCaptures first else return .node key tag loc (first :: rest)

def hasTag (tag : String) : Term → Bool
  | .node _ actual _ _ => actual == tag
  | .atom _ => false

def isVariadic (term : Term) : Compile Bool := do
  let inner ← belowCaptures term
  return hasTag "rest" inner || hasTag "repetition" inner

def operatorOf (term : Term) : Compile Term :=
  match term.children with
  | _ :: operator :: _ => return operator
  | _ => malformed .noOperator

/-- How many children a variadic term can match: at least so many, and perhaps at most so many. -/
def arity (term : Term) : Compile (Nat × Option Nat) := do
  let inner ← belowCaptures term
  if hasTag "rest" inner then return (0, none)
  match ← operatorOf inner with
  | .atom (.str "*") => return (0, none)
  | .atom (.str "+") => return (1, none)
  | .atom (.str "?") => return (0, some 1)
  | .atom (.list _) => malformed .notText
  | _ => malformed .unknownOperator

/-- How many children a node needs, given the number of fixed terms and the arity of the
variadic one. -/
def countFor (fixed : Nat) : Nat × Option Nat → Count
  | (least, none) => .atLeast (fixed + least)
  | (least, some most) => .between (fixed + least) (fixed + most)

def predicateKinds : List (String × Kind) :=
  [("nil?", .absent), ("true?", .true), ("false?", .false), ("sym?", .symbol),
    ("int?", .integer), ("float?", .float), ("str?", .string), ("node?", .node)]

/-- The node type that a predicate asks for by its name. A line feed at the very end of the name
does not count. -/
def typeOfPredicate? (name : String) : Option String :=
  let chars :=
    if name.toList.getLast? = some '\n' then name.toList.dropLast else name.toList
  let ending := "_type?".toList
  if ending.isSuffixOf chars then
    match chars.take (chars.length - ending.length) with
    | first :: rest =>
      if Text.isAsciiLower first && rest.all Text.isAlphanumeric then
        some (String.ofList (first :: rest))
      else none
    | [] => none
  else none

def typeTest (place : Place) (type : Term) : Test :=
  .allOf [.isNode place, .hasType place type]

def predicate (term : Term) (place : Place) : Compile Test :=
  match term.payload with
  | .atom (.str name) =>
    match predicateKinds.lookup name, typeOfPredicate? name with
    | some kind, _ => return .isKind place kind
    | none, some type => return typeTest place (.atom (.str type))
    | none, none => reject (.unknownPredicate name) term
  | _ => malformed .notText

/-- A parameter by its number. A truth value counts as one or zero, but is named as written. -/
def positional (term : Term) (place : Place) (index : Int) (name : String) : Compile Test := do
  if index < 1 then reject .positionBelowOne term
  else
    modify (·.usePosition index.toNat)
    return .accepts place name

def param (term : Term) (place : Place) : Compile Test :=
  match term.payload with
  | .atom (.int index) => positional term place index ("_p" ++ toString index)
  | .atom (.bool true) => positional term place 1 "_pTrue"
  | .atom (.bool false) => positional term place 0 "_pFalse"
  | .atom (.str name) => do
    if Script.isShadowing name || name.startsWith "_" || Script.isKeyword name then
      reject (.reservedName name) term
    else
      modify (·.useName name)
      return .accepts place name
  | _ => malformed .notText

def variadicLabel (term : Term) : Compile String := do
  if hasTag "rest" term then return "..."
  return (← operatorOf term).plain ++ " repetition"

def requireSlice (term : Term) (place : Place) : Compile Unit := do
  unless place.isSlice do
    reject (.variadicOutsideSequence (← variadicLabel term)) term

/-- The variadic terms of a sequence, by their place among the terms after the head. -/
def variadicIndices (index : Nat) : List Term → Compile (List Nat)
  | [] => return []
  | term :: rest => do
    let variadic ← isVariadic term
    let indices ← variadicIndices (index + 1) rest
    return if variadic then index :: indices else indices

/-- The places of the terms after the head. The terms behind a variadic one are counted from the
last child. -/
def termPlaces (place : Place) (count : Nat) : Option Nat → List Place
  | none => (List.range count).map fun (i : Nat) => place.child i
  | some split =>
    let after := count - split - 1
    (List.range split).map (fun (i : Nat) => place.child i) ++
      place.slice split after ::
        (List.range after).map fun (i : Nat) => place.child ((i : Int) - after)

def sequenceCount (terms : List Term) : Option Nat → Compile Count
  | none => return .exactly terms.length
  | some split => do
    return countFor (terms.length - 1) (← arity (terms[split]?.getD (.atom .absent)))

/-- The place of the variadic term of a sequence, which may have only one. -/
def variadicIndex (terms : List Term) : Compile (Option Nat) := do
  match ← variadicIndices 0 terms with
  | [] => return none
  | [single] => return some single
  | _ :: second :: _ => reject .multipleVariadic (terms[second]?.getD (.atom .absent))

mutual

def compile (handlers : Handlers) (place : Place) : Term → Compile Test
  | .atom _ => malformed .notNode
  | .node key tag loc children =>
    match handlers.resolve? tag with
    | none => throw (.unhandled tag)
    | some handler =>
      visiting (.node key tag loc children)
        (instrumented (.node key tag loc children) place
          (match handler with
          | .nodeType => return typeTest place (Term.node key tag loc children).payload
          | .wildcard => return .always
          | .rest => do
            requireSlice (.node key tag loc children) place
            return .always
          | .repetition => do
            requireSlice (.node key tag loc children) place
            if (Term.node key tag loc children).payload.walk.any (hasTag "capture") then
              reject .captureInRepetition (.node key tag loc children)
            else
              let name ← freshName "e"
              let body ← compileFirst handlers (.element name) children
              return .every name place body
          | .capture => do
            let slot ← nextCapture
            let inner ← compileFirst handlers place children
            return .allOf [inner, .capture slot place]
          | .negation => do
            let inner ← compileFirst handlers place children
            return .not inner
          | .ascend => do
            let inner ← compileFirst handlers place.parent children
            return .allOf [.isNode place, inner]
          | .union => do
            let base := (← get).captures
            let branches ← compileBranches handlers place base children
            match branches with
            | [] => malformed .noBranch
            | (_, count) :: others =>
              if others.all fun branch => branch.2 == count then
                modify fun session => { session with captures := base + count }
                return .anyOf (branches.map Prod.fst)
              else
                reject (.unbalancedCaptures (branches.map Prod.snd)) (.node key tag loc children)
          | .intersection => do
            return .allOf (← compileEach handlers place children)
          | .symbol => return .equalsSymbol place (Term.node key tag loc children).payload
          | .literal => return .equals place (Term.node key tag loc children).payload
          | .nil => return .isKind place .absent
          | .predicate => predicate (.node key tag loc children) place
          | .param => param (.node key tag loc children) place
          | .sequence => do
            match (Term.node key tag loc children).childNodes with
            | [] => malformed .noHead
            | _ :: terms =>
              let split ← variadicIndex terms
              let head ← compileChild Handlers.sequence place children
              let count ← sequenceCount terms split
              let tests ← compileAfterHead (termPlaces place terms.length split) children
              return .allOf (.isNode place :: head :: .hasCount place count :: tests)
          | .unsupported => reject (.unsupported tag) (.node key tag loc children)
          | .custom .always => return .always
          | .custom .never => return .never
          | .custom .child => compileChild handlers place children
          | .custom .notChild => do
            let inner ← compileChild handlers place children
            return .not inner
          | .custom .isAbsent => return .isKind place .absent))
termination_by structural term => term

def compileFirst (handlers : Handlers) (place : Place) : List Term → Compile Test
  | [] => malformed .notNode
  | first :: _ => compile handlers place first
termination_by structural terms => terms

def compileChild (handlers : Handlers) (place : Place) : List Term → Compile Test
  | [] => malformed .noChild
  | .atom _ :: rest => compileChild handlers place rest
  | .node key tag loc children :: _ => compile handlers place (.node key tag loc children)
termination_by structural terms => terms

def compileEach (handlers : Handlers) (place : Place) : List Term → Compile (List Test)
  | [] => return []
  | .atom _ :: rest => compileEach handlers place rest
  | .node key tag loc children :: rest => do
    let test ← compile handlers place (.node key tag loc children)
    let tests ← compileEach handlers place rest
    return test :: tests
termination_by structural terms => terms

/-- Compiles the branches of a union with the number of captures in each. Every branch starts
with the same slot. -/
def compileBranches (handlers : Handlers) (place : Place) (base : Nat) :
    List Term → Compile (List (Test × Nat))
  | [] => return []
  | .atom _ :: rest => compileBranches handlers place base rest
  | .node key tag loc children :: rest => do
    modify fun session => { session with captures := base }
    let test ← compile handlers place (.node key tag loc children)
    let count := (← get).captures - base
    let branches ← compileBranches handlers place base rest
    return (test, count) :: branches
termination_by structural terms => terms

def compileAfterHead (places : List Place) : List Term → Compile (List Test)
  | [] => return []
  | .atom _ :: rest => compileAfterHead places rest
  | .node .. :: rest => compileTerms places rest
termination_by structural terms => terms

def compileTerms (places : List Place) : List Term → Compile (List Test)
  | [] => return []
  | .atom _ :: rest => compileTerms places rest
  | .node key tag loc children :: rest => do
    let test ← compile Handlers.sequence (places.headD .root) (.node key tag loc children)
    let tests ← compileTerms places.tail rest
    return test :: tests
termination_by structural terms => terms

end

end Compile

end TreeMatch
