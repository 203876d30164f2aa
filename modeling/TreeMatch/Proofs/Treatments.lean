import TreeMatch.Matcher
import TreeMatch.Proofs.Parts

/-! Compiling with any handlers whatever: a handler is given a node, its place, and what its
compiler makes of the nodes below. The handlers of the pattern language are some of these. -/

namespace TreeMatch

namespace Compile

/-- What a handler is shown of a child: how the compiler compiles it, and what is below it in turn.
The terms of a sequence are left to the compiler of sequences, so none of them is shown. -/
inductive Child
  | mk (term : Term) (compile : Place → Compile Test) (below : List Child)

namespace Child

def term : Child → Term
  | mk term _ _ => term

def compile : Child → Place → Compile Test
  | mk _ compile _ => compile

end Child

/-- A handler: what it makes of a node at a place. It may use the session in any way. -/
abbrev Treatment := Term → Place → List Child → Compile Test

abbrev Treatments := Registry Treatment

mutual

def compileBy (treatments : Treatments) (place : Place) : Term → Compile Test
  | .atom _ => malformed .notNode
  | .node key tag loc children =>
    match treatments.resolve? tag with
    | none => throw (.unhandled tag)
    | some treat =>
      visiting (.node key tag loc children)
        (instrumented (.node key tag loc children) place
          (treat (.node key tag loc children) place (childrenBy treatments children)))
termination_by structural term => term

def childrenBy (treatments : Treatments) : List Term → List Child
  | [] => []
  | .atom value :: rest =>
    .mk (.atom value) (fun _ => malformed .notNode) [] :: childrenBy treatments rest
  | .node key tag loc children :: rest =>
    .mk (.node key tag loc children)
      (fun place => compileBy treatments place (.node key tag loc children))
      (if tag = "sequence" then [] else childrenBy treatments children) ::
    childrenBy treatments rest
termination_by structural terms => terms

end

def firstBy (place : Place) : List Child → Compile Test
  | [] => malformed .notNode
  | first :: _ => first.compile place

def childBy (place : Place) : List Child → Compile Test
  | [] => malformed .noChild
  | child :: rest => if child.term.isNode then child.compile place else childBy place rest

/-- Compiles every child node for one and the same value. -/
def eachBy (place : Place) : List Child → Compile (List Test)
  | [] => return []
  | child :: rest =>
    if child.term.isNode then do
      let test ← child.compile place
      let tests ← eachBy place rest
      return test :: tests
    else eachBy place rest

/-- Compiles the branches of a union with the number of captures in each. -/
def branchesBy (place : Place) (base : Nat) : List Child → Compile (List (Test × Nat))
  | [] => return []
  | child :: rest =>
    if child.term.isNode then do
      modify fun session => { session with captures := base }
      let test ← child.compile place
      let count := (← get).captures - base
      let branches ← branchesBy place base rest
      return (test, count) :: branches
    else branchesBy place base rest

end Compile

open Compile

/-- What a handler of the pattern language makes of a node. That of a sequence turns to the
handlers of sequences for the terms in it. -/
def Handler.treat : Handler → Treatment
  | nodeType => fun term place _ => return typeTest place term.payload
  | wildcard => fun _ _ _ => return .always
  | rest => fun term place _ => do
    requireSlice term place
    return .always
  | repetition => fun term place children => do
    requireSlice term place
    if term.payload.walk.any (hasTag "capture") then
      reject .captureInRepetition term
    else
      let name ← freshName "e"
      let body ← firstBy (.element name) children
      return .every name place body
  | capture => fun _ place children => do
    let slot ← nextCapture
    let inner ← firstBy place children
    return .allOf [inner, .capture slot place]
  | negation => fun _ place children => do
    let inner ← firstBy place children
    return .not inner
  | ascend => fun _ place children => do
    let inner ← firstBy place.parent children
    return .allOf [.isNode place, inner]
  | union => fun term place children => do
    let base := (← get).captures
    let branches ← branchesBy place base children
    match branches with
    | [] => malformed .noBranch
    | (_, count) :: others =>
      if others.all fun branch => branch.2 == count then
        modify fun session => { session with captures := base + count }
        return .anyOf (branches.map Prod.fst)
      else
        reject (.unbalancedCaptures (branches.map Prod.snd)) term
  | intersection => fun _ place children => do
    return .allOf (← eachBy place children)
  | symbol => fun term place _ => return .equalsSymbol place term.payload
  | literal => fun term place _ => return .equals place term.payload
  | nil => fun _ place _ => return .isKind place .absent
  | predicate => fun term place _ => Compile.predicate term place
  | param => fun term place _ => Compile.param term place
  | sequence => fun term place _ => do
    match term.childNodes with
    | [] => malformed .noHead
    | _ :: terms =>
      let split ← variadicIndex terms
      let head ← compileChild Handlers.sequence place term.children
      let count ← sequenceCount terms split
      let tests ← compileAfterHead (termPlaces place terms.length split) term.children
      return .allOf (.isNode place :: head :: .hasCount place count :: tests)
  | unsupported => fun term _ _ => reject (.unsupported term.tag) term
  | custom .always => fun _ _ _ => return .always
  | custom .never => fun _ _ _ => return .never
  | custom .child => fun _ place children => childBy place children
  | custom .notChild => fun _ place children => do
    let inner ← childBy place children
    return .not inner
  | custom .isAbsent => fun _ place _ => return .isKind place .absent

/-- The handlers of a compiler of the pattern language. -/
def Handlers.treatments (handlers : Handlers) : Treatments :=
  handlers.map Handler.treat

theorem Registry.resolve?_map (registry : Registry α) (f : α → β) (tag : String) :
    (registry.map f).resolve? tag = (registry.resolve? tag).map f := by
  obtain ⟨entries, fallback⟩ := registry
  simp only [Registry.map, Registry.resolve?]
  induction entries with
  | nil => simp
  | cons entry rest induction =>
      obtain ⟨key, handler⟩ := entry
      rw [List.map_cons, List.lookup_cons, List.lookup_cons]
      cases htag : tag == key with
      | true => rfl
      | false => exact induction

namespace Compile

section Lists

variable {handlers : Handlers} {place : Place} {children : List Term}

def AgreesOn (handlers : Handlers) (children : List Term) : Prop :=
  ∀ child ∈ children, ∀ place,
    compile handlers place child = compileBy handlers.treatments place child

theorem compileFirst_eq (agrees : AgreesOn handlers children) (place : Place) :
    compileFirst handlers place children =
      firstBy place (childrenBy handlers.treatments children) := by
  cases children with
  | nil => rfl
  | cons first rest =>
      have hfirst := agrees first (.head _) place
      cases first <;> exact hfirst

theorem compileChild_eq (agrees : AgreesOn handlers children) (place : Place) :
    compileChild handlers place children =
      childBy place (childrenBy handlers.treatments children) := by
  induction children with
  | nil => rfl
  | cons first rest induction =>
      cases first with
      | atom value => exact induction fun child member => agrees child (.tail _ member)
      | node key tag loc inner => exact agrees _ (.head _) place

theorem compileEach_eq (agrees : AgreesOn handlers children) (place : Place) :
    compileEach handlers place children =
      eachBy place (childrenBy handlers.treatments children) := by
  induction children with
  | nil => rfl
  | cons first rest induction =>
      have later := induction fun child member => agrees child (.tail _ member)
      cases first with
      | atom value => exact later
      | node key tag loc inner =>
          have hfirst := agrees _ (.head _) place
          rw [compileEach, hfirst, later]
          rfl

theorem compileBranches_eq (agrees : AgreesOn handlers children) (place : Place) (base : Nat) :
    compileBranches handlers place base children =
      branchesBy place base (childrenBy handlers.treatments children) := by
  induction children with
  | nil => rfl
  | cons first rest induction =>
      have later := induction fun child member => agrees child (.tail _ member)
      cases first with
      | atom value => exact later
      | node key tag loc inner =>
          have hfirst := agrees _ (.head _) place
          rw [compileBranches, hfirst, later]
          rfl

end Lists

theorem compile_eq_compileBy (handlers : Handlers) (place : Place) (term : Term) :
    compile handlers place term = compileBy handlers.treatments place term := by
  induction term using Term.induct generalizing place with
  | atom value => rfl
  | node key tag loc children agrees =>
      replace agrees : AgreesOn handlers children := fun child member place =>
        agrees child member place
      have hresolve : handlers.treatments.resolve? tag =
          (handlers.resolve? tag).map Handler.treat := Registry.resolve?_map _ _ _
      rw [compile, compileBy, hresolve]
      cases handlers.resolve? tag with
      | none => rfl
      | some handler =>
          cases handler with
          | repetition | capture | negation | ascend =>
              simp only [compileFirst_eq agrees]
              rfl
          | union =>
              simp only [compileBranches_eq agrees]
              rfl
          | intersection =>
              simp only [compileEach_eq agrees]
              rfl
          | custom fragment =>
              simp only [compileChild_eq agrees]
              cases fragment <;> rfl
          | _ => rfl

end Compile

end TreeMatch
