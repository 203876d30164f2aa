import TreeMatch.Proofs.Layout
import TreeMatch.Proofs.Matching

/-! Executing a pattern on a value without going through places: the run of its test does the
same. -/

namespace TreeMatch

abbrev Action := RunState → RunResult

namespace Action

def answer (result : Except RunFault Bool) : Action := fun state =>
  (result, state)

def both (first second : Action) : Action := fun state =>
  match first state with
  | (.ok true, state) => second state
  | other => other

def either (first second : Action) : Action := fun state =>
  match first state with
  | (.ok false, state) => second state
  | other => other

def invert (action : Action) : Action := fun state =>
  match action state with
  | (.ok answer, state) => (.ok !answer, state)
  | other => other

/-- An action on every element of a series, up to the first on which it does not hold. -/
def everyOf (check : Value → Action) (series : Value) : Action :=
  match seriesItems series with
  | .ok items => Test.everyItem check items
  | .error fault => answer (.error fault)

def store (slot : Nat) (value : Value) : Action := fun state =>
  if slot < state.slots.length then
    (.ok true, { state with slots := state.slots.set slot value })
  else (.error .noSuchSlot, state)

def note (id : Nat) (subject : Value) (success : Bool) : Action := fun state =>
  (.ok true, { state with log := state.log ++ [⟨id, subject, success⟩] })

/-- An action between two marks, if marks are left at all. -/
def visit (recording : Bool) (id : Nat) (subject : Value) (action : Action) : Action :=
  if recording then both (note id subject false) (both action (note id subject true)) else action

section Outcomes

variable {first second : Action} {state after : RunState} {answered : Bool}

theorem both_eq_ok (hboth : both first second state = (.ok answered, after)) :
    (first state = (.ok false, after) ∧ answered = false) ∨
      ∃ middle, first state = (.ok true, middle) ∧ second middle = (.ok answered, after) := by
  unfold both at hboth
  split at hboth
  · exact .inr ⟨_, ‹_›, hboth⟩
  · rename_i hother
    cases answered with
    | false => exact .inl ⟨hboth, rfl⟩
    | true => exact absurd hboth (hother after)

theorem either_eq_ok (heither : either first second state = (.ok answered, after)) :
    (first state = (.ok true, after) ∧ answered = true) ∨
      ∃ middle, first state = (.ok false, middle) ∧ second middle = (.ok answered, after) := by
  unfold either at heither
  split at heither
  · exact .inr ⟨_, ‹_›, heither⟩
  · rename_i hother
    cases answered with
    | true => exact .inl ⟨heither, rfl⟩
    | false => exact absurd heither (hother after)

theorem invert_eq_ok (hinvert : invert first state = (.ok answered, after)) :
    first state = (.ok !answered, after) := by
  unfold invert at hinvert
  split at hinvert
  · rename_i found last hfirst
    cases hinvert
    rw [hfirst, Bool.not_not]
  · rename_i hother
    exact absurd hinvert (hother answered after)

end Outcomes

end Action

namespace Leaf

/-- The leaf can be asked: a number can be written, a parameter is given. -/
def isProvided (scene : Scene) : Leaf → Bool
  | float x => x.isFinite
  | position index => (scene.position? index).isSome
  | named name => (scene.named? name).isSome
  | _ => true

def answer (scene : Scene) (value : Value) (leaf : Leaf) : Except RunFault Bool :=
  if leaf.isProvided scene then .ok (leaf.holds scene value) else .error .unbound

end Leaf

namespace Pattern

/-- What a capture records of a subject. -/
def kept (pattern : Pattern Leaf) (subject : Value) : Value :=
  match pattern.isVariadic, subject with
  | true, .tuple items => .list items
  | _, _ => subject

def subjectOf (pattern : Pattern Leaf) (values : List Value) : Value :=
  if pattern.isVariadic then .tuple values else values.headD .absent

mutual

def exec (recording : Bool) (scene : Scene) (tally : Tally) : Pattern Leaf → Value → Action
  | leaf _ value, subject =>
    Action.visit recording tally.key subject (Action.answer (value.answer scene subject))
  | marked _ .capture inner, subject =>
    Action.visit recording tally.key subject
      (Action.both (exec recording scene tally.captured inner subject)
        (Action.store tally.slot (inner.kept subject)))
  | marked _ .negation inner, subject =>
    Action.visit recording tally.key subject
      (Action.invert (exec recording scene tally.inner inner subject))
  | marked _ .ascend inner, subject =>
    Action.visit recording tally.key subject
      (match scene.document.above subject with
      | some above => exec recording scene tally.inner inner above
      | none => Action.answer (.ok false))
  | repeated _ inner _, subject =>
    Action.visit recording tally.key subject
      (Action.everyOf (exec recording scene tally.repeated inner) subject)
  | grouped _ .union first others, subject =>
    Action.visit recording tally.key subject
      (Action.either (exec recording scene tally.inner first subject)
        (execAny recording scene (tally.inner.beside first) others subject))
  | grouped _ .intersection first others, subject =>
    Action.visit recording tally.key subject
      (Action.both (exec recording scene tally.inner first subject)
        (execEach recording scene (tally.inner.after first) others subject))
  | grouped _ .sequence first others, subject =>
    Action.visit recording tally.key subject
      (match subject.node? with
      | some node =>
        Action.both (exec recording scene tally.inner first subject)
          (if (countOf others).holds node.children.length then
            execTerms recording scene (tally.inner.after first) others node.children
          else Action.answer (.ok false))
      | none => Action.answer (.ok false))
termination_by structural pattern => pattern

def execAny (recording : Bool) (scene : Scene) (tally : Tally) :
    List (Pattern Leaf) → Value → Action
  | [], _ => Action.answer (.ok false)
  | pattern :: rest, subject =>
    Action.either (exec recording scene tally pattern subject)
      (execAny recording scene (tally.beside pattern) rest subject)
termination_by structural patterns => patterns

def execEach (recording : Bool) (scene : Scene) (tally : Tally) :
    List (Pattern Leaf) → Value → Action
  | [], _ => Action.answer (.ok true)
  | pattern :: rest, subject =>
    Action.both (exec recording scene tally pattern subject)
      (execEach recording scene (tally.after pattern) rest subject)
termination_by structural patterns => patterns

def execTerms (recording : Bool) (scene : Scene) (tally : Tally) :
    List (Pattern Leaf) → List Value → Action
  | [], _ => Action.answer (.ok true)
  | term :: rest, children =>
    Action.both
      (exec recording scene tally term
        (term.subjectOf (children.take (term.share rest.length children.length))))
      (execTerms recording scene (tally.after term) rest
        (children.drop (term.share rest.length children.length)))
termination_by structural terms => terms

end

theorem exec_leaf (recording : Bool) (scene : Scene) (tally : Tally) (loc : Range) (value : Leaf)
    (subject : Value) :
    (leaf loc value).exec recording scene tally subject =
      Action.visit recording tally.key subject (Action.answer (value.answer scene subject)) := by
  rw [exec]

end Pattern

end TreeMatch
