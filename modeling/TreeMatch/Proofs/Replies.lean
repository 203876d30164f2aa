import TreeMatch.Proofs.Running

/-! Runs in which the arguments are free to reply differently each time they are asked. A plain run
is one in which they keep to what they accept. -/

namespace TreeMatch

/-- What the arguments reply, after the events so far, when a value is put to a parameter. -/
abbrev Replies := List Event → String → Value → Except RunFault Bool

def Replies.steady (arguments : List (String × Argument)) : Replies := fun _ parameter value =>
  match arguments.lookup parameter with
  | some argument => .ok (argument.accepts value)
  | none => .error .unbound

namespace Test

mutual

/-- The run of a test in which the arguments reply as they are said to. -/
def runUnder (replies : Replies) : Test → Environment → Action
  | allOf tests, env =>
    if tests.isEmpty then Action.answer (.ok false) else runAllUnder replies tests env
  | anyOf tests, env => runAnyUnder replies tests env
  | not test, env => Action.invert (runUnder replies test env)
  | accepts place parameter, env => fun state =>
    (place.value env >>= replies state.log parameter, state)
  | capture slot place, env => record env slot place
  | enter id place, env => mark env id place false
  | succeed id place, env => mark env id place true
  | every name items body, env =>
    match items.value env >>= seriesItems with
    | .ok values => everyItem (fun value => runUnder replies body (env.withElement name value)) values
    | .error fault => Action.answer (.error fault)
  | test, env => pureRun (look env test)
termination_by structural test => test

def runAllUnder (replies : Replies) : List Test → Environment → Action
  | [], _ => Action.answer (.ok true)
  | test :: rest, env => Action.both (runUnder replies test env) (runAllUnder replies rest env)
termination_by structural tests => tests

def runAnyUnder (replies : Replies) : List Test → Environment → Action
  | [], _ => Action.answer (.ok false)
  | test :: rest, env => Action.either (runUnder replies test env) (runAnyUnder replies rest env)
termination_by structural tests => tests

end

/-- Tests are built from checks of a value by connectives and by the check of every element. -/
@[elab_as_elim]
theorem induct {motive : Test → Prop} (always : motive .always) (never : motive .never)
    (allOf : ∀ tests, (∀ test ∈ tests, motive test) → motive (.allOf tests))
    (anyOf : ∀ tests, (∀ test ∈ tests, motive test) → motive (.anyOf tests))
    (not : ∀ test, motive test → motive (.not test)) (isNode : ∀ place, motive (.isNode place))
    (hasType : ∀ place type, motive (.hasType place type))
    (hasCount : ∀ place count, motive (.hasCount place count))
    (equals : ∀ place expected, motive (.equals place expected))
    (equalsSymbol : ∀ place name, motive (.equalsSymbol place name))
    (isKind : ∀ place kind, motive (.isKind place kind))
    (accepts : ∀ place parameter, motive (.accepts place parameter))
    (capture : ∀ slot place, motive (.capture slot place))
    (enter : ∀ id place, motive (.enter id place))
    (succeed : ∀ id place, motive (.succeed id place))
    (every : ∀ name items body, motive body → motive (.every name items body)) :
    ∀ test, motive test := by
  intro test
  refine Test.rec (motive_1 := motive) (motive_2 := fun tests => ∀ test ∈ tests, motive test)
    always never allOf anyOf not isNode hasType hasCount equals equalsSymbol isKind accepts
    capture enter succeed every ?_ ?_ test
  · intro other member
    cases member
  · intro head tail headHolds tailHolds other member
    cases member with
    | head => exact headHolds
    | tail _ inTail => exact tailHolds other inTail

theorem run_eq_runUnder (test : Test) (env : Environment) :
    run test env = runUnder (.steady env.arguments) test env := by
  induction test using induct generalizing env with
  | allOf tests each =>
      have hall : runAll tests env = runAllUnder (.steady env.arguments) tests env := by
        induction tests with
        | nil => rfl
        | cons test rest induction =>
            rw [runAll_cons, runAllUnder, each test (by simp),
              induction fun other member => each other (by simp [member])]
      cases tests with
      | nil => rfl
      | cons test rest => exact hall
  | anyOf tests each =>
      change runAny tests env = runAnyUnder (.steady env.arguments) tests env
      induction tests with
      | nil => rfl
      | cons test rest induction =>
          rw [runAny_cons, runAnyUnder, each test (by simp),
            induction fun other member => each other (by simp [member])]
  | not test induction =>
      change Action.invert (run test env) = Action.invert _
      rw [induction]
  | every name items body induction =>
      funext state
      rw [run, runUnder]
      cases items.value env >>= seriesItems with
      | error fault => rfl
      | ok values =>
          dsimp only
          congr 1
          funext value
          exact induction (env.withElement name value)
  | _ => rfl

end Test

namespace Matcher

def CallResult.ofRun : RunResult → CallResult
  | (.ok true, state) => ⟨.ok (resultOf state.slots), state.log⟩
  | (.ok false, state) => ⟨.ok .absent, state.log⟩
  | (.error fault, state) => ⟨.error (.run fault), state.log⟩

@[simp] theorem CallResult.log_ofRun (result : RunResult) :
    (CallResult.ofRun result).log = result.2.log := by
  rcases result with ⟨_ | _ | _, state⟩ <;> rfl

def refusal? (matcher : Matcher) (arguments : Arguments) : Option Failure :=
  if arguments.keywords.any fun keyword => callNames.contains keyword.1 then
    some (.call .givenTwice)
  else
    match matcher.checkArguments arguments with
    | .error fault => some (.reported fault.diagnostic)
    | .ok () =>
      match matcher.recording, arguments.keywords.lookup traceName with
      | true, some (.argument _) => some (.call .notTrace)
      | _, _ => none

/-- A call in which the arguments reply as they are said to. -/
def callUnder (replies : Replies) (matcher : Matcher) (document : Document) (subject : Value)
    (arguments : Arguments) : CallResult :=
  match matcher.refusal? arguments with
  | some failure => ⟨.error failure, []⟩
  | none =>
    .ofRun (matcher.test.runUnder replies ⟨document, subject, matcher.bind arguments, []⟩
      ⟨List.replicate matcher.slots .absent, []⟩)

theorem call_eq (matcher : Matcher) (document : Document) (subject : Value)
    (arguments : Arguments) :
    matcher.call document subject arguments =
      match matcher.refusal? arguments with
      | some failure => ⟨.error failure, []⟩
      | none => matcher.execute document subject (matcher.bind arguments) := by
  unfold call refusal?
  split
  · rfl
  · cases matcher.checkArguments arguments with
    | error fault => rfl
    | ok _ =>
        cases matcher.recording with
        | false => rfl
        | true => rcases arguments.keywords.lookup traceName with _ | _ | _ <;> rfl

theorem call_eq_callUnder (matcher : Matcher) (document : Document) (subject : Value)
    (arguments : Arguments) :
    matcher.call document subject arguments =
      matcher.callUnder (.steady (matcher.bind arguments)) document subject arguments := by
  have hrun := Test.run_eq_runUnder matcher.test ⟨document, subject, matcher.bind arguments, []⟩
  rw [call_eq, callUnder, ← hrun]
  rfl

/-- A call returns if its test has an answer, and leaves the log of the test. -/
theorem runUnder_of_returned {replies : Replies} {matcher : Matcher} {document : Document}
    {subject returned : Value} {arguments : Arguments}
    (hreturned : (matcher.callUnder replies document subject arguments).returned = .ok returned) :
    ∃ answer after,
      matcher.test.runUnder replies ⟨document, subject, matcher.bind arguments, []⟩
          ⟨List.replicate matcher.slots .absent, []⟩ = (.ok answer, after) ∧
        (matcher.callUnder replies document subject arguments).log = after.log := by
  unfold callUnder at hreturned ⊢
  cases hrefusal : matcher.refusal? arguments with
  | some failure =>
      rw [hrefusal] at hreturned
      cases hreturned
  | none =>
      rw [hrefusal] at hreturned
      dsimp only at hreturned ⊢
      rw [CallResult.log_ofRun]
      generalize matcher.test.runUnder replies _ _ = result at hreturned ⊢
      obtain ⟨outcome, after⟩ := result
      cases outcome with
      | error fault => cases hreturned
      | ok answer => exact ⟨answer, after, rfl, rfl⟩

end Matcher

end TreeMatch
