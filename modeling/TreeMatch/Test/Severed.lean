import TreeMatch.Test.Run

/-! Running a test when the matcher's own function has taken the place where the builtins are kept.
The function itself still has them, but what is defined while it runs, the test of the elements of a
repetition, finds the function in their place. -/

namespace TreeMatch

namespace Environment

def isWithin (env : Environment) : Bool :=
  !env.elements.isEmpty

end Environment

namespace Kind

def asksBuiltin : Kind → Bool
  | symbol | integer | float | string => Bool.true
  | _ => Bool.false

end Kind

namespace Test

def asksBuiltin : Test → Bool
  | hasCount .. => true
  | isKind _ kind => kind.asksBuiltin
  | capture _ place => place.isSlice
  | every .. => true
  | _ => false

/-- A name that nothing else defines is looked up among the builtins in the end. -/
def beyond : Except RunFault Bool → Except RunFault Bool
  | .error .unbound => .error .outOfReach
  | answer => answer

/-- A test that holds no others, where the builtins may be out of reach. -/
def runSingle (test : Test) (env : Environment) (state : RunState) : RunResult :=
  if env.isWithin then
    if test.asksBuiltin then (.error .outOfReach, state)
    else (beyond (run test env state).1, (run test env state).2)
  else run test env state

mutual

def runSevered : Test → Environment → RunState → RunResult
  | allOf tests, env, state =>
    if tests.isEmpty then (.ok false, state) else runSeveredAll tests env state
  | anyOf tests, env, state => runSeveredAny tests env state
  | not test, env, state =>
    match runSevered test env state with
    | (.ok answer, state) => (.ok !answer, state)
    | other => other
  | every name items body, env, state =>
    if env.isWithin then (.error .outOfReach, state)
    else
      match items.value env >>= seriesItems with
      | .ok values =>
        everyItem (fun value => runSevered body (env.withElement name value)) values state
      | .error fault => (.error fault, state)
  | test, env, state => runSingle test env state
termination_by structural test => test

def runSeveredAll : List Test → Environment → RunState → RunResult
  | [], _, state => (.ok true, state)
  | test :: rest, env, state =>
    match runSevered test env state with
    | (.ok true, state) => runSeveredAll rest env state
    | other => other
termination_by structural tests => tests

def runSeveredAny : List Test → Environment → RunState → RunResult
  | [], _, state => (.ok false, state)
  | test :: rest, env, state =>
    match runSevered test env state with
    | (.ok false, state) => runSeveredAny rest env state
    | other => other
termination_by structural tests => tests

end

end Test

end TreeMatch
