import TreeMatch.Proofs.Contract

/-! What callers get: what a matcher serves is what its pattern means, unless the script gets in the
way of its own names. -/

namespace TreeMatch

variable {chart : Text.CodeChart}

namespace Test

variable {env : Environment}

/-- A test without repetitions does not miss the builtins when they are out of reach. -/
theorem runSevered_of_elementNames {test : Test} (hnone : test.elementNames = [])
    (hwithin : env.isWithin = false) : runSevered test env = run test env := by
  induction test using induct with
  | allOf tests each =>
      have hall : runSeveredAll tests env = runAll tests env := by
        clear hwithin
        induction tests with
        | nil => rfl
        | cons test rest induction =>
            obtain ⟨first, later⟩ := List.forall_mem_cons.mp each
            obtain ⟨hfirst, hlater⟩ := List.append_eq_nil_iff.mp hnone
            exact congrArg₂ Action.both (first hfirst) (induction later hlater)
      funext state
      rw [runSevered, run, hall]
  | anyOf tests each =>
      have hany : runSeveredAny tests env = runAny tests env := by
        clear hwithin
        induction tests with
        | nil => rfl
        | cons test rest induction =>
            obtain ⟨first, later⟩ := List.forall_mem_cons.mp each
            obtain ⟨hfirst, hlater⟩ := List.append_eq_nil_iff.mp hnone
            exact congrArg₂ Action.either (first hfirst) (induction later hlater)
      exact hany
  | not test induction => exact congrArg Action.invert (induction hnone)
  | every name items body induction => cases hnone
  | _ =>
      funext state
      exact if_neg (Bool.eq_false_iff.mp hwithin)

end Test

namespace Matcher

section Served

variable {matcher : Matcher} {arguments : Arguments} {document : Document}
  {subject returned : Value}

/-- Where something is returned, the matcher has been called on the settled arguments, with the
names of its parameters right and the builtins within reach. -/
theorem serve_of_returned
    (hreturned : (matcher.serve document subject arguments).returned = .ok returned) :
    matcher.serve document subject arguments =
      matcher.call document subject (matcher.settled arguments) := by
  unfold serve at hreturned ⊢
  dsimp only at hreturned ⊢
  split at hreturned
  · rename_i hserves
    rw [if_pos hserves]
    rcases respond_cases matcher document subject (matcher.settled arguments) with
      hcall | ⟨-, hfault⟩
    · exact hcall
    · rw [hfault] at hreturned
      cases hreturned
  · cases hreturned

variable (hkeys : (arguments.keywords.map Prod.fst).Nodup) (admits : matcher.Admits arguments)

include hkeys admits

theorem settled_of_admits : matcher.settled arguments = arguments :=
  settled_eq_self hkeys (checkArguments_eq_ok.mp admits.fits).2.2 admits.given

theorem fits_of_admits (hnodup : matcher.parameters.Nodup) : matcher.Fits arguments := by
  obtain ⟨hlength, hmissing, hdeclared⟩ := checkArguments_eq_ok.mp admits.fits
  refine ⟨hlength, ?_, hdeclared⟩
  rw [← missingKeywordsOf_settled hnodup, settled_of_admits hkeys admits, hmissing]

theorem serve_of_admits (hnodup : matcher.parameters.Nodup) :
    matcher.serve document subject arguments =
      if matcher.isServable then matcher.respond document subject arguments
      else ⟨.error (.call .unknownKeyword), []⟩ := by
  have fits := fits_of_admits hkeys admits hnodup
  rw [serve_of_fits hnodup fits admits.free, settled_of_admits hkeys admits]

end Served

/-- The function in the place of the builtins only matters where elements are looked at. -/
theorem respond_cases_of_admits {matcher : Matcher} {arguments : Arguments}
    (admits : matcher.Admits arguments) (document : Document) (subject : Value) :
    matcher.respond document subject arguments = matcher.call document subject arguments ∨
      matcher.functionName = Script.builtinsName ∧ matcher.test.elementNames ≠ [] ∧
        (matcher.respond document subject arguments).returned = .error (.run .outOfReach) := by
  rcases respond_cases matcher document subject arguments with hcall | ⟨hname, hfault⟩
  · exact .inl hcall
  refine or_iff_not_imp_right.mpr fun hnot => ?_
  have hnone : matcher.test.elementNames = [] := by
    by_contra hsome
    exact hnot ⟨hname, hsome, hfault⟩
  have hsevered : ∀ bindings, matcher.executeSevered document subject bindings =
      matcher.execute document subject bindings := by
    intro bindings
    unfold executeSevered execute
    dsimp only
    rw [Test.runSevered_of_elementNames hnone rfl]
  rw [respond, call_of_accepts admits.toAccepts admits.traced, hsevered, ite_self]

end Matcher

namespace Painting

theorem run_of_serve {matcher : Matcher} {document : Document} {root : Node}
    {arguments : Matcher.Arguments} {painting : Painting}
    (hserve : serve matcher document root arguments = .ok painting) :
    run matcher document root arguments = .ok painting := by
  unfold serve at hserve
  dsimp only at hserve
  split at hserve
  · exact hserve
  · cases hserve

end Painting

end TreeMatch
