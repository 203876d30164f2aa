import TreeMatch.Proofs.Replies

/-! Runs with the builtins out of reach: they are as they would be, or fail for want of a
builtin. -/

namespace TreeMatch

def Action.Severs (severed plain : Action) : Prop :=
  ∀ state, severed state = plain state ∨ ∃ after, severed state = (.error .outOfReach, after)

namespace Action.Severs

variable {severed plain : Action}

theorem refl (action : Action) : Severs action action :=
  fun _ => .inl rfl

theorem both (first : Severs severed plain) {severedRest plainRest : Action}
    (rest : Severs severedRest plainRest) :
    Severs (severed.both severedRest) (plain.both plainRest) := by
  intro state
  unfold Action.both
  rcases first state with hsame | ⟨after, hfault⟩
  · rw [hsame]
    rcases plain state with ⟨_ | _ | _, after⟩
    · exact .inl rfl
    · exact .inl rfl
    · exact rest after
  · rw [hfault]
    exact .inr ⟨after, rfl⟩

theorem either (first : Severs severed plain) {severedRest plainRest : Action}
    (rest : Severs severedRest plainRest) :
    Severs (severed.either severedRest) (plain.either plainRest) := by
  intro state
  unfold Action.either
  rcases first state with hsame | ⟨after, hfault⟩
  · rw [hsame]
    rcases plain state with ⟨_ | _ | _, after⟩
    · exact .inl rfl
    · exact rest after
    · exact .inl rfl
  · rw [hfault]
    exact .inr ⟨after, rfl⟩

theorem invert (action : Severs severed plain) : Severs severed.invert plain.invert := by
  intro state
  unfold Action.invert
  rcases action state with hsame | ⟨after, hfault⟩
  · rw [hsame]
    exact .inl rfl
  · rw [hfault]
    exact .inr ⟨after, rfl⟩

theorem everyItem {severed plain : Value → Action}
    (each : ∀ value, Severs (severed value) (plain value)) (values : List Value) :
    Severs (Test.everyItem severed values) (Test.everyItem plain values) := by
  induction values with
  | nil => exact refl _
  | cons value rest induction => exact (each value).both induction

end Action.Severs

namespace Test

theorem severs_runSingle (test : Test) (env : Environment) :
    Action.Severs (runSingle test env) (run test env) := by
  intro state
  unfold runSingle
  split
  · split
    · exact .inr ⟨state, rfl⟩
    · rcases run test env state with ⟨fault | answer, after⟩
      · cases fault with
        | unbound => exact .inr ⟨after, rfl⟩
        | _ => exact .inl rfl
      · exact .inl rfl
  · exact .inl rfl

/-- With the builtins out of reach, a test runs as it would, or fails for want of one. -/
theorem severs_run (test : Test) (env : Environment) :
    Action.Severs (runSevered test env) (run test env) := by
  induction test using induct generalizing env with
  | allOf tests each =>
      have hall : Action.Severs (runSeveredAll tests env) (runAll tests env) := by
        induction tests with
        | nil => exact .refl _
        | cons test rest induction =>
            obtain ⟨first, later⟩ := List.forall_mem_cons.mp each
            exact (first env).both (induction later)
      cases tests with
      | nil => exact .refl _
      | cons test rest => exact hall
  | anyOf tests each =>
      change Action.Severs (runSeveredAny tests env) (runAny tests env)
      induction tests with
      | nil => exact .refl _
      | cons test rest induction =>
          obtain ⟨first, later⟩ := List.forall_mem_cons.mp each
          exact (first env).either (induction later)
  | not test induction => exact (induction env).invert
  | every name items body induction =>
      intro state
      rw [runSevered, run]
      split
      · exact .inr ⟨state, rfl⟩
      · cases items.value env >>= seriesItems with
        | error fault => exact .inl rfl
        | ok values =>
            have each := fun value => induction (env.withElement name value)
            exact Action.Severs.everyItem each values state
  | _ => exact severs_runSingle _ env

end Test

namespace Matcher

theorem refusal?_ne_run (matcher : Matcher) (arguments : Arguments) (fault : RunFault) :
    matcher.refusal? arguments ≠ some (.run fault) := by
  unfold refusal?
  split
  · nofun
  · split
    · nofun
    · split <;> nofun

/-- The answer of a matcher's function is that of the matcher, unless the function takes the place
of the builtins: then it may fail for want of one. -/
theorem respond_cases (matcher : Matcher) (document : Document) (subject : Value)
    (arguments : Arguments) :
    matcher.respond document subject arguments = matcher.call document subject arguments ∨
      matcher.functionName = Script.builtinsName ∧
        (matcher.respond document subject arguments).returned = .error (.run .outOfReach) := by
  unfold respond
  dsimp only
  split
  · rename_i hsevered
    obtain ⟨hname, hrun⟩ := hsevered
    rw [call_eq] at hrun ⊢
    cases hrefusal : matcher.refusal? arguments with
    | some failure =>
        rw [hrefusal] at hrun
        cases failure with
        | run fault => exact absurd hrefusal (refusal?_ne_run matcher arguments fault)
        | _ => cases hrun
    | none =>
        rw [hrefusal] at hrun
        dsimp only at hrun ⊢
        unfold executeSevered execute
        dsimp only
        rcases Test.severs_run matcher.test ⟨document, subject, matcher.bind arguments, []⟩
            ⟨List.replicate matcher.slots .absent, []⟩ with hsame | ⟨after, hfault⟩
        · rw [hsame]
          exact .inl rfl
        · rw [hfault]
          exact .inr ⟨hname, rfl⟩
  · exact .inl rfl

end Matcher

end TreeMatch
