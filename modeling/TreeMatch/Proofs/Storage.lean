import TreeMatch.Proofs.Severing

/-! Where runs store what captures record: a test that writes only to slots that there are never
misses one, whatever it is run on. -/

namespace TreeMatch

section Faults

variable {fault : RunFault}

theorem bind_ne_error {result : Except RunFault α} {next : α → Except RunFault β}
    (hresult : result ≠ .error fault) (hnext : ∀ value, next value ≠ .error fault) :
    (result >>= next) ≠ .error fault := by
  cases result with
  | error other =>
      intro hbind
      cases hbind
      exact hresult rfl
  | ok value => exact hnext value

theorem Place.value_ne_noSuchSlot (env : Environment) (place : Place) :
    place.value env ≠ .error .noSuchSlot := by
  induction place with
  | root => rintro ⟨⟩
  | child place index induction =>
      refine bind_ne_error induction fun value => ?_
      split
      · rintro ⟨⟩
      · split <;> rintro ⟨⟩
  | parent place induction =>
      refine bind_ne_error induction fun value => ?_
      split
      · rintro ⟨⟩
      · split <;> rintro ⟨⟩
  | slice place start dropped induction =>
      refine bind_ne_error induction fun value => ?_
      split <;> rintro ⟨⟩
  | element name =>
      rw [value]
      split <;> rintro ⟨⟩

theorem Term.constant_ne_noSuchSlot (term : Term) : term.constant ≠ .error .noSuchSlot := by
  cases term with
  | atom value =>
      rw [constant]
      split <;> rintro ⟨⟩
  | node key tag loc children => rintro ⟨⟩

theorem seriesItems_ne_noSuchSlot (value : Value) : seriesItems value ≠ .error .noSuchSlot := by
  cases value <;> rintro ⟨⟩

end Faults

namespace Action

def HasRoom (count : Nat) (action : Action) : Prop :=
  ∀ state : RunState, state.slots.length = count →
    (action state).1 ≠ .error .noSuchSlot ∧ (action state).2.slots.length = count

namespace HasRoom

variable {count : Nat} {first second : Action}

theorem answer {result : Except RunFault Bool} (hresult : result ≠ .error .noSuchSlot) :
    HasRoom count (Action.answer result) :=
  fun _ hlength => ⟨hresult, hlength⟩

theorem both (hfirst : HasRoom count first) (hsecond : HasRoom count second) :
    HasRoom count (first.both second) := by
  intro state hlength
  have hroom := hfirst state hlength
  unfold Action.both
  generalize first state = result at hroom
  rcases result with ⟨_ | _ | _, after⟩
  · exact hroom
  · exact hroom
  · exact hsecond after hroom.2

theorem either (hfirst : HasRoom count first) (hsecond : HasRoom count second) :
    HasRoom count (first.either second) := by
  intro state hlength
  have hroom := hfirst state hlength
  unfold Action.either
  generalize first state = result at hroom
  rcases result with ⟨_ | _ | _, after⟩
  · exact hroom
  · exact hsecond after hroom.2
  · exact hroom

theorem invert (hfirst : HasRoom count first) : HasRoom count first.invert := by
  intro state hlength
  have hroom := hfirst state hlength
  unfold Action.invert
  generalize first state = result at hroom
  rcases result with ⟨_ | _, after⟩
  · exact hroom
  · exact ⟨nofun, hroom.2⟩

theorem everyItem {check : Value → Action} (each : ∀ value, HasRoom count (check value))
    (values : List Value) : HasRoom count (Test.everyItem check values) := by
  induction values with
  | nil => exact answer nofun
  | cons value rest induction => exact (each value).both induction

theorem mark (env : Environment) (id : Nat) (place : Place) (success : Bool) :
    HasRoom count (Test.mark env id place success) := by
  intro state hlength
  have hplace := place.value_ne_noSuchSlot env
  unfold Test.mark
  cases hvalue : place.value env with
  | ok subject => exact ⟨nofun, hlength⟩
  | error fault =>
      rw [hvalue] at hplace
      exact ⟨fun hfault => hplace (congrArg _ (Except.error.inj hfault)), hlength⟩

theorem record (env : Environment) {slot : Nat} (hslot : slot < count) (place : Place) :
    HasRoom count (Test.record env slot place) := by
  intro state hlength
  have hplace := place.value_ne_noSuchSlot env
  unfold Test.record
  cases hvalue : place.value env with
  | ok subject =>
      dsimp only
      rw [if_pos (hlength ▸ hslot)]
      exact ⟨nofun, by rw [List.length_set, hlength]⟩
  | error fault =>
      rw [hvalue] at hplace
      exact ⟨fun hfault => hplace (congrArg _ (Except.error.inj hfault)), hlength⟩

end HasRoom

end Action

namespace Test

mutual

def writes : Test → List Nat
  | allOf tests => writesAll tests
  | anyOf tests => writesAll tests
  | not test => writes test
  | capture slot _ => [slot]
  | every _ _ body => writes body
  | _ => []
termination_by structural test => test

def writesAll : List Test → List Nat
  | [] => []
  | test :: rest => writes test ++ writesAll rest
termination_by structural tests => tests

end

theorem look_ne_noSuchSlot (env : Environment) (test : Test) :
    look env test ≠ .error .noSuchSlot := by
  have hplace := fun place : Place => place.value_ne_noSuchSlot env
  cases test with
  | isNode place | isKind place kind => exact bind_ne_error (hplace place) nofun
  | hasType place type =>
      refine bind_ne_error (hplace place) fun value => ?_
      split
      · rintro ⟨⟩
      · exact bind_ne_error type.constant_ne_noSuchSlot nofun
  | hasCount place count =>
      refine bind_ne_error (hplace place) fun value => ?_
      split <;> rintro ⟨⟩
  | equals place expected | equalsSymbol place expected =>
      exact bind_ne_error (hplace place) fun _ =>
        bind_ne_error expected.constant_ne_noSuchSlot nofun
  | accepts place parameter =>
      refine bind_ne_error (hplace place) fun value => ?_
      split <;> rintro ⟨⟩
  | _ => nofun

theorem hasRoom_run {count : Nat} {test : Test} (hwrites : ∀ slot ∈ test.writes, slot < count)
    (env : Environment) : Action.HasRoom count (run test env) := by
  induction test using induct generalizing env with
  | allOf tests each =>
      have hall : Action.HasRoom count (runAll tests env) := by
        induction tests with
        | nil => exact .answer nofun
        | cons test rest induction =>
            obtain ⟨first, later⟩ := List.forall_mem_cons.mp each
            obtain ⟨hfirst, hlater⟩ := List.forall_mem_append.mp hwrites
            exact (first hfirst env).both (induction later hlater)
      cases tests with
      | nil => exact .answer nofun
      | cons test rest => exact hall
  | anyOf tests each =>
      change Action.HasRoom count (runAny tests env)
      induction tests with
      | nil => exact .answer nofun
      | cons test rest induction =>
          obtain ⟨first, later⟩ := List.forall_mem_cons.mp each
          obtain ⟨hfirst, hlater⟩ := List.forall_mem_append.mp hwrites
          exact (first hfirst env).either (induction later hlater)
  | not test induction => exact (induction hwrites env).invert
  | capture slot place => exact .record env (hwrites slot (.head _)) place
  | enter id place => exact .mark env id place false
  | succeed id place => exact .mark env id place true
  -- Every element runs the same body, which writes the same slots.
  | every name items body induction =>
      intro state hlength
      have hitems : (items.value env >>= seriesItems) ≠ .error .noSuchSlot :=
        bind_ne_error (items.value_ne_noSuchSlot env) seriesItems_ne_noSuchSlot
      rw [run]
      cases hvalues : items.value env >>= seriesItems with
      | ok values =>
          have each := fun value => induction hwrites (env.withElement name value)
          exact Action.HasRoom.everyItem each values state hlength
      | error fault =>
          rw [hvalues] at hitems
          exact ⟨fun hfault => hitems (congrArg _ (Except.error.inj hfault)), hlength⟩
  | _ => exact .answer (look_ne_noSuchSlot env _)

end Test

namespace Matcher

def HasRoom (matcher : Matcher) : Prop :=
  ∀ slot ∈ matcher.test.writes, slot < matcher.slots

variable {matcher : Matcher}

theorem HasRoom.execute (room : matcher.HasRoom) (document : Document) (subject : Value)
    (arguments : List (String × Argument)) :
    (matcher.execute document subject arguments).returned ≠ .error (.run .noSuchSlot) := by
  have hroom := (Test.hasRoom_run room ⟨document, subject, arguments, []⟩
    ⟨List.replicate matcher.slots .absent, []⟩ List.length_replicate).1
  unfold Matcher.execute
  dsimp only
  generalize matcher.test.run _ _ = result at hroom
  rcases result with ⟨fault | _ | _, after⟩
  · intro hreturned
    cases hreturned
    exact hroom rfl
  · rintro ⟨⟩
  · rintro ⟨⟩

theorem HasRoom.call (room : matcher.HasRoom) (document : Document) (subject : Value)
    (arguments : Arguments) :
    (matcher.call document subject arguments).returned ≠ .error (.run .noSuchSlot) := by
  rw [call_eq]
  cases hrefusal : matcher.refusal? arguments with
  | some failure =>
      intro hreturned
      cases hreturned
      exact refusal?_ne_run matcher arguments .noSuchSlot hrefusal
  | none => exact room.execute document subject _

theorem HasRoom.serve (room : matcher.HasRoom) (document : Document) (subject : Value)
    (arguments : Arguments) :
    (matcher.serve document subject arguments).returned ≠ .error (.run .noSuchSlot) := by
  have hrespond : (matcher.respond document subject (matcher.settled arguments)).returned ≠
      .error (.run .noSuchSlot) := by
    rcases respond_cases matcher document subject (matcher.settled arguments) with
      hsame | ⟨-, hfault⟩
    · rw [hsame]
      exact room.call document subject _
    · rw [hfault]
      rintro ⟨⟩
  unfold Matcher.serve
  dsimp only
  split
  · exact hrespond
  · rintro ⟨⟩

end Matcher

end TreeMatch
