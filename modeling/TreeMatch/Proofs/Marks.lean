import TreeMatch.Proofs.Replies

/-! The marks of a test: all that its run logs, at the sites of a pattern's parts. -/

namespace TreeMatch

namespace Test

mutual

/-- The marks in a test, with the numbers that they leave and the places of their subjects. -/
def marks : Test → List (Nat × Place)
  | allOf tests => marksAmong tests
  | anyOf tests => marksAmong tests
  | not test => marks test
  | enter id place => [(id, place)]
  | succeed id place => [(id, place)]
  | every _ _ body => marks body
  | _ => []
termination_by structural test => test

def marksAmong : List Test → List (Nat × Place)
  | [] => []
  | test :: rest => marks test ++ marksAmong rest
termination_by structural tests => tests

end

end Test

/-- The events that an action adds to the log come from marks, whose places hold their subjects
once the right elements are reached. -/
def Action.LogsAt (action : Action) (env : Environment) (marks : List (Nat × Place)) : Prop :=
  ∀ state, ∃ events, (action state).2.log = state.log ++ events ∧
    ∀ event ∈ events, ∃ place elements, (event.id, place) ∈ marks ∧
      place.value { env with elements } = .ok event.subject

namespace Action.LogsAt

variable {env : Environment} {first second : Action} {front back : List (Nat × Place)}

theorem silent {action : Action} (hsilent : ∀ state, (action state).2.log = state.log) :
    action.LogsAt env [] :=
  fun state => ⟨[], by rw [hsilent, List.append_nil], List.forall_mem_nil _⟩

theorem mono (hfirst : first.LogsAt env front) (hmarks : ∀ mark ∈ front, mark ∈ back) :
    first.LogsAt env back := by
  intro state
  obtain ⟨events, hlog, hevents⟩ := hfirst state
  refine ⟨events, hlog, fun event member => ?_⟩
  obtain ⟨place, elements, hmark, hvalue⟩ := hevents event member
  exact ⟨place, elements, hmarks _ hmark, hvalue⟩

theorem chain {action : Action} (hfirst : first.LogsAt env front)
    (hsecond : second.LogsAt env back)
    (hchain : ∀ state, action state = first state ∨ (action state).2 = (second (first state).2).2) :
    action.LogsAt env (front ++ back) := by
  intro state
  rcases hchain state with hsame | hboth
  · rw [hsame]
    exact hfirst.mono (fun mark member => List.mem_append_left _ member) state
  · obtain ⟨early, hearly, hfront⟩ := hfirst state
    obtain ⟨late, hlate, hback⟩ := hsecond (first state).2
    refine ⟨early ++ late, by rw [hboth, hlate, hearly, List.append_assoc], fun event member => ?_⟩
    rcases List.mem_append.mp member with inEarly | inLate
    · obtain ⟨place, elements, hmark, hvalue⟩ := hfront event inEarly
      exact ⟨place, elements, List.mem_append_left _ hmark, hvalue⟩
    · obtain ⟨place, elements, hmark, hvalue⟩ := hback event inLate
      exact ⟨place, elements, List.mem_append_right _ hmark, hvalue⟩

theorem both (hfirst : first.LogsAt env front) (hsecond : second.LogsAt env back) :
    (Action.both first second).LogsAt env (front ++ back) := by
  refine hfirst.chain hsecond fun state => ?_
  unfold Action.both
  split
  · rename_i middle hmiddle
    rw [hmiddle]
    exact .inr rfl
  · exact .inl rfl

theorem either (hfirst : first.LogsAt env front) (hsecond : second.LogsAt env back) :
    (Action.either first second).LogsAt env (front ++ back) := by
  refine hfirst.chain hsecond fun state => ?_
  unfold Action.either
  split
  · rename_i middle hmiddle
    rw [hmiddle]
    exact .inr rfl
  · exact .inl rfl

theorem invert (hfirst : first.LogsAt env front) : (Action.invert first).LogsAt env front := by
  intro state
  have hsame : (Action.invert first state).2 = (first state).2 := by
    unfold Action.invert
    split
    · rename_i hfound
      rw [hfound]
    · rfl
  rw [hsame]
  exact hfirst state

theorem everyItem {check : Value → Action} (hcheck : ∀ value, (check value).LogsAt env front)
    (values : List Value) : Action.LogsAt (Test.everyItem check values) env front := by
  induction values with
  | nil => exact (silent fun _ => rfl).mono (List.forall_mem_nil _)
  | cons value rest induction =>
      change (Action.both (check value) (Test.everyItem check rest)).LogsAt env front
      refine ((hcheck value).both induction).mono fun mark member => ?_
      exact (List.mem_append.mp member).elim id id

theorem mark (id : Nat) (place : Place) (success : Bool) :
    Action.LogsAt (Test.mark env id place success) env [(id, place)] := by
  intro state
  unfold Test.mark
  cases hvalue : place.value env with
  | error fault => exact ⟨[], (List.append_nil _).symm, List.forall_mem_nil _⟩
  | ok subject =>
      refine ⟨_, rfl, fun event member => ?_⟩
      cases List.mem_singleton.mp member
      exact ⟨place, env.elements, List.mem_singleton_self _, hvalue⟩

end Action.LogsAt

namespace Test

variable (replies : Replies)

theorem logsAt_all {tests : List Test} {env : Environment}
    (each : ∀ test ∈ tests, (runUnder replies test env).LogsAt env test.marks) :
    (runAllUnder replies tests env).LogsAt env (marksAmong tests) := by
  induction tests with
  | nil => exact .silent fun _ => rfl
  | cons test rest induction =>
      exact (each test (by simp)).both (induction fun other member => each other (by simp [member]))

theorem logsAt_any {tests : List Test} {env : Environment}
    (each : ∀ test ∈ tests, (runUnder replies test env).LogsAt env test.marks) :
    (runAnyUnder replies tests env).LogsAt env (marksAmong tests) := by
  induction tests with
  | nil => exact .silent fun _ => rfl
  | cons test rest induction =>
      exact (each test (by simp)).either
        (induction fun other member => each other (by simp [member]))

theorem logsAt_runUnder (test : Test) (env : Environment) :
    (runUnder replies test env).LogsAt env test.marks := by
  induction test using induct generalizing env with
  | allOf tests each =>
      rw [runUnder, marks]
      split
      · exact (Action.LogsAt.silent fun _ => rfl).mono (List.forall_mem_nil _)
      · exact logsAt_all replies fun test member => each test member env
  | anyOf tests each => exact logsAt_any replies fun test member => each test member env
  | not test induction => exact (induction env).invert
  | capture slot place =>
      refine .silent fun state => ?_
      change (record env slot place state).2.log = state.log
      unfold record
      split
      · split <;> rfl
      · rfl
  | enter id place => exact .mark id place false
  | succeed id place => exact .mark id place true
  | every name items body induction =>
      rw [runUnder]
      split
      · exact .everyItem (fun value => induction (env.withElement name value)) _
      · exact (Action.LogsAt.silent fun _ => rfl).mono (List.forall_mem_nil _)
  | _ => exact .silent fun _ => rfl

end Test

/-! The marks of a pattern's test stand at the sites of its parts. -/

namespace Test

theorem mem_marks_framed {recording : Bool} {key : Nat} {place : Place} {test : Test}
    {mark : Nat × Place} (member : mark ∈ (Pattern.framed recording key place test).marks) :
    mark = (key, place) ∨ mark ∈ test.marks := by
  cases recording with
  | false => exact .inr member
  | true =>
      have hframe : mark ∈ (key, place) :: (test.marks ++ [(key, place)]) := by
        simpa [Pattern.framed, Compile.traced, marks, marksAmong] using member
      simp only [List.mem_cons, List.mem_append, List.not_mem_nil, or_false] at hframe
      rcases hframe with hsame | hinner | hsame
      · exact .inl hsame
      · exact .inr hinner
      · exact .inl hsame

theorem marks_leaf (value : Leaf) (place : Place) : (value.test place).marks = [] := by
  cases value with
  | predicate name =>
      change ((Leaf.predicateTest? place name).getD .never).marks = []
      unfold Leaf.predicateTest?
      split <;> rfl
  | _ => rfl

end Test

namespace Pattern

def MarksItsSites (recording : Bool) (pattern : Pattern Leaf) : Prop :=
  ∀ place tally, ∀ mark ∈ (pattern.test recording place tally).marks,
    mark ∈ pattern.sites place tally

section Lists

variable {recording : Bool} {patterns : List (Pattern Leaf)} {mark : Nat × Place}
  (each : ∀ pattern ∈ patterns, MarksItsSites recording pattern)
include each

theorem mem_memberSites_of_member {place : Place} {tally : Tally}
    (member : mark ∈ Test.marksAmong (memberTests recording place tally patterns)) :
    mark ∈ memberSites place tally patterns := by
  induction patterns generalizing tally with
  | nil => exact member
  | cons pattern rest induction =>
      rcases List.mem_append.mp member with hfirst | hrest
      · exact List.mem_append_left _ (each pattern (by simp) place tally mark hfirst)
      · exact List.mem_append_right _
          (induction (fun other member => each other (by simp [member])) hrest)

/-- The branches of a union share their slots, which their sites do not show. -/
theorem mem_memberSites_of_branch {place : Place} {tally other : Tally}
    (hloop : tally.loop = other.loop) (hkey : tally.key = other.key)
    (member : mark ∈ Test.marksAmong (branchTests recording place tally patterns)) :
    mark ∈ memberSites place other patterns := by
  induction patterns generalizing tally other with
  | nil => exact member
  | cons pattern rest induction =>
      rcases List.mem_append.mp member with hfirst | hrest
      · rw [memberSites, ← sites_congr pattern place tally other hloop hkey]
        exact List.mem_append_left _ (each pattern (by simp) place tally mark hfirst)
      · refine List.mem_append_right _
          (induction (fun other member => each other (by simp [member])) ?_ ?_ hrest)
        · exact congrArg (· + pattern.loops) hloop
        · exact congrArg (· + pattern.size) hkey

theorem mem_termSites_of_term {places : List Place} {tally : Tally}
    (member : mark ∈ Test.marksAmong (termTests recording places tally patterns)) :
    mark ∈ termSites places tally patterns := by
  induction patterns generalizing places tally with
  | nil => exact member
  | cons pattern rest induction =>
      rcases List.mem_append.mp member with hfirst | hrest
      · exact List.mem_append_left _ (each pattern (by simp) _ tally mark hfirst)
      · exact List.mem_append_right _
          (induction (fun other member => each other (by simp [member])) hrest)

end Lists

theorem marksItsSites (recording : Bool) (pattern : Pattern Leaf) :
    MarksItsSites recording pattern := by
  induction pattern using induct with
  | leaf loc value =>
      intro place tally mark member
      rcases Test.mem_marks_framed member with rfl | hinner
      · exact List.mem_singleton_self _
      · rw [Test.marks_leaf] at hinner
        cases hinner
  | marked loc mark inner induction =>
      intro place tally found member
      cases mark with
      | capture =>
          rcases Test.mem_marks_framed member with rfl | hinner
          · exact List.mem_cons_self
          · apply List.mem_cons_of_mem
            apply induction place tally.captured
            simpa [Test.marks, Test.marksAmong] using hinner
      | negation =>
          rcases Test.mem_marks_framed member with rfl | hinner
          · exact List.mem_cons_self
          · exact List.mem_cons_of_mem _ (induction place tally.inner found hinner)
      | ascend =>
          rcases Test.mem_marks_framed member with rfl | hinner
          · exact List.mem_cons_self
          · apply List.mem_cons_of_mem
            apply induction place.parent tally.inner
            simpa [Test.marks, Test.marksAmong] using hinner
  | repeated loc inner quantity induction =>
      intro place tally mark member
      rcases Test.mem_marks_framed member with rfl | hinner
      · exact List.mem_cons_self
      · exact List.mem_cons_of_mem _
          (induction (.element tally.elementName) tally.repeated mark hinner)
  | grouped loc bracket first others firstHolds othersHold =>
      intro place tally mark member
      cases bracket with
      | sequence =>
          rcases Test.mem_marks_framed member with rfl | hinner
          · exact List.mem_cons_self
          · apply List.mem_cons_of_mem
            simp only [Test.marks, Test.marksAmong, List.nil_append, List.mem_append] at hinner
            refine List.mem_append.mpr (hinner.imp ?_ ?_)
            · exact firstHolds place tally.inner mark
            · exact mem_termSites_of_term othersHold
      | union =>
          rcases Test.mem_marks_framed member with rfl | hinner
          · exact List.mem_cons_self
          · apply List.mem_cons_of_mem
            refine List.mem_append.mpr ((List.mem_append.mp hinner).imp ?_ ?_)
            · exact firstHolds place tally.inner mark
            · exact mem_memberSites_of_branch othersHold rfl rfl
      | intersection =>
          rcases Test.mem_marks_framed member with rfl | hinner
          · exact List.mem_cons_self
          · apply List.mem_cons_of_mem
            refine List.mem_append.mpr ((List.mem_append.mp hinner).imp ?_ ?_)
            · exact firstHolds place tally.inner mark
            · exact mem_memberSites_of_member othersHold

end Pattern

end TreeMatch
