import TreeMatch.Proofs.Context

/-! The nodes that a compilation visits, each with the session in which it is given to a compiler
and with what comes of it. -/

namespace TreeMatch

structure Visit (ι : Type) where
  compiler : ι
  place : Place
  node : Term
  start : Session
  outcome : Except CompileFault Test
  last : Session

namespace Conduct

inductive Visits (compilers : ι → Dispatcher ι) :
    {α : Type} → Conduct ι α → Session → List (Visit ι) → Prop
  | done {α : Type} (value : α) (session : Session) : Visits compilers (done value) session []
  | fail {α : Type} (fault : CompileFault) (session : Session) :
    Visits compilers (α := α) (fail fault) session []
  | act {α : Type} {change : Session → Session} {next : Session → Conduct ι α}
      {session : Session} {visits : List (Visit ι)}
      (rest : Visits compilers (next session) (session.keepStack (change session)) visits) :
    Visits compilers (act change next) session visits
  | refused {α : Type} {compiler : ι} {place : Place} {term : Term}
      {next : Except CompileFault Test → Conduct ι α} {session : Session} {fault : CompileFault}
      {visits : List (Visit ι)}
      (refuses : dispatch (compilers compiler) place term = .error fault)
      (rest : Visits compilers (next (.error fault)) session visits) :
    Visits compilers (nested compiler place term next) session visits
  | handled {α : Type} {compiler : ι} {place : Place} {term : Term}
      {next : Except CompileFault Test → Conduct ι α} {session middle : Session}
      {conduct : Conduct ι Test} {inner : Except CompileFault Test} {visits later : List (Visit ι)}
      (dispatches : dispatch (compilers compiler) place term = .ok conduct)
      (handles : Runs compilers conduct (session.enter term) inner middle)
      (within : Visits compilers conduct (session.enter term) visits)
      (rest : Visits compilers (next inner) middle.leave later) :
    Visits compilers (nested compiler place term next) session
      (⟨compiler, place, term, session, inner, middle.leave⟩ :: visits ++ later)

namespace Visits

variable {compilers : ι → Dispatcher ι} {conduct : Conduct ι α} {session middle : Session}
  {visits later : List (Visit ι)}

theorem unique (made : Visits compilers conduct session visits)
    (again : Visits compilers conduct session later) : later = visits := by
  induction made generalizing later with
  | done value session => cases again with | done => rfl
  | fail fault session => cases again with | fail => rfl
  | act rest after => cases again with | act again => exact after again
  | refused refuses rest after =>
      cases again with
      | refused refuses' again =>
          cases refuses.symm.trans refuses'
          exact after again
      | handled dispatches' => cases refuses.symm.trans dispatches'
  | handled dispatches handles within rest inside after =>
      cases again with
      | refused refuses' => cases dispatches.symm.trans refuses'
      | handled dispatches' handles' within' again =>
          cases dispatches.symm.trans dispatches'
          obtain ⟨rfl, rfl⟩ := handles.unique handles'
          rw [inside within', after again]

theorem bind_ok {rest : α → Conduct ι β} {value : α}
    (made : Visits compilers conduct session visits)
    (runs : Runs compilers conduct session (.ok value) middle)
    (goes_on : Visits compilers (rest value) middle later) :
    Visits compilers (conduct >>= rest) session (visits ++ later) := by
  induction made with
  | done other session => cases runs with | done => exact goes_on
  | fail fault session => cases runs
  | act _ after => cases runs with | act runs => exact .act (after runs goes_on)
  | refused refuses _ after =>
      cases runs with
      | refused refuses' runs =>
          cases refuses.symm.trans refuses'
          exact .refused refuses (after runs goes_on)
      | handled dispatches' => cases refuses.symm.trans dispatches'
  | handled dispatches handles within _ _ after =>
      cases runs with
      | refused refuses' => cases dispatches.symm.trans refuses'
      | handled dispatches' handles' runs =>
          cases dispatches.symm.trans dispatches'
          obtain ⟨rfl, rfl⟩ := handles.unique handles'
          rw [List.append_assoc]
          exact .handled dispatches handles within (after runs goes_on)

theorem bind_quiet {rest : α → Conduct ι β} (made : Visits compilers conduct session visits)
    (quiet : ∀ value last, Visits compilers (rest value) last []) :
    Visits compilers (conduct >>= rest) session visits := by
  induction made with
  | done value session => exact quiet value session
  | fail fault session => exact .fail fault session
  | act _ after => exact .act (after quiet)
  | refused refuses _ after => exact .refused refuses (after quiet)
  | handled dispatches handles within _ _ after =>
      exact .handled dispatches handles within (after quiet)

end Visits

section Steps

variable {compilers : ι → Dispatcher ι} {session middle last : Session} {visits : List (Visit ι)}

theorem visits_ofExcept (result : Except CompileFault α) (session : Session) :
    Visits compilers (ofExcept result) session [] := by
  cases result with
  | ok value => exact .done value session
  | error fault => exact .fail fault session

theorem visits_pure (value : α) (session : Session) :
    Visits compilers (pure value : Conduct ι α) session [] :=
  .done value session

theorem visits_lift (step : Compile α) (session : Session) :
    Visits compilers (lift step) session [] :=
  .act (visits_ofExcept _ _)

theorem visits_lift_bind {step : Compile α} {rest : α → Conduct ι β} {value : α}
    (hstep : step session = (.ok value, middle)) (hstack : middle.stack = session.stack)
    (goes_on : Visits compilers (rest value) middle visits) :
    Visits compilers (lift step >>= rest) session visits := by
  refine .act ?_
  change Visits compilers ((ofExcept (step session).1).bind rest)
    (session.keepStack (step session).2) visits
  rw [hstep, Session.keepStack_of_stack_eq hstack]
  exact goes_on

theorem visits_get_bind {rest : Session → Conduct ι β}
    (goes_on : Visits compilers (rest session) session visits) :
    Visits compilers (lift get >>= rest) session visits :=
  have hget : (get : Compile Session) session = (.ok session, session) := rfl
  visits_lift_bind hget rfl goes_on

/-- A node that is handled is visited before what its handler has compiled. -/
theorem visits_call {compiler : ι} {place : Place} {term : Term} {conduct : Conduct ι Test}
    {outcome : Except CompileFault Test}
    (dispatches : dispatch (compilers compiler) place term = .ok conduct)
    (runs : Runs compilers (call compiler place term) session outcome last)
    (within : Visits compilers conduct (session.enter term) visits) :
    Visits compilers (call compiler place term) session
      (⟨compiler, place, term, session, outcome, last⟩ :: visits) := by
  cases runs with
  | refused refuses => cases dispatches.symm.trans refuses
  | @handled _ _ _ _ _ _ middle _ _ inner _ dispatches' handles rest =>
      cases dispatches.symm.trans dispatches'
      obtain ⟨rfl, rfl⟩ := (realizes_ofExcept inner middle.leave).unique rest
      rw [← List.append_nil (_ :: visits)]
      exact .handled dispatches handles within (visits_ofExcept _ _)

theorem Visits.eq_cons_of_call {compiler : ι} {place : Place} {term : Term} {test : Test}
    (made : Visits compilers (call compiler place term) session visits)
    (runs : Runs compilers (call compiler place term) session (.ok test) last) :
    ∃ later, visits = ⟨compiler, place, term, session, .ok test, last⟩ :: later := by
  cases made with
  | refused refuses =>
      cases runs with
      | refused refuses' rest => cases rest
      | handled dispatches => cases dispatches.symm.trans refuses
  | @handled _ _ _ _ _ _ middle _ inner early later dispatches handles =>
      cases runs with
      | refused refuses => cases dispatches.symm.trans refuses
      | handled dispatches' handles' rest =>
          cases dispatches.symm.trans dispatches'
          obtain ⟨rfl, rfl⟩ := handles.unique handles'
          obtain ⟨houtcome, hlast⟩ := (realizes_ofExcept _ _).unique rest
          exact ⟨early ++ later, by rw [houtcome, hlast]; rfl⟩

theorem visits_instrumented {term : Term} {place : Place} {conduct : Conduct ι Test} {key : Nat}
    (hkey : term.key? = some key) (ready : session.Numbered key)
    (within : Visits compilers conduct (session.gain (.ofNode key term place)) visits) :
    Visits compilers (instrumented term place conduct) session visits := by
  refine visits_get_bind ?_
  cases hrecording : session.recording with
  | false =>
      rw [Compile.gain_ofNode_of_not_recording hrecording] at within
      exact within
  | true =>
      have henroll := Compile.enroll_eq_gain session place hkey hrecording ready
      exact visits_lift_bind henroll rfl (within.bind_quiet fun _ _ => visits_pure _ _)

end Steps

end Conduct

end TreeMatch
