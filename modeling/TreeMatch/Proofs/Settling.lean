import TreeMatch.Proofs.Gain

/-! The steps of a compilation: what they give, why they are rejected, and what the session
gains. -/

namespace TreeMatch

namespace Compile

/-- A step is rejected as told; if there is nothing to reject it gives the value told and leaves
the session told. -/
def Settles (step : Compile α) (session : Session) (rejection : Option Rejection) (value : α)
    (last : Session) : Prop :=
  last.text = session.text ∧
    match rejection with
    | none => step session = (.ok value, last)
    | some (cause, loc) =>
      ∃ stopped, step session = (.error (.rejected cause (some loc)), stopped) ∧
        stopped.text = session.text

theorem run_bind (step : Compile α) (next : α → Compile β) (session : Session) :
    (step >>= next) session =
      match step session with
      | (.ok value, session) => next value session
      | (.error fault, session) => (.error fault, session) := by
  change (ExceptT.bind step next) session = _
  simp only [ExceptT.bind, ExceptT.mk, bind, StateT.bind]
  cases step session with
  | mk result last => cases result <;> rfl

namespace Settles

theorem pure (value : α) (session : Session) :
    Settles (Pure.pure value) session none value session :=
  ⟨rfl, rfl⟩

theorem reject (cause : CompileCause) (term : Term) (loc : Range) (hloc : term.loc? = some loc)
    (session last : Session) (value : α) (htext : last.text = session.text) :
    Settles (Compile.reject cause term) session (some (cause, loc)) value last := by
  refine ⟨htext, session, ?_, rfl⟩
  rw [← hloc]
  rfl

theorem of_ok {step : Compile α} {next : α → Compile β} {session middle last : Session}
    {value : α} {result : β} {rejection : Option Rejection}
    (hstep : step session = (.ok value, middle)) (htext : middle.text = session.text)
    (hnext : Settles (next value) middle rejection result last) :
    Settles (step >>= next) session rejection result last := by
  obtain ⟨hlast, hrun⟩ := hnext
  refine ⟨hlast.trans htext, ?_⟩
  cases rejection with
  | none => rw [run_bind, hstep]; exact hrun
  | some reason =>
      obtain ⟨stopped, hstopped, hsame⟩ := hrun
      exact ⟨stopped, by rw [run_bind, hstep]; exact hstopped, hsame.trans htext⟩

theorem stop {step : Compile α} {next : α → Compile β} {session middle last : Session}
    {value : α} {result : β} {reason : Rejection}
    (hstep : Settles step session (some reason) value middle) (htext : last.text = session.text) :
    Settles (step >>= next) session (some reason) result last := by
  obtain ⟨-, stopped, hstopped, hsame⟩ := hstep
  refine ⟨htext, stopped, ?_, hsame⟩
  rw [run_bind, hstopped]

theorem bind {step : Compile α} {next : α → Compile β} {session middle last : Session}
    {value : α} {result : β} {first second : Option Rejection}
    (hstep : Settles step session first value middle)
    (hnext : Settles (next value) middle second result last) :
    Settles (step >>= next) session (first.or second) result last := by
  cases first with
  | none => exact of_ok hstep.2 hstep.1 hnext
  | some reason => exact hstep.stop (hnext.1.trans hstep.1)

theorem bind_pure {step : Compile α} {make : α → β} {session last : Session} {value : α}
    {rejection : Option Rejection} (hstep : Settles step session rejection value last) :
    Settles (do let value ← step; return make value) session rejection (make value) last := by
  have hboth : Settles (step >>= fun value => Pure.pure (make value)) session
      (rejection.or none) (make value) last := hstep.bind (Settles.pure (make value) last)
  rwa [Option.or_none] at hboth

end Settles

theorem nextCapture_run (session : Session) :
    nextCapture session = (.ok session.captures, session.gain .ofSlot) := by
  have hgain : session.gain .ofSlot = session.nextCapture.2 := by
    cases session
    simp [Session.nextCapture, Session.gain, Gain.ofSlot, Gain.none, Session.sitePaths]
  rw [hgain]
  rfl

theorem freshName_run (stem : String) (session : Session) :
    freshName stem session =
      (.ok ("_" ++ stem ++ toString (session.fresh + 1)), session.gain .ofLoop) := by
  have hgain : session.gain .ofLoop = (session.freshName stem).2 := by
    cases session
    simp [Session.freshName, Session.gain, Gain.ofLoop, Gain.none, Session.sitePaths]
  rw [hgain]
  rfl

theorem assign_fresh (session : Session) {node : Term} {key : Nat}
    (hkey : node.key? = some key) (hrecording : session.recording = true)
    (hnumbered : session.Numbered key) :
    session.ids.assign node = (key, ⟨session.ids.nodes ++ [node]⟩) := by
  obtain ⟨hlength, hknown, -⟩ := hnumbered hrecording
  have hnew : session.ids.get? node = none := by
    rw [NodeIds.get?, List.findIdx?_eq_none_iff]
    intro other member
    obtain ⟨known, hless, hother⟩ := hknown other member
    rw [hother, hkey]
    simp only [beq_eq_false_iff_ne, ne_eq, Option.some.injEq]
    omega
  simp [NodeIds.assign, hnew, hlength]

theorem setPosition_fresh (session : Session) {key : Nat} (path : List Step)
    (hpositions : ∀ entry ∈ session.positions, entry.1 < key) :
    session.setPosition key path =
      { session with positions := (key, path) :: session.positions } := by
  have hkept : (session.positions.filter fun entry => entry.1 != key) = session.positions := by
    rw [List.filter_eq_self]
    intro entry member
    have hless := hpositions entry member
    simp only [bne_iff_ne, ne_eq]
    omega
  rw [Session.setPosition, hkept]

theorem enroll_eq_gain (session : Session) {node : Term} {key : Nat} (place : Place)
    (hkey : node.key? = some key) (hrecording : session.recording = true)
    (hnumbered : session.Numbered key) :
    enroll node place session = (.ok key, session.gain (.ofNode key node place)) := by
  have hassign := assign_fresh session hkey hrecording hnumbered
  obtain ⟨-, -, hpositions⟩ := hnumbered hrecording
  cases hpath : place.path? with
  | none =>
      have hrun : enroll node place session =
          (.ok (session.ids.assign node).1,
            { session with ids := (session.ids.assign node).2 }) := by
        unfold enroll
        rw [hpath]
        rfl
      rw [hrun, hassign]
      cases session
      simp_all [Session.gain, Gain.ofNode, Gain.none, Session.sitePaths]
  | some path =>
      have hrun : enroll node place session =
          (.ok (session.ids.assign node).1,
            { session with ids := (session.ids.assign node).2 }.setPosition
              (session.ids.assign node).1 path) := by
        unfold enroll
        rw [hpath]
        rfl
      rw [hrun, hassign,
        setPosition_fresh { session with ids := ⟨session.ids.nodes ++ [node]⟩ } path hpositions]
      cases session
      simp_all [Session.gain, Gain.ofNode, Gain.none, Session.sitePaths]

theorem gain_ofNode_of_not_recording {session : Session} (hrecording : session.recording = false)
    (key : Nat) (node : Term) (place : Place) :
    session.gain (.ofNode key node place) = session := by
  cases session
  simp_all [Session.gain, Gain.ofNode, Gain.none]

theorem settles_visiting {node : Term} {step : Compile α} {session : Session}
    {rejection : Option Rejection} {value : α} {gained : Gain}
    (hstep : Settles step (session.enter node) rejection value
      ((session.enter node).gain gained)) :
    Settles (visiting node step) session rejection value (session.gain gained) := by
  obtain ⟨-, hrun⟩ := hstep
  have hvisiting : visiting node step session =
      ((step (session.enter node)).1, (step (session.enter node)).2.leave) := rfl
  refine ⟨rfl, ?_⟩
  cases rejection with
  | none =>
      rw [hvisiting, show step (session.enter node) = _ from hrun]
      rfl
  | some reason =>
      obtain ⟨stopped, hstopped, hsame⟩ := hrun
      refine ⟨stopped.leave, ?_, hsame⟩
      rw [hvisiting, hstopped]

theorem settles_instrumented {node : Term} {key : Nat} {place : Place} {step : Compile Test}
    {session last : Session} {rejection : Option Rejection} {content : Test}
    (hkey : node.key? = some key) (hnumbered : session.Numbered key)
    (hstep : Settles step (session.gain (.ofNode key node place)) rejection content last) :
    Settles (instrumented node place step) session rejection
      (Pattern.framed session.recording key place content) last := by
  have hget : (get : Compile Session) session = (.ok session, session) := rfl
  apply Settles.of_ok hget rfl
  cases hrecording : session.recording with
  | false =>
      rw [gain_ofNode_of_not_recording hrecording] at hstep
      exact hstep
  | true =>
      have henroll := enroll_eq_gain session place hkey hrecording hnumbered
      exact Settles.of_ok henroll rfl hstep.bind_pure

/-- The compilation of a node is that of its content between entering and leaving it, with the
node enrolled and the test framed if the session records. -/
theorem settles_node {node : Term} {key : Nat} {place : Place} {step : Compile Test}
    {session : Session} {rejection : Option Rejection} {content : Test} {gained : Gain}
    (hkey : node.key? = some key) (hnumbered : session.Numbered key)
    (hstep : Settles step ((session.enter node).gain (.ofNode key node place)) rejection content
      (((session.enter node).gain (.ofNode key node place)).gain gained)) :
    Settles (visiting node (instrumented node place step)) session rejection
      (Pattern.framed session.recording key place content)
      (session.gain ((Gain.ofNode key node place).andThen gained)) := by
  rw [Session.gain_gain] at hstep
  exact settles_visiting
    (settles_instrumented hkey hnumbered hstep)

end Compile

end TreeMatch
