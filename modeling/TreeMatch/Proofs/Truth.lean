import TreeMatch.Painting
import TreeMatch.Proofs.Calling
import TreeMatch.Proofs.Evidence

/-! The statuses of a painting are true of the pattern. -/

namespace TreeMatch

variable {chart : Text.CodeChart}

namespace Matcher

theorem ids_ofPattern (text : String) (pattern : Pattern Leaf) (name : String) :
    (ofPattern text pattern true name).ids.nodes = Pattern.partTerms 0 pattern.walk := by
  change [] ++ (pattern.termFrom 0).walk = _
  rw [List.nil_append, Pattern.walk_termFrom]

theorem accepts_of_returned {matcher : Matcher} {document : Document} {subject returned : Value}
    {arguments : Arguments}
    (hreturned : (matcher.call document subject arguments).returned = .ok returned) :
    matcher.Accepts arguments := by
  unfold call at hreturned
  cases hfree : arguments.keywords.any fun keyword => callNames.contains keyword.1 with
  | true =>
      rw [hfree, if_pos rfl] at hreturned
      cases hreturned
  | false =>
      rw [hfree, if_neg Bool.false_ne_true] at hreturned
      cases hfits : matcher.checkArguments arguments with
      | error fault =>
          rw [hfits] at hreturned
          cases hreturned
      | ok _ => exact ⟨hfree, hfits⟩

theorem traced_of_returned {matcher : Matcher} {document : Document} {subject returned : Value}
    {arguments : Arguments}
    (hreturned : (matcher.call document subject arguments).returned = .ok returned)
    (hrecording : matcher.recording = true) :
    arguments.keywords.lookup traceName = some .recorder := by
  have accepts := accepts_of_returned hreturned
  have hgiven := (checkArguments_eq_ok.mp accepts.fits).2.1
  rw [missingKeywordsOf, List.append_eq_nil_iff, instrumented, if_pos hrecording] at hgiven
  have hset := List.filter_eq_nil_iff.mp hgiven.2 traceName (List.mem_singleton_self _)
  unfold call at hreturned
  rw [accepts.free, accepts.fits, if_neg Bool.false_ne_true, hrecording] at hreturned
  cases hlookup : arguments.keywords.lookup traceName with
  | none =>
      rw [hlookup] at hset
      exact absurd rfl hset
  | some keyword =>
      cases keyword with
      | recorder => rfl
      | argument argument =>
          rw [hlookup] at hreturned
          cases hreturned

/-- A matcher returns if its test has an answer, and leaves the log of the test. -/
theorem run_of_returned {matcher : Matcher} {document : Document} {subject returned : Value}
    {arguments : List (String × Argument)}
    (hreturned : (matcher.execute document subject arguments).returned = .ok returned) :
    ∃ answer after,
      matcher.test.run ⟨document, subject, arguments, []⟩
          ⟨List.replicate matcher.slots .absent, []⟩ = (.ok answer, after) ∧
        (matcher.execute document subject arguments).log = after.log := by
  unfold execute at hreturned ⊢
  dsimp only at hreturned ⊢
  generalize matcher.test.run ⟨document, subject, arguments, []⟩
    ⟨List.replicate matcher.slots .absent, []⟩ = result at hreturned ⊢
  obtain ⟨outcome, after⟩ := result
  cases outcome with
  | error fault => cases hreturned
  | ok answer => cases answer <;> exact ⟨_, after, rfl, rfl⟩

end Matcher

namespace MatchStatus

variable {outcome : Option Bool}

theorem ofOutcome_eq_matched : ofOutcome outcome = .matched ↔ outcome = some true := by
  rcases outcome with _ | _ | _ <;> simp [ofOutcome]

theorem ofOutcome_eq_failed : ofOutcome outcome = .failed ↔ outcome = some false := by
  rcases outcome with _ | _ | _ <;> simp [ofOutcome]

theorem ofOutcome_eq_notVisited : ofOutcome outcome = .notVisited ↔ outcome = none := by
  rcases outcome with _ | _ | _ <;> simp [ofOutcome]

theorem ofOutcome_ne_notVisitable : ofOutcome outcome ≠ .notVisitable := by
  rcases outcome with _ | _ | _ <;> exact MatchStatus.noConfusion

end MatchStatus

namespace Painting

def passed (arguments : Matcher.Arguments) : Matcher.Arguments :=
  { arguments with
    keywords := (Matcher.traceName, .recorder) ::
      arguments.keywords.filter fun keyword => keyword.1 != "syntax" }

def ofCall (matcher : Matcher) (document : Document) (root : Node)
    (result : Matcher.CallResult) : Except Failure Painting :=
  result.returned.map fun returned =>
    ⟨matcher, document, root, Trace.empty.replay result.log, returned⟩

theorem run_eq (matcher : Matcher) (document : Document) (root : Node)
    (arguments : Matcher.Arguments) :
    run matcher document root arguments =
      if arguments.keywords.any fun keyword => runNames.contains keyword.1 then
        .error (.call .givenTwice)
      else ofCall matcher document root (matcher.call document root.toValue (passed arguments)) := by
  unfold run
  cases arguments.keywords.any fun keyword => runNames.contains keyword.1 with
  | true => rfl
  | false =>
      change (do
        let returned ← (matcher.call document root.toValue (passed arguments)).returned
        pure _) = ofCall _ _ _ _
      unfold ofCall
      cases (matcher.call document root.toValue (passed arguments)).returned <;> rfl

theorem run_eq_ok {matcher : Matcher} {document : Document} {root : Node}
    {arguments : Matcher.Arguments} {painting : Painting} :
    run matcher document root arguments = .ok painting ↔
      (arguments.keywords.any fun keyword => runNames.contains keyword.1) = false ∧
        ∃ returned,
          (matcher.call document root.toValue (passed arguments)).returned = .ok returned ∧
          painting = ⟨matcher, document, root,
            Trace.empty.replay (matcher.call document root.toValue (passed arguments)).log,
            returned⟩ := by
  rw [run_eq]
  cases arguments.keywords.any fun keyword => runNames.contains keyword.1 with
  | true => simp
  | false =>
      simp only [Bool.false_eq_true, if_false, true_and, ofCall]
      cases (matcher.call document root.toValue (passed arguments)).returned with
      | error failure => simp [Except.map]
      | ok returned => simp [Except.map, eq_comm]

/-- What a painting shows is true of a pattern, given what the run has logged. A part of the
pattern has the number of its node, and an event is about what was tested on what. -/
structure IsTrueOf (painting : Painting) (pattern : Pattern Leaf) (scene : Scene)
    (log : List Event) : Prop where
  numbered : ∀ id, painting.matcher.ids.nodes[id]? = pattern.walk[id]?.map (Pattern.termFrom id)
  outcome : ∀ id, ∀ node ∈ painting.document.nodes, ∀ success,
    painting.trace.outcome id node.id = some success →
      Tells scene (fun key => pattern.walk[key]?) id node success
  matched : ∀ node ∈ painting.document.nodes, painting.status node = .matched →
    ∃ id, painting.patternId node = some id ∧
      Tells scene (fun key => pattern.walk[key]?) id node true
  failed : ∀ node ∈ painting.document.nodes, painting.status node = .failed →
    ∃ id, painting.patternId node = some id ∧
      Tells scene (fun key => pattern.walk[key]?) id node false
  notVisited : ∀ node ∈ painting.document.nodes, painting.status node = .notVisited →
    ∃ id, painting.patternId node = some id ∧ ∀ event ∈ log, event.concerns id node.id = false
  notVisitable : ∀ node ∈ painting.document.nodes, painting.status node = .notVisitable ↔
    (∀ id, ∀ event ∈ log, event.concerns id node.id = false) ∧
      ∀ position ∈ painting.matcher.positions, ∀ found,
        painting.resolve position.2 = some found → found.id ≠ node.id
  root : painting.status painting.root =
    if (pattern.matching? scene [painting.root.toValue]).isSome then .matched else .failed

section Replayed

variable {painting : Painting} {log : List Event}
  (htrace : painting.trace = Trace.empty.replay log) {id : Nat} {node : Node}
include htrace

theorem outcome_eq_last? : painting.trace.outcome id node.id = Event.last? log id node.id := by
  rw [htrace, Trace.outcome_replay]
  exact Option.or_none

theorem mem_examinedBy_iff :
    id ∈ painting.trace.examinedBy node.id ↔
      ∃ event ∈ log, event.concerns id node.id = true := by
  rw [htrace, Trace.mem_examinedBy_replay]
  exact or_iff_left List.not_mem_nil

omit htrace in
theorem status_eq {status : MatchStatus} (hstatus : painting.status node = status)
    (hvisitable : status ≠ .notVisitable) :
    ∃ id, painting.patternId node = some id ∧
      MatchStatus.ofOutcome (painting.trace.outcome id node.id) = status := by
  unfold Painting.status at hstatus
  cases hid : painting.patternId node with
  | none =>
      rw [hid] at hstatus
      exact absurd hstatus.symm hvisitable
  | some id =>
      rw [hid] at hstatus
      exact ⟨id, rfl, hstatus⟩

theorem status_eq_notVisitable :
    painting.status node = .notVisitable ↔
      (∀ id, ∀ event ∈ log, event.concerns id node.id = false) ∧
        ∀ position ∈ painting.matcher.positions, ∀ found,
          painting.resolve position.2 = some found → found.id ≠ node.id := by
  have hnone : painting.status node = .notVisitable ↔ painting.patternId node = none := by
    unfold Painting.status
    cases painting.patternId node with
    | none => simp
    | some id => simp [MatchStatus.ofOutcome_ne_notVisitable]
  rw [hnone, patternId, List.min?_eq_none_iff, List.append_eq_nil_iff, Option.toList_eq_nil_iff,
    staticId, List.min?_eq_none_iff, List.filterMap_eq_nil_iff]
  refine and_congr ?_ ?_
  · rw [List.eq_nil_iff_forall_not_mem]
    apply forall_congr'
    intro id
    rw [mem_examinedBy_iff htrace]
    simp
  · apply forall₂_congr
    intro position member
    obtain ⟨key, path⟩ := position
    dsimp only
    cases painting.resolve path with
    | none => simp
    | some found => simp

theorem patternId_eq_zero (hentered : ∃ event ∈ log, event.concerns 0 node.id = true) :
    painting.patternId node = some 0 := by
  rw [patternId, List.min?_eq_some_iff]
  exact ⟨List.mem_append_left _ ((mem_examinedBy_iff htrace).mpr hentered),
    fun _ _ => Nat.zero_le _⟩

end Replayed

theorem isTrueOf_of_truthful {painting : Painting} {pattern : Pattern Leaf} {scene : Scene}
    {log : List Event} (htrace : painting.trace = Trace.empty.replay log)
    (hnumbered : painting.matcher.ids.nodes = Pattern.partTerms 0 pattern.walk)
    (hdocument : scene.document = painting.document)
    (hroot : painting.root ∈ painting.document.nodes)
    (hentered : ⟨0, painting.root.toValue, false⟩ ∈ log)
    (truthful : Truthful scene (fun key => pattern.walk[key]?) log) :
    painting.IsTrueOf pattern scene log := by
  have houtcome : ∀ id, ∀ node ∈ painting.document.nodes, ∀ success,
      painting.trace.outcome id node.id = some success →
        Tells scene (fun key => pattern.walk[key]?) id node success := by
    intro id node member success hsuccess
    rw [outcome_eq_last? htrace] at hsuccess
    exact truthful id node (by rw [hdocument]; exact member) success hsuccess
  refine ⟨?_, houtcome, ?_, ?_, ?_, fun node _ => status_eq_notVisitable htrace, ?_⟩
  · intro id
    rw [hnumbered, Pattern.getElem?_partTerms, Nat.zero_add]
  · intro node member hstatus
    obtain ⟨id, hid, hshown⟩ := status_eq hstatus MatchStatus.noConfusion
    exact ⟨id, hid, houtcome id node member true (MatchStatus.ofOutcome_eq_matched.mp hshown)⟩
  · intro node member hstatus
    obtain ⟨id, hid, hshown⟩ := status_eq hstatus MatchStatus.noConfusion
    exact ⟨id, hid, houtcome id node member false (MatchStatus.ofOutcome_eq_failed.mp hshown)⟩
  · intro node member hstatus
    obtain ⟨id, hid, hshown⟩ := status_eq hstatus MatchStatus.noConfusion
    have hlast := MatchStatus.ofOutcome_eq_notVisited.mp hshown
    rw [outcome_eq_last? htrace] at hlast
    refine ⟨id, hid, fun event inLog => ?_⟩
    rw [← Bool.not_eq_true]
    intro hconcerns
    have hsome := Event.last?_isSome.mpr ⟨event, inLog, hconcerns⟩
    rw [hlast] at hsome
    cases hsome
  · -- The root was entered as the whole pattern, which has the least number.
    have hconcerns : ∃ event ∈ log, event.concerns 0 painting.root.id = true :=
      ⟨_, hentered, by simp [Event.concerns]⟩
    have hid := patternId_eq_zero htrace hconcerns
    obtain ⟨success, hlast⟩ := Option.isSome_iff_exists.mp (Event.last?_isSome.mpr hconcerns)
    rw [← outcome_eq_last? htrace] at hlast
    obtain ⟨part, hpart, hmatches⟩ := houtcome 0 painting.root hroot success hlast
    have hwhole : part = pattern := by
      have hfirst : pattern.walk[0]? = some pattern := by cases pattern <;> rfl
      exact Option.some.inj (hpart.symm.trans hfirst)
    rw [hwhole] at hmatches
    rw [status, hid, hmatches]
    dsimp only
    rw [hlast]
    cases success <;> rfl

/-- What the trace of a call shows is true of the pattern, if the call returns. -/
theorem isTrueOf_of_returned {text name : String} {pattern : Pattern Leaf}
    (hnone : pattern.rejection? .outside = none) (hqueries : pattern.EachLeaf Leaf.EndsInQuery)
    {document : Document} (faithful : document.Faithful) {root : Node}
    (hroot : root ∈ document.nodes) {arguments : Matcher.Arguments} {returned : Value}
    (hreturned : ((Matcher.ofPattern text pattern true name).call document root.toValue
      arguments).returned = .ok returned) :
    (Painting.mk (Matcher.ofPattern text pattern true name) document root
      (Trace.empty.replay
        ((Matcher.ofPattern text pattern true name).call document root.toValue arguments).log)
      returned).IsTrueOf pattern (Scene.ofArguments document arguments)
        ((Matcher.ofPattern text pattern true name).call document root.toValue arguments).log := by
  have accepts := Matcher.accepts_of_returned hreturned
  have hcall := Matcher.call_of_accepts accepts
    (fun hrecording => Matcher.traced_of_returned hreturned hrecording) document root.toValue
  rw [hcall] at hreturned ⊢
  obtain ⟨answer, after, htest, hlog⟩ := Matcher.run_of_returned hreturned
  rw [Matcher.test_ofPattern, Matcher.slots_ofPattern,
    Matcher.run_test_ofPattern hnone hqueries accepts] at htest
  have ready := Pattern.ready_at_start hnone root.toValue
  obtain ⟨hreveals, henters⟩ := Pattern.exec_openly (Scene.ofArguments document arguments)
    (fun key => pattern.walk[key]?) faithful pattern .outside .start [root.toValue]
    ⟨List.replicate pattern.slots .absent, []⟩ ready
    (fun value member node hnode => by
      cases List.mem_singleton.mp member
      cases hnode
      exact hroot)
    (fun index part hpart => by
      rw [show Tally.start.key + index = index from Nat.zero_add index]
      exact hpart)
  rw [Pattern.subjectOf_single (ready.fixed Standing.noConfusion)] at hreveals henters
  obtain ⟨-, events, hevents, truthful⟩ := hreveals answer after htest
  refine isTrueOf_of_truthful rfl (Matcher.ids_ofPattern text pattern name) rfl hroot ?_ ?_
  · rw [hlog]
    exact henters answer after htest
  · rw [hlog, hevents]
    exact truthful

end Painting

end TreeMatch
