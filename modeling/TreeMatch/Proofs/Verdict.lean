import TreeMatch.Command.Run
import TreeMatch.Proofs.Truth

/-! What is returned, and what it tells of the match: an absent value is also what a single capture
may hold. -/

namespace TreeMatch

variable {chart : Text.CodeChart}

namespace Matcher

/-- The slots for captures as the run of the test leaves them. -/
def slotsAfter (matcher : Matcher) (document : Document) (subject : Value)
    (arguments : Arguments) : List Value :=
  (matcher.test.run ⟨document, subject, matcher.bind arguments, []⟩
    ⟨List.replicate matcher.slots .absent, []⟩).2.slots

theorem resultOf_eq_absent {slots : List Value} : resultOf slots = .absent ↔ slots = [.absent] := by
  rcases slots with _ | ⟨first, _ | ⟨second, rest⟩⟩ <;> simp [resultOf]

/-- A call that returns tells what is in the slots if the pattern matches, and nothing else. -/
theorem returned_eq {text name : String} {recording : Bool} {pattern : Pattern Leaf}
    (hnone : pattern.rejection? .outside = none) (hqueries : pattern.EachLeaf Leaf.EndsInQuery)
    {document : Document} {subject returned : Value} {arguments : Arguments}
    (hreturned : ((ofPattern text pattern recording name).call document subject
      arguments).returned = .ok returned) :
    ((ofPattern text pattern recording name).slotsAfter document subject arguments).length =
        pattern.slots ∧
      returned =
        if (pattern.matching? (Scene.ofArguments document arguments) [subject]).isSome then
          resultOf ((ofPattern text pattern recording name).slotsAfter document subject arguments)
        else .absent := by
  have accepts := accepts_of_returned hreturned
  have htraced := traced_of_returned hreturned
  rw [call_of_accepts accepts htraced] at hreturned
  have ready := Pattern.ready_at_start hnone subject
  have hagrees := Pattern.exec_agrees recording pattern .outside .start
    (Scene.ofArguments document arguments) [subject]
    ⟨List.replicate pattern.slots .absent, []⟩ ready
  rw [Pattern.subjectOf_single (ready.fixed Standing.noConfusion),
    ← run_test_ofPattern hnone hqueries accepts document subject] at hagrees
  rw [execute, test_ofPattern, slots_ofPattern] at hreturned
  rw [slotsAfter, test_ofPattern, slots_ofPattern]
  generalize (pattern.test recording .root .start).run _ _ = result at hagrees hreturned ⊢
  cases hagrees with
  | faulted after hlacks => cases hreturned
  | answered after frame hfilled =>
      refine ⟨by rw [frame.length, List.length_replicate], ?_⟩
      cases hmatch : pattern.matching? (Scene.ofArguments document arguments) [subject] with
      | none | some captures =>
          rw [hmatch] at hreturned
          cases hreturned
          rfl

end Matcher

namespace Painting

/-- How what was returned, the painted root and the meaning of the pattern bear on each other, given
the slots that the run has left. -/
structure Shows (painting : Painting) (pattern : Pattern Leaf) (scene : Scene)
    (slots : List Value) : Prop where
  failed : painting.status painting.root = .failed ↔
    pattern.matching? scene [painting.root.toValue] = none
  absent : painting.returned = .absent ↔
    painting.status painting.root = .failed ∨ slots = [.absent]
  unless_single : pattern.slots ≠ 1 →
    (painting.returned = .absent ↔ painting.status painting.root = .failed)

theorem shows_of_run {text name : String} {pattern : Pattern Leaf} {matcher : Matcher}
    (hread : Pattern.read chart text.toList = .ok pattern)
    (hcompile : Matcher.compile chart .node (.text text) true name = .ok matcher)
    {document : Document} (faithful : document.Faithful) {root : Node}
    (hroot : root ∈ document.nodes)
    {arguments : Matcher.Arguments} {painting : Painting}
    (hrun : run matcher document root arguments = .ok painting) :
    painting.Shows pattern (Scene.ofArguments document (passed arguments))
      (matcher.slotsAfter document root.toValue (passed arguments)) := by
  obtain ⟨-, returned, hreturned, rfl⟩ := run_eq_ok.mp hrun
  obtain ⟨hnone, rfl⟩ := Matcher.of_compile_text hread hcompile
  have hqueries := Pattern.endsInQuery_of_read hread
  have hshown := (isTrueOf_of_returned hnone hqueries faithful hroot hreturned).root
  obtain ⟨hlength, hresult⟩ := Matcher.returned_eq hnone hqueries hreturned
  dsimp only at hshown
  constructor <;> dsimp only <;> rw [hshown]
  · cases pattern.matching? (Scene.ofArguments document (passed arguments)) [root.toValue] <;> simp
  · rw [hresult]
    cases pattern.matching? (Scene.ofArguments document (passed arguments)) [root.toValue] <;>
      simp [Matcher.resultOf_eq_absent]
  · intro hslots
    rw [hresult]
    cases pattern.matching? (Scene.ofArguments document (passed arguments)) [root.toValue] with
    | none => simp
    | some captures =>
        simp only [Option.isSome_some, if_true, Matcher.resultOf_eq_absent, reduceCtorEq, iff_false]
        intro habsent
        rw [habsent] at hlength
        exact hslots hlength.symm

theorem accepts_passed_none (text name : String) {pattern : Pattern Leaf}
    (hpositions : pattern.lastPosition = 0) (hnames : pattern.names = []) :
    (Matcher.ofPattern text pattern true name).Accepts (passed .none) := by
  refine ⟨by decide, Matcher.checkArguments_eq_ok.mpr ⟨?_, ?_, ?_⟩⟩
  · rw [Matcher.positional_ofPattern, hpositions]
    rfl
  · rw [Matcher.missingKeywordsOf, Matcher.named_ofPattern, hnames]
    rfl
  · simp [passed, Matcher.Arguments.none, Matcher.keywordParameters, Matcher.instrumented]

end Painting

namespace Command

variable {surroundings : Surroundings} {before after : Transcript}

theorem bind_eq_ok {α β : Type} {step : CommandM α} {next : α → CommandM β} {result : β}
    (hrun : (step >>= next) before = (.ok result, after)) :
    ∃ value middle, step before = (.ok value, middle) ∧
      next value middle = (.ok result, after) := by
  change (ExceptT.bind step next) before = _ at hrun
  simp only [ExceptT.bind, ExceptT.mk, bind, StateT.bind] at hrun
  cases hstep : step before with
  | mk answer middle =>
      rw [hstep] at hrun
      cases answer with
      | error interruption => cases hrun
      | ok value => exact ⟨value, middle, rfl, hrun⟩

theorem require_eq_ok {α : Type} {result : Except Failure α} {value : α}
    (hrun : require result before = (.ok value, after)) : result = .ok value := by
  cases result with
  | error failure => cases hrun
  | ok found =>
      cases hrun
      rfl

theorem readPattern_eq_ok {text : String} {term : Term}
    (hrun : readPattern surroundings text before = (.ok term, after)) :
    (PatternInput.text text).toTerm surroundings.chart = .ok term := by
  obtain ⟨found, middle, hfound, hrest⟩ := bind_eq_ok hrun
  obtain ⟨-, last, -, hlast⟩ := bind_eq_ok hrest
  cases hlast
  exact require_eq_ok hfound

theorem compilePattern_eq_ok {text name : String} {recording : Bool} {matcher : Matcher}
    (hrun : compilePattern surroundings text recording name before = (.ok matcher, after)) :
    Matcher.compile surroundings.chart .node (.text text) recording name = .ok matcher := by
  obtain ⟨-, warned, -, hwarned⟩ := bind_eq_ok hrun
  obtain ⟨term, read, hread, hrest⟩ := bind_eq_ok hwarned
  obtain ⟨made, compiled, hmade, hrest⟩ := bind_eq_ok hrest
  obtain ⟨-, shown, -, hrest⟩ := bind_eq_ok hrest
  obtain ⟨-, listed, -, hloaded⟩ := bind_eq_ok hrest
  rw [Matcher.compile, readPattern_eq_ok hread]
  change Matcher.ofTerm .node text term recording name >>= Matcher.loaded = _
  rw [require_eq_ok hmade]
  exact require_eq_ok hloaded

theorem readTree_eq_ok {form : Form} {text : String} {document : Document}
    (hrun : readTree surroundings form text before = (.ok document, after)) :
    Document.read surroundings.chart surroundings.parser form text = .ok document := by
  obtain ⟨found, read, hfound, hrest⟩ := bind_eq_ok hrun
  cases form with
  | program =>
      obtain ⟨-, told, -, hlast⟩ := bind_eq_ok hrest
      cases hlast
      exact require_eq_ok hfound
  | sexp =>
      cases hrest
      exact require_eq_ok hfound

/-- A test that comes to an end has painted the tree of its source. Its status tells whether
something was returned. -/
theorem runTest_eq_ok {text given : String} {form : Form} {listing : Bool} {status : Nat}
    (hrun : runTest surroundings text (some given) form listing before = (.ok status, after)) :
    ∃ matcher document painting,
      Matcher.compile surroundings.chart .node (.text text) true "matcher" = .ok matcher ∧
      Document.read surroundings.chart surroundings.parser form (sourceText surroundings given) =
        .ok document ∧
      Painting.run matcher document document.root .none = .ok painting ∧
      status = match painting.returned with
        | .absent => 1
        | _ => 0 := by
  obtain ⟨matcher, compiled, hcompiled, hrest⟩ := bind_eq_ok hrun
  obtain ⟨document, parsed, hdocument, hrest⟩ := bind_eq_ok hrest
  obtain ⟨painting, painted, hpainting, hrest⟩ := bind_eq_ok hrest
  obtain ⟨-, told, -, hrest⟩ := bind_eq_ok hrest
  obtain ⟨colored, shown, -, hrest⟩ := bind_eq_ok hrest
  obtain ⟨-, written, -, hrest⟩ := bind_eq_ok hrest
  refine ⟨matcher, document, painting, compilePattern_eq_ok hcompiled, readTree_eq_ok hdocument,
    require_eq_ok hpainting, ?_⟩
  cases listing with
  | false =>
      obtain ⟨-, last, -, hlast⟩ := bind_eq_ok hrest
      cases hlast
      rfl
  | true =>
      dsimp only at hrest
      rw [if_pos rfl] at hrest
      obtain ⟨-, listed, -, hrest⟩ := bind_eq_ok hrest
      obtain ⟨-, last, -, hlast⟩ := bind_eq_ok hrest
      cases hlast
      rfl

end Command

namespace Document

theorem faithful_of_read {parser : Program.Parser} {form : Form} {text : String}
    {document : Document} (hread : read chart parser form text = .ok document) :
    document.Faithful := by
  cases form with
  | sexp =>
      unfold read at hread
      cases hsexp : Sexp.readDocument chart text with
      | error fault =>
          rw [hsexp] at hread
          cases hread
      | ok found =>
          rw [hsexp] at hread
          cases hread
          obtain ⟨sexp, -, hrest⟩ := TreeMatch.bind_ok hsexp
          obtain ⟨value, -, hlast⟩ := TreeMatch.bind_ok hrest
          split at hlast
          · cases hlast
            exact faithful_ofNode _ _
          · cases hlast
  | program =>
      unfold read Program.readDocument at hread
      cases hparsed : parser text with
      | error rejection =>
          rw [hparsed] at hread
          cases hread
      | ok program =>
          rw [hparsed] at hread
          cases hread
          exact faithful_ofNode _ _

end Document

namespace Painting

end Painting

end TreeMatch
