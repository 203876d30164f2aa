import TreeMatch.Proofs.Contract
import TreeMatch.Proofs.Lockstep

/-! Recording changes nothing but the trace: a recording matcher gives what the plain one gives. -/

namespace TreeMatch

variable {chart : Text.CodeChart}

/-- From the same slots two actions give the same answer and the same slots. What they log may
differ. -/
def Mirrors (first second : Action) : Prop :=
  ∀ state other : RunState, state.slots = other.slots →
    (first state).1 = (second other).1 ∧ (first state).2.slots = (second other).2.slots

theorem isCongruence_eq : Value.IsCongruence (· = ·) where
  node := by
    rintro value _ rfl
    cases value.node? with
    | none => exact .none
    | some node => exact .some (List.forall₂_refl node.children)
  list := fun related => congrArg Value.list (List.forall₂_eq_eq_eq ▸ related)

namespace Pattern

theorem exec_mirrors {pattern : Pattern Leaf} (hnone : pattern.rejection? .outside = none)
    (recording other : Bool) (scene : Scene) (subject : Value) :
    Mirrors (pattern.exec recording scene .start subject)
      (pattern.exec other scene .start subject) := by
  have alike : pattern.AlikeIn (· = ·) scene scene := by
    refine ⟨fun loc leaf member value _ hvalue => by rw [hvalue], .inr ?_⟩
    rintro value _ rfl
    cases scene.document.above value with
    | none => exact .none
    | some above => exact .some rfl
  intro state after hslots
  obtain ⟨hanswer, hafter⟩ := (exec_lockstep isCongruence_eq recording other alike).single
    (ready_at_start hnone subject) Standing.noConfusion rfl state after
    (hslots ▸ List.forall₂_refl state.slots)
  exact ⟨hanswer, List.forall₂_eq_eq_eq ▸ hafter⟩

end Pattern

def Scene.ofEnvironment (env : Environment) : Scene where
  document := env.document
  position? index := env.arguments.lookup (Session.positionName index)
  named? name := env.arguments.lookup name

namespace Pattern

theorem serves_ofEnvironment (env : Environment) {pattern : Pattern Leaf}
    (hqueries : pattern.EachLeaf Leaf.EndsInQuery) :
    Serves env (Scene.ofEnvironment env) pattern := by
  refine ⟨rfl, hqueries, ?_⟩
  intro loc leaf member
  cases leaf with
  | position index => rfl
  | named name => rfl
  | _ => trivial

theorem run_mirrors {pattern : Pattern Leaf} (hnone : pattern.rejection? .outside = none)
    (hqueries : pattern.EachLeaf Leaf.EndsInQuery) (recording other : Bool)
    (document : Document) (subject : Value) (arguments : List (String × Argument)) :
    Mirrors ((pattern.test recording .root .start).run ⟨document, subject, arguments, []⟩)
      ((pattern.test other .root .start).run ⟨document, subject, arguments, []⟩) := by
  have hserves := serves_ofEnvironment ⟨document, subject, arguments, []⟩ hqueries
  rw [run_test recording pattern .outside .root .start _ _ subject hnone rfl rfl hserves,
    run_test other pattern .outside .root .start _ _ subject hnone rfl rfl hserves]
  exact exec_mirrors hnone recording other _ subject

end Pattern

namespace Matcher

theorem compile_eq_error {text : String} {fault : PatternFault}
    (hread : Pattern.read chart text.toList = .error fault) (recording : Bool) (name : String) :
    compile chart .node (.text text) recording name =
      .error (Failure.ofPatternFault text.toList fault) := by
  have hterm : (PatternInput.text text).toTerm chart =
      .error (Failure.ofPatternFault text.toList fault) := by
    unfold PatternInput.toTerm
    dsimp only
    rw [hread]
  unfold compile
  rw [hterm]
  rfl

section Recording

variable {text name : String} {pattern : Pattern Leaf}

theorem execute_recording (hnone : pattern.rejection? .outside = none)
    (hqueries : pattern.EachLeaf Leaf.EndsInQuery) (document : Document) (subject : Value)
    (arguments : List (String × Argument)) :
    ((ofPattern text pattern true name).execute document subject arguments).returned =
      ((ofPattern text pattern false name).execute document subject arguments).returned := by
  obtain ⟨hanswer, hslots⟩ := Pattern.run_mirrors hnone hqueries true false document subject
    arguments ⟨List.replicate pattern.slots .absent, []⟩ ⟨List.replicate pattern.slots .absent, []⟩
    rfl
  rw [execute, execute, test_ofPattern, test_ofPattern, slots_ofPattern, slots_ofPattern]
  generalize (pattern.test true .root .start).run ⟨document, subject, arguments, []⟩
    ⟨List.replicate pattern.slots .absent, []⟩ = left at hanswer hslots ⊢
  generalize (pattern.test false .root .start).run ⟨document, subject, arguments, []⟩
    ⟨List.replicate pattern.slots .absent, []⟩ = right at hanswer hslots ⊢
  obtain ⟨result, marked⟩ := left
  obtain ⟨_, plain⟩ := right
  cases hanswer
  cases result with
  | error fault => rfl
  | ok answer =>
      cases answer with
      | false => rfl
      | true => exact congrArg (fun slots => Except.ok (resultOf slots)) hslots

variable {positional : List Argument} {before after : List (String × Keyword)}

theorem isSome_lookup_insert {name other : String} {keyword : Keyword}
    (hsome : ((before ++ after).lookup name).isSome = true) :
    ((before ++ (other, keyword) :: after).lookup name).isSome = true := by
  rw [List.lookup_append] at hsome ⊢
  cases hbefore : before.lookup name with
  | some found => rfl
  | none =>
      rw [hbefore] at hsome
      rw [Option.none_or, List.lookup_cons]
      split
      · rfl
      · exact hsome

theorem lookup_insert_self {name : String} {keyword : Keyword}
    (hother : ∀ entry ∈ before, entry.1 ≠ name) :
    (before ++ (name, keyword) :: after).lookup name = some keyword := by
  have hbefore : before.lookup name = none := by
    rw [List.lookup_eq_none_iff]
    intro entry member
    rw [bne_iff_ne]
    exact (hother entry member).symm
  rw [List.lookup_append, hbefore, Option.none_or, List.lookup_cons, BEq.rfl]

theorem mem_names_of_accepts {arguments : Arguments}
    (accepts : (ofPattern text pattern false name).Accepts arguments) :
    ∀ entry ∈ arguments.keywords, entry.1 ∈ pattern.names := by
  intro entry member
  have hparameter := (checkArguments_eq_ok.mp accepts.fits).2.2 entry member
  rw [keywordParameters_ofPattern, if_neg Bool.false_ne_true, List.append_nil,
    Session.mem_foldl_noteName] at hparameter
  exact hparameter.resolve_left List.not_mem_nil

/-- Arguments that the plain matcher accepts are accepted with a trace by the recording one. -/
theorem accepts_recording (hfree : traceName ∉ pattern.names)
    (accepts : (ofPattern text pattern false name).Accepts ⟨positional, before ++ after⟩) :
    (ofPattern text pattern true name).Accepts
        ⟨positional, before ++ (traceName, .recorder) :: after⟩ ∧
      (before ++ (traceName, .recorder) :: after).lookup traceName = some .recorder := by
  obtain ⟨hlength, hmissing, -⟩ := checkArguments_eq_ok.mp accepts.fits
  have hnamed := mem_names_of_accepts accepts
  have hlookup : (before ++ (traceName, .recorder) :: after).lookup traceName =
      some .recorder := by
    refine lookup_insert_self fun entry member hsame => hfree ?_
    rw [← hsame]
    exact hnamed entry (List.mem_append_left _ member)
  refine ⟨⟨?_, checkArguments_eq_ok.mpr ⟨?_, ?_, ?_⟩⟩, hlookup⟩
  · have hplain := accepts.free
    rw [List.any_append, Bool.or_eq_false_iff] at hplain
    rw [List.any_append, List.any_cons, hplain.1, hplain.2]
    rfl
  · rw [positional_ofPattern] at hlength ⊢
    exact hlength
  · rw [missingKeywordsOf, named_ofPattern, List.append_eq_nil_iff, List.filter_eq_nil_iff]
      at hmissing
    rw [missingKeywordsOf, named_ofPattern, List.append_eq_nil_iff, List.filter_eq_nil_iff]
    refine ⟨?_, ?_⟩
    · intro parameter member
      have hgiven := hmissing.1 parameter member
      rw [Option.isNone_iff_eq_none, ← ne_eq, Option.ne_none_iff_isSome] at hgiven ⊢
      exact isSome_lookup_insert hgiven
    · rw [instrumented, recording_ofPattern, if_pos rfl, List.filter_cons, hlookup]
      rfl
  · intro entry member
    rw [keywordParameters_ofPattern, if_pos rfl, List.mem_append, Session.mem_foldl_noteName,
      List.mem_singleton]
    rw [List.mem_append, List.mem_cons] at member
    rcases member with hbefore | rfl | hafter
    · exact .inl (.inr (hnamed entry (List.mem_append_left _ hbefore)))
    · exact .inr rfl
    · exact .inl (.inr (hnamed entry (List.mem_append_right _ hafter)))

theorem bind_recording :
    (ofPattern text pattern true name).bind
        ⟨positional, before ++ (traceName, .recorder) :: after⟩ =
      (ofPattern text pattern false name).bind ⟨positional, before ++ after⟩ := by
  simp [bind, Keyword.toArgument?]

end Recording

/-- What a recording matcher has to do with a plain one: it asks for a trace besides, takes every
other argument that the plain one takes, and returns or raises the same. -/
structure IsRecorderOf (recorder plain : Matcher) : Prop where
  positional : recorder.positional = plain.positional
  named : recorder.named = plain.named
  parameters : recorder.parameters = plain.parameters ++ [traceName]
  accepts : ∀ positional before after, plain.Accepts ⟨positional, before ++ after⟩ →
    recorder.Accepts ⟨positional, before ++ (traceName, .recorder) :: after⟩
  call : ∀ document subject positional before after,
    plain.Accepts ⟨positional, before ++ after⟩ →
      (recorder.call document subject
        ⟨positional, before ++ (traceName, .recorder) :: after⟩).returned =
        (plain.call document subject ⟨positional, before ++ after⟩).returned
  serve : recorder.functionName ≠ Script.builtinsName →
    ∀ document subject positional before after, plain.Accepts ⟨positional, before ++ after⟩ →
      (recorder.serve document subject
        ⟨positional, before ++ (traceName, .recorder) :: after⟩).returned =
        (plain.serve document subject ⟨positional, before ++ after⟩).returned

section Recorder

variable {text name : String} {pattern : Pattern Leaf}

theorem traceName_not_mem_names (hwellFormed : pattern.WellFormed) :
    traceName ∉ pattern.names := by
  intro member
  obtain ⟨loc, hleaf⟩ := Pattern.mem_names.mp member
  exact (hwellFormed.parameters loc traceName hleaf).1 (by decide)

theorem returned_serve {matcher : Matcher} (hname : matcher.functionName ≠ Script.builtinsName)
    (document : Document) (subject : Value) (arguments : Arguments) :
    (matcher.serve document subject arguments).returned =
      let returned := (matcher.call document subject (matcher.settled arguments)).returned
      if isRefused returned || matcher.isServable then returned
      else .error (.call .unknownKeyword) := by
  have hrespond : matcher.respond document subject (matcher.settled arguments) =
      matcher.call document subject (matcher.settled arguments) :=
    if_neg fun hsevered => hname hsevered.1
  rw [serve_of_respond hrespond, apply_ite CallResult.returned]

theorem accepts_settled {arguments : Arguments}
    (accepts : (ofPattern text pattern false name).Accepts arguments) :
    (ofPattern text pattern false name).Accepts
      ((ofPattern text pattern false name).settled arguments) := by
  obtain ⟨hlength, hmissing, hknown⟩ := checkArguments_eq_ok.mp accepts.fits
  refine ⟨free_settled accepts.free, checkArguments_eq_ok.mpr ⟨hlength, ?_, ?_⟩⟩
  · have hsame : (fun parameter => (((ofPattern text pattern false name).settled
        arguments).keywords.lookup parameter).isNone) =
          fun parameter => (arguments.keywords.lookup parameter).isNone :=
      funext isNone_lookup_settled
    rw [missingKeywordsOf, instrumented, recording_ofPattern, if_neg Bool.false_ne_true]
      at hmissing ⊢
    rw [hsame]
    exact hmissing
  · rw [← unexpectedKeywordsOf_eq_nil] at hknown ⊢
    rw [unexpectedKeywordsOf_settled]
    exact hknown

theorem settled_recording {positional : List Argument} {before after : List (String × Keyword)}
    (hother : ∀ entry ∈ before ++ after, entry.1 ≠ traceName) :
    ∃ front back,
      (ofPattern text pattern false name).settled ⟨positional, before ++ after⟩ =
        ⟨positional, front ++ back⟩ ∧
      (ofPattern text pattern true name).settled
          ⟨positional, before ++ (traceName, .recorder) :: after⟩ =
        ⟨positional, front ++ (traceName, .recorder) :: back⟩ := by
  let settle (entry : String × Keyword) := (entry.1, entry.2.plain)
  have hplain (entries : List (String × Keyword)) :
      ((ofPattern text pattern false name).settled ⟨positional, entries⟩).keywords =
        entries.map settle := rfl
  have hrecorder (entries : List (String × Keyword)) (member : ∀ entry ∈ entries,
      entry.1 ≠ traceName) :
      ((ofPattern text pattern true name).settled ⟨positional, entries⟩).keywords =
        entries.map settle := by
    refine List.map_congr_left fun entry inEntries => ?_
    have hnot : ¬ (ofPattern text pattern true name).instrumented.contains entry.1 = true :=
      fun hcontains => member entry inEntries
        (plain_instrumented entry.1 (List.contains_iff_mem.mp hcontains))
    exact congrArg (entry.1, ·) (if_neg hnot)
  obtain ⟨hbefore, hafter⟩ := List.forall_mem_append.mp hother
  refine ⟨before.map settle, after.map settle, ?_, ?_⟩
  · exact congrArg (Arguments.mk positional) ((hplain _).trans List.map_append)
  · refine congrArg (Arguments.mk positional) ?_
    rw [← hrecorder before hbefore, ← hrecorder after hafter]
    exact List.map_append

theorem isRecorderOf_ofPattern (hnone : pattern.rejection? .outside = none)
    (hqueries : pattern.EachLeaf Leaf.EndsInQuery) :
    (ofPattern text pattern true name).IsRecorderOf (ofPattern text pattern false name) := by
  have hfree := traceName_not_mem_names (Pattern.wellFormed_of_unrejected hqueries hnone)
  have hcall : ∀ document subject positional before after,
      (ofPattern text pattern false name).Accepts ⟨positional, before ++ after⟩ →
        ((ofPattern text pattern true name).call document subject
          ⟨positional, before ++ (traceName, .recorder) :: after⟩).returned =
          ((ofPattern text pattern false name).call document subject
            ⟨positional, before ++ after⟩).returned := by
    intro document subject positional before after accepts
    obtain ⟨hrecorder, hlookup⟩ := accepts_recording hfree accepts
    rw [call_of_accepts hrecorder fun _ => hlookup, call_of_accepts accepts Bool.noConfusion,
      bind_recording, execute_recording hnone hqueries]
  refine ⟨?_, rfl, ?_, ?_, hcall, ?_⟩
  · rw [positional_ofPattern, positional_ofPattern]
  · rw [parameters, parameters, positional_ofPattern, positional_ofPattern,
      keywordParameters_ofPattern, keywordParameters_ofPattern]
    simp
  · exact fun positional before after accepts => (accepts_recording hfree accepts).1
  · intro hname document subject positional before after accepts
    have hother : ∀ entry ∈ before ++ after, entry.1 ≠ traceName := by
      rintro entry member htrace
      exact hfree (htrace ▸ mem_names_of_accepts accepts entry member)
    obtain ⟨front, back, hplain, hrecorder⟩ := settled_recording hother
    have haccepts := accepts_settled accepts
    rw [hplain] at haccepts
    have hsame := hcall document subject positional front back haccepts
    have hplainName : (ofPattern text pattern false name).functionName ≠ Script.builtinsName :=
      hname
    rw [returned_serve hname, returned_serve hplainName, hplain, hrecorder, hsame]
    rfl

/-- A script with a trace among its parameters can be loaded if one without can, and if no other
parameter is read as the trace. -/
theorem nodup_traced (names : List String) :
    ((rootName :: (names ++ [traceName])).map Text.compatible).Nodup ↔
      ((rootName :: names).map Text.compatible).Nodup ∧
        ∀ parameter ∈ names, Text.compatible parameter ≠ traceName := by
  rw [← List.cons_append, List.map_append, List.nodup_append]
  refine and_congr_right fun _ => ?_
  constructor
  · rintro ⟨-, hother⟩ parameter member
    exact hother _ (List.mem_map_of_mem (List.mem_cons_of_mem _ member)) _
      (List.mem_singleton_self _)
  · refine fun hother => ⟨List.nodup_singleton _, ?_⟩
    rintro _ member _ htrace rfl
    obtain ⟨parameter, hparameter, hsame⟩ := List.mem_map.mp member
    rw [List.mem_singleton.mp htrace] at hsame
    rcases List.mem_cons.mp hparameter with rfl | hnamed
    · exact absurd hsame (by decide)
    · exact hother parameter hnamed hsame

/-- The scripts of a plain and of a recording matcher can be loaded both or neither, unless a
parameter is read as the trace. -/
theorem scriptFault?_recording (htext : text ≠ "") :
    (∃ fault, (ofPattern text pattern false name).scriptFault? = some fault ∧
      (ofPattern text pattern true name).scriptFault? = some fault) ∨
    (ofPattern text pattern false name).scriptFault? = none ∧
      ((∃ parameter ∈ (ofPattern text pattern false name).named,
          Text.compatible parameter = traceName) ∧
          (ofPattern text pattern true name).scriptFault? = some .illFormed ∨
        (∀ parameter ∈ (ofPattern text pattern false name).named,
          Text.compatible parameter ≠ traceName) ∧
          (ofPattern text pattern true name).scriptFault? = none) := by
  have hplain : (ofPattern text pattern false name).keywordParameters =
      (ofPattern text pattern false name).named := List.append_nil _
  have hrecorder : (ofPattern text pattern true name).keywordParameters =
      (ofPattern text pattern false name).named ++ [traceName] :=
    keywordParameters_ofPattern text pattern true name
  have htraced := nodup_traced (ofPattern text pattern false name).named
  rw [scriptFault?_ofPattern _ _ _ _ htext, scriptFault?_ofPattern _ _ _ _ htext, hplain,
    hrecorder]
  by_cases hnull : text.toList.contains '\x00' = true
  · simp only [if_pos hnull]
    exact .inl ⟨_, rfl, rfl⟩
  by_cases hidentifiers : (pattern.names.foldl Session.noteName []).all Text.isIdentifier = true
  · simp only [if_neg hnull, if_pos hidentifiers]
    cases labelFault? text with
    | some fault => exact .inl ⟨fault, rfl, rfl⟩
    | none =>
        rw [Option.none_or, Option.none_or, parameterFault?_eq_none, parameterFault?_eq_none]
        by_cases hapart :
            ((rootName :: (ofPattern text pattern false name).named).map Text.compatible).Nodup
        · refine .inr ⟨hapart, ?_⟩
          by_cases htrace : ∃ parameter ∈ (ofPattern text pattern false name).named,
              Text.compatible parameter = traceName
          · obtain ⟨parameter, member, hsame⟩ := htrace
            refine .inl ⟨⟨parameter, member, hsame⟩, if_neg fun hnodup => ?_⟩
            exact (htraced.mp hnodup).2 parameter member hsame
          · have hother : ∀ parameter ∈ (ofPattern text pattern false name).named,
                Text.compatible parameter ≠ traceName :=
              fun parameter member hsame => htrace ⟨parameter, member, hsame⟩
            exact .inr ⟨hother, htraced.mpr ⟨hapart, hother⟩⟩
        · exact .inl ⟨_, if_neg hapart, if_neg fun hnodup => hapart (htraced.mp hnodup).1⟩
  · simp only [if_neg hnull, if_neg hidentifiers]
    exact .inl ⟨_, rfl, rfl⟩

end Recorder

end Matcher

end TreeMatch
