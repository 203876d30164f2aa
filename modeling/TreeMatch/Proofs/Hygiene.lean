import TreeMatch.Proofs.Identifiers
import TreeMatch.Proofs.Listing
import TreeMatch.Proofs.Severing

/-! Hygiene of a script: the names that it makes up, those that its pattern chooses and those that
it relies on do not get into each other's way, whatever name is asked for its function. -/

namespace TreeMatch

variable {chart : Text.CodeChart}

/-- The name stands for something: for what is in scope, or for what every matcher relies on. -/
def Script.IsBound (scope : List String) (name : String) : Prop :=
  name ∈ scope ∨ name = "captures" ∨ name ∈ helperNames ∨ name ∈ builtinNames

open Script (IsBound)

theorem Kind.isBound (kind : Kind) {scope : List String} {origin : String}
    (horigin : origin ∈ scope) : ∀ name ∈ kind.names origin, IsBound scope name := by
  have hvalue : IsBound scope origin := .inl horigin
  cases kind with
  | absent | true | false => exact List.forall_mem_singleton.mpr hvalue
  | node =>
      refine List.forall_mem_cons.mpr ⟨.inr (by decide +kernel), ?_⟩
      exact List.forall_mem_singleton.mpr hvalue
  | symbol | integer | float | string =>
      refine List.forall_mem_cons.mpr ⟨.inr (by decide +kernel), ?_⟩
      refine List.forall_mem_cons.mpr ⟨hvalue, ?_⟩
      exact List.forall_mem_singleton.mpr (.inr (by decide +kernel))

namespace Test

theorem isBound_mentioned {scope names : List String} (each : ∀ name ∈ names, IsBound scope name) :
    ∀ mention ∈ names.map (scope, ·), IsBound mention.1 mention.2 :=
  List.forall_mem_map.mpr each

/-- Every name that a test mentions is in scope, or is one that all matchers rely on. -/
theorem Scoped.isBound {isConstant : Value → Prop} {scope : List String} {test : Test}
    (within : test.Scoped isConstant scope) :
    ∀ mention ∈ test.mentions scope, IsBound mention.1 mention.2 := by
  induction within with
  | always | never => exact List.forall_mem_nil _
  | allOf each induction | anyOf each induction =>
      intro mention member
      rw [mentions, mentionsAll_eq_flatMap] at member
      obtain ⟨test, htest, hmention⟩ := List.mem_flatMap.mp member
      exact induction test htest mention hmention
  | not within induction => exact induction
  | isNode hplace =>
      refine isBound_mentioned (List.forall_mem_cons.mpr ⟨.inr (by decide +kernel), ?_⟩)
      exact List.forall_mem_singleton.mpr (.inl hplace)
  | hasType hplace htype => exact isBound_mentioned (List.forall_mem_singleton.mpr (.inl hplace))
  | hasCount count hplace =>
      refine isBound_mentioned (List.forall_mem_cons.mpr ⟨.inr (by decide +kernel), ?_⟩)
      exact List.forall_mem_singleton.mpr (.inl hplace)
  | equals hplace hexpected =>
      refine isBound_mentioned (List.forall_mem_cons.mpr ⟨.inr (by decide +kernel), ?_⟩)
      exact List.forall_mem_singleton.mpr (.inl hplace)
  | equalsSymbol hplace hname =>
      refine isBound_mentioned (List.forall_mem_cons.mpr ⟨.inr (by decide +kernel), ?_⟩)
      refine List.forall_mem_cons.mpr ⟨.inl hplace, ?_⟩
      exact List.forall_mem_singleton.mpr (.inr (by decide +kernel))
  | isKind kind hplace => exact isBound_mentioned (kind.isBound hplace)
  | accepts hplace hparameter =>
      refine isBound_mentioned (List.forall_mem_cons.mpr ⟨.inr (by decide +kernel), ?_⟩)
      exact List.forall_mem_cons.mpr ⟨.inl hplace, List.forall_mem_singleton.mpr (.inl hparameter)⟩
  | capture slot hplace =>
      refine isBound_mentioned (List.forall_mem_cons.mpr ⟨.inr (by decide +kernel), ?_⟩)
      refine List.forall_mem_cons.mpr ⟨.inr (.inl rfl), ?_⟩
      split
      · refine List.forall_mem_cons.mpr ⟨.inr (by decide +kernel), ?_⟩
        exact List.forall_mem_singleton.mpr (.inl hplace)
      · exact List.forall_mem_singleton.mpr (.inl hplace)
  | enter id hplace htrace | succeed id hplace htrace =>
      refine isBound_mentioned (List.forall_mem_cons.mpr ⟨.inl htrace, ?_⟩)
      exact List.forall_mem_singleton.mpr (.inl hplace)
  | @every scope items body tally hitems within induction =>
      have hall : IsBound scope "all" := .inr (by decide +kernel)
      refine List.forall_mem_append.mpr ⟨List.forall_mem_cons.mpr ⟨hall, induction⟩, ?_⟩
      refine List.forall_mem_cons.mpr ⟨.inl List.mem_cons_self, ?_⟩
      exact List.forall_mem_singleton.mpr (.inl hitems)

mutual

/-- The names that the repetitions of a test make up for their elements. -/
def elementNames : Test → List String
  | allOf tests => elementNamesAll tests
  | anyOf tests => elementNamesAll tests
  | not test => elementNames test
  | every name _ body => name :: elementNames body
  | _ => []
termination_by structural test => test

def elementNamesAll : List Test → List String
  | [] => []
  | test :: rest => elementNames test ++ elementNamesAll rest
termination_by structural tests => tests

end

end Test

namespace Pattern

/-- The names for elements that come next, each behind the number of those given out. -/
def elementNames (given count : Nat) : List String :=
  (List.range' (given + 1) count).map fun number => "_e" ++ number.repr

theorem elementNames_append (given first second : Nat) :
    elementNames given first ++ elementNames (given + first) second =
      elementNames given (first + second) := by
  rw [elementNames, elementNames, elementNames, ← List.map_append, Nat.add_right_comm,
    List.range'_append_1]

theorem elementNames_leaf (place : Place) (leaf : Leaf) : (leaf.test place).elementNames = [] := by
  cases leaf with
  | predicate name =>
      rw [Leaf.test, Leaf.predicateTest?]
      split <;> rfl
  | _ => rfl

theorem elementNames_framed (recording : Bool) (key : Nat) (place : Place) (test : Test) :
    (framed recording key place test).elementNames = test.elementNames := by
  cases recording with
  | false => rfl
  | true => exact List.append_nil _

section Tests

variable {recording : Bool} {patterns : List (Pattern Leaf)}
  (each : ∀ pattern ∈ patterns, ∀ place (tally : Tally),
    (pattern.test recording place tally).elementNames = elementNames tally.loop pattern.loops)
include each

theorem elementNames_branchTests (place : Place) (tally : Tally) :
    Test.elementNamesAll (branchTests recording place tally patterns) =
      elementNames tally.loop (loopsAll patterns) := by
  induction patterns generalizing tally with
  | nil => rfl
  | cons pattern rest induction =>
      obtain ⟨first, later⟩ := List.forall_mem_cons.mp each
      rw [branchTests, Test.elementNamesAll, first, induction later, loopsAll_cons]
      exact elementNames_append _ _ _

theorem elementNames_memberTests (place : Place) (tally : Tally) :
    Test.elementNamesAll (memberTests recording place tally patterns) =
      elementNames tally.loop (loopsAll patterns) := by
  induction patterns generalizing tally with
  | nil => rfl
  | cons pattern rest induction =>
      obtain ⟨first, later⟩ := List.forall_mem_cons.mp each
      rw [memberTests, Test.elementNamesAll, first, induction later, loopsAll_cons]
      exact elementNames_append _ _ _

theorem elementNames_termTests (places : List Place) (tally : Tally) :
    Test.elementNamesAll (termTests recording places tally patterns) =
      elementNames tally.loop (loopsAll patterns) := by
  induction patterns generalizing places tally with
  | nil => rfl
  | cons pattern rest induction =>
      obtain ⟨first, later⟩ := List.forall_mem_cons.mp each
      rw [termTests, Test.elementNamesAll, first, induction later, loopsAll_cons]
      exact elementNames_append _ _ _

end Tests

/-- The repetitions of a pattern number the names of their elements in order. -/
theorem elementNames_test (pattern : Pattern Leaf) (recording : Bool) (place : Place)
    (tally : Tally) :
    (pattern.test recording place tally).elementNames = elementNames tally.loop pattern.loops := by
  induction pattern using induct generalizing place tally with
  | leaf loc value =>
      rw [test, elementNames_framed]
      exact elementNames_leaf place value
  | marked loc mark inner induction =>
      rw [loops_marked]
      cases mark with
      | capture =>
          rw [test, elementNames_framed]
          exact (List.append_nil _).trans (induction place tally.captured)
      | negation =>
          rw [test, elementNames_framed]
          exact induction place tally.inner
      | ascend =>
          rw [test, elementNames_framed]
          exact (List.append_nil _).trans (induction place.parent tally.inner)
  -- The repetition takes the next number, and those within it the ones behind.
  | repeated loc inner quantity induction =>
      rw [test, elementNames_framed, Test.elementNames, induction, loops_repeated]
      rw [elementNames, elementNames, List.range'_succ, List.map_cons]
      rfl
  | grouped loc bracket first others firstHolds othersHold =>
      have hfirst := firstHolds place tally.inner
      rw [loops_grouped, ← elementNames_append tally.loop]
      cases bracket with
      | union =>
          have hothers := elementNames_branchTests othersHold place (tally.inner.beside first)
          rw [test, elementNames_framed, Test.elementNames, Test.elementNamesAll, hfirst, hothers]
          rfl
      | intersection =>
          have hothers := elementNames_memberTests othersHold place (tally.inner.after first)
          rw [test, elementNames_framed, Test.elementNames, Test.elementNamesAll, hfirst, hothers]
          rfl
      | sequence =>
          have hothers := elementNames_termTests othersHold (placesOf place others)
            (tally.inner.after first)
          rw [test, elementNames_framed, Test.elementNames, Test.elementNamesAll,
            Test.elementNamesAll, Test.elementNamesAll, hfirst, hothers]
          rfl

end Pattern

namespace Script

theorem elementNames_nodup (given count : Nat) : (Pattern.elementNames given count).Nodup := by
  refine List.Nodup.map (fun first second hsame => ?_) List.nodup_range'
  exact Session.numbered_injective hsame

theorem startsWith_elementNames {given count : Nat} :
    ∀ name ∈ Pattern.elementNames given count, name.startsWith "_" = true := by
  refine List.forall_mem_map.mpr fun number _ => ?_
  exact Session.startsWith_underscore String.toList_append

theorem positionName_ne_elementName (position number : Nat) :
    Session.positionName position ≠ "_e" ++ number.repr := by
  intro hsame
  have hchars := congrArg String.toList hsame
  rw [Session.positionName, String.toList_append, String.toList_append] at hchars
  cases hchars

end Script

theorem Session.nodup_noteName {names : List String} (hnodup : names.Nodup) (name : String) :
    (noteName names name).Nodup := by
  unfold noteName
  split
  · exact hnodup
  · rename_i hnew
    refine List.nodup_append.mpr ⟨hnodup, List.nodup_singleton name, ?_⟩
    rintro known hknown _ hname rfl
    rw [List.mem_singleton.mp hname] at hknown
    exact hnew (List.contains_iff_mem.mpr hknown)

theorem Session.nodup_foldl_noteName {names : List String} (hnodup : names.Nodup)
    (mentioned : List String) : (mentioned.foldl noteName names).Nodup := by
  induction mentioned generalizing names with
  | nil => exact hnodup
  | cons first rest induction => exact induction (nodup_noteName hnodup first)

namespace Matcher

/-- The names of a matcher's script do not get into each other's way. -/
structure IsHygienic (matcher : Matcher) : Prop where
  /-- The signature holds the parameters and no other names. -/
  signature : Script.identifiers matcher.signature = matcher.parameters
  /-- The parameters and the elements of repetitions all have different names. -/
  apart : (matcher.parameters ++ matcher.test.elementNames).Nodup
  /-- No name that is chosen or made up has a meaning already. -/
  free : ∀ name ∈ matcher.positional ++ matcher.named ++ matcher.test.elementNames,
    name ∉ Script.givenNames
  function : Script.IsAsciiIdentifier matcher.functionName ∧
    matcher.functionName ∉ Script.givenNames
  /-- The names in the expression for the test are those that the test mentions. -/
  mentioned : Script.identifiers matcher.test.text =
    (matcher.test.mentions matcher.parameters).map Prod.snd
  /-- They are bound by the signature or a repetition around them, or given in every script. -/
  bound : ∀ mention ∈ matcher.test.mentions matcher.parameters, IsBound mention.1 mention.2

section Names

variable {text name : String} {recording : Bool} {pattern : Pattern Leaf}

theorem named_free (hwellFormed : pattern.WellFormed) :
    ∀ parameter ∈ (ofPattern text pattern recording name).named, Leaf.IsFreeName parameter := by
  intro parameter member
  rw [named_ofPattern, Session.mem_foldl_noteName] at member
  obtain ⟨loc, hleaf⟩ := Pattern.mem_names.mp (member.resolve_left List.not_mem_nil)
  exact hwellFormed.parameters loc parameter hleaf

theorem not_mem_givenNames {parameter : String} (hfree : Leaf.IsFreeName parameter) :
    parameter ∉ Script.givenNames := by
  obtain ⟨hreserved, hhelper, hbuiltin, hkeyword, -⟩ := hfree
  simp only [Script.givenNames, List.mem_append, not_or]
  exact ⟨⟨⟨hkeyword, hreserved⟩, hhelper⟩, hbuiltin⟩

theorem not_mem_positional {parameter : String} (hplain : parameter.startsWith "_" = false) :
    parameter ∉ (ofPattern text pattern recording name).positional := by
  rw [positional_ofPattern]
  intro member
  obtain ⟨number, -, rfl⟩ := List.mem_map.mp member
  rw [Session.startsWith_positionName] at hplain
  cases hplain

theorem startsWith_eq_false {parameter : String} (hplain : ¬ "_".toList <+: parameter.toList) :
    parameter.startsWith "_" = false := by
  rw [Bool.eq_false_iff, ne_eq, String.startsWith_string_iff]
  exact hplain

theorem startsWith_rootName : rootName.startsWith "_" = false :=
  startsWith_eq_false (by decide)

theorem startsWith_traceName : traceName.startsWith "_" = false :=
  startsWith_eq_false (by decide)

theorem plain_instrumented {matcher : Matcher} :
    ∀ parameter ∈ matcher.instrumented, parameter = traceName := by
  intro parameter member
  unfold instrumented at member
  split at member
  · exact List.mem_singleton.mp member
  · cases member

theorem nodup_instrumented (matcher : Matcher) : matcher.instrumented.Nodup := by
  unfold instrumented
  split
  · exact List.nodup_singleton traceName
  · exact List.nodup_nil

theorem nodup_keywordParameters (hwellFormed : pattern.WellFormed) :
    (ofPattern text pattern recording name).keywordParameters.Nodup := by
  refine List.nodup_append.mpr ⟨?_, nodup_instrumented _, ?_⟩
  · rw [named_ofPattern]
    exact Session.nodup_foldl_noteName List.nodup_nil _
  · intro parameter hnamed other htrace hsame
    have hreserved := (named_free hwellFormed parameter hnamed).1
    rw [hsame, plain_instrumented other htrace] at hreserved
    exact hreserved (by decide)

/-- The parameters that are not positional have names without an underscore in front. -/
theorem plain_keywordParameters (hwellFormed : pattern.WellFormed) :
    ∀ parameter ∈ (ofPattern text pattern recording name).keywordParameters,
      parameter ≠ rootName ∧ parameter.startsWith "_" = false := by
  refine List.forall_mem_append.mpr ⟨fun parameter hnamed => ?_, fun parameter htrace => ?_⟩
  · have hfree := named_free hwellFormed parameter hnamed
    refine ⟨?_, hfree.2.2.2.2⟩
    rintro rfl
    exact hfree.1 (by decide)
  · rw [plain_instrumented parameter htrace]
    exact ⟨by decide, startsWith_traceName⟩

theorem nodup_parameters (hwellFormed : pattern.WellFormed) :
    (ofPattern text pattern recording name).parameters.Nodup := by
  refine List.nodup_append.mpr
    ⟨List.nodup_cons.mpr ⟨?_, ?_⟩, nodup_keywordParameters hwellFormed, ?_⟩
  · exact not_mem_positional startsWith_rootName
  · rw [positional_ofPattern]
    exact List.Nodup.map (fun _ _ => Session.positionName_injective) List.nodup_range'
  · rintro parameter member _ hkeyword rfl
    obtain ⟨hroot, hstart⟩ := plain_keywordParameters hwellFormed parameter hkeyword
    rcases List.mem_cons.mp member with rfl | hpositional
    · exact hroot rfl
    · exact not_mem_positional hstart hpositional

theorem elementNames_ofPattern :
    (ofPattern text pattern recording name).test.elementNames =
      Pattern.elementNames 0 pattern.loops := by
  rw [test_ofPattern]
  exact pattern.elementNames_test recording .root .start

theorem apart_ofPattern (hwellFormed : pattern.WellFormed) :
    ((ofPattern text pattern recording name).parameters ++
      (ofPattern text pattern recording name).test.elementNames).Nodup := by
  rw [elementNames_ofPattern]
  refine List.nodup_append.mpr
    ⟨nodup_parameters hwellFormed, Script.elementNames_nodup 0 pattern.loops, ?_⟩
  rintro parameter member _ helement rfl
  have hstart := Script.startsWith_elementNames parameter helement
  rcases List.mem_append.mp member with hfront | hkeyword
  · rcases List.mem_cons.mp hfront with rfl | hpositional
    · rw [startsWith_rootName] at hstart
      cases hstart
    · rw [positional_ofPattern] at hpositional
      obtain ⟨position, -, rfl⟩ := List.mem_map.mp hpositional
      obtain ⟨number, -, hsame⟩ := List.mem_map.mp helement
      exact Script.positionName_ne_elementName position number hsame.symm
  · rw [(plain_keywordParameters hwellFormed parameter hkeyword).2] at hstart
    cases hstart

theorem free_ofPattern (hwellFormed : pattern.WellFormed) :
    ∀ parameter ∈ (ofPattern text pattern recording name).positional ++
        (ofPattern text pattern recording name).named ++
        (ofPattern text pattern recording name).test.elementNames,
      parameter ∉ Script.givenNames := by
  rw [elementNames_ofPattern, positional_ofPattern]
  refine List.forall_mem_append.mpr ⟨List.forall_mem_append.mpr ⟨?_, ?_⟩, ?_⟩
  · exact List.forall_mem_map.mpr fun number _ => Script.numbered_notGiven "_p" number
  · exact fun parameter member => not_mem_givenNames (named_free hwellFormed parameter member)
  · exact List.forall_mem_map.mpr fun number _ => Script.numbered_notGiven "_e" number

theorem isName_parameters (hwellFormed : pattern.WellFormed)
    (hnames : (ofPattern text pattern recording name).named.all Text.isIdentifier = true) :
    ∀ parameter ∈ (ofPattern text pattern recording name).parameters, Script.IsName parameter := by
  intro parameter member
  rcases List.mem_append.mp member with hfront | hkeyword
  · rcases List.mem_cons.mp hfront with rfl | hpositional
    · exact ⟨by decide +kernel, by decide +kernel⟩
    · rw [positional_ofPattern] at hpositional
      obtain ⟨number, -, rfl⟩ := List.mem_map.mp hpositional
      exact Script.isName_numbered (by decide +kernel) number
  · rcases List.mem_append.mp hkeyword with hnamed | htrace
    · obtain ⟨-, -, -, hkeywords, -⟩ := named_free hwellFormed parameter hnamed
      refine ⟨List.all_eq_true.mp hnames parameter hnamed, ?_⟩
      rw [Script.isKeyword, List.contains_eq_mem, decide_eq_false_iff_not]
      exact hkeywords
    · rw [plain_instrumented parameter htrace]
      exact ⟨by decide +kernel, by decide +kernel⟩

theorem identifiers_names {names : List String} (each : ∀ name ∈ names, Script.IsName name) :
    names.flatMap Script.identifiers = names := by
  have hsingle : ∀ name ∈ names, Script.identifiers name = [name] :=
    fun name member => (each name member).reads.reads
  rw [List.flatMap_congr hsingle]
  exact List.flatMap_singleton' names

theorem identifiers_signature {matcher : Matcher}
    (hparameters : ∀ parameter ∈ matcher.parameters, Script.IsName parameter) :
    Script.identifiers matcher.signature = matcher.parameters := by
  have hcomma : Script.Closes ", " [] := by decide +kernel
  obtain ⟨hfront, hkeywords⟩ := List.forall_mem_append.mp hparameters
  have hstar : Script.Reads "*" (Script.identifiers "*") := ⟨by decide +kernel, rfl⟩
  have heach : ∀ {name : String}, Script.IsName name →
      Script.Reads name (Script.identifiers name) :=
    fun isName => ⟨isName.reads.unquoted, rfl⟩
  have hparts : ∀ part ∈ rootName :: matcher.positional ++
      (if matcher.keywordParameters.isEmpty then [] else "*" :: matcher.keywordParameters),
      Script.Reads part (Script.identifiers part) := by
    refine List.forall_mem_append.mpr ⟨fun part member => heach (hfront part member), ?_⟩
    split
    · exact List.forall_mem_nil _
    · exact List.forall_mem_cons.mpr ⟨hstar, fun part member => heach (hkeywords part member)⟩
  have hreads := Script.reads_intercalate hcomma (by decide +kernel) hparts
  rw [List.map_id'] at hreads
  rw [signature, hreads.reads, parameters, List.flatMap_append, identifiers_names hfront]
  cases hsome : matcher.keywordParameters with
  | nil => rfl
  | cons first rest =>
      rw [← hsome, if_neg (by rw [hsome]; exact Bool.false_ne_true), List.flatMap_cons,
        identifiers_names hkeywords]
      rfl

/-- The matcher of a pattern with finite numbers has a hygienic script, whatever its name. -/
theorem isHygienic_ofPattern (hwellFormed : pattern.WellFormed)
    (hnames : (ofPattern text pattern recording name).named.all Text.isIdentifier = true)
    (hfinite : pattern.EachLeaf Leaf.IsFinite) :
    (ofPattern text pattern recording name).IsHygienic := by
  have hparameters : ∀ parameter ∈ (ofPattern text pattern recording name).parameters,
      Script.IsName parameter := isName_parameters hwellFormed hnames
  have hscoped : (ofPattern text pattern recording name).test.Scoped
      (fun value => Script.Reads value.exact [])
      (ofPattern text pattern recording name).parameters := by
    refine scoped_ofPattern hwellFormed ?_ Script.reads_integer ?_
    · exact fun s => (Script.closes_quoted s).reads
    · exact fun loc x member => Script.reads_float (hfinite loc _ member)
  obtain ⟨identifier, hkeyword, hreserved, hhelper, hbuiltin⟩ := Script.functionName_free name
  have hgiven : Script.functionName name ∉ Script.givenNames := by
    simp only [Script.givenNames, List.mem_append, not_or]
    exact ⟨⟨⟨hkeyword, hreserved⟩, hhelper⟩, hbuiltin⟩
  refine ⟨identifiers_signature hparameters, apart_ofPattern hwellFormed,
    free_ofPattern hwellFormed, ?_, (hscoped.reads hparameters).reads, hscoped.isBound⟩
  rw [functionName_ofPattern]
  exact ⟨identifier, hgiven⟩

theorem call_renamed (matcher : Matcher) (other : String) :
    Matcher.call { matcher with functionName := other } = matcher.call := rfl

theorem ofPattern_renamed (other : String) :
    ofPattern text pattern recording other =
      { ofPattern text pattern recording name with
        functionName := Script.functionName other } := rfl

theorem scriptFault?_eq_none (htext : text ≠ "")
    (hnone : (ofPattern text pattern recording name).scriptFault? = none) :
    (ofPattern text pattern recording name).named.all Text.isIdentifier = true ∧
      ∀ other, (ofPattern text pattern recording other).scriptFault? = none := by
  rw [scriptFault?_ofPattern _ _ _ _ htext] at hnone
  constructor
  · split at hnone
    · cases hnone
    · split at hnone
      · rename_i hnames
        exact hnames
      · cases hnone
  · intro other
    rw [scriptFault?_ofPattern _ _ _ _ htext, keywordParameters_ofPattern]
    rw [keywordParameters_ofPattern] at hnone
    exact hnone

end Names

end Matcher

end TreeMatch
