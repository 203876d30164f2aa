import TreeMatch.Proofs.Agreement
import TreeMatch.Proofs.WellFormed

/-! Calling the matcher of a pattern: the arguments that it takes, and what they give to the
parameters of the pattern. -/

namespace TreeMatch

variable {chart : Text.CodeChart}

namespace Session

/-- Names that differ in nothing but the numbers behind them differ in those. -/
theorem numbered_injective {stem : String} {first second : Nat}
    (hsame : stem ++ first.repr = stem ++ second.repr) : first = second := by
  have hdigits : Nat.toDigits 10 first = Nat.toDigits 10 second := by
    have hlists := congrArg String.toList hsame
    rw [String.toList_append, String.toList_append, List.append_right_inj, Nat.toList_repr,
      Nat.toList_repr] at hlists
    exact hlists
  rw [← Nat.ofDigitChars_ten_toDigits (n := first), hdigits, Nat.ofDigitChars_ten_toDigits]

theorem positionName_injective {first second : Nat}
    (hsame : positionName first = positionName second) : first = second :=
  numbered_injective hsame

theorem startsWith_underscore {name : String} {rest : List Char}
    (hchars : name.toList = '_' :: rest) : name.startsWith "_" = true := by
  rw [String.startsWith_string_iff, hchars]
  exact ⟨rest, rfl⟩

theorem startsWith_positionName (number : Nat) : (positionName number).startsWith "_" = true :=
  startsWith_underscore String.toList_append

theorem lookup_zip_positionNames (count start index : Nat) (given : List Argument)
    (hlength : given.length = count) (hlower : start ≤ index) (hupper : index < start + count) :
    (((List.range' start count).map fun (number : Nat) => positionName number).zip given).lookup
      (positionName index) = given[index - start]? := by
  induction count generalizing start given with
  | zero => omega
  | succ count induction =>
      cases given with
      | nil => cases hlength
      | cons argument given =>
          rw [List.range'_succ, List.map_cons, List.zip_cons_cons, List.lookup_cons]
          by_cases hindex : index = start
          · rw [hindex, BEq.rfl, Nat.sub_self]
            rfl
          · have hother : (positionName index == positionName start) = false := by
              rw [beq_eq_false_iff_ne]
              exact fun hsame => hindex (positionName_injective hsame)
            rw [hother, induction (start + 1) given (Nat.succ.inj hlength) (by omega) (by omega),
              show index - start = index - (start + 1) + 1 by omega]
            rfl

theorem mem_noteName {name noted : String} {names : List String} :
    name ∈ noteName names noted ↔ name ∈ names ∨ name = noted := by
  unfold noteName
  split
  · rename_i hcontains
    constructor
    · exact .inl
    · rintro (hmem | rfl)
      · exact hmem
      · exact List.contains_iff_mem.mp hcontains
  · rw [List.mem_append, List.mem_singleton]

theorem mem_foldl_noteName {name : String} {mentioned names : List String} :
    name ∈ mentioned.foldl noteName names ↔ name ∈ names ∨ name ∈ mentioned := by
  induction mentioned generalizing names with
  | nil => simp
  | cons first rest induction =>
      rw [List.foldl_cons, induction, mem_noteName, List.mem_cons, or_assoc]

end Session

def Matcher.Arguments.named (arguments : Matcher.Arguments) : List (String × Argument) :=
  arguments.keywords.filterMap fun (name, keyword) => keyword.toArgument?.map (name, ·)

/-- What the arguments of a call give to the parameters of a pattern. -/
def Scene.ofArguments (document : Document) (arguments : Matcher.Arguments) : Scene where
  document := document
  position? index := if index = 0 then none else arguments.positional[index - 1]?
  named? name := arguments.named.lookup name

namespace Matcher

structure Accepts (matcher : Matcher) (arguments : Arguments) : Prop where
  free : (arguments.keywords.any fun keyword => callNames.contains keyword.1) = false
  fits : matcher.checkArguments arguments = .ok ()

/-- The arguments can be given to a matcher: one for every parameter, and a trace to one that
records. -/
structure Admits (matcher : Matcher) (arguments : Arguments) : Prop extends
    Accepts matcher arguments where
  given : ∀ name ∈ matcher.named,
    ∃ argument, arguments.keywords.lookup name = some (.argument argument)
  traced : matcher.recording = true → arguments.keywords.lookup traceName = some .recorder

theorem unexpectedKeywordsOf_eq_nil {matcher : Matcher} {keywords : List (String × Keyword)} :
    matcher.unexpectedKeywordsOf keywords = [] ↔
      ∀ keyword ∈ keywords, keyword.1 ∈ matcher.keywordParameters := by
  rw [unexpectedKeywordsOf, ← List.length_eq_zero_iff, List.length_mergeSort,
    List.length_eq_zero_iff, List.filter_eq_nil_iff]
  simp

theorem checkArguments_eq_ok {matcher : Matcher} {arguments : Arguments} :
    matcher.checkArguments arguments = .ok () ↔
      arguments.positional.length = matcher.positional.length ∧
        matcher.missingKeywordsOf arguments.keywords = [] ∧
        ∀ keyword ∈ arguments.keywords, keyword.1 ∈ matcher.keywordParameters := by
  rw [← unexpectedKeywordsOf_eq_nil]
  unfold checkArguments
  dsimp only
  split
  · constructor
    · exact fun hfits => by cases hfits
    · rintro ⟨hlength, -, -⟩
      omega
  · split
    · constructor
      · exact fun hfits => by cases hfits
      · rintro ⟨hlength, -, -⟩
        omega
    · have hlength : arguments.positional.length = matcher.positional.length := by omega
      cases matcher.missingKeywordsOf arguments.keywords <;>
        cases matcher.unexpectedKeywordsOf arguments.keywords <;> simp [hlength]

theorem call_of_accepts {matcher : Matcher} {arguments : Arguments}
    (accepts : matcher.Accepts arguments)
    (htraced : matcher.recording = true → arguments.keywords.lookup traceName = some .recorder)
    (document : Document) (subject : Value) :
    matcher.call document subject arguments =
      matcher.execute document subject (matcher.bind arguments) := by
  unfold call
  rw [accepts.free, accepts.fits, if_neg Bool.false_ne_true]
  dsimp only
  cases hrecording : matcher.recording with
  | false => rfl
  | true =>
      rw [htraced hrecording]

theorem lookup_named {arguments : Arguments} {name : String} {argument : Argument}
    (hgiven : arguments.keywords.lookup name = some (.argument argument)) :
    arguments.named.lookup name = some argument := by
  obtain ⟨positional, keywords⟩ := arguments
  unfold Arguments.named
  induction keywords with
  | nil => cases hgiven
  | cons entry rest induction =>
      obtain ⟨other, keyword⟩ := entry
      rw [List.lookup_cons] at hgiven
      cases hsame : name == other with
      | true =>
          rw [hsame] at hgiven
          cases hgiven
          simp [Keyword.toArgument?, List.lookup_cons, hsame]
      | false =>
          rw [hsame] at hgiven
          have hrest := induction hgiven
          cases keyword with
          | recorder => simpa [Keyword.toArgument?] using hrest
          | argument other => simpa [Keyword.toArgument?, List.lookup_cons, hsame] using hrest

theorem toTerm_text {text : String} {pattern : Pattern Leaf}
    (hread : Pattern.read chart text.toList = .ok pattern) :
    (PatternInput.text text).toTerm chart = .ok pattern.toTerm := by
  unfold PatternInput.toTerm
  dsimp only
  rw [hread]

theorem compile_text {text : String} {pattern : Pattern Leaf}
    (hread : Pattern.read chart text.toList = .ok pattern) (recording : Bool) (name : String) :
    compile chart .node (.text text) recording name =
      match pattern.rejection? .outside with
      | none => (ofPattern text pattern recording name).loaded
      | some rejection => .error (rejectionFailure text rejection) := by
  unfold compile
  rw [toTerm_text hread]
  change (ofTerm .node text pattern.toTerm recording name >>= loaded) = _
  rw [ofTerm_toTerm]
  cases pattern.rejection? .outside <;> rfl

theorem loaded_eq_ok {matcher made : Matcher} (hloaded : matcher.loaded = .ok made) :
    matcher.scriptFault? = none ∧ made = matcher := by
  unfold loaded at hloaded
  split at hloaded
  · cases hloaded
  · cases hloaded
    exact ⟨‹_›, rfl⟩

theorem compile_text_of_unfaulty {text : String} {pattern : Pattern Leaf}
    (hread : Pattern.read chart text.toList = .ok pattern)
    (hnone : pattern.rejection? .outside = none)
    {recording : Bool} {name : String}
    (hfault : (ofPattern text pattern recording name).scriptFault? = none) :
    compile chart .node (.text text) recording name =
      .ok (ofPattern text pattern recording name) := by
  rw [compile_text hread, hnone]
  unfold loaded
  rw [hfault]

theorem compile_text_of_faulty {text : String} {pattern : Pattern Leaf} {fault : ScriptFault}
    (hread : Pattern.read chart text.toList = .ok pattern)
    (hnone : pattern.rejection? .outside = none)
    {recording : Bool} {name : String}
    (hfault : (ofPattern text pattern recording name).scriptFault? = some fault) :
    compile chart .node (.text text) recording name = .error (.script fault) := by
  rw [compile_text hread, hnone]
  unfold loaded
  rw [hfault]

theorem parameterFault?_eq_none {names : List String} :
    parameterFault? names = none ↔ (names.map Text.compatible).Nodup := by
  unfold parameterFault?
  split
  · exact iff_of_true rfl ‹_›
  · exact iff_of_false (Option.some_ne_none _) ‹_›

/-- The names are identifiers. A script tells them apart, and from the names that a matcher has
without its pattern. -/
def areReadable (names : List String) : Bool :=
  names.all Text.isIdentifier &&
    decide ((rootName :: traceName :: names).map Text.compatible).Nodup

theorem parameterFault?_of_readable {matcher : Matcher}
    (hnames : areReadable matcher.named = true) :
    parameterFault? (rootName :: matcher.keywordParameters) = none := by
  have hapart := of_decide_eq_true (Bool.and_eq_true_iff.mp hnames).2
  have hinstrumented : matcher.instrumented.Sublist [traceName] := by
    unfold instrumented
    split
    · exact List.Sublist.refl _
    · exact List.nil_sublist _
  have hsublist : (rootName :: matcher.keywordParameters).Sublist
      (rootName :: (matcher.named ++ [traceName])) :=
    ((List.append_sublist_append_left _).mpr hinstrumented).cons_cons _
  have hperm : (rootName :: (matcher.named ++ [traceName])).Perm
      (rootName :: traceName :: matcher.named) :=
    (List.perm_append_singleton traceName matcher.named).cons _
  exact parameterFault?_eq_none.mpr
    (((hperm.map _).nodup_iff.mpr hapart).sublist (hsublist.map _))

theorem compile_text_eq_ok {text : String} {pattern : Pattern Leaf}
    (hread : Pattern.read chart text.toList = .ok pattern)
    (hnone : pattern.rejection? .outside = none)
    (hprinted : text.toList.contains '\x00' = false)
    (hnames : areReadable (pattern.names.foldl Session.noteName []) = true)
    (hlines : labelFault? text = none) (recording : Bool) (name : String) :
    compile chart .node (.text text) recording name =
      .ok (ofPattern text pattern recording name) := by
  have htext : text ≠ "" := by
    rintro rfl
    exact Pattern.read_nil pattern hread
  apply compile_text_of_unfaulty hread hnone
  rw [scriptFault?_ofPattern _ _ _ _ htext, hprinted, (Bool.and_eq_true_iff.mp hnames).1, hlines,
    parameterFault?_of_readable hnames]
  rfl

/-- A matcher that was compiled from a text is that of the pattern, which is not rejected. -/
theorem of_compile_text {text name : String} {recording : Bool} {pattern : Pattern Leaf}
    {matcher : Matcher} (hread : Pattern.read chart text.toList = .ok pattern)
    (hcompile : compile chart .node (.text text) recording name = .ok matcher) :
    pattern.rejection? .outside = none ∧ matcher = ofPattern text pattern recording name := by
  rw [compile_text hread] at hcompile
  cases hrejection : pattern.rejection? .outside with
  | some rejection =>
      rw [hrejection] at hcompile
      cases hcompile
  | none =>
      rw [hrejection] at hcompile
      exact ⟨rfl, (loaded_eq_ok hcompile).2⟩

end Matcher

namespace Pattern

theorem le_foldr_max {value : Nat} {values : List Nat} (member : value ∈ values) :
    value ≤ values.foldr max 0 := by
  induction values with
  | nil => cases member
  | cons first rest induction =>
      rw [List.foldr_cons]
      cases member with
      | head => exact Nat.le_max_left _ _
      | tail _ inRest => exact Nat.le_trans (induction inRest) (Nat.le_max_right _ _)

theorem le_lastPosition {pattern : Pattern Leaf} {loc : Range} {index : Nat}
    (member : leaf loc (.position index) ∈ pattern.walk) : index ≤ pattern.lastPosition :=
  le_foldr_max (List.mem_filterMap.mpr ⟨_, member, rfl⟩)

theorem mem_names {pattern : Pattern Leaf} {name : String} :
    name ∈ pattern.names ↔ ∃ loc, leaf loc (.named name) ∈ pattern.walk := by
  rw [names, List.mem_filterMap]
  constructor
  · rintro ⟨part, member, hname⟩
    cases part with
    | leaf loc value =>
        cases value with
        | named parameter =>
            cases hname
            exact ⟨loc, member⟩
        | _ => cases hname
    | _ => cases hname
  · rintro ⟨loc, member⟩
    exact ⟨_, member, rfl⟩

theorem ready_at_start {pattern : Pattern Leaf} (hnone : pattern.rejection? .outside = none)
    (subject : Value) :
    Ready .outside .start (List.replicate pattern.slots Value.absent).length pattern [subject] := by
  have hfixed := not_isVariadic hnone Standing.noConfusion
  refine ⟨hnone, suits_single hfixed subject, ?_⟩
  rw [List.length_replicate]
  exact Nat.le_of_eq (Nat.zero_add _)

end Pattern

namespace Leaf

/-- The leaf holds no number that is infinite or undefined. -/
def IsFinite : Leaf → Prop
  | float x => x.isFinite = true
  | _ => True

end Leaf

namespace Matcher

section Arguments

variable {text name : String} {recording : Bool} {pattern : Pattern Leaf} {arguments : Arguments}

theorem positional_length (accepts : (ofPattern text pattern recording name).Accepts arguments) :
    arguments.positional.length = pattern.lastPosition := by
  rw [(checkArguments_eq_ok.mp accepts.fits).1, positional_ofPattern, List.length_map,
    List.length_range']

theorem eachLeaf_served (hwellFormed : pattern.WellFormed)
    (accepts : (ofPattern text pattern recording name).Accepts arguments) (document : Document) :
    pattern.EachLeaf (Leaf.IsServed ((ofPattern text pattern recording name).bind arguments)
      (Scene.ofArguments document arguments)) := by
  have hlength := positional_length accepts
  have hzip : (ofPattern text pattern recording name).bind arguments =
      ((List.range' 1 pattern.lastPosition).map fun (number : Nat) =>
        Session.positionName number).zip arguments.positional ++ arguments.named := by
    rw [bind, positional_ofPattern, Arguments.named]
  intro loc value member
  cases value with
  | position index =>
      have hlower := hwellFormed.positions loc index member
      have hupper := Pattern.le_lastPosition member
      have hzero : index ≠ 0 := by omega
      have hinside : index - 1 < arguments.positional.length := by omega
      rw [Leaf.IsServed, hzip, List.lookup_append,
        Session.lookup_zip_positionNames _ 1 index _ hlength hlower (by omega),
        List.getElem?_eq_getElem hinside]
      simp only [Scene.ofArguments, hzero, if_false, List.getElem?_eq_getElem hinside,
        Option.some_or]
  | named parameter =>
      have hfree := (hwellFormed.parameters loc parameter member).2.2.2.2
      have hnone : (((List.range' 1 pattern.lastPosition).map fun (number : Nat) =>
          Session.positionName number).zip arguments.positional).lookup parameter = none := by
        rw [List.lookup_eq_none_iff]
        intro entry hentry
        obtain ⟨number, -, hnumber⟩ := List.mem_map.mp (List.of_mem_zip hentry).1
        rw [bne_iff_ne, ← hnumber]
        rintro rfl
        rw [Session.startsWith_positionName] at hfree
        cases hfree
      rw [Leaf.IsServed, hzip, List.lookup_append, hnone]
      rfl
  | _ => trivial

theorem eachLeaf_provided (hwellFormed : pattern.WellFormed)
    (admits : (ofPattern text pattern recording name).Admits arguments) (document : Document)
    (hfinite : pattern.EachLeaf Leaf.IsFinite) :
    pattern.EachLeaf fun leaf =>
      leaf.isProvided (Scene.ofArguments document arguments) = true := by
  have hlength := positional_length admits.toAccepts
  intro loc value member
  cases value with
  | float x => exact hfinite loc _ member
  | position index =>
      have hlower := hwellFormed.positions loc index member
      have hupper := Pattern.le_lastPosition member
      have hzero : index ≠ 0 := by omega
      have hinside : index - 1 < arguments.positional.length := by omega
      simp only [Leaf.isProvided, Scene.ofArguments, hzero, if_false,
        List.getElem?_eq_getElem hinside, Option.isSome_some]
  | named parameter =>
      have hmem : parameter ∈ (ofPattern text pattern recording name).named :=
        Session.mem_foldl_noteName.mpr (.inr (Pattern.mem_names.mpr ⟨loc, member⟩))
      obtain ⟨argument, hgiven⟩ := admits.given parameter hmem
      simp only [Leaf.isProvided, Scene.ofArguments, lookup_named hgiven, Option.isSome_some]
  | _ => rfl

end Arguments

theorem run_test_ofPattern {text name : String} {recording : Bool} {pattern : Pattern Leaf}
    {arguments : Arguments} (hnone : pattern.rejection? .outside = none)
    (hqueries : pattern.EachLeaf Leaf.EndsInQuery)
    (accepts : (ofPattern text pattern recording name).Accepts arguments) (document : Document)
    (subject : Value) :
    (pattern.test recording .root .start).run
        ⟨document, subject, (ofPattern text pattern recording name).bind arguments, []⟩ =
      pattern.exec recording (Scene.ofArguments document arguments) .start subject := by
  have hwellFormed := Pattern.wellFormed_of_unrejected hqueries hnone
  have hserved := eachLeaf_served hwellFormed accepts document
  exact Pattern.run_test recording pattern .outside .root .start _ _ subject hnone rfl rfl
    ⟨rfl, hqueries, hserved⟩

/-- A value that is returned reports a match: nothing without one, and else the slots, which hold
what was captured wherever something was. -/
def Reports (captures? : Option Captures) (returned : Value) : Prop :=
  match captures? with
  | none => returned = .absent
  | some captures =>
    ∃ slots : List Value, returned = resultOf slots ∧ slots.length = captures.length ∧
      ∀ (index : Nat) (value : Value),
        captures[index]? = some (some value) → slots[index]? = some value

/-- Without captures below negations the captures are all that is returned. -/
theorem Reports.exactly {pattern : Pattern Leaf} (hplain : pattern.NegatesNoCapture)
    {scene : Scene} {values : List Value} {captures : Captures}
    (hmatch : pattern.matching? scene values = some captures) {returned : Value}
    (reports : Reports (some captures) returned) :
    ∃ slots, captures = slots.map some ∧ returned = resultOf slots := by
  obtain ⟨slots, hreturned, hlength, hheld⟩ := reports
  refine ⟨slots, ?_, hreturned⟩
  have hall := Pattern.isSome_of_matching? hplain hmatch
  apply List.ext_getElem?
  intro index
  rw [List.getElem?_map]
  cases hslot : captures[index]? with
  | none =>
      have hbeyond : slots[index]? = none := by
        rw [List.getElem?_eq_none_iff] at hslot ⊢
        omega
      rw [hbeyond]
      rfl
  | some slot =>
      obtain ⟨value, rfl⟩ := Option.isSome_iff_exists.mp (hall slot (List.mem_of_getElem? hslot))
      rw [hheld index value hslot]
      rfl

theorem reports_of_call {text name : String} {recording : Bool} {pattern : Pattern Leaf}
    (hread : Pattern.read chart text.toList = .ok pattern)
    (hnone : pattern.rejection? .outside = none)
    (hfinite : pattern.EachLeaf Leaf.IsFinite) {arguments : Arguments}
    (admits : (ofPattern text pattern recording name).Admits arguments) (document : Document)
    (subject : Value) :
    ∃ returned,
      ((ofPattern text pattern recording name).call document subject arguments).returned =
        .ok returned ∧
      Reports (pattern.matching? (Scene.ofArguments document arguments) [subject]) returned := by
  have hqueries := Pattern.endsInQuery_of_read hread
  have hwellFormed := Pattern.wellFormed_of_unrejected hqueries hnone
  have hprovided := eachLeaf_provided hwellFormed admits document hfinite
  have ready := Pattern.ready_at_start hnone subject
  have hagrees := Pattern.exec_agrees recording pattern .outside .start
    (Scene.ofArguments document arguments) [subject]
    ⟨List.replicate pattern.slots .absent, []⟩ ready
  rw [Pattern.subjectOf_single (ready.fixed Standing.noConfusion),
    ← run_test_ofPattern hnone hqueries admits.toAccepts document subject] at hagrees
  rw [call_of_accepts admits.toAccepts admits.traced, execute, test_ofPattern, slots_ofPattern]
  generalize (pattern.test recording .root .start).run
    ⟨document, subject, (ofPattern text pattern recording name).bind arguments, []⟩
    ⟨List.replicate pattern.slots .absent, []⟩ = result at hagrees ⊢
  -- A fault would mean that a leaf lacks what it asks for, but all is provided.
  cases hagrees with
  | faulted after hlacks => exact absurd hprovided hlacks
  | answered after frame hfilled =>
      cases hmatch : pattern.matching? (Scene.ofArguments document arguments) [subject] with
      | none => exact ⟨.absent, rfl, rfl⟩
      | some captures =>
          obtain ⟨hwidth, hheld⟩ := hfilled captures hmatch
          refine ⟨resultOf after.slots, rfl, after.slots, rfl, ?_, ?_⟩
          · rw [frame.length, List.length_replicate, hwidth]
          · intro index value hvalue
            have hslot := hheld index value hvalue
            rwa [show Tally.start.slot + index = index from Nat.zero_add index] at hslot

end Matcher

end TreeMatch
