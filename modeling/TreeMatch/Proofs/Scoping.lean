import TreeMatch.Proofs.Calling

/-! The names of a test and where they come from: the parameters of a matcher, and the repetitions
around the place of their mention. -/

namespace TreeMatch

/-- The name that the expression for a place starts with. -/
def Place.origin : Place → String
  | root => rootName
  | child place _ => place.origin
  | parent place => place.origin
  | slice place .. => place.origin
  | element name => name

namespace Test

/-- The names of a test are in scope, where a repetition adds one that is made up for its elements,
and its constants have a property. -/
inductive Scoped (isConstant : Value → Prop) : List String → Test → Prop
  | always {scope : List String} : Scoped isConstant scope .always
  | never {scope : List String} : Scoped isConstant scope .never
  | allOf {scope : List String} {tests : List Test}
      (each : ∀ test ∈ tests, Scoped isConstant scope test) : Scoped isConstant scope (.allOf tests)
  | anyOf {scope : List String} {tests : List Test}
      (each : ∀ test ∈ tests, Scoped isConstant scope test) : Scoped isConstant scope (.anyOf tests)
  | not {scope : List String} {test : Test} (within : Scoped isConstant scope test) :
      Scoped isConstant scope (.not test)
  | isNode {scope : List String} {place : Place} (hplace : place.origin ∈ scope) :
      Scoped isConstant scope (.isNode place)
  | hasType {scope : List String} {place : Place} {type : Value} (hplace : place.origin ∈ scope)
      (htype : isConstant type) : Scoped isConstant scope (.hasType place (.atom type))
  | hasCount {scope : List String} {place : Place} (count : Count)
      (hplace : place.origin ∈ scope) : Scoped isConstant scope (.hasCount place count)
  | equals {scope : List String} {place : Place} {expected : Value}
      (hplace : place.origin ∈ scope) (hexpected : isConstant expected) :
      Scoped isConstant scope (.equals place (.atom expected))
  | equalsSymbol {scope : List String} {place : Place} {name : Value}
      (hplace : place.origin ∈ scope) (hname : isConstant name) :
      Scoped isConstant scope (.equalsSymbol place (.atom name))
  | isKind {scope : List String} {place : Place} (kind : Kind) (hplace : place.origin ∈ scope) :
      Scoped isConstant scope (.isKind place kind)
  | accepts {scope : List String} {place : Place} {parameter : String}
      (hplace : place.origin ∈ scope) (hparameter : parameter ∈ scope) :
      Scoped isConstant scope (.accepts place parameter)
  | capture {scope : List String} {place : Place} (slot : Nat) (hplace : place.origin ∈ scope) :
      Scoped isConstant scope (.capture slot place)
  | enter {scope : List String} {place : Place} (id : Nat) (hplace : place.origin ∈ scope)
      (htrace : Matcher.traceName ∈ scope) : Scoped isConstant scope (.enter id place)
  | succeed {scope : List String} {place : Place} (id : Nat) (hplace : place.origin ∈ scope)
      (htrace : Matcher.traceName ∈ scope) : Scoped isConstant scope (.succeed id place)
  | every {scope : List String} {items : Place} {body : Test} (tally : Tally)
      (hitems : items.origin ∈ scope)
      (within : Scoped isConstant (tally.elementName :: scope) body) :
      Scoped isConstant scope (.every tally.elementName items body)

end Test

namespace Leaf

/-- The parameter that a leaf asks for is in scope, and the constant of a leaf has a property. -/
def IsScoped (isConstant : Value → Prop) (scope : List String) : Leaf → Prop
  | rest => True
  | wildcard _ => True
  | nil => True
  | symbol name => isConstant (.str name)
  | int value => isConstant (.int value)
  | float value => isConstant (.float value)
  | string value => isConstant (.str value)
  | position index => Session.positionName index ∈ scope
  | named name => name ∈ scope
  | predicate name =>
    ∀ type, Compile.typeOfPredicate? name = some type → isConstant (.str type)
  | nodeType name => isConstant (.str name)

variable {isConstant : Value → Prop} {scope : List String} {place : Place}

theorem IsScoped.cons {leaf : Leaf} (within : leaf.IsScoped isConstant scope) (name : String) :
    leaf.IsScoped isConstant (name :: scope) := by
  cases leaf with
  | position index => exact List.mem_cons_of_mem name within
  | named parameter => exact List.mem_cons_of_mem name within
  | _ => exact within

theorem scoped_typeTest (hplace : place.origin ∈ scope) {type : String}
    (htype : isConstant (.str type)) :
    (Compile.typeTest place (.atom (.str type))).Scoped isConstant scope := by
  refine .allOf (List.forall_mem_cons.mpr ⟨.isNode hplace, ?_⟩)
  exact List.forall_mem_singleton.mpr (.hasType hplace htype)

theorem scoped_test (hplace : place.origin ∈ scope) {leaf : Leaf}
    (within : leaf.IsScoped isConstant scope) : (leaf.test place).Scoped isConstant scope := by
  cases leaf with
  | rest => exact .always
  | wildcard name => exact .always
  | nil => exact .isKind .absent hplace
  | symbol name => exact .equalsSymbol hplace within
  | int value => exact .equals hplace within
  | float value => exact .equals hplace within
  | string value => exact .equals hplace within
  | position index => exact .accepts hplace within
  | named name => exact .accepts hplace within
  | nodeType name => exact scoped_typeTest hplace within
  | predicate name =>
      rw [test, predicateTest?]
      split
      · exact .isKind _ hplace
      · exact scoped_typeTest hplace (within _ ‹_›)
      · exact .never

end Leaf

namespace Pattern

theorem origin_of_mem_placesOf {place site : Place} {terms : List (Pattern Leaf)}
    (member : site ∈ placesOf place terms) : site.origin = place.origin := by
  unfold placesOf Compile.termPlaces at member
  split at member
  · obtain ⟨index, -, rfl⟩ := List.mem_map.mp member
    rfl
  · rcases List.mem_append.mp member with before | behind
    · obtain ⟨index, -, rfl⟩ := List.mem_map.mp before
      rfl
    · rcases List.mem_cons.mp behind with rfl | after
      · rfl
      · obtain ⟨index, -, rfl⟩ := List.mem_map.mp after
        rfl

section Scopes

variable (recording : Bool) (isConstant : Value → Prop)

def Scopes (pattern : Pattern Leaf) : Prop :=
  ∀ (scope : List String) (place : Place) (tally : Tally), rootName ∈ scope →
    (recording = true → Matcher.traceName ∈ scope) →
    pattern.EachLeaf (Leaf.IsScoped isConstant scope) → place.origin ∈ scope →
    (pattern.test recording place tally).Scoped isConstant scope

variable {recording isConstant} {scope : List String} {place : Place}

theorem scoped_framed (htrace : recording = true → Matcher.traceName ∈ scope)
    (hplace : place.origin ∈ scope) {test : Test} (within : test.Scoped isConstant scope)
    (key : Nat) : (framed recording key place test).Scoped isConstant scope := by
  cases recording with
  | false => exact within
  | true =>
      refine .allOf (List.forall_mem_cons.mpr ⟨.enter key hplace (htrace rfl), ?_⟩)
      refine List.forall_mem_cons.mpr ⟨within, ?_⟩
      exact List.forall_mem_singleton.mpr (.succeed key hplace (htrace rfl))

section Lists

variable {patterns : List (Pattern Leaf)}
  (each : ∀ pattern ∈ patterns, pattern.Scopes recording isConstant)
  (hroot : rootName ∈ scope) (htrace : recording = true → Matcher.traceName ∈ scope)
  (hleaves : ∀ pattern ∈ patterns, pattern.EachLeaf (Leaf.IsScoped isConstant scope))
include each hroot htrace hleaves

theorem scoped_memberTests (hplace : place.origin ∈ scope) (tally : Tally) :
    ∀ test ∈ memberTests recording place tally patterns, test.Scoped isConstant scope := by
  induction patterns generalizing tally with
  | nil => exact List.forall_mem_nil _
  | cons pattern rest induction =>
      obtain ⟨first, later⟩ := List.forall_mem_cons.mp each
      obtain ⟨firstLeaves, laterLeaves⟩ := List.forall_mem_cons.mp hleaves
      rw [memberTests]
      exact List.forall_mem_cons.mpr
        ⟨first scope place tally hroot htrace firstLeaves hplace, induction later laterLeaves _⟩

theorem scoped_branchTests (hplace : place.origin ∈ scope) (tally : Tally) :
    ∀ test ∈ branchTests recording place tally patterns, test.Scoped isConstant scope := by
  induction patterns generalizing tally with
  | nil => exact List.forall_mem_nil _
  | cons pattern rest induction =>
      obtain ⟨first, later⟩ := List.forall_mem_cons.mp each
      obtain ⟨firstLeaves, laterLeaves⟩ := List.forall_mem_cons.mp hleaves
      rw [branchTests]
      exact List.forall_mem_cons.mpr
        ⟨first scope place tally hroot htrace firstLeaves hplace, induction later laterLeaves _⟩

theorem scoped_termTests {places : List Place} (hplaces : ∀ place ∈ places, place.origin ∈ scope)
    (tally : Tally) :
    ∀ test ∈ termTests recording places tally patterns, test.Scoped isConstant scope := by
  induction patterns generalizing places tally with
  | nil => exact List.forall_mem_nil _
  | cons pattern rest induction =>
      obtain ⟨first, later⟩ := List.forall_mem_cons.mp each
      obtain ⟨firstLeaves, laterLeaves⟩ := List.forall_mem_cons.mp hleaves
      have hplace : (places.headD .root).origin ∈ scope := by
        cases places with
        | nil => exact hroot
        | cons place places => exact hplaces place List.mem_cons_self
      rw [termTests]
      exact List.forall_mem_cons.mpr
        ⟨first scope _ tally hroot htrace firstLeaves hplace,
          induction later laterLeaves (fun place member => hplaces place (List.mem_of_mem_tail member))
            _⟩

end Lists

/-- The names of a pattern's test are the parameters in scope, and those that the repetitions of the
pattern make up for their elements. -/
theorem scopes (pattern : Pattern Leaf) : pattern.Scopes recording isConstant := by
  induction pattern using induct with
  | leaf loc value =>
      intro scope place tally hroot htrace hleaves hplace
      rw [eachLeaf_leaf] at hleaves
      exact scoped_framed htrace hplace (Leaf.scoped_test hplace hleaves) _
  | marked loc mark inner induction =>
      intro scope place tally hroot htrace hleaves hplace
      rw [eachLeaf_marked] at hleaves
      cases mark with
      | capture =>
          refine scoped_framed htrace hplace (.allOf (List.forall_mem_cons.mpr ⟨?_, ?_⟩)) _
          · exact induction scope place tally.captured hroot htrace hleaves hplace
          · exact List.forall_mem_singleton.mpr (.capture tally.slot hplace)
      | negation =>
          have within := induction scope place tally.inner hroot htrace hleaves hplace
          exact scoped_framed htrace hplace (.not within) _
      | ascend =>
          refine scoped_framed htrace hplace (.allOf (List.forall_mem_cons.mpr ⟨?_, ?_⟩)) _
          · exact .isNode hplace
          · exact List.forall_mem_singleton.mpr
              (induction scope place.parent tally.inner hroot htrace hleaves hplace)
  | repeated loc inner quantity induction =>
      intro scope place tally hroot htrace hleaves hplace
      rw [eachLeaf_repeated] at hleaves
      -- The scope grows by the name of the element, and all that was in scope stays in it.
      have helement : (Place.element tally.elementName).origin ∈ tally.elementName :: scope :=
        List.mem_cons_self
      have within := induction (tally.elementName :: scope) (.element tally.elementName)
        tally.repeated (List.mem_cons_of_mem _ hroot)
        (fun hrecording => List.mem_cons_of_mem _ (htrace hrecording))
        (fun loc value member => (hleaves loc value member).cons _) helement
      exact scoped_framed htrace hplace (.every tally hplace within) _
  | grouped loc bracket first others firstHolds othersHold =>
      intro scope place tally hroot htrace hleaves hplace
      rw [eachLeaf_grouped] at hleaves
      obtain ⟨firstLeaves, othersLeaves⟩ := hleaves
      have within := firstHolds scope place tally.inner hroot htrace firstLeaves hplace
      cases bracket with
      | sequence =>
          have hplaces : ∀ site ∈ placesOf place others, site.origin ∈ scope := by
            intro site member
            rw [origin_of_mem_placesOf member]
            exact hplace
          have hterms := scoped_termTests othersHold hroot htrace othersLeaves hplaces
            (tally.inner.after first)
          refine scoped_framed htrace hplace (.allOf (List.forall_mem_cons.mpr ⟨?_, ?_⟩)) _
          · exact .isNode hplace
          · exact List.forall_mem_cons.mpr
              ⟨within, List.forall_mem_cons.mpr ⟨.hasCount (countOf others) hplace, hterms⟩⟩
      | union =>
          have hbranches := scoped_branchTests othersHold hroot htrace othersLeaves hplace
            (tally.inner.beside first)
          exact scoped_framed htrace hplace
            (.anyOf (List.forall_mem_cons.mpr ⟨within, hbranches⟩)) _
      | intersection =>
          have hmembers := scoped_memberTests othersHold hroot htrace othersLeaves hplace
            (tally.inner.after first)
          exact scoped_framed htrace hplace
            (.allOf (List.forall_mem_cons.mpr ⟨within, hmembers⟩)) _

end Scopes

end Pattern

namespace Matcher

section Parameters

variable {text name : String} {recording : Bool} {pattern : Pattern Leaf}
  {isConstant : Value → Prop}

theorem mem_parameters_ofPattern {parameter : String} :
    parameter ∈ (ofPattern text pattern recording name).parameters ↔
      parameter = rootName ∨
        (∃ index, 1 ≤ index ∧ index ≤ pattern.lastPosition ∧
          Session.positionName index = parameter) ∨
        parameter ∈ pattern.names ∨ recording = true ∧ parameter = traceName := by
  have hposition : parameter ∈ (ofPattern text pattern recording name).positional ↔
      ∃ index : Nat, 1 ≤ index ∧ index ≤ pattern.lastPosition ∧
        Session.positionName index = parameter := by
    rw [positional_ofPattern, List.mem_map]
    constructor
    · rintro ⟨index, member, hname⟩
      obtain ⟨hlower, hupper⟩ := List.mem_range'_1.mp member
      exact ⟨index, hlower, by omega, hname⟩
    · rintro ⟨index, hlower, hupper, hname⟩
      exact ⟨index, List.mem_range'_1.mpr ⟨hlower, by omega⟩, hname⟩
  have hnamed : parameter ∈ (ofPattern text pattern recording name).named ↔
      parameter ∈ pattern.names := by
    rw [named_ofPattern, Session.mem_foldl_noteName]
    exact or_iff_right List.not_mem_nil
  have htrace : parameter ∈ (ofPattern text pattern recording name).instrumented ↔
      recording = true ∧ parameter = traceName := by
    rw [instrumented, recording_ofPattern]
    cases recording <;> simp
  rw [parameters, keywordParameters, List.cons_append, List.mem_cons, List.mem_append,
    List.mem_append, hposition, hnamed, htrace]

/-- All names of a matcher's test are its parameters, but for those of the elements of
repetitions. -/
theorem scoped_ofPattern (hwellFormed : pattern.WellFormed)
    (hstring : ∀ s, isConstant (.str s)) (hinteger : ∀ i, isConstant (.int i))
    (hfloat : ∀ loc x, .leaf loc (.float x) ∈ pattern.walk → isConstant (.float x)) :
    (ofPattern text pattern recording name).test.Scoped isConstant
      (ofPattern text pattern recording name).parameters := by
  have hleaves : pattern.EachLeaf (Leaf.IsScoped isConstant
      (ofPattern text pattern recording name).parameters) := by
    intro loc value member
    cases value with
    | rest | wildcard | nil => trivial
    | symbol | string | nodeType => exact hstring _
    | int value => exact hinteger value
    | float value => exact hfloat loc value member
    | predicate => exact fun type _ => hstring type
    | position index =>
        have hlower := hwellFormed.positions loc index member
        exact mem_parameters_ofPattern.mpr
          (.inr (.inl ⟨index, hlower, Pattern.le_lastPosition member, rfl⟩))
    | named parameter =>
        exact mem_parameters_ofPattern.mpr
          (.inr (.inr (.inl (Pattern.mem_names.mpr ⟨loc, member⟩))))
  have hroot : rootName ∈ (ofPattern text pattern recording name).parameters := List.mem_cons_self
  rw [test_ofPattern]
  refine pattern.scopes _ .root .start hroot (fun hrecording => ?_) hleaves hroot
  exact mem_parameters_ofPattern.mpr (.inr (.inr (.inr ⟨hrecording, rfl⟩)))

end Parameters

end Matcher

end TreeMatch
