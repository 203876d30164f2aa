import Mathlib
import TreeMatch.Proofs.Compiled
import TreeMatch.Proofs.Reading

/-! Which patterns compile: those that are well-formed. Any other is reported for a clause that it
violates, at the part that violates it. -/

namespace TreeMatch

variable {chart : Text.CodeChart}

namespace Leaf

/-- A predicate of the table, or one that asks for a type by its name. -/
def IsKnownPredicate (name : String) : Prop :=
  name ∈ Compile.predicateKinds.map Prod.fst ∨
    ∃ type, name = type ++ "_type?" ∧ ∃ first rest, type.toList = first :: rest ∧
      Text.isAsciiLower first = true ∧ ∀ c ∈ rest, Text.isAlphanumeric c = true

def IsFreeName (name : String) : Prop :=
  name ∉ Script.reservedNames ∧ name ∉ Script.helperNames ∧ name ∉ Script.builtinNames ∧
    name ∉ Script.keywords ∧ name.startsWith "_" = false

end Leaf

namespace Pattern

def isRun : Pattern Leaf → Bool
  | leaf _ .rest => true
  | repeated .. => true
  | _ => false

mutual

/-- The parts of a pattern in the order of `walk`, each with where it stands. -/
def placed (standing : Standing) : Pattern Leaf → List (Standing × Pattern Leaf)
  | leaf loc value => [(standing, leaf loc value)]
  | marked loc mark inner =>
    (standing, marked loc mark inner) :: placed (standing.under mark) inner
  | repeated loc inner quantity =>
    (standing, repeated loc inner quantity) :: placed standing.inner inner
  | grouped loc .sequence first others =>
    (standing, grouped loc .sequence first others) ::
      (placed .within first ++ placedAll .term others)
  | grouped loc bracket first others =>
    (standing, grouped loc bracket first others) ::
      (placed standing.inner first ++ placedAll standing.inner others)
termination_by structural pattern => pattern

def placedAll (standing : Standing) : List (Pattern Leaf) → List (Standing × Pattern Leaf)
  | [] => []
  | pattern :: rest => placed standing pattern ++ placedAll standing rest
termination_by structural patterns => patterns

end

structure WellFormed (pattern : Pattern Leaf) : Prop where
  /-- A rest and a repetition are, captures aside, terms of a sequence behind the head. -/
  runs : ∀ standing part, (standing, part) ∈ pattern.placed .outside → part.isRun = true →
    standing = .term
  /-- A sequence has at most one variadic term. -/
  single : ∀ loc first others, grouped loc .sequence first others ∈ pattern.walk →
    (others.filter isVariadic).length ≤ 1
  /-- Nothing is captured below a repetition. -/
  uncaptured : ∀ loc inner quantity, repeated loc inner quantity ∈ pattern.walk →
    ∀ part ∈ inner.walk, part.isCapture = false
  /-- The branches of a union take the same number of slots. -/
  balanced : ∀ loc first others, grouped loc .union first others ∈ pattern.walk →
    ∀ other ∈ others, other.slots = first.slots
  predicates : ∀ loc name, leaf loc (.predicate name) ∈ pattern.walk → Leaf.IsKnownPredicate name
  positions : ∀ loc index, leaf loc (.position index) ∈ pattern.walk → 1 ≤ index
  parameters : ∀ loc name, leaf loc (.named name) ∈ pattern.walk → Leaf.IsFreeName name

/-- A part violates a clause where it stands; a report of that has the code and the range. -/
inductive Violates : Standing → Pattern Leaf → ErrorCode → Range → Prop
  | unenclosed (part : Pattern Leaf) (hrun : part.isRun = true) :
      Violates .outside part .unsupportedNode part.loc
  | misplaced (part : Pattern Leaf) (hrun : part.isRun = true) :
      Violates .within part .variadicOutsideSequence part.loc
  | crowded (standing : Standing) (loc : Range) (first : Pattern Leaf)
      (others : List (Pattern Leaf)) (single second : Pattern Leaf) (rest : List (Pattern Leaf))
      (hsecond : others.filter isVariadic = single :: second :: rest) :
      Violates standing (grouped loc .sequence first others) .multipleVariadic second.loc
  | captured (standing : Standing) (loc : Range) (inner : Pattern Leaf) (quantity : Quantity)
      (part : Pattern Leaf) (member : part ∈ inner.walk) (hcapture : part.isCapture = true) :
      Violates standing (repeated loc inner quantity) .captureInRepetition loc
  | unbalanced (standing : Standing) (loc : Range) (first : Pattern Leaf)
      (others : List (Pattern Leaf)) (other : Pattern Leaf) (member : other ∈ others)
      (hslots : other.slots ≠ first.slots) :
      Violates standing (grouped loc .union first others) .unbalancedCaptures loc
  | unknown (standing : Standing) (loc : Range) (name : String)
      (hname : ¬ Leaf.IsKnownPredicate name) :
      Violates standing (leaf loc (.predicate name)) .unknownPredicate loc
  | belowOne (standing : Standing) (loc : Range) :
      Violates standing (leaf loc (.position 0)) .reservedParameter loc
  | taken (standing : Standing) (loc : Range) (name : String) (hname : ¬ Leaf.IsFreeName name) :
      Violates standing (leaf loc (.named name)) .reservedParameter loc

end Pattern

namespace Leaf

theorem predicateTest?_isNone {name : String} (hquery : name.toList.getLast? = some '?') :
    (predicateTest? .root name).isNone = true ↔ ¬ IsKnownPredicate name := by
  have hknown : name ∈ Compile.predicateKinds.map Prod.fst ↔
      (Compile.predicateKinds.lookup name).isSome = true := by
    rw [List.lookup_isSome_iff, List.mem_map]
    simp only [beq_iff_eq, eq_comm (a := name)]
  simp only [IsKnownPredicate, ← Compile.typeOfPredicate?_eq_some hquery, hknown, predicateTest?]
  cases Compile.predicateKinds.lookup name with
  | some kind => simp
  | none => cases Compile.typeOfPredicate? name <;> simp

theorem startsWith_of_object {name : String} (hname : name ∈ Script.objectNames) :
    name.startsWith "_" = true := by
  have hobjects : ∀ other ∈ Script.objectNames, other.toList.head? = some '_' := by decide
  obtain ⟨rest, hrest⟩ := List.head?_eq_some_iff.mp (hobjects name hname)
  rw [String.startsWith_string_iff, hrest]
  exact ⟨rest, rfl⟩

theorem isReservedName_iff (name : String) : isReservedName name = true ↔ ¬ IsFreeName name := by
  have hobject : name ∈ Script.objectNames → name.startsWith "_" = true := startsWith_of_object
  simp only [isReservedName, IsFreeName, Script.isShadowing, Script.isKeyword, Bool.or_eq_true,
    List.contains_iff_mem]
  cases hunderscore : name.startsWith "_" with
  | true => simp
  | false =>
      have hnot : name ∉ Script.objectNames := by
        intro hmem
        rw [hobject hmem] at hunderscore
        cases hunderscore
      simp only [hnot, Bool.false_eq_true, or_false, and_true]
      tauto

end Leaf

namespace Pattern

theorem mem_placedAll {standing place : Standing} {part : Pattern Leaf}
    {patterns : List (Pattern Leaf)} :
    (place, part) ∈ placedAll standing patterns ↔
      ∃ pattern ∈ patterns, (place, part) ∈ pattern.placed standing := by
  induction patterns with
  | nil => simp [placedAll]
  | cons pattern rest induction => simp [placedAll, induction]

theorem mem_placed_self (standing : Standing) (pattern : Pattern Leaf) :
    (standing, pattern) ∈ pattern.placed standing := by
  cases pattern with
  | grouped loc bracket first others => cases bracket <;> simp [placed]
  | _ => simp [placed]

theorem rejectionAmong?_eq_none {standing : Standing} {patterns : List (Pattern Leaf)} :
    rejectionAmong? standing patterns = none ↔
      ∀ pattern ∈ patterns, pattern.rejection? standing = none := by
  induction patterns with
  | nil => simp [rejectionAmong?]
  | cons pattern rest induction => simp [rejectionAmong?, induction]

theorem exists_of_rejectionAmong? {standing : Standing} {patterns : List (Pattern Leaf)}
    {rejection : Rejection} (hsome : rejectionAmong? standing patterns = some rejection) :
    ∃ pattern ∈ patterns, pattern.rejection? standing = some rejection := by
  induction patterns with
  | nil => cases hsome
  | cons pattern rest induction =>
      rw [rejectionAmong?, Option.or_eq_some_iff] at hsome
      rcases hsome with hhead | ⟨-, hrest⟩
      · exact ⟨pattern, by simp, hhead⟩
      · obtain ⟨other, member, hother⟩ := induction hrest
        exact ⟨other, by simp [member], hother⟩

theorem violates_of_cause {value : Leaf} (hquery : value.EndsInQuery) {standing : Standing}
    {cause : CompileCause} (hcause : value.cause? standing = some cause) (loc : Range) :
    Violates standing (leaf loc value) cause.code loc := by
  cases value with
  | rest =>
      cases standing with
      | outside =>
          cases hcause
          exact .unenclosed (leaf loc .rest) rfl
      | within =>
          cases hcause
          exact .misplaced (leaf loc .rest) rfl
      | term => cases hcause
  | position index =>
      cases index with
      | zero =>
          cases hcause
          exact .belowOne standing loc
      | succ index => cases hcause
  | named name =>
      rw [Leaf.cause?] at hcause
      split at hcause
      · rename_i hreserved
        cases hcause
        exact .taken standing loc name ((Leaf.isReservedName_iff name).mp hreserved)
      · cases hcause
  | predicate name =>
      rw [Leaf.cause?] at hcause
      split at hcause
      · rename_i hunknown
        cases hcause
        exact .unknown standing loc name ((Leaf.predicateTest?_isNone hquery).mp hunknown)
      · cases hcause
  | _ => cases hcause

def Offends (parts : List (Standing × Pattern Leaf)) (code : ErrorCode) (loc : Range) : Prop :=
  ∃ place part, (place, part) ∈ parts ∧ Violates place part code loc

theorem Offends.mono {parts more : List (Standing × Pattern Leaf)} {code : ErrorCode}
    {loc : Range} (offends : Offends parts code loc) (hmore : ∀ part ∈ parts, part ∈ more) :
    Offends more code loc := by
  obtain ⟨place, part, member, hviolates⟩ := offends
  exact ⟨place, part, hmore _ member, hviolates⟩

theorem Offends.self {standing : Standing} {pattern : Pattern Leaf} {code : ErrorCode}
    {loc : Range} (hviolates : Violates standing pattern code loc) :
    Offends (pattern.placed standing) code loc :=
  ⟨standing, pattern, mem_placed_self standing pattern, hviolates⟩

section Brackets

variable {range loc : Range} {first : Pattern Leaf} {others : List (Pattern Leaf)}
  {standing : Standing} {cause : CompileCause}
  (hfirst : ∀ {below}, first.rejection? below = some (cause, loc) →
    Offends (first.placed below) cause.code loc)
  (hothers : ∀ {below}, rejectionAmong? below others = some (cause, loc) →
    Offends (placedAll below others) cause.code loc)
include hfirst hothers

theorem offends_sequence
    (hrejection : (grouped range .sequence first others).rejection? standing = some (cause, loc)) :
    Offends ((grouped range .sequence first others).placed standing) cause.code loc := by
  rw [rejection?, Option.or_eq_some_iff, Option.or_eq_some_iff] at hrejection
  rcases hrejection with hcrowded | ⟨-, hhead | ⟨-, hterms⟩⟩
  · rcases layout_or_second others with layout | ⟨single, second, rest, hsecond⟩
    · rw [crowding?_of_layout layout] at hcrowded
      cases hcrowded
    · rw [crowding?_of_second hsecond] at hcrowded
      cases hcrowded
      exact .self (.crowded standing range first others single second rest hsecond)
  · exact (hfirst hhead).mono fun part member => by simp [placed, member]
  · exact (hothers hterms).mono fun part member => by simp [placed, member]

theorem offends_union
    (hrejection : (grouped range .union first others).rejection? standing = some (cause, loc)) :
    Offends ((grouped range .union first others).placed standing) cause.code loc := by
  rw [rejection?, Option.or_eq_some_iff, Option.or_eq_some_iff] at hrejection
  rcases hrejection with (hhead | ⟨-, hbranches⟩) | ⟨-, hbalance⟩
  · exact (hfirst hhead).mono fun part member => by simp [placed, member]
  · exact (hothers hbranches).mono fun part member => by simp [placed, member]
  · split at hbalance
    · cases hbalance
    · rename_i hunequal
      cases hbalance
      simp only [List.all_eq_true, beq_iff_eq, not_forall] at hunequal
      obtain ⟨other, member, hslots⟩ := hunequal
      exact .self (.unbalanced standing range first others other member hslots)

theorem offends_intersection
    (hrejection :
      (grouped range .intersection first others).rejection? standing = some (cause, loc)) :
    Offends ((grouped range .intersection first others).placed standing) cause.code loc := by
  rw [rejection?, Option.or_eq_some_iff] at hrejection
  rcases hrejection with hhead | ⟨-, hmembers⟩
  · exact (hfirst hhead).mono fun part member => by simp [placed, member]
  · exact (hothers hmembers).mono fun part member => by simp [placed, member]

end Brackets

/-- The code and the range of a rejection are those of a violated clause. -/
theorem offends_of_rejection {pattern : Pattern Leaf}
    (hleaves : pattern.EachLeaf Leaf.EndsInQuery) {standing : Standing} {cause : CompileCause}
    {loc : Range} (hrejection : pattern.rejection? standing = some (cause, loc)) :
    Offends (pattern.placed standing) cause.code loc := by
  induction pattern using induct generalizing standing with
  | leaf range value =>
      rw [eachLeaf_leaf] at hleaves
      rw [rejection?, Option.map_eq_some_iff] at hrejection
      obtain ⟨found, hcause, hsame⟩ := hrejection
      cases hsame
      exact .self (violates_of_cause hleaves hcause loc)
  | marked range mark inner induction =>
      rw [eachLeaf_marked] at hleaves
      exact (induction hleaves hrejection).mono fun part member => by simp [placed, member]
  | repeated range inner quantity induction =>
      rw [eachLeaf_repeated] at hleaves
      cases standing with
      | outside =>
          cases hrejection
          exact .self (.unenclosed (repeated loc inner quantity) rfl)
      | within =>
          cases hrejection
          exact .self (.misplaced (repeated loc inner quantity) rfl)
      | term =>
          rw [rejection?] at hrejection
          -- Captures in the body are found before the body is compiled.
          split at hrejection
          · rename_i hcaptures
            cases hrejection
            obtain ⟨part, member, hcapture⟩ := List.any_eq_true.mp hcaptures
            exact .self (.captured .term loc inner quantity part member hcapture)
          · apply (induction hleaves hrejection).mono
            intro part member
            simp [placed, Standing.inner, member]
  | grouped range bracket first others firstHolds othersHold =>
      rw [eachLeaf_grouped] at hleaves
      have hfirst : ∀ {below}, first.rejection? below = some (cause, loc) →
          Offends (first.placed below) cause.code loc := firstHolds hleaves.1
      have hothers : ∀ {below}, rejectionAmong? below others = some (cause, loc) →
          Offends (placedAll below others) cause.code loc := by
        intro below hsome
        obtain ⟨other, hother, hrejected⟩ := exists_of_rejectionAmong? hsome
        apply (othersHold other hother (hleaves.2 other hother) hrejected).mono
        intro part member
        exact mem_placedAll.mpr ⟨other, hother, member⟩
      cases bracket with
      | sequence => exact offends_sequence hfirst hothers hrejection
      | union => exact offends_union hfirst hothers hrejection
      | intersection => exact offends_intersection hfirst hothers hrejection

/-- A pattern with nothing to reject has no part to reject where it stands. -/
theorem rejection?_placed {pattern : Pattern Leaf} {standing : Standing}
    (hnone : pattern.rejection? standing = none) (place : Standing) (part : Pattern Leaf)
    (member : (place, part) ∈ pattern.placed standing) : part.rejection? place = none := by
  induction pattern using induct generalizing standing with
  | leaf loc value =>
      rw [placed, List.mem_singleton] at member
      cases member
      exact hnone
  | marked loc mark inner induction =>
      rw [placed, List.mem_cons] at member
      rcases member with hself | hinner
      · cases hself
        exact hnone
      · exact induction hnone hinner
  | repeated loc inner quantity induction =>
      rw [placed, List.mem_cons] at member
      rcases member with hself | hinner
      · cases hself
        exact hnone
      · cases standing with
        | outside => cases hnone
        | within => cases hnone
        | term =>
            rw [rejection?] at hnone
            split at hnone
            · cases hnone
            · exact induction hnone hinner
  | grouped loc bracket first others firstHolds othersHold =>
      have hamong : ∀ {below}, rejectionAmong? below others = none →
          (place, part) ∈ placedAll below others → part.rejection? place = none := by
        intro below hothers hplaced
        obtain ⟨other, hother, hmember⟩ := mem_placedAll.mp hplaced
        exact othersHold other hother (rejectionAmong?_eq_none.mp hothers other hother) hmember
      cases bracket with
      | sequence =>
          rw [placed, List.mem_cons, List.mem_append] at member
          rcases member with hself | hinner
          · cases hself
            exact hnone
          · rw [rejection?, Option.or_eq_none_iff, Option.or_eq_none_iff] at hnone
            rcases hinner with hhead | hterm
            · exact firstHolds hnone.2.1 hhead
            · exact hamong hnone.2.2 hterm
      | union =>
          rw [placed, List.mem_cons, List.mem_append] at member
          · rcases member with hself | hinner
            · cases hself
              exact hnone
            · rw [rejection?, Option.or_eq_none_iff, Option.or_eq_none_iff] at hnone
              rcases hinner with hhead | hbranch
              · exact firstHolds hnone.1.1 hhead
              · exact hamong hnone.1.2 hbranch
          · exact Bracket.noConfusion
      | intersection =>
          rw [placed, List.mem_cons, List.mem_append] at member
          · rcases member with hself | hinner
            · cases hself
              exact hnone
            · rw [rejection?, Option.or_eq_none_iff] at hnone
              rcases hinner with hhead | hmember
              · exact firstHolds hnone.1 hhead
              · exact hamong hnone.2 hmember
          · exact Bracket.noConfusion

theorem map_snd_placedAll {patterns : List (Pattern Leaf)}
    (each : ∀ pattern ∈ patterns, ∀ standing,
      (pattern.placed standing).map Prod.snd = pattern.walk) (standing : Standing) :
    (placedAll standing patterns).map Prod.snd = walkAll patterns := by
  induction patterns with
  | nil => rfl
  | cons pattern rest induction =>
      rw [placedAll, List.map_append, each pattern (by simp), walkAll,
        induction (fun other member => each other (by simp [member]))]

theorem map_snd_placed (pattern : Pattern Leaf) (standing : Standing) :
    (pattern.placed standing).map Prod.snd = pattern.walk := by
  induction pattern using induct generalizing standing with
  | leaf loc value => rfl
  | marked loc mark inner induction => rw [placed, List.map_cons, induction, walk]
  | repeated loc inner quantity induction => rw [placed, List.map_cons, induction, walk]
  | grouped loc bracket first others firstHolds othersHold =>
      have hothers := map_snd_placedAll othersHold
      cases bracket <;> simp [placed, walk, firstHolds, hothers]

theorem exists_placed {pattern part : Pattern Leaf} (member : part ∈ pattern.walk) :
    ∃ place, (place, part) ∈ pattern.placed .outside := by
  rw [← map_snd_placed pattern .outside] at member
  obtain ⟨⟨place, found⟩, hplaced, rfl⟩ := List.mem_map.mp member
  exact ⟨place, hplaced⟩

theorem not_violates {pattern : Pattern Leaf} (hwellFormed : pattern.WellFormed)
    {place : Standing} {part : Pattern Leaf} (member : (place, part) ∈ pattern.placed .outside)
    (code : ErrorCode) (loc : Range) : ¬ Violates place part code loc := by
  have hwalk : part ∈ pattern.walk := by
    rw [← map_snd_placed pattern .outside]
    exact List.mem_map_of_mem member
  intro hviolates
  cases hviolates with
  | unenclosed part hrun => cases hwellFormed.runs _ _ member hrun
  | misplaced part hrun => cases hwellFormed.runs _ _ member hrun
  | crowded standing range first others single second rest hsecond =>
      have hlength := hwellFormed.single _ _ _ hwalk
      rw [hsecond] at hlength
      simp at hlength
  | captured standing range inner quantity captured hmember hcapture =>
      rw [hwellFormed.uncaptured _ _ _ hwalk captured hmember] at hcapture
      cases hcapture
  | unbalanced standing range first others other hmember hslots =>
      exact hslots (hwellFormed.balanced _ _ _ hwalk other hmember)
  | unknown standing range name hname => exact hname (hwellFormed.predicates _ _ hwalk)
  | belowOne standing range =>
      have hpositive := hwellFormed.positions _ _ hwalk
      omega
  | taken standing range name hname => exact hname (hwellFormed.parameters _ _ hwalk)

section Unrejected

variable {loc : Range} {place : Standing}

theorem standing_of_isRun {part : Pattern Leaf} (hnone : part.rejection? place = none)
    (hrun : part.isRun = true) : place = .term := by
  cases place with
  | term => rfl
  | outside | within =>
      cases part with
      | leaf loc value =>
          cases value with
          | rest => cases hnone
          | _ => cases hrun
      | repeated loc inner quantity => cases hnone
      | _ => cases hrun

theorem isCapture_of_unrejected {inner part : Pattern Leaf} {quantity : Quantity}
    (hnone : (repeated loc inner quantity).rejection? place = none) (member : part ∈ inner.walk) :
    part.isCapture = false := by
  cases place with
  | outside | within => cases hnone
  | term =>
      rw [rejection?] at hnone
      split at hnone
      · cases hnone
      · rename_i hcaptures
        have hnot := List.any_eq_false.mp (Bool.eq_false_iff.mpr hcaptures) part member
        exact Bool.eq_false_iff.mpr hnot

theorem slots_of_unrejected {first other : Pattern Leaf} {others : List (Pattern Leaf)}
    (hnone : (grouped loc .union first others).rejection? place = none) (member : other ∈ others) :
    other.slots = first.slots := by
  rw [rejection?, Option.or_eq_none_iff] at hnone
  have hbalance := hnone.2
  split at hbalance
  · rename_i hall
    simpa using List.all_eq_true.mp hall other member
  · cases hbalance

theorem isKnownPredicate_of_unrejected {name : String}
    (hquery : name.toList.getLast? = some '?')
    (hnone : (leaf loc (.predicate name)).rejection? place = none) :
    Leaf.IsKnownPredicate name := by
  rw [rejection?, Option.map_eq_none_iff, Leaf.cause?] at hnone
  split at hnone
  · cases hnone
  · rename_i hknown
    by_contra hunknown
    exact hknown ((Leaf.predicateTest?_isNone hquery).mpr hunknown)

theorem isFreeName_of_unrejected {name : String}
    (hnone : (leaf loc (.named name)).rejection? place = none) : Leaf.IsFreeName name := by
  rw [rejection?, Option.map_eq_none_iff, Leaf.cause?] at hnone
  split at hnone
  · cases hnone
  · rename_i hfree
    by_contra htaken
    exact hfree ((Leaf.isReservedName_iff name).mpr htaken)

end Unrejected

theorem wellFormed_of_unrejected {pattern : Pattern Leaf}
    (hleaves : pattern.EachLeaf Leaf.EndsInQuery) (hnone : pattern.rejection? .outside = none) :
    pattern.WellFormed := by
  have hparts : ∀ part ∈ pattern.walk, ∃ place, part.rejection? place = none := by
    intro part member
    obtain ⟨place, hplaced⟩ := exists_placed member
    exact ⟨place, rejection?_placed hnone place part hplaced⟩
  constructor
  case runs =>
    intro standing part member hrun
    exact standing_of_isRun (rejection?_placed hnone standing part member) hrun
  case single =>
    intro loc first others member
    obtain ⟨place, hpart⟩ := hparts _ member
    rw [rejection?, Option.or_eq_none_iff] at hpart
    exact length_filter_isVariadic (layout_of_crowding? hpart.1)
  case uncaptured =>
    intro loc inner quantity member part hmember
    obtain ⟨place, hpart⟩ := hparts _ member
    exact isCapture_of_unrejected hpart hmember
  case balanced =>
    intro loc first others member other hmember
    obtain ⟨place, hpart⟩ := hparts _ member
    exact slots_of_unrejected hpart hmember
  case predicates =>
    intro loc name member
    obtain ⟨place, hpart⟩ := hparts _ member
    exact isKnownPredicate_of_unrejected (hleaves loc _ member) hpart
  case positions =>
    intro loc index member
    obtain ⟨place, hpart⟩ := hparts _ member
    cases index with
    | zero => cases hpart
    | succ index => omega
  case parameters =>
    intro loc name member
    obtain ⟨place, hpart⟩ := hparts _ member
    exact isFreeName_of_unrejected hpart

theorem unrejected_iff {pattern : Pattern Leaf} (hleaves : pattern.EachLeaf Leaf.EndsInQuery) :
    pattern.rejection? .outside = none ↔ pattern.WellFormed := by
  refine ⟨wellFormed_of_unrejected hleaves, fun hwellFormed => ?_⟩
  cases hrejection : pattern.rejection? .outside with
  | none => rfl
  | some rejection =>
      obtain ⟨place, part, member, hviolates⟩ := offends_of_rejection hleaves hrejection
      exact absurd hviolates (not_violates hwellFormed member _ _)

end Pattern

namespace Matcher

/-- The patterns that compile are the well-formed ones. Any other is reported as a fault of the
pattern, with the code of a clause and the range of a part that violates it. -/
theorem ofTerm_ok_iff_wellFormed (text : String) (pattern : Pattern Leaf)
    (hread : Pattern.read chart text.toList = .ok pattern) (recording : Bool) (name : String) :
    ((∃ matcher, ofTerm .node text pattern.toTerm recording name = .ok matcher) ↔
      pattern.WellFormed) ∧
    ∀ failure, ofTerm .node text pattern.toTerm recording name = .error failure →
      ∃ diagnostic, failure = .reported diagnostic ∧
        (diagnostic.subject = .pattern ∨ ∃ tag, diagnostic.subject = .unsupported tag) ∧
        ∃ place part loc, (place, part) ∈ pattern.placed .outside ∧
          Pattern.Violates place part diagnostic.code loc ∧
          diagnostic.span = Span.ofRange text.toList loc := by
  have hleaves := Pattern.endsInQuery_of_read hread
  have htext : text ≠ "" := by
    rintro rfl
    exact Pattern.read_nil pattern hread
  rw [ofTerm_toTerm, ← Pattern.unrejected_iff hleaves]
  cases hrejection : pattern.rejection? .outside with
  | none => simp
  | some rejection =>
      refine ⟨by simp, ?_⟩
      intro failure hfailure
      cases hfailure
      obtain ⟨cause, loc⟩ := rejection
      obtain ⟨place, part, member, hviolates⟩ := Pattern.offends_of_rejection hleaves hrejection
      refine ⟨_, rfl, ?_, place, part, loc, member, hviolates, ?_⟩
      · cases cause with
        | unsupported tag => exact .inr ⟨tag, rfl⟩
        | _ => exact .inl rfl
      · rw [if_neg htext]
        rfl

/-- A rest in a union does not compile, though a sequence encloses the union. -/
theorem ofTerm_ok_iff_wellFormed_misplaced :
    let pattern : Pattern Leaf :=
      .grouped ⟨0, 11⟩ .sequence (.leaf ⟨1, 1⟩ (.wildcard ""))
        [.grouped ⟨3, 7⟩ .union (.leaf ⟨4, 3⟩ .rest) [.leaf ⟨8, 1⟩ (.wildcard "")]]
    Pattern.read Text.basicLatin "(_ \x7b... _\x7d)".toList = .ok pattern ∧
      ¬ pattern.WellFormed := by
  intro pattern
  have hread : Pattern.read Text.basicLatin "(_ \x7b... _\x7d)".toList = .ok pattern := by
    decide +kernel
  have hrejection : pattern.rejection? .outside =
      some (.variadicOutsideSequence "...", ⟨4, 3⟩) := rfl
  refine ⟨hread, ?_⟩
  rw [← (ofTerm_ok_iff_wellFormed "(_ \x7b... _\x7d)" pattern hread false "m").1, ofTerm_toTerm,
    hrejection]
  rintro ⟨matcher, hmatcher⟩
  cases hmatcher

end Matcher

end TreeMatch
