import TreeMatch.Proofs.Storage
import TreeMatch.Proofs.WellFormed

/-! How many slots a term takes, what remains of it when a branch is chosen of every union, and
which slots the test of a pattern writes. -/

namespace TreeMatch

namespace Term

mutual

/-- The number of slots that a term takes: one for a capture besides those of what it holds, those
of a branch for a union, and those of all child nodes for any other node. -/
def slots : Term → Nat
  | atom _ => 0
  | node _ tag _ children =>
    if tag = "capture" then slotsFirst children + 1
    else if tag = "union" then slotsFirst children
    else slotsAll children
termination_by structural term => term

def slotsFirst : List Term → Nat
  | [] => 0
  | atom _ :: rest => slotsFirst rest
  | node key tag loc children :: _ => slots (node key tag loc children)
termination_by structural terms => terms

def slotsAll : List Term → Nat
  | [] => 0
  | term :: rest => slots term + slotsAll rest
termination_by structural terms => terms

end

mutual

/-- The nodes of a term that remain when a branch is chosen of every union, each before its
children, for all ways to choose. -/
def choices : Term → List (List Term)
  | atom _ => [[]]
  | node key tag loc children =>
    (if tag = "union" then choicesAmong children else choicesAll children).map
      (node key tag loc children :: ·)
termination_by structural term => term

def choicesAmong : List Term → List (List Term)
  | [] => []
  | atom _ :: rest => choicesAmong rest
  | node key tag loc children :: rest =>
    choices (node key tag loc children) ++ choicesAmong rest
termination_by structural terms => terms

def choicesAll : List Term → List (List Term)
  | [] => [[]]
  | term :: rest =>
    (choices term).flatMap fun front => (choicesAll rest).map (front ++ ·)
termination_by structural terms => terms

end

theorem slotsAll_atoms (values : List Value) : slotsAll (values.map .atom) = 0 := by
  induction values with
  | nil => rfl
  | cons value rest induction => simp [slotsAll, slots, induction]

theorem choicesAll_atoms (values : List Value) : choicesAll (values.map .atom) = [[]] := by
  induction values with
  | nil => rfl
  | cons value rest induction => simp [choicesAll, choices, induction]

end Term

namespace Leaf

theorem kind_name_ne (value : Leaf) :
    value.kind.name ≠ "capture" ∧ value.kind.name ≠ "union" := by
  cases value <;> simp [kind, TokenKind.name]

theorem writes_test (value : Leaf) (place : Place) : (value.test place).writes = [] := by
  cases value with
  | predicate name =>
      change ((predicateTest? place name).getD .never).writes = []
      unfold predicateTest?
      cases Compile.predicateKinds.lookup name with
      | some kind => rfl
      | none => cases Compile.typeOfPredicate? name <;> rfl
  | _ => rfl

end Leaf

namespace Pattern

section Terms

variable (loc : Range) (mark : Mark) (quantity : Quantity) (bracket : Bracket)
  (inner first : Pattern Leaf) (others : List (Pattern Leaf)) (value : Leaf) (key : Nat)

theorem slotsAll_termsFrom {patterns : List (Pattern Leaf)}
    (each : ∀ pattern ∈ patterns, ∀ key, (pattern.termFrom key).slots = pattern.slots)
    (key : Nat) : Term.slotsAll (termsFrom key patterns) = slotsAll patterns := by
  induction patterns generalizing key with
  | nil => rfl
  | cons pattern rest induction =>
      rw [termsFrom, Term.slotsAll, slotsAll, each pattern (by simp),
        induction fun other member => each other (by simp [member])]

theorem slotsFirst_termFrom (pattern : Pattern Leaf) (key : Nat) (rest : List Term) :
    Term.slotsFirst (pattern.termFrom key :: rest) = (pattern.termFrom key).slots := by
  cases pattern <;> rfl

theorem slots_termFrom (pattern : Pattern Leaf) (key : Nat) :
    (pattern.termFrom key).slots = pattern.slots := by
  induction pattern using induct generalizing key with
  | leaf loc value =>
      obtain ⟨hcapture, hunion⟩ := value.kind_name_ne
      rw [termFrom_leaf, Term.slots, if_neg hcapture, if_neg hunion, Term.slotsAll_atoms, slots]
  | marked loc mark inner induction =>
      rw [termFrom_marked]
      cases mark with
      | capture => exact congrArg (· + 1) ((slotsFirst_termFrom _ _ _).trans (induction _))
      | negation | ascend => exact induction (key + 1)
  | repeated loc inner quantity induction => exact induction (key + 1)
  | grouped loc bracket first others firstHolds othersHold =>
      have hothers := slotsAll_termsFrom othersHold (key + 1 + first.size)
      rw [termFrom_grouped]
      cases bracket with
      | union => exact (slotsFirst_termFrom _ _ _).trans (firstHolds _)
      | sequence | intersection => exact congrArg₂ (· + ·) (firstHolds _) hothers

theorem choices_leaf :
    ((leaf loc value).termFrom key).choices = [[(leaf loc value).termFrom key]] := by
  rw [termFrom_leaf, Term.choices, if_neg value.kind_name_ne.2, Term.choicesAll_atoms]
  rfl

theorem choices_marked :
    ((marked loc mark inner).termFrom key).choices =
      (inner.termFrom (key + 1)).choices.map ((marked loc mark inner).termFrom key :: ·) := by
  have hall : Term.choicesAll [inner.termFrom (key + 1)] = (inner.termFrom (key + 1)).choices := by
    simp [Term.choicesAll]
  have htag : mark.tag ≠ "union" := by cases mark <;> decide
  rw [termFrom_marked, Term.choices, if_neg htag, hall]

theorem choices_repeated :
    ((repeated loc inner quantity).termFrom key).choices =
      (inner.termFrom (key + 1)).choices.map ((repeated loc inner quantity).termFrom key :: ·) := by
  have hall (atom : Value) : Term.choicesAll [inner.termFrom (key + 1), .atom atom] =
      (inner.termFrom (key + 1)).choices := by
    simp [Term.choicesAll, Term.choices]
  rw [termFrom_repeated, Term.choices, if_neg (by decide), hall]

theorem choices_grouped (hbracket : bracket ≠ .union) :
    ((grouped loc bracket first others).termFrom key).choices =
      (Term.choicesAll (termsFrom (key + 1) (first :: others))).map
        ((grouped loc bracket first others).termFrom key :: ·) := by
  have htag : bracket.tag ≠ "union" := by
    cases bracket with
    | union => exact absurd rfl hbracket
    | sequence | intersection => decide
  rw [termFrom_grouped, Term.choices, if_neg htag]
  rfl

theorem choices_union :
    ((grouped loc .union first others).termFrom key).choices =
      (Term.choicesAmong (termsFrom (key + 1) (first :: others))).map
        ((grouped loc .union first others).termFrom key :: ·) := by
  rw [termFrom_grouped]
  rfl

theorem choicesAmong_termsFrom (pattern : Pattern Leaf) (rest : List (Pattern Leaf)) :
    Term.choicesAmong (termsFrom key (pattern :: rest)) =
      (pattern.termFrom key).choices ++
        Term.choicesAmong (termsFrom (key + pattern.size) rest) := by
  cases pattern <;> rfl

end Terms

theorem mem_termsFrom {node : Term} {next : Nat} {patterns : List (Pattern Leaf)}
    (member : node ∈ termsFrom next patterns) :
    ∃ pattern ∈ patterns, ∃ key, node = pattern.termFrom key := by
  induction patterns generalizing next with
  | nil => cases member
  | cons pattern rest induction =>
      rcases List.mem_cons.mp member with rfl | hrest
      · exact ⟨pattern, .head _, next, rfl⟩
      · obtain ⟨other, hother, hnode⟩ := induction hrest
        exact ⟨other, .tail _ hother, hnode⟩

theorem balanced_termFrom {pattern : Pattern Leaf} {standing : Standing}
    (hnone : pattern.rejection? standing = none) {key : Nat}
    (hunion : Compile.hasTag "union" (pattern.termFrom key) = true) :
    ∀ branch ∈ (pattern.termFrom key).childNodes,
      branch.slots = (pattern.termFrom key).slots := by
  cases pattern with
  | leaf loc value => exact absurd (eq_of_beq hunion) value.kind_name_ne.2
  | marked loc mark inner => cases mark <;> cases hunion
  | repeated loc inner quantity => cases hunion
  | grouped loc bracket first others =>
      intro branch member
      rw [childNodes_termFrom] at member
      obtain ⟨part, hpart, next, rfl⟩ := mem_termsFrom member
      rw [slots_termFrom, slots_termFrom]
      cases bracket with
      | sequence | intersection => cases hunion
      | union =>
          rw [slots]
          rcases List.mem_cons.mp hpart with rfl | hothers
          · rfl
          · exact slots_of_unrejected hnone hothers

/-! The slots that the test of a pattern writes. -/

section Writes

theorem writes_framed (recording : Bool) (key : Nat) (place : Place) (test : Test) :
    (framed recording key place test).writes = test.writes := by
  cases recording with
  | false => rfl
  | true => simp [framed, Compile.traced, Test.writes, Test.writesAll]

def WritesItsSlots (recording : Bool) (pattern : Pattern Leaf) : Prop :=
  ∀ (place : Place) (tally : Tally) (slot : Nat),
    slot ∈ (pattern.test recording place tally).writes ↔
      slot ∈ List.range' tally.slot pattern.slots

variable {recording : Bool} {patterns : List (Pattern Leaf)}
  (each : ∀ pattern ∈ patterns, pattern.WritesItsSlots recording)
include each

theorem mem_writes_members (place : Place) (tally : Tally) (slot : Nat) :
    slot ∈ Test.writesAll (memberTests recording place tally patterns) ↔
      slot ∈ List.range' tally.slot (slotsAll patterns) := by
  induction patterns generalizing tally with
  | nil => rfl
  | cons pattern rest induction =>
      rw [memberTests, Test.writesAll, List.mem_append, each pattern (by simp),
        induction fun other member => each other (by simp [member]), slotsAll,
        ← List.range'_append_1, List.mem_append]
      rfl

theorem mem_writes_terms (places : List Place) (tally : Tally) (slot : Nat) :
    slot ∈ Test.writesAll (termTests recording places tally patterns) ↔
      slot ∈ List.range' tally.slot (slotsAll patterns) := by
  induction patterns generalizing places tally with
  | nil => rfl
  | cons pattern rest induction =>
      rw [termTests, Test.writesAll, List.mem_append, each pattern (by simp),
        induction fun other member => each other (by simp [member]), slotsAll,
        ← List.range'_append_1, List.mem_append]
      rfl

theorem mem_writes_branches {count : Nat}
    (hcount : ∀ pattern ∈ patterns, pattern.slots = count) (place : Place) (tally : Tally)
    (slot : Nat) (member : slot ∈ Test.writesAll (branchTests recording place tally patterns)) :
    slot ∈ List.range' tally.slot count := by
  induction patterns generalizing tally with
  | nil => cases member
  | cons pattern rest induction =>
      rw [branchTests, Test.writesAll, List.mem_append, each pattern (by simp),
        hcount pattern (by simp)] at member
      rcases member with hfirst | hlater
      · exact hfirst
      · exact induction (fun other member => each other (by simp [member]))
          (fun other member => hcount other (by simp [member])) (tally.beside pattern) hlater

end Writes

section Brackets

variable {recording : Bool} {first : Pattern Leaf} {others : List (Pattern Leaf)} (loc : Range)
  (hfirst : first.WritesItsSlots recording)
  (hothers : ∀ other ∈ others, other.WritesItsSlots recording)
include hfirst hothers

theorem writesItsSlots_union (hslots : ∀ other ∈ others, other.slots = first.slots) :
    (grouped loc .union first others).WritesItsSlots recording := by
  intro place tally slot
  have hbranches := mem_writes_branches hothers hslots place (tally.inner.beside first) slot
  rw [test, writes_framed, slots, Test.writes, Test.writesAll, List.mem_append, hfirst]
  exact or_iff_left_of_imp hbranches

theorem writesItsSlots_intersection :
    (grouped loc .intersection first others).WritesItsSlots recording := by
  intro place tally slot
  have hmembers := mem_writes_members hothers place (tally.inner.after first) slot
  rw [test, writes_framed, slots, Test.writes, Test.writesAll, List.mem_append, hfirst,
    hmembers, ← List.range'_append_1, List.mem_append]
  · rfl
  · exact Bracket.noConfusion

theorem writesItsSlots_sequence :
    (grouped loc .sequence first others).WritesItsSlots recording := by
  intro place tally slot
  have hterms := mem_writes_terms hothers (placesOf place others) (tally.inner.after first) slot
  rw [test, writes_framed, slots, ← List.range'_append_1, List.mem_append]
  · simp only [Test.writes, Test.writesAll, List.nil_append, List.mem_append, hfirst place,
      hterms]
    rfl
  · exact Bracket.noConfusion

end Brackets

theorem unrejected_body {loc : Range} {inner : Pattern Leaf} {quantity : Quantity}
    {standing : Standing} (hnone : (repeated loc inner quantity).rejection? standing = none) :
    standing = .term ∧ inner.rejection? .within = none := by
  cases standing with
  | outside | within => cases hnone
  | term =>
      rw [rejection?] at hnone
      split at hnone
      · cases hnone
      · exact ⟨rfl, hnone⟩

theorem writesItsSlots {pattern : Pattern Leaf} {standing : Standing}
    (hnone : pattern.rejection? standing = none) (recording : Bool) :
    pattern.WritesItsSlots recording := by
  induction pattern using induct generalizing standing with
  | leaf loc value =>
      intro place tally slot
      rw [test_leaf, writes_framed, Leaf.writes_test]
      rfl
  | marked loc mark inner induction =>
      intro place tally slot
      have hinner := @induction (standing.under mark) hnone
      cases mark with
      | capture =>
          have hwrites : (Test.allOf [inner.test recording place tally.captured,
              .capture tally.slot place]).writes =
              (inner.test recording place tally.captured).writes ++ [tally.slot] := by
            simp [Test.writes, Test.writesAll]
          rw [test, writes_framed, hwrites, slots, List.range'_succ, List.mem_append, hinner,
            List.mem_singleton, List.mem_cons, or_comm]
          rfl
      | negation =>
          rw [test, writes_framed]
          exact hinner place tally.inner slot
      | ascend =>
          have hwrites : (Test.allOf [.isNode place,
              inner.test recording place.parent tally.inner]).writes =
              (inner.test recording place.parent tally.inner).writes := by
            simp [Test.writes, Test.writesAll]
          rw [test, writes_framed, hwrites]
          exact hinner place.parent tally.inner slot
  | repeated loc inner quantity induction =>
      intro place tally slot
      rw [test, writes_framed]
      exact induction (unrejected_body hnone).2 _ tally.repeated slot
  | grouped loc bracket first others firstHolds othersHold =>
      cases bracket with
      -- The branches write the same slots, for a union is rejected if they differ in number.
      | union =>
          have hslots : ∀ other ∈ others, other.slots = first.slots :=
            fun other member => slots_of_unrejected hnone member
          rw [rejection?, Option.or_eq_none_iff, Option.or_eq_none_iff,
            rejectionAmong?_eq_none] at hnone
          exact writesItsSlots_union loc (firstHolds hnone.1.1)
            (fun other member => othersHold other member (hnone.1.2 other member)) hslots
      | intersection =>
          rw [rejection?, Option.or_eq_none_iff, rejectionAmong?_eq_none] at hnone
          exact writesItsSlots_intersection loc (firstHolds hnone.1)
            fun other member => othersHold other member (hnone.2 other member)
      | sequence =>
          rw [rejection?, Option.or_eq_none_iff, Option.or_eq_none_iff,
            rejectionAmong?_eq_none] at hnone
          exact writesItsSlots_sequence loc (firstHolds hnone.2.1)
            fun other member => othersHold other member (hnone.2.2 other member)

end Pattern

end TreeMatch
