import Mathlib.Data.List.Forall2
import TreeMatch.Proofs.Calling

/-! Two runs of one pattern on related subjects: they give the same answer, and what one captures
is related to what the other captures. The slots that a failed branch leaves behind correspond as
well, so that neither run can see of the other more than the relation tells. -/

namespace TreeMatch

/-- From related slots two actions give the same answer and related slots. What they log may
differ. -/
def Action.Lockstep (ρ : Value → Value → Prop) (first second : Action) : Prop :=
  ∀ state other : RunState, List.Forall₂ ρ state.slots other.slots →
    (first state).1 = (second other).1 ∧
      List.Forall₂ ρ (first state).2.slots (second other).2.slots

theorem forall₂_set {ρ : α → β → Prop} {values : List α} {others : List β} {value : α} {other : β}
    (related : List.Forall₂ ρ values others) (hvalue : ρ value other) (index : Nat) :
    List.Forall₂ ρ (values.set index value) (others.set index other) := by
  induction related generalizing index with
  | nil => exact .nil
  | cons hfirst hrest induction =>
      cases index with
      | zero => exact .cons hvalue hrest
      | succ index => exact .cons hfirst (induction index)

namespace Action.Lockstep

variable {ρ : Value → Value → Prop} {first second third fourth : Action}

theorem symm (lockstep : Lockstep ρ first second) :
    Lockstep (fun value other => ρ other value) second first := by
  intro state other related
  obtain ⟨hanswer, hafter⟩ := lockstep other state related.flip
  exact ⟨hanswer.symm, hafter.flip⟩

theorem answer (result : Except RunFault Bool) :
    Lockstep ρ (Action.answer result) (Action.answer result) :=
  fun _ _ related => ⟨rfl, related⟩

theorem both (hfirst : Lockstep ρ first second) (hthen : Lockstep ρ third fourth) :
    Lockstep ρ (Action.both first third) (Action.both second fourth) := by
  intro state other related
  obtain ⟨hanswer, hafter⟩ := hfirst state other related
  unfold Action.both
  generalize first state = left at hanswer hafter
  generalize second other = right at hanswer hafter
  obtain ⟨result, state⟩ := left
  obtain ⟨_, other⟩ := right
  cases hanswer
  cases result with
  | error fault => exact ⟨rfl, hafter⟩
  | ok answer =>
      cases answer with
      | false => exact ⟨rfl, hafter⟩
      | true => exact hthen state other hafter

theorem either (hfirst : Lockstep ρ first second) (helse : Lockstep ρ third fourth) :
    Lockstep ρ (Action.either first third) (Action.either second fourth) := by
  intro state other related
  obtain ⟨hanswer, hafter⟩ := hfirst state other related
  unfold Action.either
  generalize first state = left at hanswer hafter
  generalize second other = right at hanswer hafter
  obtain ⟨result, state⟩ := left
  obtain ⟨_, other⟩ := right
  cases hanswer
  cases result with
  | error fault => exact ⟨rfl, hafter⟩
  | ok answer =>
      cases answer with
      | false => exact helse state other hafter
      | true => exact ⟨rfl, hafter⟩

theorem invert (lockstep : Lockstep ρ first second) :
    Lockstep ρ (Action.invert first) (Action.invert second) := by
  intro state other related
  obtain ⟨hanswer, hafter⟩ := lockstep state other related
  unfold Action.invert
  generalize first state = left at hanswer hafter
  generalize second other = right at hanswer hafter
  obtain ⟨result, state⟩ := left
  obtain ⟨_, other⟩ := right
  cases hanswer
  cases result <;> exact ⟨rfl, hafter⟩

theorem everyItem {check probe : Value → Action}
    (each : ∀ value other, ρ value other → Lockstep ρ (check value) (probe other))
    {values others : List Value} (related : List.Forall₂ ρ values others) :
    Lockstep ρ (Test.everyItem check values) (Test.everyItem probe others) := by
  induction related with
  | nil => exact answer (.ok true)
  | cons hvalue hrest induction => exact (each _ _ hvalue).both induction

theorem store (slot : Nat) {value other : Value} (related : ρ value other) :
    Lockstep ρ (Action.store slot value) (Action.store slot other) := by
  intro state after hslots
  unfold Action.store
  rw [hslots.length_eq]
  split
  · exact ⟨rfl, forall₂_set hslots related slot⟩
  · exact ⟨rfl, hslots⟩

theorem visited (recording : Bool) (id : Nat) (subject : Value)
    (lockstep : Lockstep ρ first second) :
    Lockstep ρ (Action.visit recording id subject first) second := by
  cases recording with
  | false => exact lockstep
  | true =>
      intro state other related
      obtain ⟨hanswer, hafter⟩ :=
        lockstep { state with log := state.log ++ [⟨id, subject, false⟩] } other related
      change (Action.both first (Action.note id subject true) _).1 = _ ∧
        List.Forall₂ ρ (Action.both first (Action.note id subject true) _).2.slots _
      unfold Action.both
      generalize first { state with log := state.log ++ [⟨id, subject, false⟩] } = left
        at hanswer hafter
      obtain ⟨result, marked⟩ := left
      cases result with
      | error fault => exact ⟨hanswer, hafter⟩
      | ok answer => cases answer <;> exact ⟨hanswer, hafter⟩

theorem visit (recording other : Bool) (id : Nat) (subject twin : Value)
    (lockstep : Lockstep ρ first second) :
    Lockstep ρ (Action.visit recording id subject first) (Action.visit other id twin second) :=
  ((lockstep.visited recording id subject).symm.visited other id twin).symm

end Action.Lockstep

/-- A relation of values that passes to the children of nodes and to lists. -/
structure Value.IsCongruence (ρ : Value → Value → Prop) : Prop where
  node : ∀ {value other}, ρ value other →
    Option.Rel (fun node twin : Node => List.Forall₂ ρ node.children twin.children)
      value.node? other.node?
  list : ∀ {values others}, List.Forall₂ ρ values others → ρ (.list values) (.list others)

namespace Pattern

/-- The pattern never goes to the parent of a node. -/
def IsDownward (pattern : Pattern α) : Prop :=
  ∀ loc inner, marked loc .ascend inner ∉ pattern.walk

theorem IsDownward.marked {loc : Range} {mark : Mark} {inner : Pattern α}
    (downward : (marked loc mark inner).IsDownward) : inner.IsDownward :=
  fun loc below member => downward loc below (.tail _ member)

theorem IsDownward.repeated {loc : Range} {quantity : Quantity} {inner : Pattern α}
    (downward : (repeated loc inner quantity).IsDownward) : inner.IsDownward :=
  fun loc below member => downward loc below (.tail _ member)

theorem IsDownward.part {loc : Range} {bracket : Bracket} {first part : Pattern α}
    {others : List (Pattern α)} (downward : (grouped loc bracket first others).IsDownward)
    (member : part ∈ first :: others) : part.IsDownward := by
  refine fun loc below hbelow => downward loc below (.tail _ ?_)
  cases member with
  | head => exact List.mem_append_left _ hbelow
  | tail _ inOthers => exact List.mem_append_right _ (mem_walkAll.mpr ⟨part, inOthers, hbelow⟩)

/-- Two scenes are alike for a pattern: its leaves answer alike on related values, and related
values have related parents where these are asked for. -/
structure AlikeIn (ρ : Value → Value → Prop) (scene twin : Scene) (pattern : Pattern Leaf) :
    Prop where
  leaves : pattern.EachLeaf fun leaf =>
    ∀ value other, ρ value other → leaf.answer scene value = leaf.answer twin other
  parents : pattern.IsDownward ∨
    ∀ value other, ρ value other →
      Option.Rel ρ (scene.document.above value) (twin.document.above other)

namespace AlikeIn

variable {ρ : Value → Value → Prop} {scene twin : Scene} {inner first : Pattern Leaf}
  {others : List (Pattern Leaf)} {loc : Range}

theorem marked {mark : Mark} (alike : (marked loc mark inner).AlikeIn ρ scene twin) :
    inner.AlikeIn ρ scene twin :=
  ⟨(eachLeaf_marked _ _ _).mp alike.leaves, alike.parents.imp_left IsDownward.marked⟩

theorem repeated {quantity : Quantity}
    (alike : (repeated loc inner quantity).AlikeIn ρ scene twin) : inner.AlikeIn ρ scene twin :=
  ⟨(eachLeaf_repeated _ _ _).mp alike.leaves, alike.parents.imp_left IsDownward.repeated⟩

theorem part {bracket : Bracket} {part : Pattern Leaf}
    (alike : (grouped loc bracket first others).AlikeIn ρ scene twin)
    (member : part ∈ first :: others) : part.AlikeIn ρ scene twin := by
  refine ⟨?_, alike.parents.imp_left fun downward => downward.part member⟩
  have leaves := (eachLeaf_grouped _ _ _ _).mp alike.leaves
  cases member with
  | head => exact leaves.1
  | tail _ inOthers => exact leaves.2 part inOthers

end AlikeIn

def KeepsStep (ρ : Value → Value → Prop) (recording recordingTwin : Bool) (scene twin : Scene)
    (pattern : Pattern Leaf) : Prop :=
  ∀ (standing : Standing) (tally : Tally) (room : Nat) (values others : List Value),
    Ready standing tally room pattern values → List.Forall₂ ρ values others →
      Action.Lockstep ρ (pattern.exec recording scene tally (pattern.subjectOf values))
        (pattern.exec recordingTwin twin tally (pattern.subjectOf others))

section Steps

variable {ρ : Value → Value → Prop} {recording recordingTwin : Bool} {scene twin : Scene}

/-- On a single value a pattern that is not variadic is executed on that value itself. -/
theorem KeepsStep.single {pattern : Pattern Leaf}
    (step : pattern.KeepsStep ρ recording recordingTwin scene twin) {standing : Standing}
    {tally : Tally} {room : Nat} {subject other : Value}
    (ready : Ready standing tally room pattern [subject]) (hstanding : standing ≠ .term)
    (related : ρ subject other) :
    Action.Lockstep ρ (pattern.exec recording scene tally subject)
      (pattern.exec recordingTwin twin tally other) := by
  have hfixed := ready.fixed hstanding
  have lockstep := step standing tally room [subject] [other] ready (.cons related .nil)
  rwa [subjectOf_single hfixed, subjectOf_single hfixed] at lockstep

theorem related_kept (congruence : Value.IsCongruence ρ) {pattern : Pattern Leaf}
    {values others : List Value} (suits : pattern.Suits values)
    (related : List.Forall₂ ρ values others) :
    ρ (pattern.kept (pattern.subjectOf values)) (pattern.kept (pattern.subjectOf others)) := by
  unfold kept subjectOf
  cases hvariadic : pattern.isVariadic with
  | true => exact congruence.list related
  | false =>
      obtain ⟨subject, rfl⟩ := suits.single hvariadic
      cases related with
      | cons hfirst _ => exact hfirst

section Lists

variable {patterns : List (Pattern Leaf)}
  (each : ∀ pattern ∈ patterns, pattern.KeepsStep ρ recording recordingTwin scene twin)
include each

theorem execAny_lockstep {standing : Standing} (hstanding : standing ≠ .term) {tally : Tally}
    {room : Nat} {subject other : Value} (ready : ReadyAny standing tally room patterns subject)
    (related : ρ subject other) :
    Action.Lockstep ρ (execAny recording scene tally patterns subject)
      (execAny recordingTwin twin tally patterns other) := by
  induction patterns generalizing tally with
  | nil => exact .answer (.ok false)
  | cons pattern rest induction =>
      obtain ⟨hready, hrest⟩ := ready
      exact ((each pattern (by simp)).single hready hstanding related).either
        (induction (fun later member => each later (by simp [member])) hrest)

theorem execEach_lockstep {standing : Standing} (hstanding : standing ≠ .term) {tally : Tally}
    {room : Nat} {subject other : Value} (ready : ReadyEach standing tally room patterns subject)
    (related : ρ subject other) :
    Action.Lockstep ρ (execEach recording scene tally patterns subject)
      (execEach recordingTwin twin tally patterns other) := by
  induction patterns generalizing tally with
  | nil => exact .answer (.ok true)
  | cons pattern rest induction =>
      obtain ⟨hready, hrest⟩ := ready
      exact ((each pattern (by simp)).single hready hstanding related).both
        (induction (fun later member => each later (by simp [member])) hrest)

theorem execTerms_lockstep {tally : Tally} {room : Nat} {children others : List Value}
    (ready : ReadyTerms tally room patterns children) (related : List.Forall₂ ρ children others) :
    Action.Lockstep ρ (execTerms recording scene tally patterns children)
      (execTerms recordingTwin twin tally patterns others) := by
  induction patterns generalizing tally children others with
  | nil => exact .answer (.ok true)
  | cons term rest induction =>
      obtain ⟨hready, hrest⟩ := ready
      rw [execTerms, execTerms, ← related.length_eq]
      exact (each term (by simp) .term tally room _ _ hready (List.forall₂_take _ related)).both
        (induction (fun later member => each later (by simp [member])) hrest
          (List.forall₂_drop _ related))

end Lists

/-- Executing a pattern on related values in scenes alike keeps the slots related, whether marks
are left or not. -/
theorem exec_lockstep (congruence : Value.IsCongruence ρ) (recording recordingTwin : Bool)
    {pattern : Pattern Leaf} (alike : pattern.AlikeIn ρ scene twin) :
    pattern.KeepsStep ρ recording recordingTwin scene twin := by
  induction pattern using induct with
  | leaf loc value =>
      intro standing tally room values others ready related
      have hanswer : value.answer scene ((leaf loc value).subjectOf values) =
          value.answer twin ((leaf loc value).subjectOf others) := by
        -- Rests ignore their values; every other leaf stands on a single one.
        cases value with
        | rest => rfl
        | _ =>
            obtain ⟨subject, rfl⟩ := ready.suits.single rfl
            cases related with
            | cons hfirst hrest =>
                cases hrest
                exact (eachLeaf_leaf _ _).mp alike.leaves _ _ hfirst
      rw [exec, exec, hanswer]
      exact .visit recording recordingTwin tally.key _ _ (.answer _)
  | marked loc mark inner induction =>
      intro standing tally room values others ready related
      have step := induction alike.marked
      cases mark with
      | capture =>
          exact .visit recording recordingTwin tally.key _ _
            ((step standing tally.captured room values others ready.captured related).both
              (.store tally.slot (related_kept congruence ready.captured.suits related)))
      | negation =>
          obtain ⟨subject, rfl⟩ := ready.suits.single rfl
          cases related with
          | cons hfirst hrest =>
              cases hrest
              exact .visit recording recordingTwin tally.key _ _
                (step.single ready.negated standing.inner_ne_term hfirst).invert
      | ascend =>
          obtain ⟨subject, rfl⟩ := ready.suits.single rfl
          cases related with
          | @cons _ other _ _ hfirst hrest =>
              cases hrest
              rw [subjectOf_single rfl, subjectOf_single rfl, exec, exec]
              refine .visit recording recordingTwin tally.key _ _ ?_
              -- Only here is the document looked at: its parents are related, or nothing ascends.
              obtain downward | parents := alike.parents
              · exact absurd (mem_walk_self _) (downward loc inner)
              · have habove := parents subject other hfirst
                generalize scene.document.above subject = above at habove ⊢
                generalize twin.document.above other = aboveTwin at habove ⊢
                cases habove with
                | none => exact .answer (.ok false)
                | some hparent =>
                    exact step.single (ready.above _) standing.inner_ne_term hparent
  | repeated loc inner quantity induction =>
      intro standing tally room values others ready related
      obtain ⟨-, -, hbody⟩ := ready.element
      have step := induction alike.repeated
      exact .visit recording recordingTwin tally.key _ _
        (.everyItem
          (fun value other hvalue => step.single (hbody value) Standing.noConfusion hvalue) related)
  | grouped loc bracket first others firstHolds othersHold =>
      intro standing tally room values othersValues ready related
      have hfirst := firstHolds (alike.part (.head _))
      have hothers : ∀ part ∈ others, part.KeepsStep ρ recording recordingTwin scene twin :=
        fun part member => othersHold part member (alike.part (.tail _ member))
      have hall : ∀ part ∈ first :: others, part.KeepsStep ρ recording recordingTwin scene twin :=
        List.forall_mem_cons.mpr ⟨hfirst, hothers⟩
      obtain ⟨subject, rfl⟩ := ready.suits.single rfl
      obtain ⟨other, rfl⟩ := List.length_eq_one_iff.mp related.length_eq.symm
      have hsubject : ρ subject other := (List.forall₂_cons.mp related).1
      cases bracket with
      | union =>
          exact .visit recording recordingTwin tally.key _ _
            (execAny_lockstep hall standing.inner_ne_term (ready.branches.2 subject) hsubject)
      | intersection =>
          exact .visit recording recordingTwin tally.key _ _
            (execEach_lockstep hall standing.inner_ne_term (ready.members subject) hsubject)
      | sequence =>
          obtain ⟨-, hhead, hterms⟩ := ready.terms
          rw [subjectOf_single rfl, subjectOf_single rfl, exec, exec]
          refine .visit recording recordingTwin tally.key _ _ ?_
          have hnode := congruence.node hsubject
          generalize subject.node? = node at hnode ⊢
          generalize other.node? = nodeTwin at hnode ⊢
          cases hnode with
          | none => exact .answer (.ok false)
          | @some node nodeTwin hchildren =>
              apply (hfirst.single hhead Standing.noConfusion hsubject).both
              -- Related nodes have as many children, so the count holds for both or for neither.
              rw [← hchildren.length_eq]
              split
              · exact execTerms_lockstep hothers (hterms node.children ‹_›) hchildren
              · exact .answer (.ok false)

end Steps

end Pattern

end TreeMatch
