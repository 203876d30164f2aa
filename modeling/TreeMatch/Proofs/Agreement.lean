import TreeMatch.Proofs.Running

/-! Executing a pattern agrees with its meaning: the answer tells whether it matches, and the slots
hold what it captures. -/

namespace TreeMatch

structure Frame (slot width : Nat) (before after : List Value) : Prop where
  length : after.length = before.length
  outside : ∀ index, index < slot ∨ slot + width ≤ index → after[index]? = before[index]?

namespace Frame

theorem refl (slot width : Nat) (slots : List Value) : Frame slot width slots slots :=
  ⟨rfl, fun _ _ => rfl⟩

theorem trans {slot width : Nat} {before middle after : List Value}
    (hfirst : Frame slot width before middle) (hsecond : Frame slot width middle after) :
    Frame slot width before after :=
  ⟨hsecond.length.trans hfirst.length,
    fun index hindex => (hsecond.outside index hindex).trans (hfirst.outside index hindex)⟩

theorem mono {slot width lower wider : Nat} {before after : List Value}
    (frame : Frame slot width before after) (hlower : lower ≤ slot)
    (hwider : slot + width ≤ lower + wider) : Frame lower wider before after :=
  ⟨frame.length, fun index hindex => frame.outside index (by omega)⟩

theorem set {slot : Nat} {before after : List Value} {width : Nat} (value : Value)
    (frame : Frame (slot + 1) width before after) :
    Frame slot (width + 1) before (after.set slot value) := by
  refine ⟨(List.length_set ..).trans frame.length, ?_⟩
  intro index hindex
  rw [List.getElem?_set_ne (by omega), frame.outside index (by omega)]

end Frame

def Filled (captures : Captures) (slot : Nat) (slots : List Value) : Prop :=
  ∀ index value, captures[index]? = some (some value) → slots[slot + index]? = some value

namespace Filled

theorem nil (slot : Nat) (slots : List Value) : Filled [] slot slots := by
  intro index value hvalue
  cases hvalue

theorem replicate (width slot : Nat) (slots : List Value) :
    Filled (List.replicate width none) slot slots := by
  intro index value hvalue
  rw [List.getElem?_replicate] at hvalue
  split at hvalue <;> cases hvalue

theorem append {front back : Captures} {slot : Nat} {before after : List Value} {width : Nat}
    (hfront : Filled front slot before) (hback : Filled back (slot + front.length) after)
    (frame : Frame (slot + front.length) width before after) :
    Filled (front ++ back) slot after := by
  intro index value hvalue
  by_cases hindex : index < front.length
  · rw [List.getElem?_append_left hindex] at hvalue
    rw [frame.outside (slot + index) (by omega)]
    exact hfront index value hvalue
  · rw [List.getElem?_append_right (by omega)] at hvalue
    have hslot := hback (index - front.length) value hvalue
    rwa [show slot + front.length + (index - front.length) = slot + index by omega] at hslot

theorem cons {captures : Captures} {slot : Nat} {slots : List Value} (value : Value)
    (hfilled : Filled captures (slot + 1) slots) (hslot : slot < slots.length) :
    Filled (some value :: captures) slot (slots.set slot value) := by
  intro index found hfound
  cases index with
  | zero =>
      cases hfound
      exact List.getElem?_set_self hslot
  | succ index =>
      rw [List.getElem?_set_ne (by omega), show slot + (index + 1) = slot + 1 + index by omega]
      exact hfilled index found hfound

end Filled

/-- The result of an action tells whether something matches; on a match the slots hold what it
captures. It is a fault only for lack of something. -/
inductive Agrees (slot width : Nat) (captures? : Option Captures) (lacking : Prop)
    (before : List Value) : RunResult → Prop
  | answered (state : RunState) (frame : Frame slot width before state.slots)
      (hfilled : ∀ captures, captures? = some captures →
        captures.length = width ∧ Filled captures slot state.slots) :
      Agrees slot width captures? lacking before (.ok captures?.isSome, state)
  | faulted (state : RunState) (hlacking : lacking) :
      Agrees slot width captures? lacking before (.error .unbound, state)

namespace Agrees

variable {slot width behind : Nat} {first? second? : Option Captures} {lacking wanting : Prop}

theorem mono {before : List Value} {result : RunResult}
    (agrees : Agrees slot width first? lacking before result) (hlacking : lacking → wanting) :
    Agrees slot width first? wanting before result := by
  cases agrees with
  | answered state frame hfilled => exact .answered state frame hfilled
  | faulted state hlack => exact .faulted state (hlacking hlack)

theorem refuse (slot width : Nat) (lacking : Prop) (state : RunState) :
    Agrees slot width none lacking state.slots (Action.answer (.ok false) state) :=
  .answered state (Frame.refl ..) (fun _ hsome => by cases hsome)

theorem accept (slot : Nat) (lacking : Prop) (state : RunState) :
    Agrees slot 0 (some []) lacking state.slots (Action.answer (.ok true) state) :=
  .answered state (Frame.refl ..) (fun captures hsome => by
    cases hsome
    exact ⟨rfl, Filled.nil slot state.slots⟩)

theorem both {state : RunState} {first second : Action}
    (hfirst : Agrees slot width first? lacking state.slots (first state))
    (hsecond : ∀ after : RunState, after.slots.length = state.slots.length →
      Agrees (slot + width) behind second? lacking after.slots (second after)) :
    Agrees slot (width + behind) (do return (← first?) ++ (← second?)) lacking state.slots
      (Action.both first second state) := by
  unfold Action.both
  generalize first state = result at hfirst
  cases hfirst with
  | faulted after hlack => exact .faulted after hlack
  | answered after frame hfilled =>
      cases first? with
      | none =>
          exact .answered after (frame.mono (Nat.le_refl _) (by omega))
            fun _ hsome => by cases hsome
      | some front =>
          obtain ⟨hwidth, hfront⟩ := hfilled front rfl
          have hagrees := hsecond after frame.length
          dsimp only [Option.isSome_some]
          generalize second after = result at hagrees
          cases hagrees with
          | faulted last hlack => exact .faulted last hlack
          | answered last later hlater =>
              have hwide : Frame slot (width + behind) state.slots after.slots :=
                frame.mono (Nat.le_refl _) (by omega)
              have hframe := hwide.trans (later.mono (by omega) (by omega))
              cases second? with
              | none => exact .answered last hframe (fun _ hsome => by cases hsome)
              | some back =>
                  obtain ⟨hbehind, hback⟩ := hlater back rfl
                  refine .answered last hframe ?_
                  intro captures hsome
                  cases hsome
                  refine ⟨by rw [List.length_append, hwidth, hbehind], ?_⟩
                  rw [← hwidth] at hback later
                  exact hfront.append hback later

theorem either {state : RunState} {first second : Action}
    (hfirst : Agrees slot width first? lacking state.slots (first state))
    (hsecond : ∀ after : RunState, after.slots.length = state.slots.length →
      Agrees slot width second? lacking after.slots (second after)) :
    Agrees slot width (first?.or second?) lacking state.slots
      (Action.either first second state) := by
  unfold Action.either
  generalize first state = result at hfirst
  cases hfirst with
  | faulted after hlack => exact .faulted after hlack
  | answered after frame hfilled =>
      cases first? with
      | some captures => exact .answered after frame hfilled
      | none =>
          have hagrees := hsecond after frame.length
          dsimp only [Option.isSome_none]
          generalize second after = result at hagrees
          cases hagrees with
          | faulted last hlack => exact .faulted last hlack
          | answered last later hlater => exact .answered last (frame.trans later) hlater

theorem invert {state : RunState} {action : Action}
    (hagrees : Agrees slot width first? lacking state.slots (action state)) :
    Agrees slot width (Pattern.complement? width first?) lacking state.slots
      (Action.invert action state) := by
  unfold Action.invert
  generalize action state = result at hagrees
  cases hagrees with
  | faulted after hlack => exact .faulted after hlack
  | answered after frame hfilled =>
      cases first? with
      | some captures => exact .answered after frame (fun _ hsome => by cases hsome)
      | none =>
          refine .answered after frame ?_
          intro captures hsome
          cases hsome
          exact ⟨List.length_replicate .., Filled.replicate width slot after.slots⟩

theorem capture {state : RunState} {action : Action} (value : Value)
    (hagrees : Agrees (slot + 1) width first? lacking state.slots (action state))
    (hroom : slot < state.slots.length) :
    Agrees slot (width + 1) (do return some value :: (← first?)) lacking state.slots
      (Action.both action (Action.store slot value) state) := by
  unfold Action.both
  generalize action state = result at hagrees
  cases hagrees with
  | faulted after hlack => exact .faulted after hlack
  | answered after frame hfilled =>
      cases first? with
      | none =>
          exact .answered after (frame.mono (by omega) (by omega)) (fun _ hsome => by cases hsome)
      | some captures =>
          obtain ⟨hwidth, hheld⟩ := hfilled captures rfl
          have hslot : slot < after.slots.length := by rw [frame.length]; exact hroom
          dsimp only [Option.isSome_some, Action.store]
          rw [if_pos hslot]
          refine .answered { after with slots := after.slots.set slot value } (frame.set value) ?_
          intro found hsome
          cases hsome
          exact ⟨congrArg (· + 1) hwidth, hheld.cons value hslot⟩

theorem visit {state : RunState} {action : Action} (recording : Bool) (id : Nat) (subject : Value)
    (hagrees : ∀ marked : RunState, marked.slots = state.slots →
      Agrees slot width first? lacking marked.slots (action marked)) :
    Agrees slot width first? lacking state.slots
      (Action.visit recording id subject action state) := by
  cases recording with
  | false => exact hagrees state rfl
  | true =>
      have hentered := hagrees { state with log := state.log ++ [⟨id, subject, false⟩] } rfl
      unfold Action.visit
      change Agrees slot width first? lacking state.slots
        (Action.both action (Action.note id subject true)
          { state with log := state.log ++ [⟨id, subject, false⟩] })
      unfold Action.both
      generalize action { state with log := state.log ++ [⟨id, subject, false⟩] } = result
        at hentered
      cases hentered with
      | faulted after hlack => exact .faulted after hlack
      | answered after frame hfilled =>
          cases first? with
          | none => exact .answered after frame hfilled
          | some captures =>
              exact .answered { after with log := after.log ++ [⟨id, subject, true⟩] } frame hfilled

theorem everyItem {check : Value → Action} {captures? : Value → Option Captures}
    (values : List Value) {state : RunState}
    (heach : ∀ value ∈ values, ∀ after : RunState, after.slots.length = state.slots.length →
      Agrees slot 0 (captures? value) lacking after.slots (check value after)) :
    Agrees slot 0 (if values.all (fun value => (captures? value).isSome) then some [] else none)
      lacking state.slots (Test.everyItem check values state) := by
  induction values generalizing state with
  | nil => exact accept slot lacking state
  | cons value rest induction =>
      have hfirst := heach value (by simp) state rfl
      unfold Test.everyItem
      generalize check value state = result at hfirst
      cases hfirst with
      | faulted after hlack => exact .faulted after hlack
      | answered after frame hfilled =>
          rw [List.all_cons]
          cases captures? value with
          | none => exact .answered after frame (fun _ hsome => by cases hsome)
          | some captures =>
              have hrest := @induction after (fun other member last hlength =>
                heach other (by simp [member]) last (hlength.trans frame.length))
              rw [Option.isSome_some, Bool.true_and]
              dsimp only
              generalize Test.everyItem check rest after = result at hrest
              cases hrest with
              | faulted last hlack => exact .faulted last hlack
              | answered last later hlater => exact .answered last (frame.trans later) hlater

end Agrees

namespace Pattern

def Lacks (scene : Scene) (pattern : Pattern Leaf) : Prop :=
  ¬ pattern.EachLeaf fun leaf => leaf.isProvided scene = true

theorem Lacks.inner {scene : Scene} {loc : Range} {mark : Mark} {inner : Pattern Leaf}
    (hlacks : inner.Lacks scene) : (marked loc mark inner).Lacks scene :=
  fun heach => hlacks ((eachLeaf_marked _ _ _).mp heach)

theorem Lacks.body {scene : Scene} {loc : Range} {quantity : Quantity} {inner : Pattern Leaf}
    (hlacks : inner.Lacks scene) : (repeated loc inner quantity).Lacks scene :=
  fun heach => hlacks ((eachLeaf_repeated _ _ _).mp heach)

theorem Lacks.part {scene : Scene} {loc : Range} {bracket : Bracket} {first part : Pattern Leaf}
    {others : List (Pattern Leaf)} (member : part ∈ first :: others) (hlacks : part.Lacks scene) :
    (grouped loc bracket first others).Lacks scene := by
  intro heach
  have hparts := (eachLeaf_grouped _ _ _ _).mp heach
  cases member with
  | head => exact hlacks hparts.1
  | tail _ inOthers => exact hlacks (hparts.2 part inOthers)

def ExecutesAsMeant (recording : Bool) (pattern : Pattern Leaf) : Prop :=
  ∀ (standing : Standing) (tally : Tally) (scene : Scene) (values : List Value) (state : RunState),
    Ready standing tally state.slots.length pattern values →
    Agrees tally.slot pattern.slots (pattern.matching? scene values) (pattern.Lacks scene)
      state.slots (pattern.exec recording scene tally (pattern.subjectOf values) state)

theorem agrees_leaf (recording : Bool) (loc : Range) (value : Leaf) :
    ExecutesAsMeant recording (leaf loc value) := by
  intro standing tally scene values state ready
  have hmatching : (leaf loc value).matching? scene values =
      if value.holds scene ((leaf loc value).subjectOf values) then some [] else none := by
    cases value with
    | rest => rfl
    | _ =>
        obtain ⟨subject, rfl⟩ := ready.suits.single rfl
        rfl
  rw [exec_leaf, hmatching]
  apply Agrees.visit recording tally.key _
  intro marked _
  unfold Leaf.answer
  cases hprovided : value.isProvided scene with
  | false =>
      refine .faulted marked ?_
      rw [Lacks, eachLeaf_leaf, hprovided]
      exact Bool.false_ne_true
  | true =>
      cases value.holds scene ((leaf loc value).subjectOf values) with
      | true => exact Agrees.accept tally.slot _ marked
      | false => exact Agrees.refuse tally.slot 0 _ marked

section Constructs

variable {recording : Bool} {inner first : Pattern Leaf} {others : List (Pattern Leaf)}
  (loc : Range)

theorem agrees_capture (hinner : ExecutesAsMeant recording inner) :
    ExecutesAsMeant recording (marked loc .capture inner) := by
  intro standing tally scene values state ready
  have hroom : tally.slot + (inner.slots + 1) ≤ state.slots.length := ready.fits
  rw [exec, matching?, captured_eq_kept ready.captured.suits]
  apply Agrees.visit recording tally.key _
  intro marked hmarked
  rw [← hmarked] at hroom ready
  have hagrees := hinner standing tally.captured scene values marked ready.captured
  exact (hagrees.mono Lacks.inner).capture _ (by omega)

theorem agrees_negation (hinner : ExecutesAsMeant recording inner) :
    ExecutesAsMeant recording (marked loc .negation inner) := by
  intro standing tally scene values state ready
  obtain ⟨subject, rfl⟩ := ready.suits.single rfl
  have hfixed := ready.negated.fixed standing.inner_ne_term
  rw [exec, matching?]
  apply Agrees.visit recording tally.key _
  intro marked hmarked
  rw [← hmarked] at ready
  have hagrees := hinner standing.inner tally.inner scene [subject] marked ready.negated
  rw [subjectOf_single hfixed] at hagrees
  exact (hagrees.mono Lacks.inner).invert

theorem agrees_ascend (hinner : ExecutesAsMeant recording inner) :
    ExecutesAsMeant recording (marked loc .ascend inner) := by
  intro standing tally scene values state ready
  obtain ⟨subject, rfl⟩ := ready.suits.single rfl
  have hsubject : (marked loc .ascend inner).subjectOf [subject] = subject := rfl
  rw [exec, matching?, hsubject]
  apply Agrees.visit recording tally.key _
  intro marked hmarked
  rw [← hmarked] at ready
  cases scene.document.above subject with
  | none => exact Agrees.refuse tally.slot inner.slots _ marked
  | some above =>
      have hagrees := hinner standing.inner tally.inner scene [above] marked (ready.above above)
      rw [subjectOf_single ((ready.above above).fixed standing.inner_ne_term)] at hagrees
      exact hagrees.mono Lacks.inner

theorem agrees_repeated (quantity : Quantity) (hinner : ExecutesAsMeant recording inner) :
    ExecutesAsMeant recording (repeated loc inner quantity) := by
  intro standing tally scene values state ready
  obtain ⟨hslots, hallowed, hbody⟩ := ready.element
  have hwidth : (repeated loc inner quantity).slots = 0 := hslots
  rw [exec, matching?, hallowed, Bool.true_and, hwidth]
  apply Agrees.visit recording tally.key _
  intro marked hmarked
  rw [← hmarked] at hbody
  apply Agrees.everyItem values
  intro value _ after hlength
  have helement := hbody value
  rw [← hlength] at helement
  have hagrees := hinner .within tally.repeated scene [value] after helement
  rw [subjectOf_single (helement.fixed Standing.noConfusion), hslots] at hagrees
  exact hagrees.mono Lacks.body

end Constructs

section Lists

variable {recording : Bool} {patterns : List (Pattern Leaf)}
  (each : ∀ pattern ∈ patterns, ExecutesAsMeant recording pattern) {scene : Scene}
  {lacking : Prop} (hlacking : ∀ pattern ∈ patterns, pattern.Lacks scene → lacking)
include each hlacking

theorem agrees_any {standing : Standing} (hstanding : standing ≠ .term) {width : Nat}
    (hwidth : ∀ pattern ∈ patterns, pattern.slots = width) {subject : Value} {tally : Tally}
    {state : RunState} (ready : ReadyAny standing tally state.slots.length patterns subject) :
    Agrees tally.slot width (matchingAny? scene patterns subject) lacking state.slots
      (execAny recording scene tally patterns subject state) := by
  induction patterns generalizing tally state with
  | nil => exact Agrees.refuse tally.slot width lacking state
  | cons pattern rest induction =>
      obtain ⟨hready, hrest⟩ := ready
      have hfirst := each pattern (by simp) standing tally scene [subject] state hready
      rw [subjectOf_single (hready.fixed hstanding), hwidth pattern (by simp)] at hfirst
      rw [execAny, matchingAny?]
      apply (hfirst.mono (hlacking pattern (by simp))).either
      intro after hlength
      rw [← hlength] at hrest
      exact induction (fun other member => each other (by simp [member]))
        (fun other member => hlacking other (by simp [member]))
        (fun other member => hwidth other (by simp [member])) hrest

theorem agrees_each {standing : Standing} (hstanding : standing ≠ .term) {subject : Value}
    {tally : Tally} {state : RunState}
    (ready : ReadyEach standing tally state.slots.length patterns subject) :
    Agrees tally.slot (slotsAll patterns) (matchingEach? scene patterns subject) lacking state.slots
      (execEach recording scene tally patterns subject state) := by
  induction patterns generalizing tally state with
  | nil => exact Agrees.accept tally.slot lacking state
  | cons pattern rest induction =>
      obtain ⟨hready, hrest⟩ := ready
      have hfirst := each pattern (by simp) standing tally scene [subject] state hready
      rw [subjectOf_single (hready.fixed hstanding)] at hfirst
      rw [execEach, matchingEach?, slotsAll]
      apply (hfirst.mono (hlacking pattern (by simp))).both
      intro after hlength
      rw [← hlength] at hrest
      exact induction (fun other member => each other (by simp [member]))
        (fun other member => hlacking other (by simp [member])) hrest

theorem agrees_terms {children : List Value} {tally : Tally} {state : RunState}
    (ready : ReadyTerms tally state.slots.length patterns children) :
    Agrees tally.slot (slotsAll patterns) (matchingTerms? scene patterns children) lacking
      state.slots (execTerms recording scene tally patterns children state) := by
  induction patterns generalizing tally state children with
  | nil =>
      cases ready
      exact Agrees.accept tally.slot lacking state
  | cons term rest induction =>
      obtain ⟨hready, hrest⟩ := ready
      have hfirst := each term (by simp) .term tally scene _ state hready
      rw [execTerms, matchingTerms?, slotsAll]
      apply (hfirst.mono (hlacking term (by simp))).both
      intro after hlength
      rw [← hlength] at hrest
      exact induction (fun other member => each other (by simp [member]))
        (fun other member => hlacking other (by simp [member])) hrest

end Lists

section Brackets

variable {recording : Bool} {first : Pattern Leaf} {others : List (Pattern Leaf)} (loc : Range)
  (hfirst : ExecutesAsMeant recording first)
  (hothers : ∀ other ∈ others, ExecutesAsMeant recording other)
include hfirst hothers

theorem agrees_union : ExecutesAsMeant recording (grouped loc .union first others) := by
  intro standing tally scene values state ready
  have hall : ∀ pattern ∈ first :: others, ExecutesAsMeant recording pattern := by
    simpa using ⟨hfirst, hothers⟩
  obtain ⟨subject, rfl⟩ := ready.suits.single rfl
  have hwidth : (grouped loc .union first others).slots = first.slots := rfl
  have hsubject : (grouped loc .union first others).subjectOf [subject] = subject := rfl
  rw [exec, matching?, hwidth, hsubject]
  apply Agrees.visit recording tally.key _
  intro marked hmarked
  rw [← hmarked] at ready
  obtain ⟨hslots, hbranches⟩ := ready.branches
  exact agrees_any hall (fun pattern member => Lacks.part member) standing.inner_ne_term hslots
    (hbranches subject)

theorem agrees_intersection :
    ExecutesAsMeant recording (grouped loc .intersection first others) := by
  intro standing tally scene values state ready
  have hall : ∀ pattern ∈ first :: others, ExecutesAsMeant recording pattern := by
    simpa using ⟨hfirst, hothers⟩
  obtain ⟨subject, rfl⟩ := ready.suits.single rfl
  have hsubject : (grouped loc .intersection first others).subjectOf [subject] = subject := rfl
  rw [exec, matching?, hsubject]
  apply Agrees.visit recording tally.key _
  intro marked hmarked
  rw [← hmarked] at ready
  exact agrees_each hall (fun pattern member => Lacks.part member) standing.inner_ne_term
    (ready.members subject)

theorem agrees_sequence : ExecutesAsMeant recording (grouped loc .sequence first others) := by
  intro standing tally scene values state ready
  obtain ⟨subject, rfl⟩ := ready.suits.single rfl
  have hsubject : (grouped loc .sequence first others).subjectOf [subject] = subject := rfl
  have hwidth : (grouped loc .sequence first others).slots = first.slots + slotsAll others := rfl
  rw [exec, matching?, hsubject, hwidth]
  apply Agrees.visit recording tally.key _
  intro marked hmarked
  rw [← hmarked] at ready
  obtain ⟨layout, hhead, hterms⟩ := ready.terms
  cases subject.node? with
  | none => exact Agrees.refuse tally.slot _ _ marked
  | some node =>
      have hagrees := hfirst .within tally.inner scene [subject] marked hhead
      rw [subjectOf_single (hhead.fixed Standing.noConfusion)] at hagrees
      apply (hagrees.mono (Lacks.part (by simp))).both
      intro after hlength
      cases hcount : (countOf others).holds node.children.length with
      | false =>
          have hnomatch : matchingTerms? scene others node.children = none := by
            cases hmatch : matchingTerms? scene others node.children with
            | none => rfl
            | some captures =>
                rw [countOf_of_matchingTerms? layout (by rw [hmatch]; rfl)] at hcount
                cases hcount
          rw [hnomatch]
          exact Agrees.refuse _ _ _ after
      | true =>
          rw [if_pos rfl]
          have hready := hterms node.children hcount
          rw [← hlength] at hready
          exact agrees_terms hothers (fun pattern member => Lacks.part (by simp [member])) hready

end Brackets

/-- Executing a pattern that is ready tells whether it matches and captures what it
captures; a fault tells that something it asks for is missing. -/
theorem exec_agrees (recording : Bool) (pattern : Pattern Leaf) :
    ExecutesAsMeant recording pattern := by
  induction pattern using induct with
  | leaf loc value => exact agrees_leaf recording loc value
  | marked loc mark inner induction =>
      cases mark with
      | capture => exact agrees_capture loc induction
      | negation => exact agrees_negation loc induction
      | ascend => exact agrees_ascend loc induction
  | repeated loc inner quantity induction => exact agrees_repeated loc quantity induction
  | grouped loc bracket first others firstHolds othersHold =>
      cases bracket with
      | sequence => exact agrees_sequence loc firstHolds othersHold
      | union => exact agrees_union loc firstHolds othersHold
      | intersection => exact agrees_intersection loc firstHolds othersHold

end Pattern

end TreeMatch
