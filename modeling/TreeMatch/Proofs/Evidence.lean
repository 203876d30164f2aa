import TreeMatch.Proofs.Agreement
import TreeMatch.Proofs.Identity
import TreeMatch.Proofs.Replay

/-! What a recording run leaves in the log is true: the last event about a part of the pattern and
a node tells whether the part matches the node. -/

namespace TreeMatch

def Placed (part? : Nat → Option (Pattern Leaf)) (key : Nat) (parts : List (Pattern Leaf)) : Prop :=
  ∀ index part, parts[index]? = some part → part? (key + index) = some part

namespace Placed

variable {part? : Nat → Option (Pattern Leaf)} {key : Nat}

theorem head {part : Pattern Leaf} {rest : List (Pattern Leaf)}
    (placed : Placed part? key (part :: rest)) : part? key = some part :=
  placed 0 part rfl

theorem tail {part : Pattern Leaf} {rest : List (Pattern Leaf)}
    (placed : Placed part? key (part :: rest)) : Placed part? (key + 1) rest := by
  intro index other hother
  rw [Nat.add_assoc, Nat.add_comm 1]
  exact placed (index + 1) other hother

theorem front {front back : List (Pattern Leaf)} (placed : Placed part? key (front ++ back)) :
    Placed part? key front := by
  intro index part hpart
  apply placed index part
  rw [List.getElem?_append_left (List.getElem?_eq_some_iff.mp hpart).1, hpart]

theorem back {front back : List (Pattern Leaf)} (placed : Placed part? key (front ++ back)) :
    Placed part? (key + front.length) back := by
  intro index part hpart
  rw [Nat.add_assoc]
  apply placed (front.length + index) part
  rw [List.getElem?_append_right (Nat.le_add_right _ _), Nat.add_sub_cancel_left, hpart]

end Placed

section Evidence

variable (scene : Scene) (part? : Nat → Option (Pattern Leaf))

/-- The part with a key is known, and it matches a node as it is said to. -/
def Tells (id : Nat) (node : Node) (success : Bool) : Prop :=
  ∃ part, part? id = some part ∧ (part.matching? scene [node.toValue]).isSome = success

/-- Of the events about a part and a node the last tells whether the part matches the node. -/
def Truthful (events : List Event) : Prop :=
  ∀ id, ∀ node ∈ scene.document.nodes, ∀ success,
    Event.last? events id node.id = some success → Tells scene part? id node success

structure Recorded (before after : RunState) : Prop where
  length : after.slots.length = before.slots.length
  logged : ∃ events, after.log = before.log ++ events ∧ Truthful scene part? events

def Reveals (before : RunState) (result : RunResult) : Prop :=
  ∀ answer after, result = (.ok answer, after) → Recorded scene part? before after

end Evidence

variable {scene : Scene} {part? : Nat → Option (Pattern Leaf)}

namespace Truthful

theorem nil : Truthful scene part? [] := by
  intro id node _ success hlast
  cases hlast

theorem append {front back : List Event} (hfront : Truthful scene part? front)
    (hback : Truthful scene part? back) : Truthful scene part? (front ++ back) := by
  intro id node member success hlast
  rw [Event.last?_append, Option.or_eq_some_iff] at hlast
  rcases hlast with hlater | ⟨-, hearlier⟩
  · exact hback id node member success hlater
  · exact hfront id node member success hearlier

/-- Events between the marks of a visit are framed by what is true of the subject. -/
theorem between {id : Nat} {subject : Value} {answer : Bool} {inner : List Event}
    (hinner : Truthful scene part? inner)
    (htells : ∀ node ∈ scene.document.nodes,
      (subject.node?.any (·.id == node.id)) = true → Tells scene part? id node answer) :
    Truthful scene part?
      (⟨id, subject, false⟩ :: inner ++ if answer then [⟨id, subject, true⟩] else []) := by
  intro key node member success hlast
  by_cases hconcerns : Event.concerns ⟨id, subject, false⟩ key node.id = true
  · obtain ⟨hkey, hsubject⟩ := Bool.and_eq_true_iff.mp hconcerns
    have hid : id = key := beq_iff_eq.mp hkey
    subst hid
    cases answer with
    | true =>
        have hmark : Event.concerns ⟨id, subject, true⟩ id node.id = true := hconcerns
        rw [if_pos rfl, Event.last?_append, Event.last?_cons, hmark] at hlast
        cases hlast
        exact htells node member hsubject
    | false =>
        rw [if_neg Bool.false_ne_true, List.append_nil, Event.last?_cons, hconcerns,
          Option.or_eq_some_iff] at hlast
        rcases hlast with hlater | ⟨-, hentered⟩
        · exact hinner id node member success hlater
        · cases hentered
          exact htells node member hsubject
  · have hmark : ¬ Event.concerns ⟨id, subject, true⟩ key node.id = true := hconcerns
    have hlast' : Event.last? inner key node.id = some success := by
      cases answer with
      | true =>
          rw [if_pos rfl, Event.last?_append, Event.last?_cons, if_neg hmark, Event.last?_cons,
            if_neg hconcerns] at hlast
          simpa using hlast
      | false =>
          rw [if_neg Bool.false_ne_true, List.append_nil, Event.last?_cons, if_neg hconcerns]
            at hlast
          simpa using hlast
    exact hinner key node member success hlast'

end Truthful

namespace Recorded

theorem refl (state : RunState) : Recorded scene part? state state :=
  ⟨rfl, [], (List.append_nil _).symm, .nil⟩

theorem trans {before middle after : RunState} (hfirst : Recorded scene part? before middle)
    (hsecond : Recorded scene part? middle after) : Recorded scene part? before after := by
  obtain ⟨front, hfront, htrue⟩ := hfirst.logged
  obtain ⟨back, hback, halso⟩ := hsecond.logged
  refine ⟨hsecond.length.trans hfirst.length, front ++ back, ?_, htrue.append halso⟩
  rw [hback, hfront, List.append_assoc]

end Recorded

namespace Reveals

variable {state : RunState} {first second : Action}

theorem answer (result : Except RunFault Bool) (state : RunState) :
    Reveals scene part? state (Action.answer result state) := by
  intro answer after hresult
  cases hresult
  exact .refl state

theorem both (hfirst : Reveals scene part? state (first state))
    (hsecond : ∀ middle : RunState, middle.slots.length = state.slots.length →
      Reveals scene part? middle (second middle)) :
    Reveals scene part? state (Action.both first second state) := by
  intro answer after hresult
  rcases Action.both_eq_ok hresult with ⟨hfailed, -⟩ | ⟨middle, hheld, hrest⟩
  · exact hfirst false after hfailed
  · have hrecorded := hfirst true middle hheld
    exact hrecorded.trans (hsecond middle hrecorded.length answer after hrest)

theorem either (hfirst : Reveals scene part? state (first state))
    (hsecond : ∀ middle : RunState, middle.slots.length = state.slots.length →
      Reveals scene part? middle (second middle)) :
    Reveals scene part? state (Action.either first second state) := by
  intro answer after hresult
  rcases Action.either_eq_ok hresult with ⟨hheld, -⟩ | ⟨middle, hfailed, hrest⟩
  · exact hfirst true after hheld
  · have hrecorded := hfirst false middle hfailed
    exact hrecorded.trans (hsecond middle hrecorded.length answer after hrest)

theorem invert (hfirst : Reveals scene part? state (first state)) :
    Reveals scene part? state (Action.invert first state) := by
  intro answer after hresult
  exact hfirst _ after (Action.invert_eq_ok hresult)

theorem store (slot : Nat) (value : Value) (state : RunState) :
    Reveals scene part? state (Action.store slot value state) := by
  intro answer after hresult
  unfold Action.store at hresult
  split at hresult
  · cases hresult
    exact ⟨List.length_set, [], (List.append_nil _).symm, .nil⟩
  · cases hresult

theorem everyItem {check : Value → Action} {values : List Value}
    (heach : ∀ value ∈ values, ∀ middle : RunState, middle.slots.length = state.slots.length →
      Reveals scene part? middle (check value middle)) :
    Reveals scene part? state (Test.everyItem check values state) := by
  induction values generalizing state with
  | nil => exact answer (.ok true) state
  | cons value rest induction =>
      change Reveals scene part? state
        (Action.both (check value) (Test.everyItem check rest) state)
      apply both (heach value (by simp) state rfl)
      intro middle hlength
      exact induction fun other member last hsame =>
        heach other (by simp [member]) last (hsame.trans hlength)

theorem visit_eq_ok {id : Nat} {subject : Value} {action : Action} {answer : Bool}
    {after : RunState} (hinner : ∀ marked : RunState, marked.slots.length = state.slots.length →
      Reveals scene part? marked (action marked))
    (hresult : Action.visit true id subject action state = (.ok answer, after)) :
    after.slots.length = state.slots.length ∧ ∃ inner, Truthful scene part? inner ∧
      after.log = state.log ++
        (⟨id, subject, false⟩ :: inner ++ if answer then [⟨id, subject, true⟩] else []) := by
  change Action.both action (Action.note id subject true)
    { state with log := state.log ++ [⟨id, subject, false⟩] } = (.ok answer, after) at hresult
  have hmarked := hinner { state with log := state.log ++ [⟨id, subject, false⟩] } rfl
  rcases Action.both_eq_ok hresult with ⟨hfailed, rfl⟩ | ⟨middle, hheld, hrest⟩
  · obtain ⟨hlength, inner, hlog, hevents⟩ := hmarked false after hfailed
    exact ⟨hlength, inner, hevents, by rw [hlog]; simp⟩
  · obtain ⟨hlength, inner, hlog, hevents⟩ := hmarked true middle hheld
    cases hrest
    refine ⟨hlength, inner, hevents, ?_⟩
    change middle.log ++ _ = _
    rw [hlog]
    simp

end Reveals

namespace Pattern

/-- Where the pattern is ready and its parts have their keys, executing it leaves truthful events
and, unless it fails, a mark of its own. -/
def ExecutesOpenly (scene : Scene) (part? : Nat → Option (Pattern Leaf)) (pattern : Pattern Leaf) :
    Prop :=
  ∀ (standing : Standing) (tally : Tally) (values : List Value) (state : RunState),
    Ready standing tally state.slots.length pattern values →
    (∀ value ∈ values, scene.document.Knows value) → Placed part? tally.key pattern.walk →
    Reveals scene part? state (pattern.exec true scene tally (pattern.subjectOf values) state) ∧
      ∀ answer after,
        pattern.exec true scene tally (pattern.subjectOf values) state = (.ok answer, after) →
        ⟨tally.key, pattern.subjectOf values, false⟩ ∈ after.log

/-- What is left to show of a pattern is that its parts leave truthful events. -/
theorem reveals_exec (faithful : scene.document.Faithful) {pattern : Pattern Leaf}
    {standing : Standing} {tally : Tally} {values : List Value} {state : RunState}
    (ready : Ready standing tally state.slots.length pattern values)
    (hknown : ∀ value ∈ values, scene.document.Knows value) (hpart : part? tally.key = some pattern)
    {action : Action}
    (hexec : pattern.exec true scene tally (pattern.subjectOf values) =
      Action.visit true tally.key (pattern.subjectOf values) action)
    (hinner : ∀ marked : RunState, marked.slots.length = state.slots.length →
      Reveals scene part? marked (action marked)) :
    Reveals scene part? state
        (pattern.exec true scene tally (pattern.subjectOf values) state) ∧
      ∀ answer after,
        pattern.exec true scene tally (pattern.subjectOf values) state = (.ok answer, after) →
        ⟨tally.key, pattern.subjectOf values, false⟩ ∈ after.log := by
  have hagrees := exec_agrees true pattern standing tally scene values state ready
  rw [hexec] at hagrees ⊢
  refine ⟨fun answer after hresult => ?_, fun answer after hresult => ?_⟩
  · obtain ⟨hlength, inner, hevents, hlog⟩ := Reveals.visit_eq_ok hinner hresult
    refine ⟨hlength, _, hlog, hevents.between fun node member hsubject => ?_⟩
    rw [hresult] at hagrees
    have hanswer : answer = (pattern.matching? scene values).isSome := by
      cases hagrees
      rfl
    -- A run is marked with no node as its subject, so its events concern none.
    cases hvariadic : pattern.isVariadic with
    | true =>
        rw [subjectOf, hvariadic] at hsubject
        cases hsubject
    | false =>
        obtain ⟨subject, rfl⟩ := ready.suits.single hvariadic
        rw [subjectOf_single hvariadic, Option.any_eq_true_iff_get] at hsubject
        obtain ⟨hnode, hid⟩ := hsubject
        have hfound := Option.some_get hnode
        have hsame := faithful.identified _ (hknown subject (by simp) _ hfound.symm) node member
          (beq_iff_eq.mp hid)
        refine ⟨pattern, hpart, ?_⟩
        rw [hanswer, ← hsame, ← Value.eq_toValue hfound.symm]
  · obtain ⟨-, inner, -, hlog⟩ := Reveals.visit_eq_ok hinner hresult
    rw [hlog]
    simp

section Lists

variable {patterns : List (Pattern Leaf)}
  (each : ∀ pattern ∈ patterns, ExecutesOpenly scene part? pattern)
include each

theorem openly_any {standing : Standing} (hstanding : standing ≠ .term) {subject : Value}
    (hknown : scene.document.Knows subject) {tally : Tally} {state : RunState}
    (ready : ReadyAny standing tally state.slots.length patterns subject)
    (placed : Placed part? tally.key (walkAll patterns)) :
    Reveals scene part? state (execAny true scene tally patterns subject state) := by
  induction patterns generalizing tally state with
  | nil => exact .answer _ state
  | cons pattern rest induction =>
      obtain ⟨hready, hrest⟩ := ready
      have hfirst := (each pattern (by simp) standing tally [subject] state hready (by simpa)
        placed.front).1
      rw [subjectOf_single (hready.fixed hstanding)] at hfirst
      apply hfirst.either
      intro middle hlength
      rw [← hlength] at hrest
      exact induction (fun other member => each other (by simp [member])) hrest placed.back

theorem openly_each {standing : Standing} (hstanding : standing ≠ .term) {subject : Value}
    (hknown : scene.document.Knows subject) {tally : Tally} {state : RunState}
    (ready : ReadyEach standing tally state.slots.length patterns subject)
    (placed : Placed part? tally.key (walkAll patterns)) :
    Reveals scene part? state (execEach true scene tally patterns subject state) := by
  induction patterns generalizing tally state with
  | nil => exact .answer _ state
  | cons pattern rest induction =>
      obtain ⟨hready, hrest⟩ := ready
      have hfirst := (each pattern (by simp) standing tally [subject] state hready (by simpa)
        placed.front).1
      rw [subjectOf_single (hready.fixed hstanding)] at hfirst
      apply hfirst.both
      intro middle hlength
      rw [← hlength] at hrest
      exact induction (fun other member => each other (by simp [member])) hrest placed.back

theorem openly_terms {children : List Value}
    (hknown : ∀ child ∈ children, scene.document.Knows child) {tally : Tally} {state : RunState}
    (ready : ReadyTerms tally state.slots.length patterns children)
    (placed : Placed part? tally.key (walkAll patterns)) :
    Reveals scene part? state (execTerms true scene tally patterns children state) := by
  induction patterns generalizing tally state children with
  | nil => exact .answer _ state
  | cons term rest induction =>
      obtain ⟨hready, hrest⟩ := ready
      have hfirst := (each term (by simp) .term tally _ state hready
        (fun child member => hknown child (List.mem_of_mem_take member)) placed.front).1
      apply hfirst.both
      intro middle hlength
      rw [← hlength] at hrest
      exact induction (fun other member => each other (by simp [member]))
        (fun child member => hknown child (List.mem_of_mem_drop member)) hrest placed.back

end Lists

section Constructs

variable (faithful : scene.document.Faithful) {loc : Range} {inner first : Pattern Leaf}
  {others : List (Pattern Leaf)}
include faithful

theorem openly_leaf (value : Leaf) : ExecutesOpenly scene part? (leaf loc value) := by
  intro standing tally values state ready hknown placed
  exact reveals_exec faithful ready hknown placed.head rfl fun marked _ => .answer _ marked

theorem openly_capture (hinner : ExecutesOpenly scene part? inner) :
    ExecutesOpenly scene part? (marked loc .capture inner) := by
  intro standing tally values state ready hknown placed
  apply reveals_exec faithful ready hknown placed.head rfl
  intro marked hmarked
  rw [← hmarked] at ready
  have hreveals :=
    (hinner standing tally.captured values marked ready.captured hknown placed.tail).1
  exact hreveals.both fun middle _ => .store tally.slot _ middle

theorem openly_negation (hinner : ExecutesOpenly scene part? inner) :
    ExecutesOpenly scene part? (marked loc .negation inner) := by
  intro standing tally values state ready hknown placed
  obtain ⟨subject, rfl⟩ := ready.suits.single rfl
  apply reveals_exec faithful ready hknown placed.head rfl
  intro marked hmarked
  rw [← hmarked] at ready
  have hreveals :=
    (hinner standing.inner tally.inner [subject] marked ready.negated hknown placed.tail).1
  rw [subjectOf_single (ready.negated.fixed standing.inner_ne_term)] at hreveals
  exact hreveals.invert

theorem openly_ascend (hinner : ExecutesOpenly scene part? inner) :
    ExecutesOpenly scene part? (marked loc .ascend inner) := by
  intro standing tally values state ready hknown placed
  obtain ⟨subject, rfl⟩ := ready.suits.single rfl
  apply reveals_exec faithful ready hknown placed.head rfl
  intro marked hmarked
  rw [← hmarked] at ready
  have hsubject : (Pattern.marked loc .ascend inner).subjectOf [subject] = subject := rfl
  rw [hsubject]
  cases habove : scene.document.above subject with
  | none => exact .answer _ marked
  | some above =>
      have hknows : ∀ value ∈ [above], scene.document.Knows value := by
        simpa using Document.knows_above habove
      have hreveals := (hinner standing.inner tally.inner [above] marked (ready.above above)
        hknows placed.tail).1
      rw [subjectOf_single ((ready.above above).fixed standing.inner_ne_term)] at hreveals
      exact hreveals

theorem openly_repeated {quantity : Quantity} (hinner : ExecutesOpenly scene part? inner) :
    ExecutesOpenly scene part? (repeated loc inner quantity) := by
  intro standing tally values state ready hknown placed
  apply reveals_exec faithful ready hknown placed.head rfl
  intro marked hmarked
  refine .everyItem fun value member middle hlength => ?_
  have hbody := ready.element.2.2 value
  rw [← hmarked, ← hlength] at hbody
  have hreveals := (hinner .within tally.repeated [value] middle hbody
    (by simpa using hknown value member) placed.tail).1
  rw [subjectOf_single (hbody.fixed Standing.noConfusion)] at hreveals
  exact hreveals

theorem openly_union (hall : ∀ pattern ∈ first :: others, ExecutesOpenly scene part? pattern) :
    ExecutesOpenly scene part? (grouped loc .union first others) := by
  intro standing tally values state ready hknown placed
  obtain ⟨subject, rfl⟩ := ready.suits.single rfl
  apply reveals_exec faithful ready hknown placed.head rfl
  intro marked hmarked
  rw [← hmarked] at ready
  exact openly_any hall standing.inner_ne_term (hknown subject (by simp))
    (ready.branches.2 subject) placed.tail

theorem openly_intersection
    (hall : ∀ pattern ∈ first :: others, ExecutesOpenly scene part? pattern) :
    ExecutesOpenly scene part? (grouped loc .intersection first others) := by
  intro standing tally values state ready hknown placed
  obtain ⟨subject, rfl⟩ := ready.suits.single rfl
  apply reveals_exec faithful ready hknown placed.head rfl
  intro marked hmarked
  rw [← hmarked] at ready
  exact openly_each hall standing.inner_ne_term (hknown subject (by simp))
    (ready.members subject) placed.tail

theorem openly_sequence (hfirst : ExecutesOpenly scene part? first)
    (hothers : ∀ other ∈ others, ExecutesOpenly scene part? other) :
    ExecutesOpenly scene part? (grouped loc .sequence first others) := by
  intro standing tally values state ready hknown placed
  obtain ⟨subject, rfl⟩ := ready.suits.single rfl
  have hparts : Placed part? (tally.key + 1) (walkAll (first :: others)) := placed.tail
  apply reveals_exec faithful ready hknown placed.head rfl
  intro marked hmarked
  rw [← hmarked] at ready
  obtain ⟨-, hhead, hterms⟩ := ready.terms
  have hsubject : (grouped loc .sequence first others).subjectOf [subject] = subject := rfl
  rw [hsubject]
  cases hnode : subject.node? with
  | none => exact .answer _ marked
  | some node =>
      have hreveals := (hfirst .within tally.inner [subject] marked hhead hknown hparts.front).1
      rw [subjectOf_single (hhead.fixed Standing.noConfusion)] at hreveals
      apply hreveals.both
      intro middle hlength
      have hchildren := faithful.knows_child (hknown subject (by simp) node hnode)
      split
      · rename_i hcount
        have hready := hterms node.children hcount
        rw [← hlength] at hready
        exact openly_terms hothers hchildren hready hparts.back
      · exact .answer _ middle

end Constructs

theorem exec_openly (scene : Scene) (part? : Nat → Option (Pattern Leaf))
    (faithful : scene.document.Faithful) (pattern : Pattern Leaf) :
    ExecutesOpenly scene part? pattern := by
  induction pattern using induct with
  | leaf loc value => exact openly_leaf faithful value
  | marked loc mark inner induction =>
      cases mark with
      | capture => exact openly_capture faithful induction
      | negation => exact openly_negation faithful induction
      | ascend => exact openly_ascend faithful induction
  | repeated loc inner quantity induction => exact openly_repeated faithful induction
  | grouped loc bracket first others firstHolds othersHold =>
      have hall : ∀ pattern ∈ first :: others, ExecutesOpenly scene part? pattern := by
        simpa using ⟨firstHolds, othersHold⟩
      cases bracket with
      | sequence => exact openly_sequence faithful firstHolds othersHold
      | union => exact openly_union faithful hall
      | intersection => exact openly_intersection faithful hall

end Pattern

end TreeMatch
