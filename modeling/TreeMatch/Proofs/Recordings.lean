import TreeMatch.Proofs.Agreement

/-! What a match records on its way. Nothing takes a recording back: it stays in its slot until
another one comes, also when a part of the pattern in which it was made fails. -/

namespace TreeMatch

structure Recording where
  slot : Nat
  value : Value
  /-- A part of the pattern in which it was made has failed. -/
  lost : Bool
  deriving Repr

namespace Recording

def lose (entry : Recording) : Recording :=
  { entry with lost := true }

def replay (slots : List Value) (made : List Recording) : List Value :=
  made.foldl (fun slots entry => slots.set entry.slot entry.value) slots

def last? (slot : Nat) : List Recording → Option Recording
  | [] => none
  | entry :: rest => (last? slot rest).or (if entry.slot = slot then some entry else none)

def Within (slot width : Nat) (made : List Recording) : Prop :=
  ∀ entry ∈ made, slot ≤ entry.slot ∧ entry.slot < slot + width

/-- Of a slot that was captured the last recording is kept; where the slot was left open, all of
them are lost. -/
structure Keeps (captures : Captures) (slot : Nat) (made : List Recording) : Prop where
  kept : ∀ index value, captures[index]? = some (some value) →
    last? (slot + index) made = some ⟨slot + index, value, false⟩
  lost : ∀ index, captures[index]? = some none →
    ∀ entry ∈ made, entry.slot = slot + index → entry.lost = true

theorem replay_append (slots : List Value) (before after : List Recording) :
    replay slots (before ++ after) = replay (replay slots before) after :=
  List.foldl_append

theorem replay_lose (slots : List Value) (made : List Recording) :
    replay slots (made.map lose) = replay slots made :=
  List.foldl_map

theorem length_replay (slots : List Value) (made : List Recording) :
    (replay slots made).length = slots.length := by
  induction made generalizing slots with
  | nil => rfl
  | cons entry rest induction =>
      change (replay (slots.set entry.slot entry.value) rest).length = _
      rw [induction, List.length_set]

theorem last?_append (slot : Nat) (before after : List Recording) :
    last? slot (before ++ after) = (last? slot after).or (last? slot before) := by
  induction before with
  | nil => exact (Option.or_none).symm
  | cons entry rest induction =>
      change (last? slot (rest ++ after)).or _ = _
      rw [induction, Option.or_assoc]
      rfl

theorem last?_eq_none {slot : Nat} {made : List Recording}
    (hother : ∀ entry ∈ made, entry.slot ≠ slot) : last? slot made = none := by
  induction made with
  | nil => rfl
  | cons entry rest induction =>
      rw [List.forall_mem_cons] at hother
      rw [last?, induction hother.2, if_neg hother.1]
      rfl

theorem getElem?_replay (slots : List Value) (made : List Recording) {slot : Nat}
    (hslot : slot < slots.length) :
    (replay slots made)[slot]? =
      ((last? slot made).map Recording.value).or slots[slot]? := by
  induction made generalizing slots with
  | nil => rfl
  | cons entry rest induction =>
      change (replay (slots.set entry.slot entry.value) rest)[slot]? = _
      rw [induction _ (by rwa [List.length_set]), last?]
      cases last? slot rest with
      | some found => rfl
      | none =>
          by_cases hsame : entry.slot = slot
          · rw [if_pos hsame, hsame, List.getElem?_set_self hslot]
            rfl
          · rw [if_neg hsame, List.getElem?_set_ne hsame]
            rfl

namespace Within

variable {slot width behind : Nat} {before after made : List Recording}

theorem mono {lower wider : Nat} (within : Within slot width made) (hlower : lower ≤ slot)
    (hwider : slot + width ≤ lower + wider) : Within lower wider made := by
  intro entry member
  have hentry := within entry member
  omega

theorem append (hbefore : Within slot width before) (hafter : Within slot width after) :
    Within slot width (before ++ after) :=
  List.forall_mem_append.mpr ⟨hbefore, hafter⟩

theorem last?_eq_none (within : Within slot width made) {other : Nat}
    (hother : other < slot ∨ slot + width ≤ other) : last? other made = none := by
  apply Recording.last?_eq_none
  intro entry member
  have hentry := within entry member
  omega

end Within

namespace Keeps

variable {captures front back : Captures} {slot : Nat} {before after : List Recording}

theorem nil (slot : Nat) (made : List Recording) : Keeps [] slot made :=
  ⟨fun _ _ hindex => (nomatch hindex), fun _ hindex => (nomatch hindex)⟩

theorem replicate (width slot : Nat) {made : List Recording}
    (hlost : ∀ entry ∈ made, entry.lost = true) : Keeps (List.replicate width none) slot made := by
  refine ⟨fun index value hindex => ?_, fun _ _ entry member _ => hlost entry member⟩
  rw [List.getElem?_replicate] at hindex
  split at hindex <;> cases hindex

theorem after_lost (keeps : Keeps captures slot after)
    (hlost : ∀ entry ∈ before, entry.lost = true) : Keeps captures slot (before ++ after) := by
  constructor
  · intro index value hindex
    rw [last?_append, keeps.kept index value hindex]
    rfl
  · intro index hindex
    exact List.forall_mem_append.mpr
      ⟨fun entry member _ => hlost entry member, keeps.lost index hindex⟩

theorem append (hfront : Keeps front slot before) (hback : Keeps back (slot + front.length) after)
    (hbefore : Within slot front.length before)
    (hafter : Within (slot + front.length) back.length after) :
    Keeps (front ++ back) slot (before ++ after) := by
  constructor
  · intro index value hindex
    rw [last?_append]
    by_cases hinside : index < front.length
    · rw [List.getElem?_append_left hinside] at hindex
      rw [hafter.last?_eq_none (by omega), hfront.kept index value hindex]
      rfl
    · rw [List.getElem?_append_right (by omega)] at hindex
      have hkept := hback.kept (index - front.length) value hindex
      rw [show slot + front.length + (index - front.length) = slot + index by omega] at hkept
      rw [hkept]
      rfl
  · intro index hindex
    rw [List.forall_mem_append]
    by_cases hinside : index < front.length
    · rw [List.getElem?_append_left hinside] at hindex
      refine ⟨hfront.lost index hindex, fun entry member hslot => ?_⟩
      have hentry := hafter entry member
      omega
    · rw [List.getElem?_append_right (by omega)] at hindex
      refine ⟨fun entry member hslot => ?_, fun entry member hslot => ?_⟩
      · have hentry := hbefore entry member
        omega
      · exact hback.lost (index - front.length) hindex entry member (by omega)

theorem capture (keeps : Keeps captures (slot + 1) before) (value : Value) :
    Keeps (some value :: captures) slot (before ++ [⟨slot, value, false⟩]) := by
  constructor
  · intro index found hindex
    rw [last?_append]
    cases index with
    | zero =>
        cases hindex
        simp [last?]
    | succ index =>
        have hkept := keeps.kept index found hindex
        rw [show slot + 1 + index = slot + (index + 1) by omega] at hkept
        have hother : last? (slot + (index + 1)) [⟨slot, value, false⟩] = none :=
          Recording.last?_eq_none (by simp)
        rw [hother, hkept]
        rfl
  · intro index hindex entry member hslot
    cases index with
    | zero => cases hindex
    | succ index =>
        rcases List.mem_append.mp member with hmade | hown
        · exact keeps.lost index hindex entry hmade (by omega)
        · cases List.mem_singleton.mp hown
          dsimp only at hslot
          omega

end Keeps

end Recording

abbrev Recorder := RunState → List Recording

namespace Recorder

def silent : Recorder := fun _ => []

def store (slot : Nat) (value : Value) : Recorder := fun _ => [⟨slot, value, false⟩]

/-- What one action records and, if it holds, what another does. -/
def both (first : Action) (before after : Recorder) : Recorder := fun state =>
  before state ++
    match first state with
    | (.ok true, middle) => after middle
    | _ => []

/-- What one action records and, if it does not hold, what another does. -/
def either (first : Action) (before after : Recorder) : Recorder := fun state =>
  before state ++
    match first state with
    | (.ok false, middle) => after middle
    | _ => []

/-- What is recorded behind the mark that a visit leaves first. -/
def visit (recording : Bool) (id : Nat) (subject : Value) (inside : Recorder) : Recorder :=
  fun state => inside (if recording then (Action.note id subject false state).2 else state)

/-- Everything that was recorded in an action is lost once it does not hold. -/
def settled (action : Action) (inside : Recorder) : Recorder := fun state =>
  match (action state).1 with
  | .ok false => (inside state).map Recording.lose
  | _ => inside state

def everyItem (check : Value → Action) (each : Value → Recorder) : List Value → Recorder
  | [] => silent
  | item :: rest => both (check item) (each item) (everyItem check each rest)

def everyOf (check : Value → Action) (each : Value → Recorder) (series : Value) : Recorder :=
  match seriesItems series with
  | .ok items => everyItem check each items
  | .error _ => silent

theorem lost_of_refused {action : Action} {inside : Recorder} {state : RunState}
    (hrefused : (action state).1 = .ok false) :
    ∀ entry ∈ settled action inside state, entry.lost = true := by
  unfold settled
  rw [hrefused]
  intro entry member
  obtain ⟨made, -, rfl⟩ := List.mem_map.mp member
  rfl

def Accounts (recorder : Recorder) (action : Action) : Prop :=
  ∀ state, (action state).2.slots = Recording.replay state.slots (recorder state)

namespace Accounts

variable {first second : Action} {before after : Recorder}

theorem answer (result : Except RunFault Bool) : Accounts silent (Action.answer result) :=
  fun _ => rfl

theorem store (slot : Nat) (value : Value) :
    Accounts (Recorder.store slot value) (Action.store slot value) := by
  intro state
  unfold Action.store
  split
  · rfl
  · rename_i hslot
    have hbeyond : state.slots.length ≤ slot := by omega
    exact (List.set_eq_of_length_le hbeyond).symm

theorem both (hfirst : Accounts before first) (hsecond : Accounts after second) :
    Accounts (Recorder.both first before after) (Action.both first second) := by
  intro state
  have hslots := hfirst state
  unfold Recorder.both Action.both
  rw [Recording.replay_append, ← hslots]
  rcases first state with ⟨_ | _ | _, middle⟩
  · rfl
  · rfl
  · exact hsecond middle

theorem either (hfirst : Accounts before first) (hsecond : Accounts after second) :
    Accounts (Recorder.either first before after) (Action.either first second) := by
  intro state
  have hslots := hfirst state
  unfold Recorder.either Action.either
  rw [Recording.replay_append, ← hslots]
  rcases first state with ⟨_ | _ | _, middle⟩
  · rfl
  · exact hsecond middle
  · rfl

theorem invert (haccounts : Accounts before first) : Accounts before (Action.invert first) := by
  intro state
  have hslots := haccounts state
  unfold Action.invert
  rw [← hslots]
  rcases first state with ⟨_ | _, middle⟩ <;> rfl

theorem settled {action : Action} (haccounts : Accounts before first) :
    Accounts (Recorder.settled action before) first := by
  intro state
  unfold Recorder.settled
  split
  · rw [Recording.replay_lose]
    exact haccounts state
  · exact haccounts state

theorem visit (haccounts : Accounts before first) (recording : Bool) (id : Nat)
    (subject : Value) :
    Accounts (Recorder.visit recording id subject before)
      (Action.visit recording id subject first) := by
  intro state
  cases recording with
  | false => exact haccounts state
  | true =>
      have hslots := haccounts (Action.note id subject false state).2
      change (Action.both first (Action.note id subject true)
        (Action.note id subject false state).2).2.slots = _
      unfold Action.both
      refine Eq.trans ?_ hslots
      rcases first (Action.note id subject false state).2 with ⟨_ | _ | _, middle⟩ <;> rfl

theorem part (haccounts : Accounts before first) {recording : Bool} {id : Nat} {subject : Value}
    {action : Action} :
    Accounts (Recorder.settled action (Recorder.visit recording id subject before))
      (Action.visit recording id subject first) :=
  (haccounts.visit recording id subject).settled

theorem everyItem {check : Value → Action} {each : Value → Recorder}
    (hcheck : ∀ value, Accounts (each value) (check value)) (values : List Value) :
    Accounts (Recorder.everyItem check each values) (Test.everyItem check values) := by
  induction values with
  | nil => exact answer (.ok true)
  | cons value rest induction => exact (hcheck value).both induction

theorem everyOf {check : Value → Action} {each : Value → Recorder}
    (hcheck : ∀ value, Accounts (each value) (check value)) (series : Value) :
    Accounts (Recorder.everyOf check each series) (Action.everyOf check series) := by
  unfold Recorder.everyOf Action.everyOf
  cases seriesItems series with
  | error fault => exact answer (.error fault)
  | ok items => exact everyItem hcheck items

end Accounts

end Recorder

namespace Pattern

mutual

/-- What is recorded while a pattern is executed on a subject. -/
def recordings (recording : Bool) (scene : Scene) (tally : Tally) :
    Pattern Leaf → Value → Recorder
  | leaf .., _ => Recorder.silent
  | marked loc .capture inner, subject =>
    Recorder.settled (exec recording scene tally (marked loc .capture inner) subject)
      (Recorder.visit recording tally.key subject
        (Recorder.both (exec recording scene tally.captured inner subject)
          (recordings recording scene tally.captured inner subject)
          (Recorder.store tally.slot (inner.kept subject))))
  | marked loc .negation inner, subject =>
    Recorder.settled (exec recording scene tally (marked loc .negation inner) subject)
      (Recorder.visit recording tally.key subject
        (recordings recording scene tally.inner inner subject))
  | marked loc .ascend inner, subject =>
    Recorder.settled (exec recording scene tally (marked loc .ascend inner) subject)
      (Recorder.visit recording tally.key subject
        (match scene.document.above subject with
        | some above => recordings recording scene tally.inner inner above
        | none => Recorder.silent))
  | repeated loc inner quantity, subject =>
    Recorder.settled (exec recording scene tally (repeated loc inner quantity) subject)
      (Recorder.visit recording tally.key subject
        (Recorder.everyOf (exec recording scene tally.repeated inner)
          (recordings recording scene tally.repeated inner) subject))
  | grouped loc .union first others, subject =>
    Recorder.settled (exec recording scene tally (grouped loc .union first others) subject)
      (Recorder.visit recording tally.key subject
        (Recorder.either (exec recording scene tally.inner first subject)
          (recordings recording scene tally.inner first subject)
          (recordingsAny recording scene (tally.inner.beside first) others subject)))
  | grouped loc .intersection first others, subject =>
    Recorder.settled (exec recording scene tally (grouped loc .intersection first others) subject)
      (Recorder.visit recording tally.key subject
        (Recorder.both (exec recording scene tally.inner first subject)
          (recordings recording scene tally.inner first subject)
          (recordingsEach recording scene (tally.inner.after first) others subject)))
  | grouped loc .sequence first others, subject =>
    Recorder.settled (exec recording scene tally (grouped loc .sequence first others) subject)
      (Recorder.visit recording tally.key subject
        (match subject.node? with
        | some node =>
          Recorder.both (exec recording scene tally.inner first subject)
            (recordings recording scene tally.inner first subject)
            (if (countOf others).holds node.children.length then
              recordingsTerms recording scene (tally.inner.after first) others node.children
            else Recorder.silent)
        | none => Recorder.silent))
termination_by structural pattern => pattern

def recordingsAny (recording : Bool) (scene : Scene) (tally : Tally) :
    List (Pattern Leaf) → Value → Recorder
  | [], _ => Recorder.silent
  | pattern :: rest, subject =>
    Recorder.either (exec recording scene tally pattern subject)
      (recordings recording scene tally pattern subject)
      (recordingsAny recording scene (tally.beside pattern) rest subject)
termination_by structural patterns => patterns

def recordingsEach (recording : Bool) (scene : Scene) (tally : Tally) :
    List (Pattern Leaf) → Value → Recorder
  | [], _ => Recorder.silent
  | pattern :: rest, subject =>
    Recorder.both (exec recording scene tally pattern subject)
      (recordings recording scene tally pattern subject)
      (recordingsEach recording scene (tally.after pattern) rest subject)
termination_by structural patterns => patterns

def recordingsTerms (recording : Bool) (scene : Scene) (tally : Tally) :
    List (Pattern Leaf) → List Value → Recorder
  | [], _ => Recorder.silent
  | term :: rest, children =>
    Recorder.both
      (exec recording scene tally term
        (term.subjectOf (children.take (term.share rest.length children.length))))
      (recordings recording scene tally term
        (term.subjectOf (children.take (term.share rest.length children.length))))
      (recordingsTerms recording scene (tally.after term) rest
        (children.drop (term.share rest.length children.length)))
termination_by structural terms => terms

end

/-! Replaying the recordings gives the slots. -/

section Lists

variable {recording : Bool} {scene : Scene} {patterns : List (Pattern Leaf)}
  (each : ∀ pattern ∈ patterns, ∀ tally subject,
    (recordings recording scene tally pattern subject).Accounts
      (exec recording scene tally pattern subject))
include each

theorem accounts_any (tally : Tally) (subject : Value) :
    (recordingsAny recording scene tally patterns subject).Accounts
      (execAny recording scene tally patterns subject) := by
  induction patterns generalizing tally with
  | nil => exact .answer (.ok false)
  | cons pattern rest induction =>
      exact (each pattern (by simp) tally subject).either
        (induction (fun other member => each other (by simp [member])) _)

theorem accounts_each (tally : Tally) (subject : Value) :
    (recordingsEach recording scene tally patterns subject).Accounts
      (execEach recording scene tally patterns subject) := by
  induction patterns generalizing tally with
  | nil => exact .answer (.ok true)
  | cons pattern rest induction =>
      exact (each pattern (by simp) tally subject).both
        (induction (fun other member => each other (by simp [member])) _)

theorem accounts_terms (tally : Tally) (children : List Value) :
    (recordingsTerms recording scene tally patterns children).Accounts
      (execTerms recording scene tally patterns children) := by
  induction patterns generalizing tally children with
  | nil => exact .answer (.ok true)
  | cons pattern rest induction =>
      exact (each pattern (by simp) tally _).both
        (induction (fun other member => each other (by simp [member])) _ _)

end Lists

/-- The recordings of a pattern are all that its execution does to the slots. -/
theorem accounts_recordings (recording : Bool) (scene : Scene) (pattern : Pattern Leaf)
    (tally : Tally) (subject : Value) :
    (recordings recording scene tally pattern subject).Accounts
      (exec recording scene tally pattern subject) := by
  induction pattern using induct generalizing tally subject with
  | leaf loc value =>
      rw [recordings, exec_leaf]
      exact (Recorder.Accounts.answer _).visit recording tally.key subject
  | marked loc mark inner induction =>
      cases mark with
      | capture =>
          rw [recordings, exec]
          exact ((induction tally.captured subject).both (.store _ _)).part
      | negation =>
          rw [recordings, exec]
          exact (induction tally.inner subject).invert.part
      | ascend =>
          rw [recordings, exec]
          cases scene.document.above subject with
          | none => exact (Recorder.Accounts.answer _).part
          | some above => exact (induction tally.inner above).part
  | repeated loc inner quantity induction =>
      rw [recordings, exec]
      exact (Recorder.Accounts.everyOf (induction tally.repeated) subject).part
  | grouped loc bracket first others firstHolds othersHold =>
      have hfirst := firstHolds tally.inner subject
      cases bracket with
      | union =>
          rw [recordings, exec]
          exact (hfirst.either (accounts_any othersHold _ subject)).part
      | intersection =>
          rw [recordings, exec]
          exact (hfirst.both (accounts_each othersHold _ subject)).part
      | sequence =>
          rw [recordings, exec]
          cases subject.node? with
          | none => exact (Recorder.Accounts.answer _).part
          | some node =>
              dsimp only
              split
              · exact (hfirst.both (accounts_terms othersHold _ _)).part
              · exact (hfirst.both (.answer _)).part

theorem lost_of_refused {recording : Bool} {scene : Scene} {tally : Tally}
    {pattern : Pattern Leaf} {subject : Value} {state : RunState}
    (hrefused : (exec recording scene tally pattern subject state).1 = .ok false) :
    ∀ entry ∈ recordings recording scene tally pattern subject state, entry.lost = true := by
  cases pattern with
  | leaf loc value =>
      rw [recordings]
      exact List.forall_mem_nil _
  | marked loc mark inner =>
      cases mark <;> rw [recordings] <;> exact Recorder.lost_of_refused hrefused
  | repeated loc inner quantity =>
      rw [recordings]
      exact Recorder.lost_of_refused hrefused
  | grouped loc bracket first others =>
      cases bracket <;> rw [recordings] <;> exact Recorder.lost_of_refused hrefused

end Pattern

end TreeMatch
