import TreeMatch.Proofs.Hygiene
import TreeMatch.Proofs.Recordings
import TreeMatch.Proofs.Verdict

/-! What a match returns of what it has recorded: of a captured slot the last recording was made
in parts of the pattern that matched, and of a slot below a negation in parts that failed. -/

namespace TreeMatch

variable {chart : Text.CodeChart}

/-- What was recorded up to an answer is for slots of its own, and on a match it keeps what is
captured. -/
structure Records (slot width : Nat) (captures? : Option Captures)
    (answer : Except RunFault Bool) (made : List Recording) : Prop where
  within : Recording.Within slot width made
  keeps : answer = .ok true → ∀ captures, captures? = some captures →
    captures.length = width ∧ Recording.Keeps captures slot made

namespace Records

variable {slot width behind : Nat} {first? second? : Option Captures} {lacking : Prop}
  {state : RunState}

theorem silent (slot width : Nat) {answer : Except RunFault Bool} (hanswer : answer ≠ .ok true) :
    Records slot width first? answer [] :=
  ⟨List.forall_mem_nil _, fun htrue => absurd htrue hanswer⟩

theorem refused (slot width : Nat) : Records slot width first? (.ok false) [] :=
  silent slot width (by simp)

theorem unmatched (slot width : Nat) (answer : Except RunFault Bool) :
    Records slot width none answer [] :=
  ⟨List.forall_mem_nil _, fun _ _ hsome => by cases hsome⟩

theorem accept (slot : Nat) (answer : Except RunFault Bool) :
    Records slot 0 (some []) answer [] :=
  ⟨List.forall_mem_nil _, fun _ _ hsome => by cases hsome; exact ⟨rfl, .nil slot []⟩⟩

theorem settled {action : Action} {inside : Recorder}
    (records : Records slot width first? (action state).1 (inside state)) :
    Records slot width first? (action state).1 (Recorder.settled action inside state) := by
  unfold Recorder.settled
  split
  · rename_i hrefused
    refine ⟨List.forall_mem_map.mpr records.within, fun htrue => ?_⟩
    rw [hrefused] at htrue
    cases htrue
  · exact records

theorem visit {action : Action} {inside : Recorder} (recording : Bool) (id : Nat)
    (subject : Value)
    (records : ∀ marked : RunState, marked.slots = state.slots →
      Records slot width first? (action marked).1 (inside marked)) :
    Records slot width first? (Action.visit recording id subject action state).1
      (Recorder.visit recording id subject inside state) := by
  cases recording with
  | false => exact records state rfl
  | true =>
      have hmarked := records (Action.note id subject false state).2 rfl
      have hanswer : (Action.visit true id subject action state).1 =
          (action (Action.note id subject false state).2).1 := by
        change (Action.both action (Action.note id subject true)
          (Action.note id subject false state).2).1 = _
        unfold Action.both
        rcases action (Action.note id subject false state).2 with ⟨_ | _ | _, middle⟩ <;> rfl
      rw [hanswer]
      exact hmarked

theorem both {first second : Action} {before after : Recorder}
    (agrees : Agrees slot width first? lacking state.slots (first state))
    (hfirst : Records slot width first? (first state).1 (before state))
    (hsecond : ∀ middle : RunState, middle.slots.length = state.slots.length →
      Records (slot + width) behind second? (second middle).1 (after middle)) :
    Records slot (width + behind) (do return (← first?) ++ (← second?))
      (Action.both first second state).1 (Recorder.both first before after state) := by
  have hwithin := hfirst.within.mono (Nat.le_refl _) (show _ ≤ slot + (width + behind) by omega)
  unfold Action.both Recorder.both
  generalize first state = result at agrees hfirst
  cases agrees with
  | faulted middle hlack =>
      rw [List.append_nil]
      exact ⟨hwithin, nofun⟩
  | answered middle frame hfilled =>
      cases first? with
      | none =>
          dsimp only [Option.isSome_none]
          rw [List.append_nil]
          exact ⟨hwithin, nofun⟩
      | some front =>
          have hrest := hsecond middle frame.length
          obtain ⟨hwidth, hfront⟩ := hfirst.keeps rfl front rfl
          dsimp only [Option.isSome_some]
          refine ⟨hwithin.append (hrest.within.mono (by omega) (by omega)), ?_⟩
          intro htrue captures hsome
          obtain ⟨found, hfound, hsome⟩ := Option.bind_eq_some_iff.mp hsome
          obtain ⟨back, rfl, hsome⟩ := Option.bind_eq_some_iff.mp hsome
          cases hfound
          cases hsome
          obtain ⟨hbehind, hback⟩ := hrest.keeps htrue back rfl
          refine ⟨by rw [List.length_append, hwidth, hbehind], ?_⟩
          have hbefore := hfirst.within
          have hafter := hrest.within
          subst hwidth hbehind
          exact hfront.append hback hbefore hafter

/-- The branches that were tried before the one that matches have lost what they recorded. -/
theorem either {first second : Action} {before after : Recorder}
    (agrees : Agrees slot width first? lacking state.slots (first state))
    (hfirst : Records slot width first? (first state).1 (before state))
    (hlost : (first state).1 = .ok false → ∀ entry ∈ before state, entry.lost = true)
    (hsecond : ∀ middle : RunState, middle.slots.length = state.slots.length →
      Records slot width second? (second middle).1 (after middle)) :
    Records slot width (first?.or second?) (Action.either first second state).1
      (Recorder.either first before after state) := by
  unfold Action.either Recorder.either
  generalize first state = result at agrees hfirst hlost
  cases agrees with
  | faulted middle hlack =>
      rw [List.append_nil]
      exact ⟨hfirst.within, nofun⟩
  | answered middle frame hfilled =>
      cases first? with
      | some captures =>
          dsimp only [Option.isSome_some]
          rw [List.append_nil]
          exact hfirst
      | none =>
          have hrest := hsecond middle frame.length
          dsimp only [Option.isSome_none]
          refine ⟨hfirst.within.append hrest.within, fun htrue captures hsome => ?_⟩
          obtain ⟨hwidth, hkeeps⟩ := hrest.keeps htrue captures hsome
          exact ⟨hwidth, hkeeps.after_lost (hlost rfl)⟩

theorem invert {action : Action} {inside : Recorder}
    (records : Records slot width first? (action state).1 (inside state))
    (hlost : (action state).1 = .ok false → ∀ entry ∈ inside state, entry.lost = true) :
    Records slot width (Pattern.complement? width first?) (Action.invert action state).1
      (inside state) := by
  refine ⟨records.within, fun htrue captures hsome => ?_⟩
  cases first? with
  | some found => cases hsome
  | none =>
      cases hsome
      have hrefused : (action state).1 = .ok false := by
        have hinvert : Action.invert action state =
            (.ok true, (Action.invert action state).2) := Prod.ext htrue rfl
        rw [Action.invert_eq_ok hinvert]
        rfl
      exact ⟨List.length_replicate .., .replicate width slot (hlost hrefused)⟩

theorem capture {action : Action} {inside : Recorder} (value : Value)
    (agrees : Agrees (slot + 1) width first? lacking state.slots (action state))
    (records : Records (slot + 1) width first? (action state).1 (inside state)) :
    Records slot (width + 1) (do return some value :: (← first?))
      (Action.both action (Action.store slot value) state).1
      (Recorder.both action inside (Recorder.store slot value) state) := by
  have hwithin := records.within.mono (Nat.le_succ _) (show _ ≤ slot + (width + 1) by omega)
  unfold Action.both Recorder.both
  generalize action state = result at agrees records
  cases agrees with
  | faulted middle hlack =>
      rw [List.append_nil]
      exact ⟨hwithin, nofun⟩
  | answered middle frame hfilled =>
      cases first? with
      | none =>
          dsimp only [Option.isSome_none]
          rw [List.append_nil]
          exact ⟨hwithin, nofun⟩
      | some captures =>
          obtain ⟨hwidth, hkeeps⟩ := records.keeps rfl captures rfl
          refine ⟨hwithin.append ?_, fun _ found hsome => ?_⟩
          · intro entry member
            cases List.mem_singleton.mp member
            dsimp only
            omega
          · cases hsome
            exact ⟨congrArg (· + 1) hwidth, hkeeps.capture value⟩

theorem everyItem {check : Value → Action} {each : Value → Recorder} (values : List Value)
    (heach : ∀ value ∈ values, ∀ middle : RunState, middle.slots.length = state.slots.length →
      ∃ captures?, Agrees slot 0 captures? lacking middle.slots (check value middle) ∧
        Records slot 0 captures? (check value middle).1 (each value middle)) :
    Recorder.everyItem check each values state = [] := by
  induction values generalizing state with
  | nil => rfl
  | cons value rest induction =>
      obtain ⟨captures?, agrees, records⟩ := heach value (by simp) state rfl
      have hnone : each value state = [] := by
        rw [List.eq_nil_iff_forall_not_mem]
        intro entry member
        have hentry := records.within entry member
        omega
      rw [Recorder.everyItem, Recorder.both, hnone, List.nil_append]
      generalize check value state = result at agrees
      cases agrees with
      | faulted middle hlack => rfl
      | answered middle frame hfilled =>
          cases captures? with
          | none => rfl
          | some captures =>
              exact induction fun other member last hlength =>
                heach other (by simp [member]) last (hlength.trans frame.length)

end Records

namespace Pattern

def RecordsAsMeant (recording : Bool) (pattern : Pattern Leaf) : Prop :=
  ∀ (standing : Standing) (tally : Tally) (scene : Scene) (values : List Value) (state : RunState),
    Ready standing tally state.slots.length pattern values →
    Records tally.slot pattern.slots (pattern.matching? scene values)
      (pattern.exec recording scene tally (pattern.subjectOf values) state).1
      (pattern.recordings recording scene tally (pattern.subjectOf values) state)

theorem records_leaf (recording : Bool) (loc : Range) (value : Leaf) :
    RecordsAsMeant recording (leaf loc value) := by
  intro standing tally scene values state ready
  rw [recordings]
  refine ⟨List.forall_mem_nil _, fun _ captures hsome => ?_⟩
  have hempty : captures = [] := by
    cases value with
    | rest =>
        cases hsome
        rfl
    | _ =>
        obtain ⟨subject, rfl⟩ := ready.suits.single rfl
        rw [matching?] at hsome
        · split at hsome
          · cases hsome
            rfl
          · cases hsome
        · exact fun hrest => by cases hrest
  subst hempty
  exact ⟨rfl, .nil _ _⟩

section Constructs

variable {recording : Bool} {inner first : Pattern Leaf} {others : List (Pattern Leaf)}
  (loc : Range)

theorem records_capture (hinner : RecordsAsMeant recording inner) :
    RecordsAsMeant recording (marked loc .capture inner) := by
  intro standing tally scene values state ready
  rw [recordings]
  apply Records.settled
  rw [exec, matching?, captured_eq_kept ready.captured.suits]
  apply Records.visit recording tally.key _
  intro marked hmarked
  rw [← hmarked] at ready
  have hagrees := exec_agrees recording inner standing tally.captured scene values marked
    ready.captured
  exact .capture _ hagrees (hinner standing tally.captured scene values marked ready.captured)

theorem records_negation (hinner : RecordsAsMeant recording inner) :
    RecordsAsMeant recording (marked loc .negation inner) := by
  intro standing tally scene values state ready
  obtain ⟨subject, rfl⟩ := ready.suits.single rfl
  have hfixed := ready.negated.fixed standing.inner_ne_term
  rw [recordings]
  apply Records.settled
  rw [exec, matching?]
  apply Records.visit recording tally.key _
  intro marked hmarked
  rw [← hmarked] at ready
  have hrecords := hinner standing.inner tally.inner scene [subject] marked ready.negated
  rw [subjectOf_single hfixed] at hrecords
  exact hrecords.invert lost_of_refused

theorem records_ascend (hinner : RecordsAsMeant recording inner) :
    RecordsAsMeant recording (marked loc .ascend inner) := by
  intro standing tally scene values state ready
  obtain ⟨subject, rfl⟩ := ready.suits.single rfl
  have hsubject : (marked loc .ascend inner).subjectOf [subject] = subject := rfl
  rw [recordings]
  apply Records.settled
  rw [exec, matching?, hsubject]
  apply Records.visit recording tally.key _
  intro marked hmarked
  rw [← hmarked] at ready
  cases scene.document.above subject with
  | none => exact .refused _ _
  | some above =>
      have hrecords := hinner standing.inner tally.inner scene [above] marked (ready.above above)
      rwa [subjectOf_single ((ready.above above).fixed standing.inner_ne_term)] at hrecords

theorem records_repeated (quantity : Quantity) (hinner : RecordsAsMeant recording inner) :
    RecordsAsMeant recording (repeated loc inner quantity) := by
  intro standing tally scene values state ready
  obtain ⟨hslots, hallowed, hbody⟩ := ready.element
  have hwidth : (repeated loc inner quantity).slots = 0 := hslots
  have hsubject : (repeated loc inner quantity).subjectOf values = .tuple values := rfl
  rw [recordings]
  apply Records.settled
  rw [exec, matching?, hallowed, Bool.true_and, hwidth, hsubject]
  apply Records.visit recording tally.key _
  intro marked hmarked
  rw [← hmarked] at hbody
  have hnone : Recorder.everyOf (inner.exec recording scene tally.repeated)
      (inner.recordings recording scene tally.repeated) (.tuple values) marked = [] := by
    apply Records.everyItem values
    · intro value _ middle hlength
      have helement := hbody value
      rw [← hlength] at helement
      have hagrees := exec_agrees recording inner .within tally.repeated scene [value] middle
        helement
      have hrecords := hinner .within tally.repeated scene [value] middle helement
      rw [subjectOf_single (helement.fixed Standing.noConfusion), hslots] at hagrees hrecords
      exact ⟨_, hagrees, hrecords⟩
  rw [hnone]
  split
  · exact .accept _ _
  · exact .unmatched _ _ _

end Constructs

section Lists

variable {recording : Bool} {patterns : List (Pattern Leaf)}
  (each : ∀ pattern ∈ patterns, RecordsAsMeant recording pattern) {scene : Scene}
include each

theorem records_any {standing : Standing} (hstanding : standing ≠ .term) {width : Nat}
    (hwidth : ∀ pattern ∈ patterns, pattern.slots = width) {subject : Value} {tally : Tally}
    {state : RunState} (ready : ReadyAny standing tally state.slots.length patterns subject) :
    Records tally.slot width (matchingAny? scene patterns subject)
      (execAny recording scene tally patterns subject state).1
      (recordingsAny recording scene tally patterns subject state) := by
  induction patterns generalizing tally state with
  | nil => exact .refused _ _
  | cons pattern rest induction =>
      obtain ⟨hready, hrest⟩ := ready
      have hagrees := exec_agrees recording pattern standing tally scene [subject] state hready
      have hfirst := each pattern (by simp) standing tally scene [subject] state hready
      rw [subjectOf_single (hready.fixed hstanding), hwidth pattern (by simp)] at hagrees hfirst
      rw [execAny, matchingAny?, recordingsAny]
      apply Records.either hagrees hfirst lost_of_refused
      intro middle hlength
      rw [← hlength] at hrest
      exact induction (fun other member => each other (by simp [member]))
        (fun other member => hwidth other (by simp [member])) hrest

theorem records_each {standing : Standing} (hstanding : standing ≠ .term) {subject : Value}
    {tally : Tally} {state : RunState}
    (ready : ReadyEach standing tally state.slots.length patterns subject) :
    Records tally.slot (slotsAll patterns) (matchingEach? scene patterns subject)
      (execEach recording scene tally patterns subject state).1
      (recordingsEach recording scene tally patterns subject state) := by
  induction patterns generalizing tally state with
  | nil => exact .accept _ _
  | cons pattern rest induction =>
      obtain ⟨hready, hrest⟩ := ready
      have hagrees := exec_agrees recording pattern standing tally scene [subject] state hready
      have hfirst := each pattern (by simp) standing tally scene [subject] state hready
      rw [subjectOf_single (hready.fixed hstanding)] at hagrees hfirst
      rw [execEach, matchingEach?, slotsAll, recordingsEach]
      apply Records.both hagrees hfirst
      intro middle hlength
      rw [← hlength] at hrest
      exact induction (fun other member => each other (by simp [member])) hrest

theorem records_terms {children : List Value} {tally : Tally} {state : RunState}
    (ready : ReadyTerms tally state.slots.length patterns children) :
    Records tally.slot (slotsAll patterns) (matchingTerms? scene patterns children)
      (execTerms recording scene tally patterns children state).1
      (recordingsTerms recording scene tally patterns children state) := by
  induction patterns generalizing tally state children with
  | nil =>
      cases ready
      exact .accept _ _
  | cons term rest induction =>
      obtain ⟨hready, hrest⟩ := ready
      have hagrees := exec_agrees recording term .term tally scene _ state hready
      have hfirst := each term (by simp) .term tally scene _ state hready
      rw [execTerms, matchingTerms?, slotsAll, recordingsTerms]
      apply Records.both hagrees hfirst
      intro middle hlength
      rw [← hlength] at hrest
      exact induction (fun other member => each other (by simp [member])) hrest

end Lists

section Brackets

variable {recording : Bool} {first : Pattern Leaf} {others : List (Pattern Leaf)} (loc : Range)
  (hfirst : RecordsAsMeant recording first)
  (hothers : ∀ other ∈ others, RecordsAsMeant recording other)
include hfirst hothers

theorem records_union : RecordsAsMeant recording (grouped loc .union first others) := by
  intro standing tally scene values state ready
  have hall : ∀ pattern ∈ first :: others, RecordsAsMeant recording pattern := by
    simpa using ⟨hfirst, hothers⟩
  obtain ⟨subject, rfl⟩ := ready.suits.single rfl
  have hwidth : (grouped loc .union first others).slots = first.slots := rfl
  have hsubject : (grouped loc .union first others).subjectOf [subject] = subject := rfl
  rw [recordings]
  apply Records.settled
  rw [exec, matching?, hwidth, hsubject]
  apply Records.visit recording tally.key _
  intro marked hmarked
  rw [← hmarked] at ready
  obtain ⟨hslots, hbranches⟩ := ready.branches
  exact records_any hall standing.inner_ne_term hslots (hbranches subject)

theorem records_intersection :
    RecordsAsMeant recording (grouped loc .intersection first others) := by
  intro standing tally scene values state ready
  have hall : ∀ pattern ∈ first :: others, RecordsAsMeant recording pattern := by
    simpa using ⟨hfirst, hothers⟩
  obtain ⟨subject, rfl⟩ := ready.suits.single rfl
  have hsubject : (grouped loc .intersection first others).subjectOf [subject] = subject := rfl
  rw [recordings]
  apply Records.settled
  rw [exec, matching?, hsubject]
  apply Records.visit recording tally.key _
  intro marked hmarked
  rw [← hmarked] at ready
  exact records_each hall standing.inner_ne_term (ready.members subject)

theorem records_sequence : RecordsAsMeant recording (grouped loc .sequence first others) := by
  intro standing tally scene values state ready
  obtain ⟨subject, rfl⟩ := ready.suits.single rfl
  have hsubject : (grouped loc .sequence first others).subjectOf [subject] = subject := rfl
  have hwidth : (grouped loc .sequence first others).slots = first.slots + slotsAll others := rfl
  rw [recordings]
  apply Records.settled
  rw [exec, matching?, hsubject, hwidth]
  apply Records.visit recording tally.key _
  intro marked hmarked
  rw [← hmarked] at ready
  obtain ⟨layout, hhead, hterms⟩ := ready.terms
  cases subject.node? with
  | none => exact .refused _ _
  | some node =>
      have hagrees := exec_agrees recording first .within tally.inner scene [subject] marked hhead
      have hrecords := hfirst .within tally.inner scene [subject] marked hhead
      rw [subjectOf_single (hhead.fixed Standing.noConfusion)] at hagrees hrecords
      apply Records.both hagrees hrecords
      intro middle hlength
      cases hcount : (countOf others).holds node.children.length with
      | false => exact .refused _ _
      | true =>
          rw [if_pos rfl, if_pos rfl]
          have hready := hterms node.children hcount
          rw [← hlength] at hready
          exact records_terms hothers hready

end Brackets

/-- What is recorded while a pattern that is ready is executed: on a match the last recordings
of the captured slots are kept, and those of open slots are all lost. -/
theorem exec_records (recording : Bool) (pattern : Pattern Leaf) :
    RecordsAsMeant recording pattern := by
  induction pattern using induct with
  | leaf loc value => exact records_leaf recording loc value
  | marked loc mark inner induction =>
      cases mark with
      | capture => exact records_capture loc induction
      | negation => exact records_negation loc induction
      | ascend => exact records_ascend loc induction
  | repeated loc inner quantity induction => exact records_repeated loc quantity induction
  | grouped loc bracket first others firstHolds othersHold =>
      cases bracket with
      | sequence => exact records_sequence loc firstHolds othersHold
      | union => exact records_union loc firstHolds othersHold
      | intersection => exact records_intersection loc firstHolds othersHold

/-- What is recorded while a pattern is matched in a call. -/
def recorded (pattern : Pattern Leaf) (recording : Bool) (document : Document) (subject : Value)
    (arguments : Matcher.Arguments) : List Recording :=
  pattern.recordings recording (Scene.ofArguments document arguments) .start subject
    ⟨List.replicate pattern.slots .absent, []⟩

end Pattern

/-- How slots come out of what was recorded. A captured slot holds a value that was kept; a slot
that was left open, below a negation, holds the last of what was lost, if there was anything. -/
structure Retains (captures : Captures) (made : List Recording) (slots : List Value) : Prop where
  length : slots.length = captures.length
  replayed : slots = Recording.replay (List.replicate captures.length .absent) made
  captured : ∀ index value, captures[index]? = some (some value) →
    slots[index]? = some value ∧ Recording.last? index made = some ⟨index, value, false⟩
  opened : ∀ index, captures[index]? = some none →
    (∀ entry ∈ made, entry.slot = index → entry.lost = true) ∧
      slots[index]? = some (((Recording.last? index made).map Recording.value).getD .absent)

theorem Recording.Keeps.retains {captures : Captures} {made : List Recording}
    (keeps : Keeps captures 0 made) :
    Retains captures made (replay (List.replicate captures.length .absent) made) := by
  have hlength := length_replay (List.replicate captures.length .absent) made
  rw [List.length_replicate] at hlength
  have hslot : ∀ {index : Nat} {slot : Option Value}, captures[index]? = some slot →
      (replay (List.replicate captures.length .absent) made)[index]? =
        some (((last? index made).map Recording.value).getD .absent) := by
    intro index slot hindex
    have hinside : index < captures.length := (List.getElem?_eq_some_iff.mp hindex).1
    rw [getElem?_replay _ _ (by rwa [List.length_replicate]),
      List.getElem?_replicate_of_lt hinside]
    cases last? index made <;> rfl
  refine ⟨hlength, rfl, fun index value hindex => ?_, fun index hindex => ⟨?_, hslot hindex⟩⟩
  · have hkept := keeps.kept index value hindex
    rw [Nat.zero_add] at hkept
    rw [hslot hindex, hkept]
    exact ⟨rfl, rfl⟩
  · intro entry member hsame
    exact keeps.lost index hindex entry member (by omega)

namespace Matcher

section Unparameterised

variable {text : String} {pattern : Pattern Leaf} (hpositions : pattern.lastPosition = 0)
include hpositions

theorem bind_ofPattern {name : String} :
    (ofPattern text pattern false name).bind .none = [] := by
  rw [bind, positional_ofPattern, hpositions]
  rfl

theorem respond_ofPattern (hnames : pattern.names = []) {document : Document} {subject : Value}
    {after : RunState} (hrun : (pattern.test false .root .start).run ⟨document, subject, [], []⟩
      ⟨List.replicate pattern.slots .absent, []⟩ = (.ok true, after)) :
    ((ofPattern text pattern false "m").respond document subject .none).returned =
      .ok (resultOf after.slots) := by
  have hfits : (ofPattern text pattern false "m").checkArguments .none = .ok () := by
    refine checkArguments_eq_ok.mpr ⟨?_, ?_, List.forall_mem_nil _⟩
    · rw [positional_ofPattern, hpositions]
      rfl
    · rw [missingKeywordsOf, named_ofPattern, hnames]
      rfl
  have hcalled : (ofPattern text pattern false "m").call document subject .none =
      ⟨.ok (resultOf after.slots), after.log⟩ := by
    rw [call_of_accepts ⟨rfl, hfits⟩ Bool.noConfusion, bind_ofPattern hpositions, execute,
      test_ofPattern, slots_ofPattern, hrun]
  have hname : (ofPattern text pattern false "m").functionName ≠ Script.builtinsName := by
    rw [functionName_ofPattern, Script.functionName_eq (by decide) (by decide) (by decide)]
    decide
  rw [respond, if_neg fun hsevered => hname hsevered.1, hcalled]

end Unparameterised

end Matcher

end TreeMatch
