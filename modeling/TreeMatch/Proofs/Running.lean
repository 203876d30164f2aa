import TreeMatch.Proofs.Readiness
import TreeMatch.Proofs.Reading

/-! Running the test of a pattern where its place holds the subject: the run executes the
pattern. -/

namespace TreeMatch

namespace Test

theorem runAll_nil (env : Environment) : runAll [] env = Action.answer (.ok true) := rfl

theorem runAll_cons (test : Test) (rest : List Test) (env : Environment) :
    runAll (test :: rest) env = Action.both (run test env) (runAll rest env) := rfl

theorem runAny_cons (test : Test) (rest : List Test) (env : Environment) :
    runAny (test :: rest) env = Action.either (run test env) (runAny rest env) := rfl

theorem run_allOf_cons (test : Test) (rest : List Test) (env : Environment) :
    run (.allOf (test :: rest)) env = runAll (test :: rest) env := rfl

theorem both_answer_true (action : Action) :
    Action.both action (Action.answer (.ok true)) = action := by
  funext state
  unfold Action.both Action.answer
  split
  · rename_i last hlast
    exact hlast.symm
  · rfl

theorem run_allOf_pair (first second : Test) (env : Environment) :
    run (.allOf [first, second]) env = Action.both (run first env) (run second env) := by
  rw [run_allOf_cons, runAll_cons, runAll_cons, runAll_nil, both_answer_true]

theorem run_enter {env : Environment} {place : Place} {subject : Value}
    (hsubject : place.value env = .ok subject) (id : Nat) :
    run (.enter id place) env = Action.note id subject false := by
  funext state
  change mark env id place false state = _
  rw [mark, hsubject]
  rfl

theorem run_succeed {env : Environment} {place : Place} {subject : Value}
    (hsubject : place.value env = .ok subject) (id : Nat) :
    run (.succeed id place) env = Action.note id subject true := by
  funext state
  change mark env id place true state = _
  rw [mark, hsubject]
  rfl

theorem run_framed {env : Environment} {place : Place} {subject : Value}
    (hsubject : place.value env = .ok subject) (recording : Bool) (id : Nat) (test : Test) :
    run (Pattern.framed recording id place test) env =
      Action.visit recording id subject (run test env) := by
  cases recording with
  | false => rfl
  | true =>
      change run (.allOf [.enter id place, test, .succeed id place]) env = _
      rw [run_allOf_cons, runAll_cons, runAll_cons, runAll_cons, runAll_nil, both_answer_true,
        run_enter hsubject, run_succeed hsubject]
      rfl

theorem run_capture {env : Environment} {place : Place} {subject : Value}
    (hsubject : place.value env = .ok subject) {pattern : Pattern Leaf}
    (hslice : place.isSlice = pattern.isVariadic) (slot : Nat) :
    run (.capture slot place) env = Action.store slot (pattern.kept subject) := by
  have hkept : recordedValue place subject = pattern.kept subject := by
    unfold recordedValue Pattern.kept
    rw [hslice]
    cases pattern.isVariadic <;> cases subject <;> rfl
  funext state
  change record env slot place state = _
  rw [record, hsubject]
  dsimp only
  rw [hkept]
  rfl

theorem run_isNode {env : Environment} {place : Place} {subject : Value}
    (hsubject : place.value env = .ok subject) :
    run (.isNode place) env = Action.answer (.ok subject.isNode) := by
  funext state
  change (look env (.isNode place), state) = _
  rw [look, hsubject]
  rfl

end Test

namespace Leaf

def IsServed (arguments : List (String × Argument)) (scene : Scene) : Leaf → Prop
  | position index => arguments.lookup (Session.positionName index) = scene.position? index
  | named name => arguments.lookup name = scene.named? name
  | _ => True

theorem holds_kind {name : String} {kind : Kind}
    (hkind : Compile.predicateKinds.lookup name = some kind) (value : Value) :
    kind.holds value = predicateHolds name value := by
  have hmem : (name, kind) ∈ Compile.predicateKinds := by
    obtain ⟨front, back, hsplit, -⟩ := List.lookup_eq_some_iff.mp hkind
    rw [hsplit]
    simp
  simp only [Compile.predicateKinds, List.mem_cons, Prod.mk.injEq, List.not_mem_nil,
    or_false] at hmem
  rcases hmem with ⟨rfl, rfl⟩ | ⟨rfl, rfl⟩ | ⟨rfl, rfl⟩ | ⟨rfl, rfl⟩ | ⟨rfl, rfl⟩ | ⟨rfl, rfl⟩ |
    ⟨rfl, rfl⟩ | ⟨rfl, rfl⟩
  case inr.inl | inr.inr.inl =>
    cases value with
    | bool b => cases b <;> rfl
    | _ => rfl
  all_goals cases value <;> rfl

theorem holds_type {name type : String} (hkind : Compile.predicateKinds.lookup name = none)
    (htype : Compile.typeOfPredicate? name = some type) (hquery : name.toList.getLast? = some '?')
    (value : Value) :
    value.node?.any (·.type == type) = predicateHolds name value := by
  obtain ⟨hname, -⟩ := (Compile.typeOfPredicate?_eq_some hquery).mp htype
  have hsame : ∀ other : String, (other == type) = (other ++ "_type?" == name) := by
    intro other
    rw [Bool.eq_iff_iff, beq_iff_eq, beq_iff_eq, hname, ← String.toList_inj, ← String.toList_inj,
      String.toList_append, String.toList_append, List.append_left_inj]
  unfold predicateHolds
  split
  case h_9 => simp only [hsame]
  all_goals cases hkind

end Leaf

namespace Test

theorem run_accepts {env : Environment} {place : Place} {subject : Value}
    (hsubject : place.value env = .ok subject) {parameter : String} {given : Option Argument}
    (hgiven : env.arguments.lookup parameter = given) :
    run (.accepts place parameter) env =
      Action.answer (if given.isSome then .ok (given.any (·.accepts subject))
        else .error .unbound) := by
  funext state
  change (look env (.accepts place parameter), state) = _
  rw [look, hsubject, ok_bind, hgiven]
  cases given <;> rfl

theorem run_typeTest {env : Environment} {place : Place} {subject : Value}
    (hsubject : place.value env = .ok subject) (type : String) :
    run (Compile.typeTest place (.atom (.str type))) env =
      Action.answer (.ok (subject.node?.any (·.type == type))) := by
  rw [Compile.typeTest, run_allOf_pair, run_isNode hsubject]
  funext state
  cases subject with
  | node id found loc children =>
      change (look env (.hasType place (.atom (.str type))), state) = _
      rw [look, hsubject]
      rfl
  | _ => rfl

theorem run_literal {env : Environment} {place : Place} {subject : Value}
    (hsubject : place.value env = .ok subject) (expected : Value) :
    run (.equals place (.atom expected)) env =
      Action.answer (if expected.isWritable then .ok (subject.identicalTo expected)
        else .error .unbound) := by
  funext state
  change (look env (.equals place (.atom expected)), state) = _
  rw [look, hsubject]
  have hconstant : (Term.atom expected).constant =
      if expected.isWritable then .ok expected else .error .unbound := rfl
  rw [hconstant]
  cases expected.isWritable <;> rfl

theorem run_leaf {value : Leaf} {standing : Standing} (hcause : value.cause? standing = none)
    (hquery : value.EndsInQuery) {env : Environment} {scene : Scene}
    (hserved : value.IsServed env.arguments scene) {place : Place} {subject : Value}
    (hsubject : place.value env = .ok subject) :
    run (value.test place) env = Action.answer (value.answer scene subject) := by
  cases value with
  | rest | wildcard name => rfl
  | nil =>
      funext state
      change (look env (.isKind place .absent), state) = _
      rw [look, hsubject]
      cases subject <;> rfl
  | symbol name =>
      funext state
      change (look env (.equalsSymbol place (.atom (.str name))), state) = _
      rw [look, hsubject]
      cases subject <;> rfl
  | int expected =>
      rw [Leaf.test, run_literal hsubject]
      cases subject <;> rfl
  | float expected =>
      rw [Leaf.test, run_literal hsubject]
      change Action.answer (if expected.isFinite then _ else _) = _
      unfold Leaf.answer Leaf.isProvided
      cases subject <;> rfl
  | string expected =>
      rw [Leaf.test, run_literal hsubject]
      cases subject <;> rfl
  | position index =>
      rw [Leaf.test, run_accepts hsubject hserved]
      rfl
  | named name =>
      rw [Leaf.test, run_accepts hsubject hserved]
      rfl
  | nodeType type => exact run_typeTest hsubject type
  | predicate name =>
      rw [Leaf.cause?] at hcause
      split at hcause
      · cases hcause
      · rename_i hknown
        rw [Leaf.test]
        unfold Leaf.predicateTest? at hknown ⊢
        cases hkind : Compile.predicateKinds.lookup name with
        | some kind =>
            funext state
            change (look env (.isKind place kind), state) = _
            rw [look, hsubject]
            change ((.ok (kind.holds subject) : Except RunFault Bool), state) = _
            rw [Leaf.holds_kind hkind]
            rfl
        | none =>
            cases htype : Compile.typeOfPredicate? name with
            | some type =>
                change run (Compile.typeTest place (.atom (.str type))) env = _
                rw [run_typeTest hsubject, Leaf.holds_type hkind htype hquery]
                rfl
            | none =>
                rw [hkind, htype] at hknown
                exact absurd rfl hknown

end Test

/-! The places of terms hold their shares. -/

namespace Pattern

def Spread (env : Environment) : List Place → List (Pattern Leaf) → List Value → Prop
  | [], [], _ => True
  | place :: places, term :: rest, children =>
    place.value env =
      .ok (term.subjectOf (children.take (term.share rest.length children.length))) ∧
    Spread env places rest (children.drop (term.share rest.length children.length))
  | _, _, _ => False

theorem spread_append {env : Environment} {before rest : List (Pattern Leaf)}
    (hfixed : ∀ term ∈ before, term.isVariadic = false) {places later : List Place}
    {values : List Value}
    (hplaces : List.Forall₂ (fun place value => place.value env = .ok value) places
      (values.take before.length))
    (hlength : places.length = before.length)
    (hlater : Spread env later rest (values.drop before.length)) :
    Spread env (places ++ later) (before ++ rest) values := by
  induction before generalizing places values with
  | nil =>
      rw [List.length_eq_zero_iff.mp hlength]
      exact hlater
  | cons term before induction =>
      have hterm := hfixed term (by simp)
      cases values with
      | nil =>
          rw [List.take_nil] at hplaces
          cases hplaces
          cases hlength
      | cons value values =>
          cases hplaces with
          | cons hvalue hvalues =>
              have hshare : ∀ behind left, term.share behind left = 1 := by
                intro behind left
                rw [share, hterm]
                rfl
              refine ⟨?_, ?_⟩
              · rw [hshare, subjectOf, hterm]
                exact hvalue
              · rw [hshare]
                exact induction (fun other member => hfixed other (by simp [member])) hvalues
                  (Nat.succ.inj hlength) hlater

theorem childAt?_ofNat (children : List Value) (index : Nat) :
    childAt? children (index : Int) = children[index]? := by
  have hwrapped : wrapIndex children.length (index : Int) = index := if_neg (by omega)
  unfold childAt?
  rw [hwrapped]
  exact if_neg (by omega)

theorem childAt?_fromEnd {children : List Value} {index count : Nat} (hindex : index < count)
    (hcount : count ≤ children.length) :
    childAt? children ((index : Int) - count) = children[children.length - count + index]? := by
  have hwrapped : wrapIndex children.length ((index : Int) - count) =
      ((children.length - count + index : Nat) : Int) := by
    rw [wrapIndex, if_pos (by omega)]
    omega
  unfold childAt?
  rw [hwrapped]
  exact if_neg (by omega)

theorem childSlice_eq {children : List Value} {before after : Nat}
    (hroom : before + after ≤ children.length) :
    childSlice children before after =
      (children.drop before).take (children.length - before - after) := by
  have hfirst : (wrapIndex children.length (before : Int)).toNat = before := by
    rw [wrapIndex, if_neg (by omega)]
    rfl
  have hlast : (if (after : Int) = 0 then children.length
      else (wrapIndex children.length (-(after : Int))).toNat) = children.length - after := by
    unfold wrapIndex
    split
    · omega
    · rw [if_pos (by omega)]
      omega
  unfold childSlice
  simp only [hfirst, hlast]
  rw [List.drop_take]
  congr 1
  omega

section Spread

variable {env : Environment} {place : Place} {subject : Value} {node : Node}
  (hsubject : place.value env = .ok subject) (hnode : subject.node? = some node)
include hsubject hnode

theorem value_child {index : Int} {value : Value}
    (hchild : childAt? node.children index = some value) :
    (place.child index).value env = .ok value := by
  rw [Place.value, hsubject, ok_bind, hnode]
  dsimp only
  rw [hchild]
  rfl

theorem value_slice (start dropped : Int) :
    (place.slice start dropped).value env =
      .ok (.tuple (childSlice node.children start dropped)) := by
  rw [Place.value, hsubject, ok_bind, hnode]
  rfl

theorem forall₂_children {count : Nat} {index : Nat → Int} {values : List Value}
    (hlength : values.length = count)
    (hvalues : ∀ i < count, childAt? node.children (index i) = values[i]?) :
    List.Forall₂ (fun place value => place.value env = .ok value)
      ((List.range count).map fun (i : Nat) => place.child (index i)) values := by
  rw [List.forall₂_iff_get]
  refine ⟨by simp [hlength], ?_⟩
  intro i hplace hvalue
  have hchild := hvalues i (by omega)
  rw [List.getElem?_eq_getElem hvalue] at hchild
  simpa using value_child hsubject hnode hchild

/-- If a node has as many children as the terms ask for, then the places of the terms hold their
shares. -/
theorem spread_placesOf {terms : List (Pattern Leaf)} (layout : Layout terms)
    (hcount : (countOf terms).holds node.children.length = true) :
    Spread env (placesOf place terms) terms node.children := by
  cases layout with
  | fixed _ hfixed =>
      rw [countOf_fixed hfixed, Count.holds, beq_iff_eq] at hcount
      have hchildren : List.Forall₂ (fun place value => place.value env = .ok value)
          (placesOf place terms) (node.children.take terms.length) := by
        rw [placesOf_fixed hfixed]
        apply forall₂_children hsubject hnode (by simp [hcount])
        intro i hi
        rw [childAt?_ofNat, List.getElem?_take_of_lt hi]
      have hlength : (placesOf place terms).length = terms.length := by
        simp [placesOf_fixed hfixed]
      have hnone : Spread env [] [] (node.children.drop terms.length) := trivial
      have hspread := spread_append hfixed hchildren hlength hnone
      rwa [List.append_nil, List.append_nil] at hspread
  | split before middle after hbefore hmiddle hafter =>
      rw [countOf_split after hbefore hmiddle] at hcount
      have hroom := Nat.le_trans (Nat.le_add_right _ _) (holds_countFor.mp hcount).1
      rw [placesOf_split after hbefore hmiddle]
      refine spread_append hbefore ?_ (by simp) ⟨?_, ?_⟩
      · apply forall₂_children hsubject hnode (by simp; omega)
        intro i hi
        rw [childAt?_ofNat, List.getElem?_take_of_lt hi]
      · rw [value_slice hsubject hnode, childSlice_eq hroom, subjectOf, hmiddle, share, hmiddle,
          List.length_drop]
        rfl
      · -- The terms behind the run are found from the end of the children, where it leaves off.
        have hshare : middle.share after.length (node.children.drop before.length).length =
            node.children.length - before.length - after.length := by
          rw [share, hmiddle, List.length_drop]
          rfl
        have hdrop : before.length + (node.children.length - before.length - after.length) =
            node.children.length - after.length := by omega
        have hlast : List.Forall₂ (fun place value => place.value env = .ok value)
            ((List.range after.length).map fun (i : Nat) =>
              place.child ((i : Int) - after.length))
            ((node.children.drop (node.children.length - after.length)).take after.length) := by
          apply forall₂_children hsubject hnode (by simp; omega)
          intro i hi
          rw [childAt?_fromEnd hi (by omega), List.getElem?_take_of_lt hi, List.getElem?_drop]
        rw [hshare, List.drop_drop, hdrop]
        have hnone : Spread env [] [] ((node.children.drop
            (node.children.length - after.length)).drop after.length) := trivial
        have hspread := spread_append hafter hlast (by simp) hnone
        rwa [List.append_nil, List.append_nil] at hspread

end Spread

end Pattern

namespace Action

theorem both_answer (answered : Bool) (next : Action) :
    both (answer (.ok answered)) next = if answered then next else answer (.ok false) := by
  cases answered <;> rfl

end Action

namespace Test

theorem run_hasCount {env : Environment} {place : Place} {subject : Value} {node : Node}
    (hsubject : place.value env = .ok subject) (hnode : subject.node? = some node) (count : Count) :
    run (.hasCount place count) env = Action.answer (.ok (count.holds node.children.length)) := by
  funext state
  change (look env (.hasCount place count), state) = _
  rw [look, hsubject, ok_bind, hnode]
  rfl

theorem value_parent {env : Environment} {scene : Scene}
    (hdocument : env.document = scene.document) {place : Place} {subject above : Value}
    (hsubject : place.value env = .ok subject)
    (habove : scene.document.above subject = some above) :
    place.parent.value env = .ok above := by
  obtain ⟨node, hnode, hup⟩ := Option.map_eq_some_iff.mp habove
  rw [Place.value, hsubject, ok_bind, hnode, hdocument]
  dsimp only
  cases hparent : scene.document.parent? node.id with
  | none =>
      rw [hparent] at hup
      exact congrArg Except.ok hup
  | some parent =>
      rw [hparent] at hup
      exact congrArg Except.ok hup

theorem run_every {env : Environment} {items : Place} {subject : Value} {name : String}
    {body : Test} {check : Value → Action} (hsubject : items.value env = .ok subject)
    (hbody : ∀ value, run body (env.withElement name value) = check value) :
    run (.every name items body) env = Action.everyOf check subject := by
  have hcheck : (fun value => run body (env.withElement name value)) = check := funext hbody
  funext state
  rw [run, hsubject, hcheck, ok_bind]
  unfold Action.everyOf
  cases seriesItems subject <;> rfl

end Test

namespace Pattern

structure Serves (env : Environment) (scene : Scene) (pattern : Pattern Leaf) : Prop where
  document : env.document = scene.document
  queries : pattern.EachLeaf Leaf.EndsInQuery
  served : pattern.EachLeaf (Leaf.IsServed env.arguments scene)

theorem Serves.inner {env : Environment} {scene : Scene} {inner : Pattern Leaf} {loc : Range}
    {mark : Mark} (serves : Serves env scene (marked loc mark inner)) : Serves env scene inner :=
  ⟨serves.document, (eachLeaf_marked _ _ _).mp serves.queries,
    (eachLeaf_marked _ _ _).mp serves.served⟩

theorem Serves.element {env : Environment} {scene : Scene} {inner : Pattern Leaf} {loc : Range}
    {quantity : Quantity} (serves : Serves env scene (repeated loc inner quantity)) (name : String)
    (value : Value) : Serves (env.withElement name value) scene inner :=
  ⟨serves.document, (eachLeaf_repeated _ _ _).mp serves.queries,
    (eachLeaf_repeated _ _ _).mp serves.served⟩

theorem Serves.part {env : Environment} {scene : Scene} {first part : Pattern Leaf} {loc : Range}
    {others : List (Pattern Leaf)} {bracket : Bracket}
    (serves : Serves env scene (grouped loc bracket first others))
    (member : part ∈ first :: others) : Serves env scene part := by
  obtain ⟨hdocument, hqueries, hserved⟩ := serves
  rw [eachLeaf_grouped] at hqueries hserved
  cases member with
  | head => exact ⟨hdocument, hqueries.1, hserved.1⟩
  | tail _ inOthers => exact ⟨hdocument, hqueries.2 part inOthers, hserved.2 part inOthers⟩

/-- The test of a pattern does what the pattern does, wherever its place holds the subject. -/
def RunsAsExecuted (recording : Bool) (pattern : Pattern Leaf) : Prop :=
  ∀ (standing : Standing) (place : Place) (tally : Tally) (env : Environment) (scene : Scene)
    (subject : Value), pattern.rejection? standing = none →
    place.isSlice = (standing == .term && pattern.isVariadic) →
    place.value env = .ok subject → Serves env scene pattern →
    (pattern.test recording place tally).run env = pattern.exec recording scene tally subject

section Lists

variable {recording : Bool} {patterns : List (Pattern Leaf)}
  (each : ∀ pattern ∈ patterns, RunsAsExecuted recording pattern) {env : Environment}
  {scene : Scene} (serves : ∀ pattern ∈ patterns, Serves env scene pattern)
include each serves

theorem runAny_branchTests {standing : Standing} (hstanding : standing ≠ .term) {place : Place}
    (hplace : place.isSlice = false) {subject : Value} (hsubject : place.value env = .ok subject)
    (hnone : rejectionAmong? standing patterns = none) (tally : Tally) :
    Test.runAny (branchTests recording place tally patterns) env =
      execAny recording scene tally patterns subject := by
  induction patterns generalizing tally with
  | nil => rfl
  | cons pattern rest induction =>
      rw [rejectionAmong?, Option.or_eq_none_iff] at hnone
      have hsingle : place.isSlice = (standing == .term && pattern.isVariadic) := by
        rw [hplace, beq_false_of_ne hstanding]
        rfl
      rw [branchTests, Test.runAny_cons, execAny,
        each pattern (by simp) standing place tally env scene subject hnone.1 hsingle hsubject
          (serves pattern (by simp)),
        induction (fun other member => each other (by simp [member]))
          (fun other member => serves other (by simp [member])) hnone.2]

theorem runAll_memberTests {standing : Standing} (hstanding : standing ≠ .term) {place : Place}
    (hplace : place.isSlice = false) {subject : Value} (hsubject : place.value env = .ok subject)
    (hnone : rejectionAmong? standing patterns = none) (tally : Tally) :
    Test.runAll (memberTests recording place tally patterns) env =
      execEach recording scene tally patterns subject := by
  induction patterns generalizing tally with
  | nil => rfl
  | cons pattern rest induction =>
      rw [rejectionAmong?, Option.or_eq_none_iff] at hnone
      have hsingle : place.isSlice = (standing == .term && pattern.isVariadic) := by
        rw [hplace, beq_false_of_ne hstanding]
        rfl
      rw [memberTests, Test.runAll_cons, execEach,
        each pattern (by simp) standing place tally env scene subject hnone.1 hsingle hsubject
          (serves pattern (by simp)),
        induction (fun other member => each other (by simp [member]))
          (fun other member => serves other (by simp [member])) hnone.2]

theorem runAll_termTests {places : List Place} (fits : List.Forall₂ Fits places patterns)
    {children : List Value} (spread : Spread env places patterns children)
    (hnone : rejectionAmong? .term patterns = none) (tally : Tally) :
    Test.runAll (termTests recording places tally patterns) env =
      execTerms recording scene tally patterns children := by
  induction fits generalizing tally children with
  | nil => rfl
  | @cons place pattern places rest hfits _ induction =>
      obtain ⟨hsubject, hspread⟩ := spread
      rw [rejectionAmong?, Option.or_eq_none_iff] at hnone
      rw [termTests, Test.runAll_cons, execTerms, List.headD_cons, List.tail_cons,
        each pattern (by simp) .term place tally env scene _ hnone.1 hfits hsubject
          (serves pattern (by simp)),
        induction (fun other member => each other (by simp [member]))
          (fun other member => serves other (by simp [member])) hspread hnone.2]

end Lists

section Constructs

variable {recording : Bool} {inner first : Pattern Leaf} {others : List (Pattern Leaf)}
  (loc : Range)

theorem runs_capture (hinner : RunsAsExecuted recording inner) :
    RunsAsExecuted recording (marked loc .capture inner) := by
  intro standing place tally env scene subject hnone hplace hsubject serves
  have hslice : place.isSlice = inner.isVariadic := by
    cases hvariadic : inner.isVariadic with
    | true =>
        rw [hplace, standing_of_isVariadic hnone hvariadic]
        exact hvariadic
    | false =>
        rw [hplace]
        change (standing == .term && inner.isVariadic) = false
        rw [hvariadic, Bool.and_false]
  rw [test, Test.run_framed hsubject, Test.run_allOf_pair, exec,
    hinner standing place _ env scene subject hnone hplace hsubject serves.inner,
    Test.run_capture hsubject hslice]

theorem runs_negation (hinner : RunsAsExecuted recording inner) :
    RunsAsExecuted recording (marked loc .negation inner) := by
  intro standing place tally env scene subject hnone hplace hsubject serves
  have hsingle : place.isSlice = (standing.inner == .term && inner.isVariadic) := by
    rw [hplace, beq_false_of_ne standing.inner_ne_term]
    exact Bool.and_false _
  have hrun := hinner standing.inner place tally.inner env scene subject hnone hsingle hsubject
    serves.inner
  rw [test, Test.run_framed hsubject, exec, ← hrun]
  rfl

theorem runs_ascend (hinner : RunsAsExecuted recording inner) :
    RunsAsExecuted recording (marked loc .ascend inner) := by
  intro standing place tally env scene subject hnone hplace hsubject serves
  have hsingle : place.parent.isSlice = (standing.inner == .term && inner.isVariadic) := by
    rw [beq_false_of_ne standing.inner_ne_term]
    rfl
  rw [test, Test.run_framed hsubject, Test.run_allOf_pair, Test.run_isNode hsubject,
    Action.both_answer, Value.isNode_eq_isSome_node?, exec]
  cases habove : scene.document.above subject with
  | none =>
      rw [Option.map_eq_none_iff.mp habove]
      rfl
  | some above =>
      have hparent := Test.value_parent serves.document hsubject habove
      have hrun := hinner standing.inner place.parent tally.inner env scene above hnone hsingle
        hparent serves.inner
      obtain ⟨node, hnode, -⟩ := Option.map_eq_some_iff.mp habove
      rw [hnode, hrun]
      rfl

theorem runs_repeated (quantity : Quantity) (hinner : RunsAsExecuted recording inner) :
    RunsAsExecuted recording (repeated loc inner quantity) := by
  intro standing place tally env scene subject hnone hplace hsubject serves
  have hbelow : inner.rejection? .within = none := by
    cases standing with
    | outside | within => cases hnone
    | term =>
        rw [rejection?] at hnone
        split at hnone
        · cases hnone
        · exact hnone
  have hbody : ∀ value,
      (inner.test recording (.element tally.elementName) tally.repeated).run
        (env.withElement tally.elementName value) =
      inner.exec recording scene tally.repeated value := by
    intro value
    refine hinner .within _ _ _ scene value hbelow rfl ?_ (serves.element _ value)
    rw [Place.value, Environment.withElement, List.lookup_cons_self]
  rw [test, Test.run_framed hsubject, Test.run_every hsubject hbody, exec]

variable (hfirst : RunsAsExecuted recording first)
  (hothers : ∀ other ∈ others, RunsAsExecuted recording other)
include hfirst hothers

theorem runs_union : RunsAsExecuted recording (grouped loc .union first others) := by
  intro standing place tally env scene subject hnone hplace hsubject serves
  have hall : ∀ pattern ∈ first :: others, RunsAsExecuted recording pattern := by
    simpa using ⟨hfirst, hothers⟩
  have hsingle : place.isSlice = false := hplace.trans (Bool.and_false _)
  rw [rejection?, Option.or_eq_none_iff] at hnone
  have hrun := runAny_branchTests hall (fun part member => serves.part member)
    standing.inner_ne_term hsingle hsubject hnone.1 tally.inner
  rw [test, Test.run_framed hsubject, exec]
  exact congrArg _ hrun

theorem runs_intersection : RunsAsExecuted recording (grouped loc .intersection first others) := by
  intro standing place tally env scene subject hnone hplace hsubject serves
  have hall : ∀ pattern ∈ first :: others, RunsAsExecuted recording pattern := by
    simpa using ⟨hfirst, hothers⟩
  have hsingle : place.isSlice = false := hplace.trans (Bool.and_false _)
  rw [rejection?] at hnone
  have hrun := runAll_memberTests hall (fun part member => serves.part member)
    standing.inner_ne_term hsingle hsubject hnone tally.inner
  rw [test, Test.run_framed hsubject, exec]
  exact congrArg _ hrun

theorem runs_sequence : RunsAsExecuted recording (grouped loc .sequence first others) := by
  intro standing place tally env scene subject hnone hplace hsubject serves
  have hsingle : place.isSlice = (Standing.within == .term && first.isVariadic) :=
    hplace.trans (Bool.and_false _)
  rw [rejection?, Option.or_eq_none_iff, Option.or_eq_none_iff] at hnone
  obtain ⟨hcrowded, hhead, hterms⟩ := hnone
  have layout := layout_of_crowding? hcrowded
  rw [test, Test.run_framed hsubject, Test.run_allOf_cons, Test.runAll_cons, Test.runAll_cons,
    Test.runAll_cons, Test.run_isNode hsubject, Action.both_answer, Value.isNode_eq_isSome_node?,
    exec]
  cases hnode : subject.node? with
  | none => rfl
  | some node =>
      have hrun := hfirst .within place tally.inner env scene subject hhead hsingle hsubject
        (serves.part (by simp))
      rw [Test.run_hasCount hsubject hnode, Action.both_answer, hrun]
      dsimp only
      rw [Option.isSome_some, if_pos rfl]
      cases hcount : (countOf others).holds node.children.length with
      | false => rfl
      | true =>
          have hspread := spread_placesOf hsubject hnode layout hcount
          have hbehind := runAll_termTests hothers
            (fun part member => serves.part (by simp [member])) (fits_placesOf place layout)
            hspread hterms (tally.inner.after first)
          rw [if_pos rfl, if_pos rfl, hbehind]

end Constructs

/-- Running the test of a pattern that is not rejected executes the pattern. -/
theorem run_test (recording : Bool) (pattern : Pattern Leaf) :
    RunsAsExecuted recording pattern := by
  induction pattern using induct with
  | leaf loc value =>
      intro standing place tally env scene subject hnone hplace hsubject serves
      have hcause := Option.map_eq_none_iff.mp hnone
      rw [test_leaf, Test.run_framed hsubject, exec_leaf,
        Test.run_leaf hcause ((eachLeaf_leaf _ _).mp serves.queries)
          ((eachLeaf_leaf _ _).mp serves.served) hsubject]
  | marked loc mark inner induction =>
      cases mark with
      | capture => exact runs_capture loc induction
      | negation => exact runs_negation loc induction
      | ascend => exact runs_ascend loc induction
  | repeated loc inner quantity induction => exact runs_repeated loc quantity induction
  | grouped loc bracket first others firstHolds othersHold =>
      cases bracket with
      | sequence => exact runs_sequence loc firstHolds othersHold
      | union => exact runs_union loc firstHolds othersHold
      | intersection => exact runs_intersection loc firstHolds othersHold

end Pattern

end TreeMatch
