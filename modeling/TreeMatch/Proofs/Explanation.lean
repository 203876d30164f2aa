import TreeMatch.Proofs.Marks
import TreeMatch.Proofs.Numbering

/-! A finished trace explains itself: the verdict on a node agrees with those on its parts. -/

namespace TreeMatch

variable {chart : Text.CodeChart}

/-- What a verdict on a construct says about the verdicts on its parts. -/
def Warrants (parts : List (Option Bool)) : String → Bool → Prop
  | "sequence", true => ∀ part ∈ parts, part = some true
  | "intersection", true => ∀ part ∈ parts, part = some true
  | "intersection", false => some false ∈ parts
  | "union", true => some true ∈ parts
  | "union", false => ∀ part ∈ parts, part = some false
  | "capture", answer => parts = [some answer]
  | "negation", answer => parts = [some !answer]
  | "ascend", true => parts = [some true]
  | _, _ => True

structure Explained (verdict? : Term → Option Bool) (node : Term) : Prop where
  untouched : verdict? node = none → ∀ below ∈ node.walk, verdict? below = none
  warranted : ∀ answer, verdict? node = some answer →
    Warrants (node.childNodes.map verdict?) node.tag answer

theorem Explained.congr {verdict? other? : Term → Option Bool} {node : Term}
    (hsame : ∀ below ∈ node.walk, verdict? below = other? below)
    (explained : Explained verdict? node) : Explained other? node := by
  cases hnode : node.isNode with
  | false =>
      cases node with
      | node => cases hnode
      | atom value => exact ⟨fun _ _ below => (nomatch below), fun _ _ => trivial⟩
  | true =>
      have hself := hsame node (Term.mem_walk_self hnode)
      constructor
      · intro hnone below member
        rw [← hsame below member]
        exact explained.untouched (hself.trans hnone) below member
      · intro answer hanswer
        have hchildren : node.childNodes.map verdict? = node.childNodes.map other? :=
          List.map_congr_left fun child member => hsame child (Term.walk_childNodes member)
        rw [← hchildren]
        exact explained.warranted answer (hself.trans hanswer)

namespace Trace

variable (trace : Trace) {id : Nat}

theorem replay_append (front back : List Event) :
    trace.replay (front ++ back) = (trace.replay front).replay back :=
  List.foldl_append

theorem matched_replay_of_ne {events : List Event} (hother : ∀ event ∈ events, event.id ≠ id) :
    (trace.replay events).matched id = trace.matched id := by
  induction events generalizing trace with
  | nil => rfl
  | cons event rest induction =>
      obtain ⟨hfirst, hrest⟩ := List.forall_mem_cons.mp hother
      change ((trace.record event).replay rest).matched id = trace.matched id
      rw [induction _ hrest, matched_record_of_ne _ _ (Ne.symm hfirst)]

end Trace

def Term.verdict? (log : List Event) (node : Term) : Option Bool :=
  node.key?.bind (Trace.empty.replay log).matched

section Verdict

variable {log events : List Event} {node : Term} {id : Nat}

theorem verdict?_append_of_ne (hkey : node.key? = some id)
    (hother : ∀ event ∈ events, event.id ≠ id) :
    node.verdict? (log ++ events) = node.verdict? log := by
  rw [Term.verdict?, Term.verdict?, hkey, Trace.replay_append]
  exact Trace.matched_replay_of_ne _ hother

theorem verdict?_append_self (hkey : node.key? = some id) (subject : Value) (success : Bool) :
    node.verdict? (log ++ [⟨id, subject, success⟩]) = some success := by
  rw [Term.verdict?, hkey, Trace.replay_append]
  exact Trace.matched_record_self (Trace.empty.replay log) ⟨id, subject, success⟩

end Verdict

def KeysWithin (low high : Nat) (nodes : List Term) : Prop :=
  ∀ node ∈ nodes, ∀ below ∈ node.walk, ∃ id, below.key? = some id ∧ low ≤ id ∧ id < high

structure Toured (low high : Nat) (nodes : List Term) (before after : List Event) : Prop where
  kept : ∀ (node : Term) (id : Nat), node.key? = some id → id < low ∨ high ≤ id →
    node.verdict? after = node.verdict? before
  explained : (∀ node ∈ nodes, Explained (Term.verdict? before) node) →
    ∀ node ∈ nodes, Explained (Term.verdict? after) node

namespace Toured

variable {low middle high : Nat} {nodes front back : List Term}
  {before between after : List Event}

theorem refl (low high : Nat) (nodes : List Term) (log : List Event) :
    Toured low high nodes log log :=
  ⟨fun _ _ _ _ => rfl, id⟩

theorem trans (first : Toured low high nodes before between)
    (second : Toured low high nodes between after) : Toured low high nodes before after :=
  ⟨fun node id hkey hbeyond =>
      (second.kept node id hkey hbeyond).trans (first.kept node id hkey hbeyond),
    second.explained ∘ first.explained⟩

/-- Nodes are explained as before as long as the verdicts below them are kept. -/
theorem unmoved (tour : Toured low high front before after) {first last : Nat}
    (within : KeysWithin first last nodes) (hapart : last ≤ low ∨ high ≤ first) :
    ∀ node ∈ nodes, Explained (Term.verdict? before) node →
      Explained (Term.verdict? after) node := by
  intro node member explained
  refine explained.congr fun below inNode => ?_
  obtain ⟨id, hkey, hlower, hupper⟩ := within node member below inNode
  exact (tour.kept below id hkey (by omega)).symm

theorem append (first : Toured low middle front before between)
    (second : Toured middle high back between after) (hlow : low ≤ middle) (hhigh : middle ≤ high)
    (hfront : KeysWithin low middle front) (hback : KeysWithin middle high back) :
    Toured low high (front ++ back) before after := by
  constructor
  · intro node id hkey hbeyond
    rw [second.kept node id hkey (by omega), first.kept node id hkey (by omega)]
  · intro explained
    obtain ⟨frontExplained, backExplained⟩ := List.forall_mem_append.mp explained
    refine List.forall_mem_append.mpr ⟨?_, ?_⟩
    · intro node member
      exact second.unmoved hfront (.inl (Nat.le_refl _)) node member
        (first.explained frontExplained node member)
    · apply second.explained
      intro node member
      exact first.unmoved hback (.inr (Nat.le_refl _)) node member (backExplained node member)

theorem marks {events : List Event} (hwithin : ∀ event ∈ events, low ≤ event.id ∧ event.id < high) :
    Toured low high [] before (before ++ events) := by
  constructor
  · intro node id hkey hbeyond
    apply verdict?_append_of_ne hkey
    intro event member
    have := hwithin event member
    omega
  · exact fun _ => List.forall_mem_nil _

theorem cons (tour : Toured low high nodes before after) {node : Term}
    (explained : Explained (Term.verdict? after) node) :
    Toured low high (node :: nodes) before after :=
  ⟨tour.kept, fun each =>
    List.forall_mem_cons.mpr ⟨explained, tour.explained (List.forall_mem_cons.mp each).2⟩⟩

theorem visit {key : Nat} {node : Term} {subject : Value} {answer : Bool}
    (hkey : node.key? = some key) (hless : key < high)
    (hchildren : ∀ child ∈ node.childNodes, child ∈ nodes)
    (hnodes : KeysWithin (key + 1) high nodes)
    (below : Toured (key + 1) high nodes (before ++ [⟨key, subject, false⟩]) between)
    (warranted : Warrants (node.childNodes.map (Term.verdict? between)) node.tag answer)
    (hafter : after = between ++ if answer then [⟨key, subject, true⟩] else []) :
    Toured key high (node :: nodes) before after ∧ node.verdict? after = some answer := by
  have hempty : KeysWithin key (key + 1) [] := List.forall_mem_nil _
  have opening : Toured key (key + 1) [] before (before ++ [⟨key, subject, false⟩]) :=
    marks (by simp)
  have closing : Toured key (key + 1) [] between after := by
    rw [hafter]
    apply marks
    cases answer <;> simp
  have hself : node.verdict? after = some answer := by
    rw [hafter]
    cases answer with
    | true => exact verdict?_append_self hkey subject true
    | false =>
        rw [if_neg Bool.false_ne_true, List.append_nil,
          below.kept node key hkey (.inl (Nat.lt_succ_self key))]
        exact verdict?_append_self hkey subject false
  -- The verdicts of the parts are older than the last mark, which does not concern them.
  have hlast : node.childNodes.map (Term.verdict? after) =
      node.childNodes.map (Term.verdict? between) := by
    apply List.map_congr_left
    intro child member
    have inNodes := hchildren child member
    have hnode := (List.mem_filter.mp member).2
    obtain ⟨id, hid, hlower, -⟩ := hnodes child inNodes child (Term.mem_walk_self hnode)
    exact closing.kept child id hid (.inr hlower)
  refine ⟨?_, hself⟩
  have toured := opening.append below (Nat.le_succ key) hless hempty hnodes
  have closed := closing.append (refl (key + 1) high nodes after) (Nat.le_succ key) hless hempty
    hnodes
  apply (toured.trans closed).cons
  constructor
  · intro hnone
    rw [hself] at hnone
    cases hnone
  · intro other hother
    cases Option.some.inj (hself.symm.trans hother)
    rw [hlast]
    exact warranted

end Toured

namespace Pattern

section Terms

variable (pattern : Pattern Leaf) (patterns : List (Pattern Leaf)) (key : Nat)

theorem walk_termFrom_parts :
    (pattern.termFrom key).walk =
      pattern.termFrom key :: Term.walkAll (termsFrom (key + 1) pattern.parts) := by
  cases pattern with
  | leaf loc value => simp [termFrom_leaf, Term.walk, walkAll_atoms, parts, termsFrom, Term.walkAll]
  | marked loc mark inner => rfl
  | repeated loc inner quantity => rfl
  | grouped loc bracket first others => rw [termFrom_grouped]; rfl

theorem keysWithin_walk :
    KeysWithin key (key + pattern.size) (pattern.termFrom key).walk :=
  fun _ member _ inNode => key_of_mem_walk (Term.walk_trans inNode member)

theorem keysWithin_walkAll :
    KeysWithin key (key + sizeAll patterns) (Term.walkAll (termsFrom key patterns)) := by
  induction patterns generalizing key with
  | nil => exact List.forall_mem_nil _
  | cons pattern rest induction =>
      intro node member below inNode
      rw [sizeAll_cons]
      rcases List.mem_append.mp member with inFirst | inRest
      · obtain ⟨id, hkey, hlower, hupper⟩ := keysWithin_walk pattern key node inFirst below inNode
        exact ⟨id, hkey, hlower, by omega⟩
      · obtain ⟨id, hkey, hlower, hupper⟩ := induction (key + pattern.size) node inRest below inNode
        exact ⟨id, hkey, by omega, by omega⟩

end Terms

section Tours

variable {pattern : Pattern Leaf} {patterns : List (Pattern Leaf)} {key : Nat}
  {before between after : List Event}

theorem toured_cons
    (first : Toured key (key + pattern.size) (pattern.termFrom key).walk before between)
    (second : Toured (key + pattern.size) (key + pattern.size + sizeAll patterns)
      (Term.walkAll (termsFrom (key + pattern.size) patterns)) between after) :
    Toured key (key + sizeAll (pattern :: patterns))
      (Term.walkAll (termsFrom key (pattern :: patterns))) before after := by
  rw [sizeAll_cons, ← Nat.add_assoc]
  exact first.append second (Nat.le_add_right _ _) (Nat.le_add_right _ _)
    (keysWithin_walk pattern key) (keysWithin_walkAll patterns _)

theorem toured_head
    (first : Toured key (key + pattern.size) (pattern.termFrom key).walk before after) :
    Toured key (key + sizeAll (pattern :: patterns))
      (Term.walkAll (termsFrom key (pattern :: patterns))) before after :=
  toured_cons first (.refl _ _ _ _)

theorem verdict?_kept {high : Nat} {nodes : List Term}
    (later : Toured (key + pattern.size) high nodes between after) :
    (pattern.termFrom key).verdict? after = (pattern.termFrom key).verdict? between :=
  later.kept _ _ (key?_termFrom pattern key) (.inl (Nat.lt_add_of_pos_right pattern.size_pos))

end Tours

/-- The run of a pattern's test answers for its node and leaves all nodes of the pattern
explained. -/
def Tours (pattern : Pattern Leaf) : Prop :=
  ∀ replies place tally env state answer after,
    Test.runUnder replies (pattern.test true place tally) env state = (.ok answer, after) →
      Toured tally.key (tally.key + pattern.size) (pattern.termFrom tally.key).walk state.log
          after.log ∧
        (pattern.termFrom tally.key).verdict? after.log = some answer

end Pattern

namespace Test

variable {replies : Replies} {env : Environment} {state after : RunState} {answer : Bool}

theorem mark_eq_ok {id : Nat} {place : Place} {success : Bool}
    (hmark : mark env id place success state = (.ok answer, after)) :
    answer = true ∧ ∃ subject, place.value env = .ok subject ∧
      after.log = state.log ++ [⟨id, subject, success⟩] := by
  unfold mark at hmark
  cases hvalue : place.value env with
  | error fault =>
      rw [hvalue] at hmark
      cases hmark
  | ok subject =>
      rw [hvalue] at hmark
      cases hmark
      exact ⟨rfl, subject, rfl, rfl⟩

theorem runUnder_framed {key : Nat} {place : Place} {test : Test}
    (hrun : runUnder replies (Pattern.framed true key place test) env state = (.ok answer, after)) :
    ∃ entered middle subject, entered.log = state.log ++ [⟨key, subject, false⟩] ∧
      runUnder replies test env entered = (.ok answer, middle) ∧
      after.log = middle.log ++ if answer then [⟨key, subject, true⟩] else [] := by
  change Action.both (mark env key place false) (Action.both (runUnder replies test env)
    (Action.both (mark env key place true) (Action.answer (.ok true)))) state = _ at hrun
  rcases Action.both_eq_ok hrun with ⟨hfailed, -⟩ | ⟨entered, hentered, hrest⟩
  · cases (mark_eq_ok hfailed).1
  · obtain ⟨-, subject, hsubject, hlog⟩ := mark_eq_ok hentered
    rcases Action.both_eq_ok hrest with ⟨hfailed, rfl⟩ | ⟨middle, hmiddle, hlast⟩
    · exact ⟨entered, after, subject, hlog, hfailed, (List.append_nil _).symm⟩
    · rcases Action.both_eq_ok hlast with ⟨hmark, -⟩ | ⟨closed, hmark, hanswer⟩
      · cases (mark_eq_ok hmark).1
      · obtain ⟨-, other, hother, hclosed⟩ := mark_eq_ok hmark
        cases hsubject.symm.trans hother
        cases hanswer
        exact ⟨entered, middle, subject, hlog, hmiddle, hclosed⟩

inductive TestsFrom : Nat → List Test → List (Pattern Leaf) → Prop
  | nil (key : Nat) : TestsFrom key [] []
  | cons (place : Place) (tally : Tally) (pattern : Pattern Leaf) {tests : List Test}
      {patterns : List (Pattern Leaf)}
      (later : TestsFrom (tally.key + pattern.size) tests patterns) :
      TestsFrom tally.key (pattern.test true place tally :: tests) (pattern :: patterns)

theorem TestsFrom.members (place : Place) (tally : Tally) (patterns : List (Pattern Leaf)) :
    TestsFrom tally.key (Pattern.memberTests true place tally patterns) patterns := by
  induction patterns generalizing tally with
  | nil => exact .nil _
  | cons pattern rest induction => exact .cons place tally pattern (induction (tally.after pattern))

theorem TestsFrom.branches (place : Place) (tally : Tally) (patterns : List (Pattern Leaf)) :
    TestsFrom tally.key (Pattern.branchTests true place tally patterns) patterns := by
  induction patterns generalizing tally with
  | nil => exact .nil _
  | cons pattern rest induction =>
      exact .cons place tally pattern (induction (tally.beside pattern))

theorem TestsFrom.terms (places : List Place) (tally : Tally) (patterns : List (Pattern Leaf)) :
    TestsFrom tally.key (Pattern.termTests true places tally patterns) patterns := by
  induction patterns generalizing places tally with
  | nil => exact .nil _
  | cons pattern rest induction => exact .cons _ tally pattern (induction _ (tally.after pattern))

section Lists

variable {key : Nat} {tests : List Test} {patterns : List (Pattern Leaf)}
  (each : ∀ pattern ∈ patterns, Pattern.Tours pattern)
include each

/-- Where all tests hold all nodes have succeeded, and else one has failed. -/
theorem toured_all (testsFrom : TestsFrom key tests patterns)
    (hrun : runAllUnder replies tests env state = (.ok answer, after)) :
    Toured key (key + Pattern.sizeAll patterns) (Term.walkAll (Pattern.termsFrom key patterns))
        state.log after.log ∧
      if answer then
        ∀ verdict ∈ (Pattern.termsFrom key patterns).map (Term.verdict? after.log),
          verdict = some true
      else some false ∈ (Pattern.termsFrom key patterns).map (Term.verdict? after.log) := by
  induction testsFrom generalizing state with
  | nil key =>
      cases hrun
      exact ⟨.refl _ _ _ _, List.forall_mem_nil _⟩
  | @cons place tally pattern tests patterns later induction =>
      rw [Pattern.termsFrom, List.map_cons]
      rcases Action.both_eq_ok hrun with ⟨hfailed, rfl⟩ | ⟨middle, hfirst, hrest⟩
      · obtain ⟨tour, hverdict⟩ := each pattern (by simp) _ _ _ _ _ _ _ hfailed
        refine ⟨Pattern.toured_head tour, ?_⟩
        rw [hverdict]
        exact List.mem_cons_self
      · obtain ⟨tour, hverdict⟩ := each pattern (by simp) _ _ _ _ _ _ _ hfirst
        obtain ⟨tours, hverdicts⟩ :=
          induction (fun other member => each other (by simp [member])) hrest
        refine ⟨Pattern.toured_cons tour tours, ?_⟩
        rw [Pattern.verdict?_kept tours, hverdict]
        cases answer with
        | true => exact List.forall_mem_cons.mpr ⟨rfl, hverdicts⟩
        | false => exact List.mem_cons_of_mem _ hverdicts

/-- Where no test holds all nodes have failed, and else one has succeeded. -/
theorem toured_any (testsFrom : TestsFrom key tests patterns)
    (hrun : runAnyUnder replies tests env state = (.ok answer, after)) :
    Toured key (key + Pattern.sizeAll patterns) (Term.walkAll (Pattern.termsFrom key patterns))
        state.log after.log ∧
      if answer then some true ∈ (Pattern.termsFrom key patterns).map (Term.verdict? after.log)
      else
        ∀ verdict ∈ (Pattern.termsFrom key patterns).map (Term.verdict? after.log),
          verdict = some false := by
  induction testsFrom generalizing state with
  | nil key =>
      cases hrun
      exact ⟨.refl _ _ _ _, List.forall_mem_nil _⟩
  | @cons place tally pattern tests patterns later induction =>
      rw [Pattern.termsFrom, List.map_cons]
      rcases Action.either_eq_ok hrun with ⟨hheld, rfl⟩ | ⟨middle, hfirst, hrest⟩
      · obtain ⟨tour, hverdict⟩ := each pattern (by simp) _ _ _ _ _ _ _ hheld
        refine ⟨Pattern.toured_head tour, ?_⟩
        rw [hverdict]
        exact List.mem_cons_self
      · obtain ⟨tour, hverdict⟩ := each pattern (by simp) _ _ _ _ _ _ _ hfirst
        obtain ⟨tours, hverdicts⟩ :=
          induction (fun other member => each other (by simp [member])) hrest
        refine ⟨Pattern.toured_cons tour tours, ?_⟩
        rw [Pattern.verdict?_kept tours, hverdict]
        cases answer with
        | true => exact List.mem_cons_of_mem _ hverdicts
        | false => exact List.forall_mem_cons.mpr ⟨rfl, hverdicts⟩

end Lists

theorem log_pureRun {result : Except RunFault Bool}
    (hrun : pureRun result state = (.ok answer, after)) : after.log = state.log := by
  cases hrun
  rfl

theorem record_eq_ok {slot : Nat} {place : Place}
    (hrecord : record env slot place state = (.ok answer, after)) :
    answer = true ∧ after.log = state.log := by
  unfold record at hrecord
  split at hrecord
  · split at hrecord
    · cases hrecord
      exact ⟨rfl, rfl⟩
    · cases hrecord
  · cases hrecord

theorem runUnder_leaf {value : Leaf} {place : Place}
    (hrun : runUnder replies (value.test place) env state = (.ok answer, after)) :
    after.log = state.log := by
  obtain ⟨events, hlog, hevents⟩ := logsAt_runUnder replies (value.test place) env state
  rw [hrun] at hlog
  rw [marks_leaf] at hevents
  cases events with
  | nil => rw [hlog, List.append_nil]
  | cons event rest =>
      obtain ⟨place, elements, member, -⟩ := hevents event List.mem_cons_self
      cases member

end Test

namespace Pattern

theorem tours_of_parts {pattern : Pattern Leaf} {test : Place → Tally → Test}
    (htest : ∀ place tally,
      pattern.test true place tally = framed true tally.key place (test place tally))
    (inner : ∀ replies place tally env state answer after,
      Test.runUnder replies (test place tally) env state = (.ok answer, after) →
        Toured (tally.key + 1) (tally.key + 1 + sizeAll pattern.parts)
            (Term.walkAll (termsFrom (tally.key + 1) pattern.parts)) state.log after.log ∧
          Warrants ((termsFrom (tally.key + 1) pattern.parts).map (Term.verdict? after.log))
            (pattern.termFrom tally.key).tag answer) :
    Tours pattern := by
  intro replies place tally env state answer after hrun
  rw [htest] at hrun
  obtain ⟨entered, middle, subject, hentered, hmiddle, hafter⟩ := Test.runUnder_framed hrun
  obtain ⟨tour, warranted⟩ := inner replies place tally env entered answer middle hmiddle
  rw [hentered] at tour
  have hsize : tally.key + pattern.size = tally.key + 1 + sizeAll pattern.parts := by
    rw [size_eq]
    omega
  rw [walk_termFrom_parts, hsize]
  refine tour.visit (key?_termFrom pattern tally.key) (by omega) ?_ (keysWithin_walkAll _ _) ?_
    hafter
  · intro child member
    have hnode := (List.mem_filter.mp member).2
    rw [childNodes_termFrom] at member
    exact Term.mem_walkAll.mpr ⟨child, member, Term.mem_walk_self hnode⟩
  · rw [childNodes_termFrom]
    exact warranted

section Constructs

variable (loc : Range) {inner first : Pattern Leaf} {others : List (Pattern Leaf)}

theorem tours_leaf (value : Leaf) : Tours (leaf loc value) := by
  refine tours_of_parts (fun _ _ => rfl) fun replies place tally env state answer after hrun => ?_
  rw [Test.runUnder_leaf hrun]
  exact ⟨.refl _ _ _ _, by cases value <;> trivial⟩

theorem tours_capture (hinner : Tours inner) : Tours (marked loc .capture inner) := by
  refine tours_of_parts (fun _ _ => rfl) fun replies place tally env state answer after hrun => ?_
  rcases Action.both_eq_ok hrun with ⟨hfailed, rfl⟩ | ⟨middle, hheld, hrest⟩
  · obtain ⟨tour, hverdict⟩ := hinner _ _ _ _ _ _ _ hfailed
    exact ⟨toured_head tour, congrArg (fun verdict => [verdict]) hverdict⟩
  · obtain ⟨tour, hverdict⟩ := hinner _ _ _ _ _ _ _ hheld
    rcases Action.both_eq_ok hrest with ⟨hfailed, -⟩ | ⟨last, hstored, hanswer⟩
    · cases (Test.record_eq_ok hfailed).1
    · cases hanswer
      rw [(Test.record_eq_ok hstored).2]
      exact ⟨toured_head tour, congrArg (fun verdict => [verdict]) hverdict⟩

theorem tours_negation (hinner : Tours inner) : Tours (marked loc .negation inner) := by
  refine tours_of_parts (fun _ _ => rfl) fun replies place tally env state answer after hrun => ?_
  obtain ⟨tour, hverdict⟩ := hinner _ _ _ _ _ _ _ (Action.invert_eq_ok hrun)
  exact ⟨toured_head tour, congrArg (fun verdict => [verdict]) hverdict⟩

theorem tours_ascend (hinner : Tours inner) : Tours (marked loc .ascend inner) := by
  refine tours_of_parts (fun _ _ => rfl) fun replies place tally env state answer after hrun => ?_
  rcases Action.both_eq_ok hrun with ⟨hlooked, rfl⟩ | ⟨looked, hlooked, hrest⟩
  · rw [Test.log_pureRun hlooked]
    exact ⟨.refl _ _ _ _, trivial⟩
  · rw [← Test.log_pureRun hlooked]
    rcases Action.both_eq_ok hrest with ⟨hfailed, rfl⟩ | ⟨middle, hheld, hanswer⟩
    · exact ⟨toured_head (hinner _ _ _ _ _ _ _ hfailed).1, trivial⟩
    · cases hanswer
      obtain ⟨tour, hverdict⟩ := hinner _ _ _ _ _ _ _ hheld
      exact ⟨toured_head tour, congrArg (fun verdict => [verdict]) hverdict⟩

theorem tours_repeated (quantity : Quantity) (hinner : Tours inner) :
    Tours (repeated loc inner quantity) := by
  refine tours_of_parts (fun _ _ => rfl) fun replies place tally env state answer after hrun => ?_
  refine ⟨?_, trivial⟩
  unfold Test.runUnder at hrun
  cases hitems : place.value env >>= seriesItems with
  | error fault =>
      rw [hitems] at hrun
      cases hrun
  | ok values =>
      rw [hitems] at hrun
      dsimp only at hrun
      clear hitems
      -- The same nodes are toured again for every element.
      induction values generalizing state with
      | nil =>
          cases hrun
          exact .refl _ _ _ _
      | cons value rest induction =>
          rcases Action.both_eq_ok hrun with ⟨hfailed, -⟩ | ⟨middle, hheld, hrest⟩
          · exact toured_head (hinner _ _ tally.repeated _ _ _ _ hfailed).1
          · have first := hinner _ _ tally.repeated _ _ _ _ hheld
            exact (toured_head first.1).trans (induction _ hrest)

section Brackets

variable (hfirst : Tours first) (hothers : ∀ other ∈ others, Tours other)
include hfirst hothers

theorem tours_union : Tours (grouped loc .union first others) := by
  refine tours_of_parts (fun _ _ => rfl) fun replies place tally env state answer after hrun => ?_
  have hall : ∀ pattern ∈ first :: others, Tours pattern := by simpa using ⟨hfirst, hothers⟩
  have htests := Test.TestsFrom.cons place tally.inner first
    (.branches place (tally.inner.beside first) others)
  obtain ⟨tour, hverdicts⟩ := Test.toured_any hall htests hrun
  refine ⟨tour, ?_⟩
  cases answer <;> exact hverdicts

theorem tours_intersection : Tours (grouped loc .intersection first others) := by
  refine tours_of_parts (fun _ _ => rfl) fun replies place tally env state answer after hrun => ?_
  have hall : ∀ pattern ∈ first :: others, Tours pattern := by simpa using ⟨hfirst, hothers⟩
  have htests := Test.TestsFrom.cons place tally.inner first
    (.members place (tally.inner.after first) others)
  obtain ⟨tour, hverdicts⟩ := Test.toured_all hall htests hrun
  refine ⟨tour, ?_⟩
  cases answer <;> exact hverdicts

theorem tours_sequence : Tours (grouped loc .sequence first others) := by
  refine tours_of_parts (fun _ _ => rfl) fun replies place tally env state answer after hrun => ?_
  rcases Action.both_eq_ok hrun with ⟨hlooked, rfl⟩ | ⟨looked, hlooked, hrest⟩
  · rw [Test.log_pureRun hlooked]
    exact ⟨.refl _ _ _ _, trivial⟩
  · rw [← Test.log_pureRun hlooked]
    rcases Action.both_eq_ok hrest with ⟨hfailed, rfl⟩ | ⟨middle, hheld, hterms⟩
    · exact ⟨toured_head (hfirst _ _ _ _ _ _ _ hfailed).1, trivial⟩
    · obtain ⟨tour, hverdict⟩ := hfirst _ _ _ _ _ _ _ hheld
      rcases Action.both_eq_ok hterms with ⟨hcounted, rfl⟩ | ⟨counted, hcounted, hterms⟩
      · rw [Test.log_pureRun hcounted]
        exact ⟨toured_head tour, trivial⟩
      · have htests := Test.TestsFrom.terms (placesOf place others) (tally.inner.after first) others
        obtain ⟨tours, hverdicts⟩ := Test.toured_all hothers htests hterms
        rw [Test.log_pureRun hcounted] at tours
        refine ⟨toured_cons tour tours, ?_⟩
        cases answer with
        | false => trivial
        | true =>
            refine List.forall_mem_cons.mpr ⟨?_, hverdicts⟩
            rw [← hverdict]
            exact verdict?_kept tours

end Brackets

end Constructs

theorem tours (pattern : Pattern Leaf) : Tours pattern := by
  induction pattern using induct with
  | leaf loc value => exact tours_leaf loc value
  | marked loc mark inner induction =>
      cases mark with
      | capture => exact tours_capture loc induction
      | negation => exact tours_negation loc induction
      | ascend => exact tours_ascend loc induction
  | repeated loc inner quantity induction => exact tours_repeated loc quantity induction
  | grouped loc bracket first others firstHolds othersHold =>
      cases bracket with
      | sequence => exact tours_sequence loc firstHolds othersHold
      | union => exact tours_union loc firstHolds othersHold
      | intersection => exact tours_intersection loc firstHolds othersHold

end Pattern

theorem explained_untouched (node : Term) : Explained (Term.verdict? []) node := by
  have hnone : ∀ other, Term.verdict? [] other = none := by
    intro other
    cases other <;> rfl
  refine ⟨fun _ below _ => hnone below, fun answer hanswer => ?_⟩
  rw [hnone] at hanswer
  cases hanswer

namespace Matcher

def verdict? (matcher : Matcher) (trace : Trace) (node : Term) : Option Bool :=
  (matcher.ids.get? node).bind trace.matched

end Matcher

end TreeMatch
