import TreeMatch.Proofs.Calling
import TreeMatch.Proofs.Choices
import TreeMatch.Proofs.Numbering
import TreeMatch.Proofs.Visits

/-! How slots are allotted: every node of a pattern takes the slots from the next free one on, and
its captures are given these in the order in which they stand, whatever branches are chosen. -/

namespace TreeMatch

variable {chart : Text.CodeChart}

namespace Visit

/-- A capture that is visited writes a slot that nothing below it writes. -/
def Stores (visit : Visit ι) (slot : Nat) : Prop :=
  ∃ key inner, visit.outcome = .ok (Pattern.framed visit.start.recording key visit.place
    (.allOf [inner, .capture slot visit.place])) ∧ slot ∉ inner.writes

/-- Among the nodes that are visited, a capture is given a slot. -/
def Gives (visits : List (Visit ι)) (capture : Term) (slot : Nat) : Prop :=
  ∃ visit ∈ visits, visit.node = capture ∧ visit.start.captures = slot ∧ visit.Stores slot

/-- The captures among some nodes are given so many slots from a first one on, in order. -/
def GivesAll (visits : List (Visit ι)) (chosen : List Term) (first count : Nat) : Prop :=
  List.Forall₂ (Gives visits) (chosen.filter (Compile.hasTag "capture"))
    (List.range' first count)

/-- A node that is visited, one of several, takes its slots. -/
structure Allots (visits : List (Visit Role)) (visit : Visit Role) : Prop where
  compiled : Compile.compile (Handlers.node.ofRole visit.compiler) visit.place visit.node
    visit.start = (visit.outcome, visit.last)
  /-- As many slots are given out as the node takes. -/
  counted : visit.last.captures = visit.start.captures + visit.node.slots
  /-- The branches of a union take as many slots as the union. -/
  balanced : Compile.hasTag "union" visit.node = true →
    ∀ branch ∈ visit.node.childNodes, branch.slots = visit.node.slots
  /-- The test writes these slots, and only these. -/
  written : ∃ test, visit.outcome = .ok test ∧ ∀ slot, slot ∈ test.writes ↔
    slot ∈ List.range' visit.start.captures visit.node.slots
  /-- However branches are chosen, the captures that remain are given these slots in order. -/
  numbered : ∀ chosen ∈ visit.node.choices,
    GivesAll visits chosen visit.start.captures visit.node.slots

variable {visits more : List (Visit Role)} {chosen : List Term} {first count : Nat}

theorem GivesAll.mono (hsubset : visits ⊆ more) (gives : GivesAll visits chosen first count) :
    GivesAll more chosen first count :=
  List.Forall₂.imp (fun _ _ ⟨visit, member, hvisit⟩ => ⟨visit, hsubset member, hvisit⟩) gives

theorem Allots.mono {visit : Visit Role} (hsubset : visits ⊆ more)
    (allots : Allots visits visit) : Allots more visit :=
  { allots with numbered := fun chosen member => (allots.numbered chosen member).mono hsubset }

theorem gives_unique {visits : List (Visit ι)} (hnodup : (visits.map Visit.node).Nodup)
    (capture : Term) (slot other : Nat) (gives : Gives visits capture slot)
    (givesOther : Gives visits capture other) : slot = other := by
  obtain ⟨visit, member, hnode, rfl, -⟩ := gives
  obtain ⟨again, hagain, hsame, rfl, -⟩ := givesOther
  rw [List.inj_on_of_nodup_map hnodup member hagain (hnode.trans hsame.symm)]

theorem GivesAll.append {later : List Term} {further : Nat}
    (gives : GivesAll visits chosen first count)
    (givesLater : GivesAll visits later (first + count) further) :
    GivesAll visits (chosen ++ later) first (count + further) := by
  rw [GivesAll, List.filter_append, ← List.range'_append_1]
  exact List.rel_append gives givesLater

/-- Several nodes are visited, and their captures are given slots from a first one on, as many as
there are in every choice. -/
structure Covers (visits : List (Visit Role)) (nodes : List Term) (choices : List (List Term))
    (first count : Nat) : Prop where
  nodes : visits.map Visit.node = nodes
  allots : ∀ visit ∈ visits, Allots visits visit
  numbered : ∀ chosen ∈ choices, GivesAll visits chosen first count

namespace Covers

variable {nodes laterNodes : List Term} {choices laterChoices : List (List Term)}
  {further : Nat} {later : List (Visit Role)}

theorem nil (first : Nat) : Covers [] [] [[]] first 0 := by
  refine ⟨rfl, List.forall_mem_nil _, fun chosen member => ?_⟩
  rw [List.mem_singleton.mp member]
  exact .nil

theorem none (first count : Nat) : Covers [] [] [] first count :=
  ⟨rfl, List.forall_mem_nil _, List.forall_mem_nil _⟩

theorem allots_append (covers : Covers visits nodes choices first count)
    (hlater : ∀ visit ∈ later, Allots later visit) :
    ∀ visit ∈ visits ++ later, Allots (visits ++ later) visit := by
  intro visit member
  rcases List.mem_append.mp member with hvisits | hmore
  · exact (covers.allots visit hvisits).mono (List.subset_append_left _ _)
  · exact (hlater visit hmore).mono (List.subset_append_right _ _)

/-- What is chosen in both is given the slots of the one and then those of the other. -/
theorem append (covers : Covers visits nodes choices first count)
    (coversLater : Covers later laterNodes laterChoices (first + count) further) :
    Covers (visits ++ later) (nodes ++ laterNodes)
      (choices.flatMap fun front => laterChoices.map (front ++ ·)) first (count + further) := by
  refine ⟨?_, covers.allots_append coversLater.allots, fun chosen member => ?_⟩
  · rw [List.map_append, covers.nodes, coversLater.nodes]
  · obtain ⟨front, hfront, hchosen⟩ := List.mem_flatMap.mp member
    obtain ⟨back, hback, rfl⟩ := List.mem_map.mp hchosen
    exact ((covers.numbered front hfront).mono (List.subset_append_left _ _)).append
      ((coversLater.numbered back hback).mono (List.subset_append_right _ _))

theorem beside (covers : Covers visits nodes choices first count)
    (coversLater : Covers later laterNodes laterChoices first count) :
    Covers (visits ++ later) (nodes ++ laterNodes) (choices ++ laterChoices) first count := by
  refine ⟨?_, covers.allots_append coversLater.allots, fun chosen member => ?_⟩
  · rw [List.map_append, covers.nodes, coversLater.nodes]
  · rcases List.mem_append.mp member with hchosen | hchosen
    · exact (covers.numbered chosen hchosen).mono (List.subset_append_left _ _)
    · exact (coversLater.numbered chosen hchosen).mono (List.subset_append_right _ _)

end Covers

end Visit

def Standing.role (standing : Standing) : Role :=
  if standing.isEnclosed then .terms else .own

theorem Standing.ofRole_role (standing : Standing) :
    Handlers.node.ofRole standing.role = standing.handlers := by
  cases standing <;> rfl

@[simp] theorem Standing.role_inner (standing : Standing) :
    standing.inner.role = standing.role := by
  cases standing <;> rfl

namespace Pattern

open Conduct Visit

structure IsAdmitted (pattern : Pattern Leaf) (standing : Standing) (place : Place)
    (session : Session) (key : Nat) : Prop where
  place : place.isSlice = (standing == .term && pattern.isVariadic)
  ready : session.Numbered key
  unrejected : pattern.rejection? standing = none

def opened (pattern : Pattern Leaf) (place : Place) (session : Session) (key : Nat) : Session :=
  (session.enter (pattern.termFrom key)).gain (.ofNode key (pattern.termFrom key) place)

def visit (pattern : Pattern Leaf) (standing : Standing) (place : Place) (session : Session)
    (key : Nat) : Visit Role where
  compiler := standing.role
  place := place
  node := pattern.termFrom key
  start := session
  outcome := .ok (pattern.test session.recording place (session.tally key))
  last := session.gain (pattern.gain place (session.tally key))

def IsVisited (pattern : Pattern Leaf) : Prop :=
  ∀ (standing : Standing) (place : Place) (session : Session) (key : Nat),
    pattern.IsAdmitted standing place session key →
      ∃ visits, Visits Handlers.node.dispatchers (call standing.role place (pattern.termFrom key))
          session visits ∧
        Covers visits (pattern.termFrom key).walk (pattern.termFrom key).choices session.captures
          pattern.slots

section Node

variable {pattern : Pattern Leaf} {standing : Standing} {place : Place} {session : Session}
  {key : Nat} {visits : List (Visit Role)}

theorem IsAdmitted.ready_opened (admitted : pattern.IsAdmitted standing place session key) :
    (pattern.opened place session key).Numbered (key + 1) :=
  admitted.ready.enrolled (pattern.key?_termFrom key) place

theorem IsAdmitted.of_single (hstanding : standing ≠ .term) (hplace : place.isSlice = false)
    (ready : session.Numbered key) (hnone : pattern.rejection? standing = none) :
    pattern.IsAdmitted standing place session key := by
  refine ⟨?_, ready, hnone⟩
  rw [hplace, beq_false_of_ne hstanding]
  rfl

theorem compile_of_isAdmitted (admitted : pattern.IsAdmitted standing place session key) :
    Compile.compile standing.handlers place (pattern.termFrom key) session =
      (.ok (pattern.test session.recording place (session.tally key)),
        session.gain (pattern.gain place (session.tally key))) := by
  have hsettles := (Compile.compiles pattern standing place session key admitted.place
    admitted.ready).2
  rwa [admitted.unrejected] at hsettles

theorem runs_call (admitted : pattern.IsAdmitted standing place session key) :
    Runs Handlers.node.dispatchers (call standing.role place (pattern.termFrom key)) session
      (.ok (pattern.test session.recording place (session.tally key)))
      (session.gain (pattern.gain place (session.tally key))) := by
  have hruns := realizes_compile Handlers.node standing.role place (pattern.termFrom key) session
  rwa [standing.ofRole_role, compile_of_isAdmitted admitted] at hruns

theorem allots_visit (admitted : pattern.IsAdmitted standing place session key)
    (hnumbered : ∀ chosen ∈ (pattern.termFrom key).choices,
      GivesAll visits chosen session.captures pattern.slots) :
    Allots visits (pattern.visit standing place session key) := by
  have hslots := slots_termFrom pattern key
  refine ⟨?_, ?_, ?_, ⟨_, rfl, fun slot => ?_⟩, fun chosen member => ?_⟩
  · change Compile.compile (Handlers.node.ofRole standing.role) place (pattern.termFrom key)
      session = _
    rw [standing.ofRole_role]
    exact compile_of_isAdmitted admitted
  · change _ = session.captures + (pattern.termFrom key).slots
    rw [hslots]
    rfl
  · exact fun hunion => balanced_termFrom admitted.unrejected hunion
  · change _ ↔ slot ∈ List.range' session.captures (pattern.termFrom key).slots
    rw [hslots]
    exact writesItsSlots admitted.unrejected session.recording place (session.tally key) slot
  · change GivesAll visits chosen session.captures (pattern.termFrom key).slots
    rw [hslots]
    exact hnumbered chosen member

theorem visits_node (admitted : pattern.IsAdmitted standing place session key) {tag : String}
    {loc : Option Range} {children : List Term}
    (hterm : pattern.termFrom key = .node key tag loc children) {handler : Handler}
    (hhandler : standing.handlers.resolve? tag = some handler)
    (within : Visits Handlers.node.dispatchers
      (handler.conduct standing.role (pattern.termFrom key) place)
      (pattern.opened place session key) visits) :
    Visits Handlers.node.dispatchers (call standing.role place (pattern.termFrom key)) session
      (pattern.visit standing place session key :: visits) := by
  have hready : (session.enter (pattern.termFrom key)).Numbered key := admitted.ready
  rw [← standing.ofRole_role] at hhandler
  refine visits_call ?_ (runs_call admitted)
    (visits_instrumented (pattern.key?_termFrom key) hready within)
  rw [hterm]
  exact dispatch_eq_ok hhandler place key loc children

theorem covers_node (admitted : pattern.IsAdmitted standing place session key)
    {choices : List (List Term)} {first count : Nat}
    (covers : Covers visits (Term.walkAll (pattern.termFrom key).children) choices first count)
    (hnumbered : ∀ chosen ∈ (pattern.termFrom key).choices,
      GivesAll (pattern.visit standing place session key :: visits) chosen session.captures
        pattern.slots) :
    Covers (pattern.visit standing place session key :: visits) (pattern.termFrom key).walk
      (pattern.termFrom key).choices session.captures pattern.slots := by
  have hwalk : (pattern.termFrom key).walk =
      pattern.termFrom key :: Term.walkAll (pattern.termFrom key).children := by
    cases pattern <;> rfl
  refine ⟨?_, ?_, hnumbered⟩
  · rw [hwalk, List.map_cons, covers.nodes]
    rfl
  · intro other member
    rcases List.mem_cons.mp member with rfl | hvisits
    · exact allots_visit admitted hnumbered
    · exact (covers.allots other hvisits).mono (List.subset_cons_self _ _)

theorem covers_plain (admitted : pattern.IsAdmitted standing place session key)
    {choices : List (List Term)}
    (covers : Covers visits (Term.walkAll (pattern.termFrom key).children) choices
      session.captures pattern.slots)
    (hplain : pattern.isCapture = false)
    (hchoices : (pattern.termFrom key).choices = choices.map (pattern.termFrom key :: ·)) :
    Covers (pattern.visit standing place session key :: visits) (pattern.termFrom key).walk
      (pattern.termFrom key).choices session.captures pattern.slots := by
  refine covers_node admitted covers fun chosen member => ?_
  rw [hchoices] at member
  obtain ⟨inner, hinner, rfl⟩ := List.mem_map.mp member
  have htag : Compile.hasTag "capture" (pattern.termFrom key) = false :=
    (Compile.hasTag_capture_termFrom pattern key).trans hplain
  rw [GivesAll, List.filter_cons_of_neg (by rw [htag]; exact Bool.false_ne_true)]
  exact (covers.numbered inner hinner).mono (List.subset_cons_self _ _)

end Node

theorem isVisited_leaf (loc : Range) (value : Leaf) : IsVisited (leaf loc value) := by
  intro standing place session key admitted
  obtain ⟨handler, hhandler, quiet⟩ : ∃ handler : Handler,
      standing.handlers.resolve? value.kind.name = some handler ∧
        ∀ role term place session,
          Visits Handlers.node.dispatchers (handler.conduct role term place) session [] := by
    cases value with
    | rest =>
        cases standing with
        | outside => exact ⟨.unsupported, rfl, fun _ _ _ _ => visits_lift _ _⟩
        | within | term =>
            exact ⟨.rest, rfl, fun _ _ _ _ =>
              (visits_lift _ _).bind_quiet fun _ _ => visits_pure _ _⟩
    | position | named =>
        exact ⟨.param, Compile.resolve?_handlers standing "param" rfl (by decide) (by decide),
          fun _ _ _ _ => visits_lift _ _⟩
    | predicate name =>
        exact ⟨.predicate,
          Compile.resolve?_handlers standing "predicate" rfl (by decide) (by decide),
          fun _ _ _ _ => visits_lift _ _⟩
    | wildcard | nil | symbol | int | float | string | nodeType =>
        exact ⟨_, (Compile.resolve?_eq_node standing (by simp [Leaf.kind, TokenKind.name])
          (by simp [Leaf.kind, TokenKind.name])).trans rfl, fun _ _ _ _ => visits_pure _ _⟩
  have covers : Covers [] (Term.walkAll ((leaf loc value).termFrom key).children) [[]]
      session.captures 0 := by
    have hwalk : Term.walkAll ((leaf loc value).termFrom key).children = [] :=
      walkAll_atoms value.atoms
    rw [hwalk]
    exact Covers.nil session.captures
  exact ⟨_, visits_node admitted (termFrom_leaf key loc value) hhandler (quiet _ _ _ _),
    covers_plain admitted covers rfl (choices_leaf loc value key)⟩

theorem each_cons (role : Role) (place : Place) (pattern : Pattern Leaf) (key : Nat)
    (rest : List Term) :
    each role place (pattern.termFrom key :: rest) = do
      let test ← call role place (pattern.termFrom key)
      let tests ← each role place rest
      return test :: tests := by
  cases pattern <;> rfl

theorem child_cons (role : Role) (place : Place) (pattern : Pattern Leaf) (key : Nat)
    (rest : List Term) :
    child role place (pattern.termFrom key :: rest) = call role place (pattern.termFrom key) := by
  cases pattern <;> rfl

theorem afterHead_cons (places : List Place) (pattern : Pattern Leaf) (key : Nat)
    (rest : List Term) :
    afterHead places (pattern.termFrom key :: rest) = terms places rest := by
  cases pattern <;> rfl

theorem terms_cons (places : List Place) (pattern : Pattern Leaf) (key : Nat)
    (rest : List Term) :
    terms places (pattern.termFrom key :: rest) = do
      let test ← call .terms (places.headD .root) (pattern.termFrom key)
      let tests ← terms places.tail rest
      return test :: tests := by
  cases pattern <;> rfl

theorem branches_cons (role : Role) (place : Place) (base : Nat) (pattern : Pattern Leaf)
    (key : Nat) (rest : List Term) :
    branches role place base (pattern.termFrom key :: rest) = do
      lift (modify fun session => { session with captures := base })
      let test ← call role place (pattern.termFrom key)
      let count := (← lift get).captures - base
      let others ← branches role place base rest
      return (test, count) :: others := by
  cases pattern <;> rfl

section Constructs

variable {inner : Pattern Leaf} (loc : Range)

theorem walkAll_marked (mark : Mark) (key : Nat) :
    Term.walkAll ((marked loc mark inner).termFrom key).children =
      (inner.termFrom (key + 1)).walk := by
  rw [termFrom_marked]
  exact List.append_nil _

theorem isVisited_capture (hinner : IsVisited inner) :
    IsVisited (marked loc .capture inner) := by
  intro standing place session key admitted
  have hhandler := Compile.resolve?_handlers standing "capture" rfl (by decide) (by decide)
  let opened := (marked loc .capture inner).opened place session key
  have hready : (opened.gain .ofSlot).Numbered (key + 1) :=
    admitted.ready_opened.gain (Gain.covers_ofSlot _)
  have inside : inner.IsAdmitted standing place (opened.gain .ofSlot) (key + 1) :=
    ⟨admitted.place, hready, admitted.unrejected⟩
  obtain ⟨visits, made, covers⟩ := hinner standing place _ (key + 1) inside
  refine ⟨_, visits_node admitted (termFrom_marked key loc .capture inner) hhandler
    (visits_lift_bind (Compile.nextCapture_run opened) rfl
      (made.bind_quiet fun _ _ => visits_pure _ _)), ?_⟩
  rw [← walkAll_marked loc .capture] at covers
  refine covers_node admitted covers fun chosen member => ?_
  rw [choices_marked] at member
  obtain ⟨below, hbelow, rfl⟩ := List.mem_map.mp member
  have hfresh : session.captures ∉ (inner.test session.recording place
      (session.tally key).captured).writes := by
    rw [writesItsSlots inside.unrejected, List.mem_range'_1]
    exact fun hbounds => Nat.not_succ_le_self _ hbounds.1
  rw [GivesAll, List.filter_cons_of_pos rfl, slots, List.range'_succ]
  refine .cons ⟨_, .head _, rfl, rfl, key, _, rfl, hfresh⟩ ?_
  exact (covers.numbered below hbelow).mono (List.subset_cons_self _ _)

theorem isVisited_negation (hinner : IsVisited inner) :
    IsVisited (marked loc .negation inner) := by
  intro standing place session key admitted
  have hhandler := Compile.resolve?_handlers standing "negation" rfl (by decide) (by decide)
  have hsingle : place.isSlice = false := admitted.place.trans (Bool.and_false _)
  obtain ⟨visits, made, covers⟩ := hinner standing.inner place _ (key + 1)
    (.of_single standing.inner_ne_term hsingle admitted.ready_opened admitted.unrejected)
  rw [standing.role_inner] at made
  refine ⟨_, visits_node admitted (termFrom_marked key loc .negation inner) hhandler
    (made.bind_quiet fun _ _ => visits_pure _ _), ?_⟩
  rw [← walkAll_marked loc .negation] at covers
  exact covers_plain admitted covers rfl (choices_marked loc .negation inner key)

theorem isVisited_ascend (hinner : IsVisited inner) :
    IsVisited (marked loc .ascend inner) := by
  intro standing place session key admitted
  have hhandler := Compile.resolve?_handlers standing "ascend" rfl (by decide) (by decide)
  obtain ⟨visits, made, covers⟩ := hinner standing.inner place.parent _ (key + 1)
    (.of_single standing.inner_ne_term rfl admitted.ready_opened admitted.unrejected)
  rw [standing.role_inner] at made
  refine ⟨_, visits_node admitted (termFrom_marked key loc .ascend inner) hhandler
    (made.bind_quiet fun _ _ => visits_pure _ _), ?_⟩
  rw [← walkAll_marked loc .ascend] at covers
  exact covers_plain admitted covers rfl (choices_marked loc .ascend inner key)

theorem isVisited_repeated (quantity : Quantity) (hinner : IsVisited inner) :
    IsVisited (repeated loc inner quantity) := by
  intro standing place session key admitted
  obtain ⟨rfl, hnone⟩ := unrejected_body admitted.unrejected
  have hhandler : Handlers.sequence.resolve? "repetition" = some .repetition := rfl
  let opened := (repeated loc inner quantity).opened place session key
  have hslice : Compile.requireSlice ((repeated loc inner quantity).termFrom key) place opened =
      (.ok (), opened) := by
    rw [Compile.requireSlice, admitted.place]
    rfl
  have hnocapture : ¬ ((repeated loc inner quantity).termFrom key).payload.walk.any
      (Compile.hasTag "capture") = true := by
    change ¬ (inner.termFrom (key + 1)).walk.any (Compile.hasTag "capture") = true
    rw [Compile.any_capture_termFrom, Bool.not_eq_true, List.any_eq_false]
    exact fun part member =>
      Bool.eq_false_iff.mp (isCapture_of_unrejected admitted.unrejected member)
  have hready : (opened.gain .ofLoop).Numbered (key + 1) :=
    admitted.ready_opened.gain (Gain.covers_ofLoop _)
  obtain ⟨visits, made, covers⟩ := hinner .within (.element (session.tally key).elementName)
    (opened.gain .ofLoop) (key + 1) ⟨rfl, hready, hnone⟩
  have within : Visits Handlers.node.dispatchers
      (Handler.conduct .terms .repetition ((repeated loc inner quantity).termFrom key) place)
      opened visits := by
    refine visits_lift_bind hslice rfl ?_
    rw [if_neg hnocapture]
    exact visits_lift_bind (Compile.freshName_run "e" opened) rfl
      (made.bind_quiet fun _ _ => visits_pure _ _)
  refine ⟨_, visits_node admitted (termFrom_repeated key loc quantity inner) hhandler within, ?_⟩
  have hwalk : Term.walkAll ((repeated loc inner quantity).termFrom key).children =
      (inner.termFrom (key + 1)).walk := by
    simp [termFrom_repeated, Term.children, Term.walkAll, Term.walk]
  rw [← hwalk] at covers
  exact covers_plain admitted covers rfl (choices_repeated loc quantity inner key)

end Constructs

section Lists

variable {patterns : List (Pattern Leaf)} {session : Session} {key : Nat}
  (visited : ∀ pattern ∈ patterns, pattern.IsVisited)
include visited

theorem visits_each {standing : Standing} (hstanding : standing ≠ .term) {place : Place}
    (hplace : place.isSlice = false) (ready : session.Numbered key)
    (hnone : rejectionAmong? standing patterns = none) :
    ∃ visits, Visits Handlers.node.dispatchers
        (each standing.role place (termsFrom key patterns)) session visits ∧
      Covers visits (Term.walkAll (termsFrom key patterns))
        (Term.choicesAll (termsFrom key patterns)) session.captures (slotsAll patterns) := by
  induction patterns generalizing session key with
  | nil => exact ⟨[], visits_pure _ _, Covers.nil _⟩
  | cons pattern rest induction =>
      rw [rejectionAmong?, Option.or_eq_none_iff] at hnone
      have admitted := IsAdmitted.of_single hstanding hplace ready hnone.1
      obtain ⟨visits, made, covers⟩ := visited pattern (by simp) _ _ _ _ admitted
      obtain ⟨later, madeLater, coversLater⟩ :=
        induction (fun other member => visited other (by simp [member]))
          (ready.gain (pattern.covers_gain place (session.tally key))) hnone.2
      refine ⟨visits ++ later, ?_, covers.append coversLater⟩
      rw [termsFrom, each_cons]
      exact made.bind_ok (runs_call admitted) (madeLater.bind_quiet fun _ _ => visits_pure _ _)

theorem visits_terms {places : List Place} (fits : List.Forall₂ Fits places patterns)
    (ready : session.Numbered key) (hnone : rejectionAmong? .term patterns = none) :
    ∃ visits, Visits Handlers.node.dispatchers (terms places (termsFrom key patterns))
        session visits ∧
      Covers visits (Term.walkAll (termsFrom key patterns))
        (Term.choicesAll (termsFrom key patterns)) session.captures (slotsAll patterns) := by
  induction fits generalizing session key with
  | nil => exact ⟨[], visits_pure _ _, Covers.nil _⟩
  | @cons place pattern places rest hfits _ induction =>
      rw [rejectionAmong?, Option.or_eq_none_iff] at hnone
      have admitted : pattern.IsAdmitted .term place session key := ⟨hfits, ready, hnone.1⟩
      obtain ⟨visits, made, covers⟩ := visited pattern (by simp) _ _ _ _ admitted
      obtain ⟨later, madeLater, coversLater⟩ :=
        induction (fun other member => visited other (by simp [member]))
          (ready.gain (pattern.covers_gain place (session.tally key))) hnone.2
      refine ⟨visits ++ later, ?_, covers.append coversLater⟩
      rw [termsFrom, terms_cons]
      exact made.bind_ok (runs_call admitted) (madeLater.bind_quiet fun _ _ => visits_pure _ _)

theorem visits_branches {standing : Standing} (hstanding : standing ≠ .term) {place : Place}
    (hplace : place.isSlice = false) (ready : session.Numbered key)
    (hnone : rejectionAmong? standing patterns = none) {count : Nat}
    (hcount : ∀ pattern ∈ patterns, pattern.slots = count) (base : Nat) :
    ∃ visits, Visits Handlers.node.dispatchers
        (branches standing.role place base (termsFrom key patterns)) session visits ∧
      Covers visits (Term.walkAll (termsFrom key patterns))
        (Term.choicesAmong (termsFrom key patterns)) base count := by
  induction patterns generalizing session key with
  | nil => exact ⟨[], visits_pure _ _, Covers.none base count⟩
  | cons pattern rest induction =>
      rw [rejectionAmong?, Option.or_eq_none_iff] at hnone
      have hready : ({ session with captures := base } : Session).Numbered key := ready
      have admitted := IsAdmitted.of_single hstanding hplace hready hnone.1
      obtain ⟨visits, made, covers⟩ := visited pattern (by simp) _ _ _ _ admitted
      obtain ⟨later, madeLater, coversLater⟩ :=
        induction (fun other member => visited other (by simp [member]))
          (hready.gain (pattern.covers_gain place ⟨base, session.fresh, key⟩)) hnone.2
          fun other member => hcount other (by simp [member])
      rw [hcount pattern (by simp)] at covers
      refine ⟨visits ++ later, ?_, ?_⟩
      · rw [termsFrom, branches_cons]
        exact visits_lift_bind rfl rfl (made.bind_ok (runs_call admitted)
          (visits_get_bind (madeLater.bind_quiet fun _ _ => visits_pure _ _)))
      · rw [choicesAmong_termsFrom]
        exact covers.beside coversLater

end Lists

section Brackets

variable {first : Pattern Leaf} {others : List (Pattern Leaf)} (loc : Range)

theorem children_grouped (bracket : Bracket) (key : Nat) :
    ((grouped loc bracket first others).termFrom key).children =
      termsFrom (key + 1) (first :: others) := by
  rw [termFrom_grouped]
  rfl

variable (hfirst : IsVisited first) (hothers : ∀ other ∈ others, IsVisited other)
include hfirst hothers

theorem isVisited_intersection : IsVisited (grouped loc .intersection first others) := by
  intro standing place session key admitted
  have hhandler := Compile.resolve?_handlers standing "intersection" rfl (by decide) (by decide)
  have hsingle : place.isSlice = false := admitted.place.trans (Bool.and_false _)
  have hall : ∀ pattern ∈ first :: others, pattern.IsVisited := by simpa using ⟨hfirst, hothers⟩
  obtain ⟨visits, made, covers⟩ := visits_each hall standing.inner_ne_term hsingle
    admitted.ready_opened admitted.unrejected
  rw [standing.role_inner, ← children_grouped loc .intersection] at made
  rw [← children_grouped loc .intersection] at covers
  refine ⟨_, visits_node admitted (termFrom_grouped key loc .intersection first others) hhandler
    (made.bind_quiet fun _ _ => visits_pure _ _), ?_⟩
  refine covers_plain admitted covers rfl ?_
  rw [choices_grouped loc .intersection first others key (by decide), children_grouped]

theorem isVisited_union : IsVisited (grouped loc .union first others) := by
  intro standing place session key admitted
  have hhandler := Compile.resolve?_handlers standing "union" rfl (by decide) (by decide)
  have hsingle : place.isSlice = false := admitted.place.trans (Bool.and_false _)
  have hall : ∀ pattern ∈ first :: others, pattern.IsVisited := by simpa using ⟨hfirst, hothers⟩
  have hcount : ∀ pattern ∈ first :: others, pattern.slots = first.slots := by
    simpa using fun other member => slots_of_unrejected admitted.unrejected member
  have hnone := (Option.or_eq_none_iff.mp admitted.unrejected).1
  obtain ⟨visits, made, covers⟩ := visits_branches hall standing.inner_ne_term hsingle
    admitted.ready_opened hnone hcount session.captures
  rw [standing.role_inner, ← children_grouped loc .union] at made
  rw [← children_grouped loc .union] at covers
  refine ⟨_, visits_node admitted (termFrom_grouped key loc .union first others) hhandler
    (visits_get_bind (made.bind_quiet fun tests last => ?_)), ?_⟩
  · rcases tests with _ | ⟨⟨test, count⟩, rest⟩
    · exact visits_lift _ _
    · dsimp only
      split
      · exact (visits_lift _ _).bind_quiet fun _ _ => visits_pure _ _
      · exact visits_lift _ _
  · refine covers_plain admitted covers rfl ?_
    rw [choices_union loc first others key, children_grouped]

theorem isVisited_sequence : IsVisited (grouped loc .sequence first others) := by
  intro standing place session key admitted
  have hhandler := Compile.resolve?_handlers standing "sequence" rfl (by decide) (by decide)
  have hsingle : place.isSlice = false := admitted.place.trans (Bool.and_false _)
  obtain ⟨hcrowding, hnone⟩ := Option.or_eq_none_iff.mp admitted.unrejected
  obtain ⟨hhead, hrest⟩ := Option.or_eq_none_iff.mp hnone
  have layout := layout_of_crowding? hcrowding
  let opened := (grouped loc .sequence first others).opened place session key
  have inside : first.IsAdmitted .within place opened (key + 1) :=
    .of_single (by decide) hsingle admitted.ready_opened hhead
  obtain ⟨visits, made, covers⟩ := hfirst .within place opened (key + 1) inside
  have hready := inside.ready.gain (first.covers_gain place (opened.tally (key + 1)))
  -- The head is compiled first, so the terms take the slots behind its own.
  obtain ⟨later, madeLater, coversLater⟩ :=
    visits_terms hothers (fits_placesOf place layout) hready hrest
  have hsplit := (Compile.settles_variadicIndex others (key + 1 + first.size) opened).2
  rw [hcrowding] at hsplit
  have within : Visits Handlers.node.dispatchers
      (Handler.conduct standing.role .sequence
        ((grouped loc .sequence first others).termFrom key) place) opened (visits ++ later) := by
    dsimp only [Handler.conduct]
    rw [childNodes_termFrom, children_grouped]
    refine visits_lift_bind hsplit rfl ?_
    rw [termsFrom, child_cons, length_termsFrom]
    refine made.bind_ok (runs_call inside) ?_
    refine visits_lift_bind (Compile.sequenceCount_termsFrom layout _ _) rfl ?_
    rw [afterHead_cons]
    exact madeLater.bind_quiet fun _ _ => visits_pure _ _
  refine ⟨_, visits_node admitted (termFrom_grouped key loc .sequence first others) hhandler
    within, ?_⟩
  have hcovers := covers.append coversLater
  refine covers_plain admitted ?_ rfl (choices_grouped loc .sequence first others key (by decide))
  rw [children_grouped]
  exact hcovers

end Brackets

theorem isVisited (pattern : Pattern Leaf) : pattern.IsVisited := by
  induction pattern using induct with
  | leaf loc value => exact isVisited_leaf loc value
  | marked loc mark inner induction =>
      cases mark with
      | capture => exact isVisited_capture loc induction
      | negation => exact isVisited_negation loc induction
      | ascend => exact isVisited_ascend loc induction
  | repeated loc inner quantity induction => exact isVisited_repeated loc quantity induction
  | grouped loc bracket first others firstHolds othersHold =>
      cases bracket with
      | sequence => exact isVisited_sequence loc firstHolds othersHold
      | union => exact isVisited_union loc firstHolds othersHold
      | intersection => exact isVisited_intersection loc firstHolds othersHold

theorem nodup_walk_termFrom (pattern : Pattern Leaf) (key : Nat) :
    (pattern.termFrom key).walk.Nodup := by
  have hkeys := (pattern.covers_gain .root ⟨0, 0, key⟩).1
  have hnodup : ((List.range' key pattern.size).map some).Nodup :=
    (List.nodup_range' 1).map (Option.some_injective Nat)
  rw [← hkeys] at hnodup
  exact hnodup.of_map _

end Pattern

theorem existsUnique_of_forall₂ {R : α → β → Prop} {values : List α} {others : List β}
    (hrel : List.Forall₂ R values others)
    (hfunctional : ∀ value first second, R value first → R value second → first = second)
    (hnodup : others.Nodup) {other : β} (member : other ∈ others) :
    ∃! value, value ∈ values ∧ R value other := by
  obtain ⟨hlength, hget⟩ := List.forall₂_iff_get.mp hrel
  obtain ⟨index, hindex, rfl⟩ := List.mem_iff_getElem.mp member
  have hvalues : index < values.length := hlength ▸ hindex
  refine ⟨values[index], ⟨List.getElem_mem hvalues, hget index hvalues hindex⟩, ?_⟩
  rintro value ⟨hvalue, hgiven⟩
  obtain ⟨place, hplace, rfl⟩ := List.mem_iff_getElem.mp hvalue
  have hothers : place < others.length := hlength ▸ hplace
  have hsame := hfunctional _ _ _ (hget place hplace hothers) hgiven
  have hplaces : place = index := hnodup.getElem_inj_iff.mp hsame
  subst hplaces
  rfl

namespace Matcher

open Conduct

structure AllotsBy (matcher : Matcher) (visits : List (Visit Role)) : Prop where
  /-- These are the visits when the matcher is compiled from the start. -/
  made : ∀ others, Visits Handlers.node.dispatchers (Conduct.call .own .root matcher.term)
    (Session.start matcher.text matcher.recording) others ↔ others = visits
  /-- The first one ends with the test of the matcher and with its slots given out. -/
  root : ∃ last later, visits = ⟨.own, .root, matcher.term,
    Session.start matcher.text matcher.recording, .ok matcher.test, last⟩ :: later ∧
      last.captures = matcher.slots
  nodes : visits.map Visit.node = matcher.term.walk ∧ matcher.term.walk.Nodup
  allots : ∀ visit ∈ visits, Visit.Allots visits visit
  /-- However branches are chosen, every slot of a node is given to one capture. -/
  single : ∀ visit ∈ visits, ∀ chosen ∈ visit.node.choices,
    ∀ slot ∈ List.range' visit.start.captures visit.node.slots,
      ∃! capture, capture ∈ chosen.filter (Compile.hasTag "capture") ∧
        Visit.Gives visits capture slot

end Matcher

end TreeMatch
