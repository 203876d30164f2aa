import TreeMatch.Matcher
import TreeMatch.Proofs.Layout

/-! What patterns mean: which values a pattern matches and what it captures, said without a
matcher. -/

namespace TreeMatch

/-- The node above a node, or nothing where there is none. What is no node has nothing above. -/
def Document.above (document : Document) (value : Value) : Option Value :=
  value.node?.map fun node => ((document.parent? node.id).map Node.toValue).getD .absent

structure Scene where
  document : Document
  /-- The arguments by their place, counted from one. -/
  position? : Nat → Option Argument
  named? : String → Option Argument

/-- What a match captures: for every slot its value, or nothing where the slot is left open. -/
abbrev Captures := List (Option Value)

namespace Leaf

def predicateHolds (name : String) (value : Value) : Bool :=
  match name with
  | "nil?" => (value matches .absent)
  | "true?" => (value matches .bool true)
  | "false?" => (value matches .bool false)
  | "sym?" => (value matches .sym _)
  | "int?" => (value matches .int _)
  | "float?" => (value matches .float _)
  | "str?" => (value matches .str _)
  | "node?" => (value matches .node ..)
  | _ => value.node?.any fun node => node.type ++ "_type?" == name

def holds (scene : Scene) (value : Value) : Leaf → Bool
  | rest => true
  | wildcard _ => true
  | nil => (value matches .absent)
  | symbol name =>
    match value with
    | .sym found => found == name
    | _ => false
  | int expected =>
    match value with
    | .int found => found == expected
    | _ => false
  | float expected =>
    match value with
    | .float found => found.equal expected
    | _ => false
  | string expected =>
    match value with
    | .str found => found == expected
    | _ => false
  | position index => (scene.position? index).any (·.accepts value)
  | named name => (scene.named? name).any (·.accepts value)
  | predicate name => predicateHolds name value
  | nodeType type => value.node?.any (·.type == type)

end Leaf

namespace Pattern

/-- What a capture of a pattern records: a run of children as a list. -/
def captured (pattern : Pattern Leaf) (values : List Value) : Option Value :=
  if pattern.isVariadic then some (.list values) else values.head?

/-- How many of the children left belong to a term, if so many terms stand behind it. A variadic
term leaves one child to each of them. -/
def share (term : Pattern Leaf) (behind left : Nat) : Nat :=
  if term.isVariadic then left - behind else 1

/-- What the opposite of a match captures: its slots are left open. -/
def complement? (slots : Nat) : Option Captures → Option Captures
  | some _ => none
  | none => some (List.replicate slots none)

mutual

/-- Matches a run of values: any number of children for a variadic pattern, and a single value
for any other. -/
def matching? (scene : Scene) : Pattern Leaf → List Value → Option Captures
  | leaf _ .rest, _ => some []
  | leaf _ value, [subject] => if value.holds scene subject then some [] else none
  | leaf .., _ => none
  | marked _ .capture inner, values => do
    let captures ← matching? scene inner values
    return captured inner values :: captures
  | marked _ .negation inner, [subject] =>
    complement? inner.slots (matching? scene inner [subject])
  | marked _ .ascend inner, [subject] => do
    let above ← scene.document.above subject
    matching? scene inner [above]
  | marked .., _ => none
  | repeated _ inner quantity, values =>
    if quantity.allows values.length &&
        values.all (fun value => (matching? scene inner [value]).isSome)
    then some []
    else none
  | grouped _ .union first others, [subject] =>
    (matching? scene first [subject]).or (matchingAny? scene others subject)
  | grouped _ .intersection first others, [subject] => do
    let front ← matching? scene first [subject]
    let back ← matchingEach? scene others subject
    return front ++ back
  | grouped _ .sequence first others, [subject] => do
    let node ← subject.node?
    let front ← matching? scene first [subject]
    let back ← matchingTerms? scene others node.children
    return front ++ back
  | grouped .., _ => none
termination_by structural pattern => pattern

def matchingAny? (scene : Scene) : List (Pattern Leaf) → Value → Option Captures
  | [], _ => none
  | pattern :: rest, subject =>
    (matching? scene pattern [subject]).or (matchingAny? scene rest subject)
termination_by structural patterns => patterns

def matchingEach? (scene : Scene) : List (Pattern Leaf) → Value → Option Captures
  | [], _ => some []
  | pattern :: rest, subject => do
    let front ← matching? scene pattern [subject]
    let back ← matchingEach? scene rest subject
    return front ++ back
termination_by structural patterns => patterns

def matchingTerms? (scene : Scene) : List (Pattern Leaf) → List Value → Option Captures
  | [], [] => some []
  | [], _ :: _ => none
  | term :: rest, children => do
    let share := term.share rest.length children.length
    let front ← matching? scene term (children.take share)
    let back ← matchingTerms? scene rest (children.drop share)
    return front ++ back
termination_by structural terms => terms

end

variable {scene : Scene}

theorem length_of_matching? {pattern : Pattern Leaf} (hfixed : pattern.isVariadic = false)
    {values : List Value} {captures : Captures}
    (hmatch : matching? scene pattern values = some captures) : values.length = 1 := by
  induction pattern using induct generalizing captures with
  | leaf loc value =>
      cases value with
      | rest => cases hfixed
      | _ =>
          rcases values with - | ⟨subject, - | ⟨second, others⟩⟩
          · cases hmatch
          · rfl
          · cases hmatch
  | marked loc mark inner induction =>
      cases mark with
      | capture =>
          rw [matching?] at hmatch
          obtain ⟨inside, hinside, -⟩ := Option.bind_eq_some_iff.mp hmatch
          exact induction hfixed hinside
      | negation | ascend =>
          rcases values with - | ⟨subject, - | ⟨second, others⟩⟩
          · cases hmatch
          · rfl
          · cases hmatch
  | repeated loc inner quantity induction => cases hfixed
  | grouped loc bracket first others firstHolds othersHold =>
      rcases values with - | ⟨subject, - | ⟨second, rest⟩⟩
      · cases bracket <;> cases hmatch
      · rfl
      · cases bracket <;> cases hmatch

theorem arity_of_matching? {pattern : Pattern Leaf} (hvariadic : pattern.isVariadic = true)
    {values : List Value} {captures : Captures}
    (hmatch : matching? scene pattern values = some captures) :
    pattern.arity.1 ≤ values.length ∧
      ∀ most, pattern.arity.2 = some most → values.length ≤ most := by
  induction pattern using induct generalizing captures with
  | leaf loc value =>
      cases value with
      | rest => exact ⟨Nat.zero_le _, fun _ hmost => by cases hmost⟩
      | _ => cases hvariadic
  | marked loc mark inner induction =>
      cases mark with
      | capture =>
          rw [matching?] at hmatch
          obtain ⟨inside, hinside, -⟩ := Option.bind_eq_some_iff.mp hmatch
          exact induction hvariadic hinside
      | negation | ascend => cases hvariadic
  | repeated loc inner quantity induction =>
      rw [matching?] at hmatch
      split at hmatch
      · rename_i hallowed
        have hquantity : quantity.allows values.length = true :=
          (Bool.and_eq_true_iff.mp hallowed).1
        cases quantity with
        | any => exact ⟨Nat.zero_le _, fun _ hmost => by cases hmost⟩
        | atLeastOnce => exact ⟨of_decide_eq_true hquantity, fun _ hmost => by cases hmost⟩
        | atMostOnce =>
            refine ⟨Nat.zero_le _, fun most hmost => ?_⟩
            cases hmost
            exact of_decide_eq_true hquantity
      · cases hmatch
  | grouped loc bracket first others firstHolds othersHold => cases hvariadic

section Captured

variable {patterns : List (Pattern Leaf)}
  (each : ∀ pattern ∈ patterns, ∀ {values : List Value} {captures : Captures},
    matching? scene pattern values = some captures → ∀ slot ∈ captures, slot.isSome = true)
  {captures : Captures}
include each

theorem isSome_of_matchingAny? {subject : Value}
    (hmatch : matchingAny? scene patterns subject = some captures) :
    ∀ slot ∈ captures, slot.isSome = true := by
  induction patterns with
  | nil => cases hmatch
  | cons pattern rest induction =>
      rw [matchingAny?, Option.or_eq_some_iff] at hmatch
      rcases hmatch with hfirst | ⟨-, hrest⟩
      · exact each pattern (by simp) hfirst
      · exact induction (fun other member => each other (by simp [member])) hrest

theorem isSome_of_matchingEach? {subject : Value}
    (hmatch : matchingEach? scene patterns subject = some captures) :
    ∀ slot ∈ captures, slot.isSome = true := by
  induction patterns generalizing captures with
  | nil =>
      cases hmatch
      simp
  | cons pattern rest induction =>
      obtain ⟨front, hfront, hrest⟩ := Option.bind_eq_some_iff.mp hmatch
      obtain ⟨back, hback, happend⟩ := Option.bind_eq_some_iff.mp hrest
      cases happend
      exact List.forall_mem_append.mpr ⟨each pattern (by simp) hfront,
        induction (fun other member => each other (by simp [member])) hback⟩

theorem isSome_of_matchingTerms? {children : List Value}
    (hmatch : matchingTerms? scene patterns children = some captures) :
    ∀ slot ∈ captures, slot.isSome = true := by
  induction patterns generalizing captures children with
  | nil =>
      cases children with
      | nil =>
          cases hmatch
          simp
      | cons child children => cases hmatch
  | cons pattern rest induction =>
      obtain ⟨front, hfront, hrest⟩ := Option.bind_eq_some_iff.mp hmatch
      obtain ⟨back, hback, happend⟩ := Option.bind_eq_some_iff.mp hrest
      cases happend
      exact List.forall_mem_append.mpr ⟨each pattern (by simp) hfront,
        induction (fun other member => each other (by simp [member])) hback⟩

end Captured

/-- No capture stands below a negation. -/
def NegatesNoCapture (pattern : Pattern Leaf) : Prop :=
  ∀ loc inner, marked loc .negation inner ∈ pattern.walk → inner.slots = 0

theorem isSome_captured {pattern : Pattern Leaf} {values : List Value} {captures : Captures}
    (hmatch : matching? scene pattern values = some captures) :
    (captured pattern values).isSome = true := by
  unfold captured
  cases hvariadic : pattern.isVariadic with
  | true => rfl
  | false =>
      have hlength := length_of_matching? hvariadic hmatch
      obtain ⟨subject, rfl⟩ := List.length_eq_one_iff.mp hlength
      rfl

theorem isSome_of_matching? {pattern : Pattern Leaf} (hplain : pattern.NegatesNoCapture)
    {values : List Value} {captures : Captures}
    (hmatch : matching? scene pattern values = some captures) :
    ∀ slot ∈ captures, slot.isSome = true := by
  induction pattern using induct generalizing values captures with
  | leaf loc value =>
      cases value with
      | rest =>
          cases hmatch
          simp
      | _ =>
          obtain ⟨subject, rfl⟩ := List.length_eq_one_iff.mp (length_of_matching? rfl hmatch)
          rw [matching?] at hmatch
          · split at hmatch
            · cases hmatch
              simp
            · cases hmatch
          · exact fun hrest => by cases hrest
  | marked loc mark inner induction =>
      have hinner : inner.NegatesNoCapture :=
        fun loc part member => hplain loc part (List.mem_cons_of_mem _ member)
      cases mark with
      | capture =>
          rw [matching?] at hmatch
          obtain ⟨inside, hinside, hcaptures⟩ := Option.bind_eq_some_iff.mp hmatch
          cases hcaptures
          exact List.forall_mem_cons.mpr ⟨isSome_captured hinside, induction hinner hinside⟩
      | negation =>
          -- The slots below a negation stay open, but here there are none.
          have hslots := hplain loc inner (mem_walk_self _)
          obtain ⟨subject, rfl⟩ := List.length_eq_one_iff.mp (length_of_matching? rfl hmatch)
          rw [matching?, hslots] at hmatch
          cases hinside : matching? scene inner [subject] with
          | some inside =>
              rw [hinside] at hmatch
              cases hmatch
          | none =>
              rw [hinside] at hmatch
              cases hmatch
              simp
      | ascend =>
          obtain ⟨subject, rfl⟩ := List.length_eq_one_iff.mp (length_of_matching? rfl hmatch)
          rw [matching?] at hmatch
          obtain ⟨above, -, hinside⟩ := Option.bind_eq_some_iff.mp hmatch
          exact induction hinner hinside
  | repeated loc inner quantity induction =>
      rw [matching?] at hmatch
      split at hmatch
      · cases hmatch
        simp
      · cases hmatch
  | grouped loc bracket first others firstHolds othersHold =>
      have hfirst : ∀ {values : List Value} {captures : Captures},
          matching? scene first values = some captures → ∀ slot ∈ captures, slot.isSome = true :=
        firstHolds fun loc part member => hplain loc part (by simp [walk, member])
      have hothers : ∀ other ∈ others, ∀ {values : List Value} {captures : Captures},
          matching? scene other values = some captures → ∀ slot ∈ captures, slot.isSome = true :=
        fun other inOthers => othersHold other inOthers fun loc part member =>
          hplain loc part (by
            rw [walk, List.mem_cons, List.mem_append, mem_walkAll]
            exact .inr (.inr ⟨other, inOthers, member⟩))
      obtain ⟨subject, rfl⟩ := List.length_eq_one_iff.mp (length_of_matching? rfl hmatch)
      cases bracket with
      | union =>
          rw [matching?, Option.or_eq_some_iff] at hmatch
          rcases hmatch with hhead | ⟨-, hrest⟩
          · exact hfirst hhead
          · exact isSome_of_matchingAny? hothers hrest
      | intersection =>
          obtain ⟨front, hfront, hrest⟩ := Option.bind_eq_some_iff.mp hmatch
          obtain ⟨back, hback, happend⟩ := Option.bind_eq_some_iff.mp hrest
          cases happend
          exact List.forall_mem_append.mpr ⟨hfirst hfront, isSome_of_matchingEach? hothers hback⟩
      | sequence =>
          obtain ⟨node, -, hnode⟩ := Option.bind_eq_some_iff.mp hmatch
          obtain ⟨front, hfront, hrest⟩ := Option.bind_eq_some_iff.mp hnode
          obtain ⟨back, hback, happend⟩ := Option.bind_eq_some_iff.mp hrest
          cases happend
          exact List.forall_mem_append.mpr ⟨hfirst hfront, isSome_of_matchingTerms? hothers hback⟩

theorem share_fixed {term : Pattern Leaf} (hfixed : term.isVariadic = false) (behind left : Nat) :
    term.share behind left = 1 := by
  rw [share, hfixed]
  rfl

theorem share_variadic {term : Pattern Leaf} (hvariadic : term.isVariadic = true)
    (behind left : Nat) : term.share behind left = left - behind := by
  rw [share, hvariadic]
  rfl

def MatchesOne (scene : Scene) (pattern : Pattern Leaf) (value : Value) : Prop :=
  (matching? scene pattern [value]).isSome = true

theorem isSome_matchingTerms?_cons (term : Pattern Leaf) (rest : List (Pattern Leaf))
    (children : List Value) :
    (matchingTerms? scene (term :: rest) children).isSome = true ↔
      (matching? scene term (children.take (term.share rest.length children.length))).isSome =
          true ∧
        (matchingTerms? scene rest
          (children.drop (term.share rest.length children.length))).isSome = true := by
  rw [matchingTerms?]
  cases matching? scene term (children.take (term.share rest.length children.length)) with
  | none => simp
  | some front =>
      cases matchingTerms? scene rest
          (children.drop (term.share rest.length children.length)) <;> simp

theorem isSome_matchingTerms?_append {before : List (Pattern Leaf)}
    (hfixed : ∀ term ∈ before, term.isVariadic = false) (rest : List (Pattern Leaf))
    (children : List Value) :
    (matchingTerms? scene (before ++ rest) children).isSome = true ↔
      ∃ front left, children = front ++ left ∧ List.Forall₂ (MatchesOne scene) before front ∧
        (matchingTerms? scene rest left).isSome = true := by
  induction before generalizing children with
  | nil =>
      constructor
      · intro hmatch
        exact ⟨[], children, rfl, .nil, hmatch⟩
      · rintro ⟨front, left, rfl, hfront, hmatch⟩
        cases hfront
        exact hmatch
  | cons term before induction =>
      have hterm := hfixed term (by simp)
      have hbefore := induction fun other member => hfixed other (by simp [member])
      rw [List.cons_append, isSome_matchingTerms?_cons, share_fixed hterm, hbefore]
      constructor
      · rintro ⟨hfirst, front, left, hsplit, hfront, hmatch⟩
        cases children with
        | nil =>
            obtain ⟨captures, hcaptures⟩ := Option.isSome_iff_exists.mp hfirst
            cases length_of_matching? hterm hcaptures
        | cons child children =>
            cases hsplit
            exact ⟨child :: front, left, rfl, .cons hfirst hfront, hmatch⟩
      · rintro ⟨front, left, rfl, hfront, hmatch⟩
        cases hfront with
        | cons hfirst hfront => exact ⟨hfirst, _, left, rfl, hfront, hmatch⟩

theorem isSome_matchingTerms?_fixed {terms : List (Pattern Leaf)}
    (hfixed : ∀ term ∈ terms, term.isVariadic = false) (children : List Value) :
    (matchingTerms? scene terms children).isSome = true ↔
      List.Forall₂ (MatchesOne scene) terms children := by
  rw [← List.append_nil terms, isSome_matchingTerms?_append hfixed, List.append_nil]
  constructor
  · rintro ⟨front, none, rfl, hfront, hmatch⟩
    cases none with
    | nil => rwa [List.append_nil]
    | cons child children => cases hmatch
  · intro hfront
    exact ⟨children, [], (List.append_nil children).symm, hfront, rfl⟩

/-- A variadic term among fixed ones matches the children that these leave. -/
theorem isSome_matchingTerms?_split {before after : List (Pattern Leaf)} {middle : Pattern Leaf}
    (hbefore : ∀ term ∈ before, term.isVariadic = false) (hmiddle : middle.isVariadic = true)
    (hafter : ∀ term ∈ after, term.isVariadic = false) (children : List Value) :
    (matchingTerms? scene (before ++ middle :: after) children).isSome = true ↔
      ∃ front run back, children = front ++ run ++ back ∧
        List.Forall₂ (MatchesOne scene) before front ∧
        (matching? scene middle run).isSome = true ∧
        List.Forall₂ (MatchesOne scene) after back := by
  rw [isSome_matchingTerms?_append hbefore]
  constructor
  · rintro ⟨front, left, rfl, hfront, hmatch⟩
    rw [isSome_matchingTerms?_cons, share_variadic hmiddle, isSome_matchingTerms?_fixed hafter]
      at hmatch
    refine ⟨front, _, _, ?_, hfront, hmatch.1, hmatch.2⟩
    rw [List.append_assoc, List.take_append_drop]
  · rintro ⟨front, run, back, rfl, hfront, hrun, hback⟩
    refine ⟨front, run ++ back, List.append_assoc .., hfront, ?_⟩
    have hlength : (run ++ back).length - after.length = run.length := by
      rw [List.length_append, hback.length_eq, Nat.add_sub_cancel]
    rw [isSome_matchingTerms?_cons, share_variadic hmiddle, isSome_matchingTerms?_fixed hafter,
      hlength, List.take_left' rfl, List.drop_left' rfl]
    exact ⟨hrun, hback⟩

theorem countOf_of_matchingTerms? {terms : List (Pattern Leaf)} (layout : Layout terms)
    {children : List Value} (hmatch : (matchingTerms? scene terms children).isSome = true) :
    (countOf terms).holds children.length = true := by
  cases layout with
  | fixed _ hfixed =>
      have hlength := ((isSome_matchingTerms?_fixed hfixed children).mp hmatch).length_eq
      rw [countOf_fixed hfixed, Count.holds, beq_iff_eq, hlength]
  | split before middle after hbefore hmiddle hafter =>
      obtain ⟨front, run, back, rfl, hfront, hrun, hback⟩ :=
        (isSome_matchingTerms?_split hbefore hmiddle hafter children).mp hmatch
      obtain ⟨captures, hcaptures⟩ := Option.isSome_iff_exists.mp hrun
      obtain ⟨hleast, hmost⟩ := arity_of_matching? hmiddle hcaptures
      have hlength : (front ++ run ++ back).length = before.length + after.length + run.length := by
        rw [List.length_append, List.length_append, ← hfront.length_eq, ← hback.length_eq]
        omega
      rw [countOf_split after hbefore hmiddle, hlength]
      generalize middle.arity = arity at hleast hmost
      obtain ⟨least, most⟩ := arity
      cases most with
      | none => simpa [Compile.countFor, Count.holds] using hleast
      | some most => simpa [Compile.countFor, Count.holds] using ⟨hleast, hmost most rfl⟩

end Pattern

end TreeMatch
