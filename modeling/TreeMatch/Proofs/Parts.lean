import TreeMatch.Compile

/-! The parts of a pattern: how they are counted, and where they stand in its term. -/

namespace TreeMatch

namespace Term

def tag : Term → String
  | node _ tag _ _ => tag
  | atom _ => ""

@[elab_as_elim]
theorem induct {motive : Term → Prop} (atom : ∀ value, motive (.atom value))
    (node : ∀ key tag loc children,
      (∀ child ∈ children, motive child) → motive (.node key tag loc children)) :
    ∀ term, motive term := by
  intro term
  refine Term.rec (motive_1 := motive) (motive_2 := fun terms => ∀ term ∈ terms, motive term)
    atom node ?_ ?_ term
  · intro other member
    cases member
  · intro head tail headHolds tailHolds other member
    cases member with
    | head => exact headHolds
    | tail _ inTail => exact tailHolds other inTail

end Term

namespace Pattern

@[elab_as_elim]
theorem induct {motive : Pattern α → Prop}
    (leaf : ∀ loc value, motive (.leaf loc value))
    (marked : ∀ loc mark inner, motive inner → motive (.marked loc mark inner))
    (repeated : ∀ loc inner quantity, motive inner → motive (.repeated loc inner quantity))
    (grouped : ∀ loc bracket first others, motive first →
      (∀ other ∈ others, motive other) → motive (.grouped loc bracket first others)) :
    ∀ pattern, motive pattern := by
  intro pattern
  refine Pattern.rec (motive_1 := motive)
    (motive_2 := fun patterns => ∀ pattern ∈ patterns, motive pattern)
    leaf marked repeated grouped ?_ ?_ pattern
  · intro other member
    cases member
  · intro head tail headHolds tailHolds other member
    cases member with
    | head => exact headHolds
    | tail _ inTail => exact tailHolds other inTail

mutual

/-- A pattern and all patterns within it, each before its parts. -/
def walk : Pattern α → List (Pattern α)
  | leaf loc value => [leaf loc value]
  | marked loc mark inner => marked loc mark inner :: walk inner
  | repeated loc inner quantity => repeated loc inner quantity :: walk inner
  | grouped loc bracket first others =>
    grouped loc bracket first others :: (walk first ++ walkAll others)
termination_by structural pattern => pattern

def walkAll : List (Pattern α) → List (Pattern α)
  | [] => []
  | pattern :: rest => walk pattern ++ walkAll rest
termination_by structural patterns => patterns

end

theorem mem_walk_self (pattern : Pattern α) : pattern ∈ pattern.walk := by
  cases pattern <;> simp [walk]

theorem mem_walkAll {part : Pattern α} {patterns : List (Pattern α)} :
    part ∈ walkAll patterns ↔ ∃ pattern ∈ patterns, part ∈ pattern.walk := by
  induction patterns with
  | nil => simp [walkAll]
  | cons pattern rest induction => simp [walkAll, induction]

def size (pattern : Pattern α) : Nat :=
  pattern.walk.length

mutual

/-- The number of slots that the captures of a pattern take. The branches of a union share
theirs. -/
def slots : Pattern α → Nat
  | leaf .. => 0
  | marked _ .capture inner => slots inner + 1
  | marked _ _ inner => slots inner
  | repeated _ inner _ => slots inner
  | grouped _ .union first _ => slots first
  | grouped _ _ first others => slots first + slotsAll others
termination_by structural pattern => pattern

def slotsAll : List (Pattern α) → Nat
  | [] => 0
  | pattern :: rest => slots pattern + slotsAll rest
termination_by structural patterns => patterns

end

def isCapture : Pattern α → Bool
  | marked _ .capture _ => true
  | _ => false

def isRepetition : Pattern α → Bool
  | repeated .. => true
  | _ => false

def loops (pattern : Pattern α) : Nat :=
  pattern.walk.countP isRepetition

def sizeAll (patterns : List (Pattern α)) : Nat :=
  (walkAll patterns).length

def loopsAll (patterns : List (Pattern α)) : Nat :=
  (walkAll patterns).countP isRepetition

section Counts

variable (loc : Range) (mark : Mark) (bracket : Bracket) (quantity : Quantity)
  (inner first : Pattern α) (others rest : List (Pattern α)) (value : α)

@[simp] theorem size_leaf : (leaf loc value).size = 1 := rfl

@[simp] theorem size_marked : (marked loc mark inner).size = inner.size + 1 := rfl

@[simp] theorem size_repeated : (repeated loc inner quantity).size = inner.size + 1 := rfl

@[simp] theorem size_grouped :
    (grouped loc bracket first others).size = first.size + sizeAll others + 1 := by
  simp [size, sizeAll, walk]

@[simp] theorem sizeAll_nil : sizeAll ([] : List (Pattern α)) = 0 := rfl

@[simp] theorem sizeAll_cons : sizeAll (first :: rest) = first.size + sizeAll rest := by
  simp [size, sizeAll, walkAll]

@[simp] theorem loops_leaf : (leaf loc value).loops = 0 := rfl

@[simp] theorem loops_marked : (marked loc mark inner).loops = inner.loops := by
  simp [loops, walk, isRepetition]

@[simp] theorem loops_repeated : (repeated loc inner quantity).loops = inner.loops + 1 :=
  List.countP_cons_of_pos rfl

@[simp] theorem loops_grouped :
    (grouped loc bracket first others).loops = first.loops + loopsAll others := by
  simp [loops, loopsAll, walk, isRepetition]

@[simp] theorem loopsAll_nil : loopsAll ([] : List (Pattern α)) = 0 := rfl

@[simp] theorem loopsAll_cons : loopsAll (first :: rest) = first.loops + loopsAll rest := by
  simp [loops, loopsAll, walkAll]

end Counts

def parts : Pattern α → List (Pattern α)
  | leaf .. => []
  | marked _ _ inner => [inner]
  | repeated _ inner _ => [inner]
  | grouped _ _ first others => first :: others

theorem size_eq (pattern : Pattern α) : pattern.size = sizeAll pattern.parts + 1 := by
  cases pattern <;> simp [parts]

theorem size_pos (pattern : Pattern α) : 0 < pattern.size := by
  rw [size_eq]
  exact Nat.succ_pos _

def EachLeaf (property : α → Prop) (pattern : Pattern α) : Prop :=
  ∀ loc value, leaf loc value ∈ pattern.walk → property value

section EachLeaf

variable {property : α → Prop}

@[simp] theorem eachLeaf_leaf (loc : Range) (value : α) :
    (leaf loc value).EachLeaf property ↔ property value := by
  simp [EachLeaf, walk]

@[simp] theorem eachLeaf_marked (loc : Range) (mark : Mark) (inner : Pattern α) :
    (marked loc mark inner).EachLeaf property ↔ inner.EachLeaf property := by
  simp [EachLeaf, walk]

@[simp] theorem eachLeaf_repeated (loc : Range) (inner : Pattern α) (quantity : Quantity) :
    (repeated loc inner quantity).EachLeaf property ↔ inner.EachLeaf property := by
  simp [EachLeaf, walk]

@[simp] theorem eachLeaf_grouped (loc : Range) (bracket : Bracket) (first : Pattern α)
    (others : List (Pattern α)) :
    (grouped loc bracket first others).EachLeaf property ↔
      first.EachLeaf property ∧ ∀ other ∈ others, other.EachLeaf property := by
  simp only [EachLeaf, walk, List.mem_cons, List.mem_append, mem_walkAll, reduceCtorEq, false_or]
  constructor
  · intro heach
    refine ⟨fun loc value member => heach loc value (.inl member), ?_⟩
    exact fun other hother loc value member => heach loc value (.inr ⟨other, hother, member⟩)
  · rintro ⟨hfirst, hothers⟩ loc value (member | ⟨other, hother, member⟩)
    · exact hfirst loc value member
    · exact hothers other hother loc value member

end EachLeaf

/-- The pattern stands, through captures only, for a run of children of any length. -/
def isVariadic : Pattern Leaf → Bool
  | leaf _ .rest => true
  | marked _ .capture inner => isVariadic inner
  | repeated .. => true
  | _ => false

/-- How many children a variadic pattern stands for: at least so many, and perhaps at most so
many. -/
def arity : Pattern Leaf → Nat × Option Nat
  | repeated _ _ .atLeastOnce => (1, none)
  | repeated _ _ .atMostOnce => (0, some 1)
  | marked _ .capture inner => arity inner
  | _ => (0, none)

end Pattern

namespace Quantity

def allows : Quantity → Nat → Bool
  | any, _ => true
  | atLeastOnce, count => 1 ≤ count
  | atMostOnce, count => count ≤ 1

end Quantity

namespace Pattern

/-- The name of the parameter that a leaf asks for, and the number of one that has none. -/
def parameterName? : Pattern Leaf → Option String
  | leaf _ (.named name) => some name
  | _ => none

def parameterPosition? : Pattern Leaf → Option Nat
  | leaf _ (.position index) => some index
  | _ => none

def names (pattern : Pattern Leaf) : List String :=
  pattern.walk.filterMap parameterName?

def lastPosition (pattern : Pattern Leaf) : Nat :=
  (pattern.walk.filterMap parameterPosition?).foldr max 0

/-- The named parameters of several patterns, and the greatest number of a positional one. -/
def namesAll (patterns : List (Pattern Leaf)) : List String :=
  (walkAll patterns).filterMap parameterName?

def lastPositionAll (patterns : List (Pattern Leaf)) : Nat :=
  ((walkAll patterns).filterMap parameterPosition?).foldr max 0

theorem foldr_max_append (front back : List Nat) :
    (front ++ back).foldr max 0 = max (front.foldr max 0) (back.foldr max 0) := by
  induction front with
  | nil => simp
  | cons value rest induction =>
      simp only [List.cons_append, List.foldr_cons, induction, Nat.max_assoc]

section Parameters

variable (loc : Range) (mark : Mark) (bracket : Bracket) (quantity : Quantity)
  (inner first : Pattern Leaf) (others rest : List (Pattern Leaf))

@[simp] theorem names_marked : (marked loc mark inner).names = inner.names :=
  List.filterMap_cons_none rfl

@[simp] theorem names_repeated : (repeated loc inner quantity).names = inner.names :=
  List.filterMap_cons_none rfl

@[simp] theorem names_grouped :
    (grouped loc bracket first others).names = first.names ++ namesAll others := by
  rw [names, walk, List.filterMap_cons_none rfl, List.filterMap_append]
  rfl

@[simp] theorem namesAll_nil : namesAll [] = [] := rfl

@[simp] theorem namesAll_cons : namesAll (first :: rest) = first.names ++ namesAll rest := by
  rw [namesAll, walkAll, List.filterMap_append]
  rfl

@[simp] theorem lastPosition_marked :
    (marked loc mark inner).lastPosition = inner.lastPosition := by
  rw [lastPosition, walk, List.filterMap_cons_none rfl]
  rfl

@[simp] theorem lastPosition_repeated :
    (repeated loc inner quantity).lastPosition = inner.lastPosition := by
  rw [lastPosition, walk, List.filterMap_cons_none rfl]
  rfl

@[simp] theorem lastPosition_grouped :
    (grouped loc bracket first others).lastPosition =
      max first.lastPosition (lastPositionAll others) := by
  rw [lastPosition, walk, List.filterMap_cons_none rfl, List.filterMap_append, foldr_max_append]
  rfl

@[simp] theorem lastPositionAll_nil : lastPositionAll [] = 0 := rfl

@[simp] theorem lastPositionAll_cons :
    lastPositionAll (first :: rest) = max first.lastPosition (lastPositionAll rest) := by
  rw [lastPositionAll, walkAll, List.filterMap_append, foldr_max_append]
  rfl

end Parameters

/-! A pattern's term keeps its nodes in the order of `walk`, with consecutive keys. -/

theorem toTermFrom_snd (pattern : Pattern Leaf) (next : Nat) :
    (pattern.toTermFrom next).2 = next + pattern.size := by
  induction pattern using induct generalizing next with
  | leaf loc value => rfl
  | marked loc mark inner induction =>
      simp only [toTermFrom, induction, size_marked]
      omega
  | repeated loc inner quantity induction =>
      simp only [toTermFrom, induction, size_repeated]
      omega
  | grouped loc bracket first others firstHolds othersHold =>
      have terms : ∀ next, (toTermsFrom next others).2 = next + sizeAll others := by
        induction others with
        | nil => intro next; rfl
        | cons other rest induction =>
            intro next
            simp only [toTermsFrom, sizeAll_cons, othersHold other (by simp)]
            rw [induction (fun other member => othersHold other (by simp [member]))]
            omega
      simp only [toTermFrom, firstHolds, terms, size_grouped]
      omega

/-- The term that a pattern becomes when its nodes are numbered from `next` on. -/
def termFrom (next : Nat) (pattern : Pattern Leaf) : Term :=
  (pattern.toTermFrom next).1

def termsFrom (next : Nat) : List (Pattern Leaf) → List Term
  | [] => []
  | pattern :: rest => pattern.termFrom next :: termsFrom (next + pattern.size) rest

theorem fst_toTermsFrom (patterns : List (Pattern Leaf)) (next : Nat) :
    (toTermsFrom next patterns).1 = termsFrom next patterns := by
  induction patterns generalizing next with
  | nil => rfl
  | cons pattern rest induction =>
      simp only [toTermsFrom, termsFrom, induction, termFrom, toTermFrom_snd]

section Terms

variable (next : Nat) (loc : Range) (mark : Mark) (quantity : Quantity) (bracket : Bracket)
  (inner first : Pattern Leaf) (others : List (Pattern Leaf)) (value : Leaf)

theorem termFrom_leaf :
    (leaf loc value).termFrom next =
      .node next value.kind.name (some loc) (value.atoms.map .atom) := rfl

theorem termFrom_marked :
    (marked loc mark inner).termFrom next =
      .node next mark.tag (some loc) [inner.termFrom (next + 1)] := rfl

theorem termFrom_repeated :
    (repeated loc inner quantity).termFrom next =
      .node next "repetition" (some loc)
        [inner.termFrom (next + 1), .atom (.str (String.singleton quantity.char))] := rfl

theorem termFrom_grouped :
    (grouped loc bracket first others).termFrom next =
      .node next bracket.tag (some loc)
        (first.termFrom (next + 1) :: termsFrom (next + 1 + first.size) others) := by
  simp only [termFrom, toTermFrom, toTermFrom_snd, fst_toTermsFrom]

end Terms

@[simp] theorem loc?_termFrom (pattern : Pattern Leaf) (next : Nat) :
    (pattern.termFrom next).loc? = some pattern.loc := by
  cases pattern <;> rfl

@[simp] theorem isNode_termFrom (pattern : Pattern Leaf) (next : Nat) :
    (pattern.termFrom next).isNode = true := by
  cases pattern <;> rfl

@[simp] theorem key?_termFrom (pattern : Pattern Leaf) (next : Nat) :
    (pattern.termFrom next).key? = some next := by
  cases pattern <;> rfl

@[simp] theorem childNodes_termsFrom (patterns : List (Pattern Leaf)) (next : Nat) :
    (termsFrom next patterns).filter Term.isNode = termsFrom next patterns := by
  induction patterns generalizing next with
  | nil => rfl
  | cons pattern rest induction => simp [termsFrom, induction]

@[simp] theorem length_termsFrom (patterns : List (Pattern Leaf)) (next : Nat) :
    (termsFrom next patterns).length = patterns.length := by
  induction patterns generalizing next with
  | nil => rfl
  | cons pattern rest induction => simp [termsFrom, induction]

theorem childNodes_termFrom (pattern : Pattern Leaf) (key : Nat) :
    (pattern.termFrom key).childNodes = termsFrom (key + 1) pattern.parts := by
  cases pattern with
  | leaf loc value =>
      simp [termFrom_leaf, Term.childNodes, Term.children, parts, termsFrom, Term.isNode]
  | marked loc mark inner =>
      simp [termFrom_marked, Term.childNodes, Term.children, parts, termsFrom]
  | repeated loc inner quantity =>
      rw [termFrom_repeated, Term.childNodes, Term.children,
        List.filter_cons_of_pos (isNode_termFrom inner (key + 1)),
        List.filter_cons_of_neg Bool.false_ne_true]
      rfl
  | grouped loc bracket first others =>
      simp [termFrom_grouped, Term.childNodes, Term.children, parts, termsFrom]

theorem walkAll_atoms (values : List Value) : Term.walkAll (values.map .atom) = [] := by
  induction values with
  | nil => rfl
  | cons value rest induction => simp [Term.walkAll, Term.walk, induction]

def partTerms (next : Nat) : List (Pattern Leaf) → List Term
  | [] => []
  | part :: rest => part.termFrom next :: partTerms (next + 1) rest

theorem partTerms_append (next : Nat) (front back : List (Pattern Leaf)) :
    partTerms next (front ++ back) =
      partTerms next front ++ partTerms (next + front.length) back := by
  induction front generalizing next with
  | nil => rfl
  | cons part rest induction =>
      simp only [List.cons_append, partTerms, induction, List.length_cons]
      rw [show next + 1 + rest.length = next + (rest.length + 1) by omega]

theorem getElem?_partTerms (next index : Nat) (parts : List (Pattern Leaf)) :
    (partTerms next parts)[index]? = parts[index]?.map (termFrom (next + index)) := by
  induction parts generalizing next index with
  | nil => rfl
  | cons part rest induction =>
      cases index with
      | zero => rfl
      | succ index =>
          simp only [partTerms, List.getElem?_cons_succ, induction]
          rw [show next + 1 + index = next + (index + 1) by omega]

theorem mem_partTerms {node : Term} {next : Nat} {parts : List (Pattern Leaf)} :
    node ∈ partTerms next parts ↔
      ∃ index part, parts[index]? = some part ∧ node = termFrom (next + index) part := by
  simp only [List.mem_iff_getElem?, getElem?_partTerms, Option.map_eq_some_iff,
    @eq_comm _ node]

theorem walkAll_termsFrom {patterns : List (Pattern Leaf)}
    (each : ∀ pattern ∈ patterns, ∀ next,
      (pattern.termFrom next).walk = partTerms next pattern.walk) (next : Nat) :
    Term.walkAll (termsFrom next patterns) = partTerms next (walkAll patterns) := by
  induction patterns generalizing next with
  | nil => rfl
  | cons pattern rest induction =>
      have later :=
        induction (fun other member => each other (by simp [member])) (next + pattern.size)
      rw [termsFrom, Term.walkAll, each pattern (by simp), later, walkAll, partTerms_append, size]

theorem walk_termFrom (pattern : Pattern Leaf) (next : Nat) :
    (pattern.termFrom next).walk = partTerms next pattern.walk := by
  induction pattern using induct generalizing next with
  | leaf loc value =>
      simp [termFrom_leaf, Term.walk, walk, walkAll_atoms, partTerms]
  | marked loc mark inner induction =>
      simp [termFrom_marked, Term.walk, Term.walkAll, walk, induction, partTerms]
  | repeated loc inner quantity induction =>
      simp [termFrom_repeated, Term.walk, Term.walkAll, walk, induction, partTerms]
  | grouped loc bracket first others firstHolds othersHold =>
      have later := walkAll_termsFrom othersHold (next + 1 + first.size)
      rw [termFrom_grouped, Term.walk, Term.walkAll, firstHolds, later, walk, partTerms,
        partTerms_append, termFrom_grouped, size]

end Pattern

end TreeMatch
