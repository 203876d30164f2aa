import TreeMatch.Number.Binary64
import TreeMatch.Range

/-! Patterns: what a pattern text denotes. The type of the leaves is left open, since a text
first gives leaves as written and then leaves with their values. -/

namespace TreeMatch

inductive Mark
  | capture
  | negation
  | ascend
  deriving DecidableEq, Repr

def Mark.char : Mark → Char
  | capture => '$'
  | negation => '!'
  | ascend => '^'

inductive Bracket
  | sequence
  | union
  | intersection
  deriving DecidableEq, Repr

def Bracket.left : Bracket → Char
  | sequence => '('
  | union => '\x7b'
  | intersection => '['

def Bracket.right : Bracket → Char
  | sequence => ')'
  | union => '\x7d'
  | intersection => ']'

inductive Quantity
  | any
  | atLeastOnce
  | atMostOnce
  deriving DecidableEq, Repr

def Quantity.char : Quantity → Char
  | any => '*'
  | atLeastOnce => '+'
  | atMostOnce => '?'

inductive TokenKind
  | rest
  | symbol
  | number
  | string
  | param
  | wildcard
  | nil
  | predicate
  | nodeType
  | punct
  deriving DecidableEq, Repr

def TokenKind.name : TokenKind → String
  | rest => "rest"
  | symbol => "symbol"
  | number => "number"
  | string => "string"
  | param => "param"
  | wildcard => "wildcard"
  | nil => "nil"
  | predicate => "predicate"
  | nodeType => "node_type"
  | punct => "punct"

structure Lexed where
  kind : TokenKind
  text : List Char
  deriving DecidableEq, Repr

inductive Leaf
  | rest
  /-- Anything at all; the name only documents it. -/
  | wildcard (name : String)
  | nil
  | symbol (name : String)
  | int (value : Int)
  | float (value : Number.Binary64)
  | string (value : String)
  /-- The argument at a place counted from one. -/
  | position (index : Nat)
  | named (name : String)
  | predicate (name : String)
  | nodeType (name : String)
  deriving DecidableEq, Repr

inductive Pattern (α : Type)
  | leaf (loc : Range) (value : α)
  | marked (loc : Range) (mark : Mark) (inner : Pattern α)
  | repeated (loc : Range) (inner : Pattern α) (quantity : Quantity)
  | grouped (loc : Range) (bracket : Bracket) (first : Pattern α) (others : List (Pattern α))
  deriving Repr

namespace Pattern

def loc : Pattern α → Range
  | leaf loc _ => loc
  | marked loc .. => loc
  | repeated loc .. => loc
  | grouped loc .. => loc

mutual

/-- Replaces each leaf by what a function makes of its range and value; the first failure, from
left to right, is the failure of the whole. -/
def decodeLeaves (decode : Range → α → Except ε β) : Pattern α → Except ε (Pattern β)
  | leaf loc value => do return leaf loc (← decode loc value)
  | marked loc mark inner => do return marked loc mark (← decodeLeaves decode inner)
  | repeated loc inner quantity => do return repeated loc (← decodeLeaves decode inner) quantity
  | grouped loc bracket first others => do
    let first ← decodeLeaves decode first
    let others ← decodeLeavesAll decode others
    return grouped loc bracket first others
termination_by structural pattern => pattern

def decodeLeavesAll (decode : Range → α → Except ε β) :
    List (Pattern α) → Except ε (List (Pattern β))
  | [] => .ok []
  | pattern :: rest => do
    let pattern ← decodeLeaves decode pattern
    let rest ← decodeLeavesAll decode rest
    return pattern :: rest
termination_by structural patterns => patterns

end

section Equality

variable {α : Type} [DecidableEq α]

mutual

def decEq : (first second : Pattern α) → Decidable (first = second)
  | leaf loc value, leaf loc' value' => decidable_of_iff (loc = loc' ∧ value = value') (by simp)
  | marked loc mark inner, marked loc' mark' inner' =>
    have := decEq inner inner'
    decidable_of_iff (loc = loc' ∧ mark = mark' ∧ inner = inner') (by simp)
  | repeated loc inner quantity, repeated loc' inner' quantity' =>
    have := decEq inner inner'
    decidable_of_iff (loc = loc' ∧ inner = inner' ∧ quantity = quantity') (by simp)
  | grouped loc bracket first others, grouped loc' bracket' first' others' =>
    have := decEq first first'
    have := decEqAll others others'
    decidable_of_iff (loc = loc' ∧ bracket = bracket' ∧ first = first' ∧ others = others')
      (by simp)
  | leaf .., marked .. | leaf .., repeated .. | leaf .., grouped ..
  | marked .., leaf .. | marked .., repeated .. | marked .., grouped ..
  | repeated .., leaf .. | repeated .., marked .. | repeated .., grouped ..
  | grouped .., leaf .. | grouped .., marked .. | grouped .., repeated .. => .isFalse nofun
termination_by structural first => first

def decEqAll : (first second : List (Pattern α)) → Decidable (first = second)
  | [], [] => .isTrue rfl
  | pattern :: rest, pattern' :: rest' =>
    have := decEq pattern pattern'
    have := decEqAll rest rest'
    decidable_of_iff (pattern = pattern' ∧ rest = rest') (by simp)
  | [], _ :: _ | _ :: _, [] => .isFalse nofun
termination_by structural first => first

end

instance : DecidableEq (Pattern α) :=
  decEq

end Equality

end Pattern

end TreeMatch
