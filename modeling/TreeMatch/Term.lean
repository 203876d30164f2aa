import TreeMatch.Pattern
import TreeMatch.Value

/-! Pattern terms: labelled trees in the form in which they are compiled. A term made by hand may
hold anything; the patterns read from a text give well-formed ones. -/

namespace TreeMatch

inductive Term
  | atom (value : Value)
  /-- Nodes with one key are one and the same node. -/
  | node (key : Nat) (tag : String) (loc : Option Range) (children : List Term)
  deriving Repr, Inhabited

namespace Term

def isNode : Term → Bool
  | node .. => true
  | atom _ => false

def key? : Term → Option Nat
  | node key .. => some key
  | atom _ => none

def loc? : Term → Option Range
  | node _ _ loc _ => loc
  | atom _ => none

def children : Term → List Term
  | node _ _ _ children => children
  | atom _ => []

def childNodes (term : Term) : List Term :=
  term.children.filter isNode

def atoms (term : Term) : List Value :=
  term.children.filterMap fun child =>
    match child with
    | atom value => some value
    | node .. => none

/-- What a leaf holds: its first child, or nothing. -/
def payload (term : Term) : Term :=
  term.children.headD (atom .absent)

mutual

/-- A node and all nodes below it, each before its children. -/
def walk : Term → List Term
  | atom _ => []
  | node key tag loc children => node key tag loc children :: walkAll children
termination_by structural term => term

def walkAll : List Term → List Term
  | [] => []
  | child :: rest => walk child ++ walkAll rest
termination_by structural terms => terms

end

def at? (term : Term) : List Nat → Option Term
  | [] => some term
  | index :: path =>
    match term.children[index]? with
    | some child => child.at? path
    | none => none

end Term

def Mark.tag : Mark → String
  | capture => "capture"
  | negation => "negation"
  | ascend => "ascend"

def Bracket.tag : Bracket → String
  | sequence => "sequence"
  | union => "union"
  | intersection => "intersection"

def Leaf.kind : Leaf → TokenKind
  | rest => .rest
  | wildcard _ => .wildcard
  | nil => .nil
  | symbol _ => .symbol
  | int _ => .number
  | float _ => .number
  | string _ => .string
  | position _ => .param
  | named _ => .param
  | predicate _ => .predicate
  | nodeType _ => .nodeType

def Leaf.atoms : Leaf → List Value
  | rest => []
  | wildcard name => if name = "" then [] else [.str name]
  | nil => []
  | symbol name => [.str name]
  | int value => [.int value]
  | float value => [.float value]
  | string value => [.str value]
  | position index => [.int index]
  | named name => [.str name]
  | predicate name => [.str name]
  | nodeType name => [.str name]

namespace Pattern

mutual

/-- The term of a pattern. Nodes get the keys from `next` on, each before its children; the
answer includes the key after the last one. -/
def toTermFrom (next : Nat) : Pattern Leaf → Term × Nat
  | leaf loc value =>
    (.node next value.kind.name (some loc) (value.atoms.map .atom), next + 1)
  | marked loc mark inner =>
    let (inner, last) := toTermFrom (next + 1) inner
    (.node next mark.tag (some loc) [inner], last)
  | repeated loc inner quantity =>
    let (inner, last) := toTermFrom (next + 1) inner
    (.node next "repetition" (some loc)
      [inner, .atom (.str (String.singleton quantity.char))], last)
  | grouped loc bracket first others =>
    let (first, last) := toTermFrom (next + 1) first
    let (others, last) := toTermsFrom last others
    (.node next bracket.tag (some loc) (first :: others), last)
termination_by structural pattern => pattern

def toTermsFrom (next : Nat) : List (Pattern Leaf) → List Term × Nat
  | [] => ([], next)
  | pattern :: rest =>
    let (term, next) := toTermFrom next pattern
    let (terms, next) := toTermsFrom next rest
    (term :: terms, next)
termination_by structural patterns => patterns

end

/-- The term of a pattern, its nodes numbered in the order of `walk`. -/
def toTerm (pattern : Pattern Leaf) : Term :=
  (pattern.toTermFrom 0).1

end Pattern

namespace Term

def languageTags : List String :=
  "repetition" :: [Mark.capture, .negation, .ascend].map Mark.tag ++
    [Bracket.sequence, .union, .intersection].map Bracket.tag ++
    [TokenKind.rest, .symbol, .number, .string, .param, .wildcard, .nil, .predicate,
      .nodeType].map TokenKind.name

inductive EntryChild
  | atom (value : Value)
  | entry (index : Nat)

structure Entry where
  tag : String
  children : List EntryChild
  bounds : Option (Int × Int)

def EntryChild.resolve (made : Array Term) : EntryChild → Option Term
  | .atom value => some (.atom value)
  | .entry index => made[index]?

inductive EntryFault
  | invalidRange (fault : InvalidRange)
  /-- The tag is none of the pattern language, where only those are allowed. -/
  | foreignTag (tag : String)
  deriving DecidableEq, Repr

/-- Makes the node of an entry. Its key is its place in the list. A reference to an entry that
is not made yet stands for nothing. -/
def Entry.make (strict : Bool) (made : Array Term) (entry : Entry) :
    Except EntryFault (Array Term) := do
  if strict && !languageTags.contains entry.tag then throw (.foreignTag entry.tag)
  let loc ← match entry.bounds with
    | none => pure none
    | some (start, stop) => ((Range.ofBounds start stop).map some).mapError .invalidRange
  let children := entry.children.filterMap (EntryChild.resolve made)
  return made.push (.node made.size entry.tag loc children)

/-- The term of a list of entries, whose last entry is the root. Entries may share children. Tags
that are none of the pattern language are allowed unless the list is strict. -/
def ofEntries (strict : Bool) (entries : List Entry) : Except EntryFault Term := do
  let made ← entries.foldlM (Entry.make strict) #[]
  return made.back?.getD (atom .absent)

end Term

end TreeMatch
