import TreeMatch.Text.Charset
import TreeMatch.Text.Charset.CombiningTable
import TreeMatch.Text.Charset.CompositionTable
import TreeMatch.Text.Charset.VariantTable

/-! The compatible form of identifiers: variants of a character become that character, marks stand
in the order of their classes, and characters that can be composed are. Only code points that may
stand in an identifier are told about. -/

namespace TreeMatch.Text

/-- The class of a mark that combines with the character before it; zero for all others. -/
def combiningClass (code : Nat) : Nat :=
  if code < 128 then 0
  else ((combiningTable.find? fun (low, high, _) => low ≤ code && code ≤ high).map (·.2.2)).getD 0

/-- Syllables of Hangul stand for a leading consonant, a vowel, and one of 28 trailing ones. -/
def isSyllable (code : Nat) : Bool :=
  0xAC00 ≤ code && code < 0xAC00 + 19 * 21 * 28

def syllableParts (code : Nat) : List Nat :=
  let index := code - 0xAC00
  let trailing := index % 28
  [0x1100 + index / (21 * 28), 0x1161 + index / 28 % 21] ++
    if trailing = 0 then [] else [0x11A7 + trailing]

def partsWithin : Nat → Nat → List Nat
  | 0, code => [code]
  | depth + 1, code =>
    if isSyllable code then syllableParts code
    else
      match compositionTable.find? fun (_, _, whole) => whole == code with
      | some (first, second, _) => partsWithin depth first ++ [second]
      | none => [code]

/-- The parts of a code point. None is composed in more than four steps. -/
def partsOf (code : Nat) : List Nat :=
  partsWithin 4 code

def composed? (first second : Nat) : Option Nat :=
  if 0x1100 ≤ first ∧ first < 0x1100 + 19 ∧ 0x1161 ≤ second ∧ second < 0x1161 + 21 then
    some (0xAC00 + ((first - 0x1100) * 21 + (second - 0x1161)) * 28)
  else if isSyllable first ∧ (first - 0xAC00) % 28 = 0 ∧ 0x11A7 < second ∧ second < 0x11A7 + 28 then
    some (first + (second - 0x11A7))
  else
    (compositionTable.find? fun (a, b, _) => a == first && b == second).map (·.2.2)

/-- Puts a code point in front of others whose marks are in order, behind marks of lower classes. -/
def placeMark (code : Nat) : List Nat → List Nat
  | [] => [code]
  | next :: rest =>
    if 0 < combiningClass next ∧ combiningClass next < combiningClass code then
      next :: placeMark code rest
    else code :: next :: rest

/-- Composes a code point with those behind it, across the marks that stay apart from it. A mark of
the same or a higher class hides the ones behind it. -/
def composeFrom (start : Nat) (marks : List Nat) : List Nat → List Nat
  | [] => start :: marks
  | next :: rest =>
    let hidden := marks.getLast?.any fun last => combiningClass next ≤ combiningClass last
    match if hidden then none else composed? start next with
    | some whole => composeFrom whole marks rest
    | none =>
      if combiningClass next = 0 then start :: marks ++ composeFrom next [] rest
      else composeFrom start (marks ++ [next]) rest

/-- Parts code points, puts the marks in order, and composes what can be composed. -/
def canonical (codes : List Nat) : List Nat :=
  match (codes.flatMap partsOf).foldr placeMark [] with
  | [] => []
  | start :: rest => composeFrom start [] rest

def plainOf (code : Nat) : List Nat :=
  match variantRuns.find? fun (low, high, _) => low ≤ code && code ≤ high with
  | some (low, _, start) => [start + (code - low)]
  | none =>
    match variantBlocks.find? fun (first, plain) => first ≤ code && code < first + plain.length with
    | some (first, plain) => [plain.getD (code - first) code]
    | none => (ligatureTable.lookup code).getD [code]

def compatible (name : String) : String :=
  let codes := name.toList.map Char.toNat
  if codes.all (· < 128) then name
  else String.ofList ((canonical (codes.flatMap plainOf)).map Char.ofNat)

/-- The identifier is its own compatible form. -/
def isCompatible (name : String) : Bool :=
  compatible name == name

end TreeMatch.Text
