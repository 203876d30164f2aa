import TreeMatch.Diagnostic
import TreeMatch.Grammar.Lexeme
import TreeMatch.Grammar.Rule
import TreeMatch.Number.Numeral
import TreeMatch.Pattern
import TreeMatch.Text.Literal
import TreeMatch.Text.Quoted

/-! Reading pattern texts: into tokens, and into patterns. The two share their lexical classes
but try them in different orders. -/

namespace TreeMatch

open TreeMatch.Grammar

def TokenKind.take (kind : TokenKind) (text : List Char) : Option Lexeme.Split :=
  match kind with
  | .rest => Lexeme.literal "...".toList text
  | .symbol => Lexeme.symbol text
  | .number => Lexeme.notBefore (fun c => Text.isWord c || c == '.') (Lexeme.number text)
  | .string => Lexeme.string text
  | .param =>
    match text with
    | '%' :: name =>
      match Lexeme.run Text.isDigit Text.isDigit name with
      | some split => Lexeme.cons '%' (some split)
      | none => Lexeme.cons '%' (Lexeme.run Lexeme.isWordStart Text.isWord name)
    | _ => none
  | .wildcard => Lexeme.run (· == '_') Text.isWord text
  | .nil => Lexeme.keyword "nil" text
  | .predicate => Lexeme.followedBy '?' (Lexeme.run Text.isAsciiLetter Text.isWord text)
  | .nodeType =>
    Lexeme.notBefore Lexeme.isWordOrQuery (Lexeme.run Text.isAsciiLower Text.isWord text)
  | .punct => Lexeme.single ("()[]\x7b\x7d$!^*+?".toList.contains ·) text

structure Token where
  kind : TokenKind
  text : List Char
  start : Nat
  deriving DecidableEq, Repr

namespace PatternText

def blanks : Rule Unit := do
  let _ ← Rule.lexeme (Lexeme.blanks '#')
  return ()

def token (kind : TokenKind) : Rule Token := Rule.named do
  let start ← Rule.offset
  let text ← Rule.lexeme kind.take
  return ⟨kind, text, start⟩

/-- The kinds in the order in which they are tried when a text is only cut into tokens. -/
def anyToken : Rule Token :=
  Rule.named (Rule.choice (token .rest)
    [token .symbol, token .number, token .string, token .param, token .wildcard, token .nil,
      token .predicate, token .nodeType, token .punct])

def tokens : Rule (List Token) := do
  blanks
  Rule.many do
    let token ← anyToken
    blanks
    return token

def leaf (kind : TokenKind) : Rule (Pattern Lexed) := do
  let token ← token kind
  return .leaf ⟨token.start, token.text.length⟩ ⟨kind, token.text⟩

def spanned (rule : Rule α) : Rule (Range × α) := do
  let start ← Rule.offset
  let value ← rule
  let stop ← Rule.offset
  return (Range.between start stop, value)

def marked (mark : Mark) (term : Rule (Pattern Lexed)) : Rule (Pattern Lexed) := Rule.named do
  let (loc, inner) ← spanned do
    Rule.char mark.char
    term
  return .marked loc mark inner

def grouped (bracket : Bracket) (term : Rule (Pattern Lexed)) : Rule (Pattern Lexed) :=
  Rule.named do
    let (loc, first, others) ← spanned do
      Rule.char bracket.left
      blanks
      let first ← term
      let others ← Rule.many do
        blanks
        term
      blanks
      Rule.char bracket.right
      return (first, others)
    return .grouped loc bracket first others

def literal : Rule (Pattern Lexed) :=
  Rule.named (Rule.choice (leaf .symbol) [leaf .number, leaf .string, leaf .nil])

def atom (term : Rule (Pattern Lexed)) : Rule (Pattern Lexed) :=
  Rule.named (Rule.choice (grouped .sequence term)
    [grouped .union term, grouped .intersection term, leaf .rest, leaf .wildcard, literal,
      leaf .param, leaf .predicate, leaf .nodeType])

def quantity (quantity : Quantity) : Rule Quantity := do
  Rule.char quantity.char
  return quantity

def anyQuantity : Rule Quantity :=
  Rule.named (Rule.choice (quantity .any) [quantity .atLeastOnce, quantity .atMostOnce])

def repeated (term : Rule (Pattern Lexed)) : Rule (Pattern Lexed) := Rule.named do
  let (loc, inner, times) ← spanned do
    let inner ← atom term
    let times ← Rule.optional anyQuantity
    return (inner, times)
  match times with
  | some times => return .repeated loc inner times
  | none => return inner

def termWithin : Nat → Cursor → Outcome (Pattern Lexed)
  | 0, cursor => ⟨[⟨cursor.offset, true⟩], none⟩
  | depth + 1, cursor =>
    Rule.run (Rule.named (Rule.choice (marked .capture (termWithin depth))
      [marked .negation (termWithin depth), marked .ascend (termWithin depth),
        repeated (termWithin depth)])) cursor

/-- A term. No text nests deeper than it is long. -/
def term : Rule (Pattern Lexed) := fun cursor =>
  termWithin (cursor.rest.length + 1) cursor

def pattern : Rule (Pattern Lexed) := do
  blanks
  let pattern ← term
  blanks
  return pattern

end PatternText

inductive LeafFault
  | badString (loc : Range) (text : List Char) (fault : Text.LiteralFault)
  | longInteger
  deriving DecidableEq, Repr

def maxIntegerDigits : Nat := 4300

def Leaf.decodeNumber (text : List Char) : Except LeafFault Leaf :=
  if text.contains '.' then .ok (.float (Number.floatOfNumeral text))
  else if maxIntegerDigits < (text.filter Text.isDigit).length then .error .longInteger
  else .ok (.int (Number.intOfNumeral text))

def Leaf.decodeString (chart : Text.CodeChart) (loc : Range) (text : List Char) :
    Except LeafFault Leaf :=
  match Text.decodeLiteral chart (text.drop 1).dropLast with
  | .ok value => .ok (.string value)
  | .error fault => .error (.badString loc text fault)

def Leaf.decodeParam (name : List Char) : Except LeafFault Leaf :=
  if name.all Text.isDigit then
    if maxIntegerDigits < name.length then .error .longInteger
    else .ok (.position (Number.digitsValue 0 name))
  else .ok (.named (String.ofList name))

def Leaf.decode (chart : Text.CodeChart) (loc : Range) (lexed : Lexed) : Except LeafFault Leaf :=
  match lexed.kind with
  | .rest => .ok .rest
  | .wildcard => .ok (.wildcard (String.ofList (lexed.text.drop 1)))
  | .nil => .ok .nil
  | .symbol => .ok (.symbol (String.ofList (lexed.text.drop 1)))
  | .number => decodeNumber lexed.text
  | .string => decodeString chart loc lexed.text
  | .param => decodeParam (lexed.text.drop 1)
  | .predicate => .ok (.predicate (String.ofList lexed.text))
  | .nodeType | .punct => .ok (.nodeType (String.ofList lexed.text))

inductive PatternFault
  | unreadable (fault : ReadFault)
  | leaf (fault : LeafFault)
  deriving DecidableEq, Repr

def tokenize (text : List Char) : Except PatternFault (List Token) :=
  (PatternText.tokens.readAll text).mapError .unreadable

def Pattern.read (chart : Text.CodeChart) (text : List Char) :
    Except PatternFault (Pattern Leaf) := do
  let lexed ← (PatternText.pattern.readAll text).mapError .unreadable
  (lexed.decodeLeaves (Leaf.decode chart)).mapError .leaf

def unexpectedMessage (text : List Char) (offset : Nat) : String :=
  match text[offset]? with
  | some c => "unexpected " ++ Text.quoted (String.singleton c)
  | none => "unexpected end of pattern"

def literalFaultMessage : Text.LiteralFault → String
  | .rawControl => "unterminated string literal"
  | .nullCharacter => "source code string cannot contain null bytes"
  | .badEscape => "malformed escape"
  | .unknownName => "unknown character name"

/-- The report of a fault in a pattern text. An integer that is too long gives none. -/
def PatternFault.diagnostic? (text : List Char) : PatternFault → Option Diagnostic
  | unreadable fault =>
    let code : ErrorCode :=
      match fault with
      | .unexpected _ => .unexpectedInput
      | .trailing _ => .trailingInput
    some (Diagnostic.make (.patternText []) (unexpectedMessage text fault.offset) (some code)
      (some (Span.ofOffsets text fault.offset none "")) (String.ofList text) "")
  | leaf (.badString loc literal fault) =>
    some (Diagnostic.make (.patternText [])
      ("invalid string literal " ++ String.ofList literal ++ ": " ++ literalFaultMessage fault)
      (some .invalidLiteral) (some (Span.ofRange text loc)) (String.ofList text) "")
  | leaf .longInteger => none

end TreeMatch
