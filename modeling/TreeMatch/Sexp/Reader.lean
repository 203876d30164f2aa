import TreeMatch.Diagnostic
import TreeMatch.Document
import TreeMatch.Grammar.Lexeme
import TreeMatch.Grammar.Rule
import TreeMatch.Number.Numeral
import TreeMatch.Sexp
import TreeMatch.Text.Literal

/-! Reading s-expressions into documents. -/

namespace TreeMatch

open TreeMatch.Grammar

def AtomKind.take (kind : AtomKind) (text : List Char) : Option Lexeme.Split :=
  match kind with
  | .nil => Lexeme.keyword "nil" text
  | .true => Lexeme.keyword "true" text
  | .false => Lexeme.keyword "false" text
  | .symbol => Lexeme.symbol text
  | .float => Lexeme.decimal text
  | .integer => Lexeme.integer text
  | .string => Lexeme.string text

namespace SexpText

def blanks : Rule Unit := do
  let _ ← Rule.lexeme (Lexeme.blanks ';')
  return ()

def head : Rule (List Char) :=
  Rule.named (Rule.lexeme
    (Lexeme.run Lexeme.isWordStart fun c => Text.isWord c || c == '-'))

def atom (kind : AtomKind) : Rule Sexp := Rule.named do
  let text ← Rule.lexeme kind.take
  return .atom kind text

def anyAtom : Rule Sexp :=
  Rule.named (Rule.choice (atom .nil)
    [atom .true, atom .false, atom .symbol, atom .float, atom .integer, atom .string])

def list (expr : Rule Sexp) : Rule Sexp := Rule.named do
  let start ← Rule.offset
  Rule.char '('
  blanks
  let head ← head
  let items ← Rule.many do
    blanks
    expr
  blanks
  Rule.char ')'
  let stop ← Rule.offset
  return .list (Range.between start stop) head items

def exprWithin : Nat → Cursor → Outcome Sexp
  | 0, cursor => ⟨[⟨cursor.offset, true⟩], none⟩
  | depth + 1, cursor =>
    Rule.run (Rule.named (Rule.choice (list (exprWithin depth)) [anyAtom])) cursor

/-- An expression. No text nests deeper than it is long. -/
def expr : Rule Sexp := fun cursor =>
  exprWithin (cursor.rest.length + 1) cursor

def document : Rule Sexp := do
  blanks
  let expr ← expr
  blanks
  return expr

end SexpText

def AtomKind.maxDigits : Nat := 4300

def AtomKind.decodeInteger (text : List Char) : Except AtomFault Value :=
  if maxDigits < (text.filter Text.isDigit).length then .error .longInteger
  else .ok (.int (Number.intOfNumeral text))

def AtomKind.decode (chart : Text.CodeChart) (kind : AtomKind) (text : List Char) :
    Except AtomFault Value :=
  match kind with
  | .nil => .ok .absent
  | .true => .ok (.bool Bool.true)
  | .false => .ok (.bool Bool.false)
  | .symbol => .ok (.sym (String.ofList (text.drop 1)))
  | .float => .ok (.float (Number.floatOfNumeral text))
  | .integer => decodeInteger text
  | .string =>
    match Text.decodeLiteral chart (text.drop 1).dropLast with
    | .ok value => .ok (.str value)
    | .error fault => .error (.badString fault)

namespace Sexp

mutual

/-- The tree that an expression denotes. Its nodes are not numbered yet. -/
def toValue (chart : Text.CodeChart) : Sexp → Except AtomFault Value
  | atom kind text => kind.decode chart text
  | list loc head items => do
    return .node 0 (String.ofList head) (some loc) (← toValues chart items)
termination_by structural sexp => sexp

def toValues (chart : Text.CodeChart) : List Sexp → Except AtomFault (List Value)
  | [] => .ok []
  | item :: rest => do
    let value ← toValue chart item
    let values ← toValues chart rest
    return value :: values
termination_by structural sexps => sexps

end

inductive Fault
  | unreadable (fault : ReadFault)
  | atom (fault : AtomFault)
  | notList
  deriving DecidableEq, Repr

def readDocument (chart : Text.CodeChart) (text : String) : Except Fault Document := do
  let sexp ← (SexpText.document.readAll text.toList).mapError .unreadable
  let value ← (sexp.toValue chart).mapError .atom
  match value.node? with
  | some root => return Document.ofNode root text
  | none => throw .notList

def Fault.diagnostic? (text : String) : Fault → Option Diagnostic
  | unreadable fault =>
    some (Diagnostic.make .sourceText "cannot parse S-expression" none
      (some (Span.ofOffsets text.toList fault.offset none "")) text "")
  | atom _ => none
  | notList => some (Diagnostic.make .sourceText "S-expression must be a list" none none text "")

end Sexp

end TreeMatch
