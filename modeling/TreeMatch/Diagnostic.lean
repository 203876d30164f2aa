import TreeMatch.Span
import TreeMatch.Text.Lines
import TreeMatch.Text.Quoted

/-! Diagnostics: what is reported to the author of a pattern or a tree, with a code, a place, an
excerpt and perhaps a hint. -/

namespace TreeMatch

inductive Phase
  | parse
  | compile
  | matching
  deriving DecidableEq, Repr

namespace Phase

def label : Phase → String
  | parse => "parse"
  | compile => "compile"
  | matching => "match"

def constantName : Phase → String
  | parse => "PARSE"
  | compile => "COMPILE"
  | matching => "MATCH"

end Phase

structure ErrorCode where
  family : String
  number : Int
  phase : Phase
  summary : String
  deriving DecidableEq, Repr

namespace ErrorCode

/-- At least four places, a minus sign included, filled with zeros. -/
def padded (number : Int) : String :=
  let digits := Nat.toDigits 10 number.natAbs
  let width := if number < 0 then 3 else 4
  let filled := List.replicate (width - digits.length) '0' ++ digits
  String.ofList (if number < 0 then '-' :: filled else filled)

def text (code : ErrorCode) : String :=
  code.family ++ "-" ++ padded code.number

def exact (code : ErrorCode) : String :=
  "ErrorCode(" ++ Text.quoted code.text ++ ", " ++ code.phase.constantName ++ ")"

/-- Codes are the same if their texts would be: phase and summary do not count. -/
def same (a b : ErrorCode) : Bool :=
  a.family == b.family && a.number == b.number

def unexpectedInput : ErrorCode := ⟨"TPAT", 1001, .parse, "unexpected input"⟩
def trailingInput : ErrorCode := ⟨"TPAT", 1002, .parse, "trailing input"⟩
def invalidLiteral : ErrorCode := ⟨"TPAT", 1003, .parse, "invalid literal"⟩
def invalidSource : ErrorCode := ⟨"TPAT", 1004, .parse, "analyzed source does not parse"⟩
def unsupportedNode : ErrorCode := ⟨"TPAT", 2001, .compile, "unsupported pattern node"⟩
def multipleVariadic : ErrorCode := ⟨"TPAT", 2002, .compile, "more than one variadic term"⟩
def captureInRepetition : ErrorCode := ⟨"TPAT", 2003, .compile, "capture inside repetition"⟩
def unbalancedCaptures : ErrorCode := ⟨"TPAT", 2004, .compile, "unbalanced union captures"⟩
def unknownPredicate : ErrorCode := ⟨"TPAT", 2005, .compile, "unknown predicate"⟩
def variadicOutsideSequence : ErrorCode :=
  ⟨"TPAT", 2006, .compile, "variadic term outside a sequence"⟩
def reservedParameter : ErrorCode := ⟨"TPAT", 2007, .compile, "reserved parameter name"⟩
def missingParameter : ErrorCode := ⟨"TPAT", 5001, .matching, "missing matcher parameter"⟩
def unexpectedParameter : ErrorCode := ⟨"TPAT", 5002, .matching, "unexpected matcher parameter"⟩

def all : List ErrorCode :=
  [unexpectedInput, trailingInput, invalidLiteral, invalidSource, unsupportedNode,
    multipleVariadic, captureInRepetition, unbalancedCaptures, unknownPredicate,
    variadicOutsideSequence, reservedParameter, missingParameter, unexpectedParameter]

/-- The code in use with a number, or one made up for it. -/
def ofNumber (number : Int) : ErrorCode :=
  (all.find? (·.number == number)).getD ⟨"TPAT", number, .matching, "custom"⟩

end ErrorCode

inductive Subject
  | general
  /-- The text of a pattern, with the constructs that could have stood there. -/
  | patternText (expected : List String)
  | sourceText
  | pattern
  | unsupported (tag : String)
  | arguments (parameters : List String)
  deriving DecidableEq, Repr

def Subject.defaultCode : Subject → ErrorCode
  | general => .unexpectedInput
  | patternText _ => .unexpectedInput
  | sourceText => .invalidSource
  | pattern => .unsupportedNode
  | unsupported _ => .unsupportedNode
  | arguments _ => .missingParameter

structure Diagnostic where
  subject : Subject
  code : ErrorCode
  message : String
  span : Span
  hint : String
  excerpt : String
  deriving DecidableEq, Repr

namespace Diagnostic

def excerptOf (source : String) (line : Int) : String :=
  if source ≠ "" ∧ 0 < line then
    match (Text.boundedLines source.toList)[line.toNat - 1]? with
    | some chars => String.ofList chars
    | none => ""
  else ""

/-- What the hint says when only the constructs expected are known: at most three are named. -/
def expectedHint : List String → String
  | [] => ""
  | [only] => "Expected " ++ only
  | several => "Expected one of: " ++ ", ".intercalate (several.take 3)

def hintFor (subject : Subject) (hint : String) : String :=
  match subject with
  | .patternText expected => if hint = "" then expectedHint expected else hint
  | _ => hint

def make (subject : Subject) (message : String) (code : Option ErrorCode) (span : Option Span)
    (source hint : String) : Diagnostic where
  subject := subject
  code := code.getD subject.defaultCode
  message := message
  span := span.getD .unknown
  hint := hintFor subject hint
  excerpt := excerptOf source (span.getD .unknown).line

def unsupportedMessage (tag : String) : String :=
  "unsupported pattern construct '" ++ tag ++ "'"

def withHint (d : Diagnostic) (hint : String) : Diagnostic :=
  { d with hint := hint }

/-- As many carets as the span has columns in its line, and at least one. -/
def caretCount (span : Span) : Nat :=
  if span.endLine = span.line then max 1 (span.endColumn - span.column).toNat else 1

def caretLine (span : Span) : String :=
  String.ofList (List.replicate 4 ' ' ++ List.replicate (span.column - 1).toNat ' ' ++
    List.replicate (caretCount span) '^')

def report (d : Diagnostic) : String :=
  let first := d.span.text ++ ": error: " ++ d.message ++ " [" ++ d.code.text ++ "]"
  let carets := if 0 < d.span.column then [caretLine d.span] else []
  let excerpt := if d.excerpt = "" then [] else ("    " ++ d.excerpt) :: carets
  let hint := if d.hint = "" then [] else ["hint: " ++ d.hint]
  "\n".intercalate (first :: excerpt ++ hint)

end Diagnostic

end TreeMatch
