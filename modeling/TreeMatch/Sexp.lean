import TreeMatch.Range
import TreeMatch.Text.Literal
import TreeMatch.Value

/-! S-expressions as written: lists with a head, and atoms by kind. -/

namespace TreeMatch

inductive AtomKind
  | nil
  | true
  | false
  | symbol
  | float
  | integer
  | string
  deriving DecidableEq, Repr

inductive Sexp
  | atom (kind : AtomKind) (text : List Char)
  | list (loc : Range) (head : List Char) (items : List Sexp)
  deriving Repr

inductive AtomFault
  | badString (fault : Text.LiteralFault)
  | longInteger
  deriving DecidableEq, Repr

end TreeMatch
