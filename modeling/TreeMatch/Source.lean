import TreeMatch.Failure
import TreeMatch.Program.Builder
import TreeMatch.Sexp.Builder

/-! The ways to write the text of a tree. -/

namespace TreeMatch

inductive Form
  | sexp
  | program
  deriving DecidableEq, Repr

def Form.ofName (name : String) : Except Failure Form :=
  match name with
  | "sexp" => .ok .sexp
  | "python" => .ok .program
  | other => .error (.unknownForm other)

/-- What the parser of the program form makes of a text. -/
abbrev Program.Parser := String → Except Program.Rejection Construct

def Document.read (chart : Text.CodeChart) (parser : Program.Parser) (form : Form) (text : String) :
    Except Failure Document :=
  match form with
  | .sexp => (Sexp.readDocument chart text).mapError (Failure.ofSexpFault text)
  | .program => (Program.readDocument text (parser text)).mapError .reported

def Document.build (chart : Text.CodeChart) (parser : Program.Parser) (form : Form)
    (text : String) : Except Failure Document :=
  match form with
  | .sexp => (Sexp.build chart text).mapError (Failure.ofSexpFault text)
  | .program =>
    match parser text with
    | .ok program => .ok (Program.build text program)
    | .error rejection => .error (.reported (rejection.diagnostic text))

end TreeMatch
