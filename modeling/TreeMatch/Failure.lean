import TreeMatch.Compile.Session
import TreeMatch.Pattern.Reader
import TreeMatch.Program.Reader
import TreeMatch.Sexp.Reader
import TreeMatch.Test.Run

/-! Everything that can go wrong between a pattern text and the result of a match. -/

namespace TreeMatch

inductive ScriptFault
  | nullCharacter
  /-- A name that is no identifier, or a line that is no comment where one should be. -/
  | illFormed
  | badIndentation
  deriving DecidableEq, Repr

inductive CallFault
  | givenTwice
  /-- A parameter has another name in the script than the keyword it is given under. -/
  | unknownKeyword
  | notTrace
  deriving DecidableEq, Repr

inductive Failure
  | reported (diagnostic : Diagnostic)
  | invalidRange (fault : InvalidRange)
  | foreignTag (tag : String)
  | unknownForm (name : String)
  | noSource
  | unhandled (tag : String)
  | malformed (cause : MalformedTerm)
  | longInteger
  | badAtom (fault : AtomFault)
  | badEntries
  | script (fault : ScriptFault)
  | run (fault : RunFault)
  | call (fault : CallFault)
  deriving Repr

namespace Failure

/-- The message of a failure that is not reported at length, where it has one. -/
def message? : Failure → Option String
  | invalidRange fault => some fault.message
  | unknownForm name => some ("unknown source syntax: " ++ Text.quoted name)
  | noSource => some "analyzed tree carries no source text"
  | unhandled tag => some ("no handler for " ++ Text.quoted tag ++ " and no fallback")
  | _ => none

def ofPatternFault (text : List Char) (fault : PatternFault) : Failure :=
  match fault.diagnostic? text with
  | some diagnostic => reported diagnostic
  | none => longInteger

def ofSexpFault (text : String) (fault : Sexp.Fault) : Failure :=
  match fault with
  | .atom fault => badAtom fault
  | other =>
    match other.diagnostic? text with
    | some diagnostic => reported diagnostic
    | none => badEntries

def ofCompileFault (session : Session) : CompileFault → Failure
  | .rejected cause loc => reported (session.diagnostic cause loc)
  | .malformed cause => malformed cause
  | .unhandled tag => unhandled tag

def ofTermFault : Term.EntryFault → Failure
  | .invalidRange fault => invalidRange fault
  | .foreignTag tag => foreignTag tag

def ofEntryFault : Document.EntryFault → Failure
  | .invalidRange fault => invalidRange fault
  | .unknownEntry => badEntries
  | .empty => badEntries

end Failure

end TreeMatch
