import TreeMatch.Source

/-! What can be asked for on a command line. -/

namespace TreeMatch

inductive Command
  | tokenize (pattern : String)
  | parse (pattern : String)
  | compile (pattern : String) (recording : Bool) (name : String)
  | test (pattern : String) (source : Option String) (form : Form) (listing : Bool)
  deriving DecidableEq, Repr

structure Request where
  verbosity : Nat
  command : Option Command
  deriving DecidableEq, Repr

inductive Usage
  | help
  | version
  | misuse
  deriving DecidableEq, Repr

end TreeMatch
