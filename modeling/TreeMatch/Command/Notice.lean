/-! Notices: what is told on the way, besides the output itself. -/

namespace TreeMatch

inductive Severity
  | debug
  | info
  | warning
  | error
  deriving DecidableEq, Repr

namespace Severity

def rank : Severity → Nat
  | debug => 0
  | info => 1
  | warning => 2
  | error => 3

def label : Severity → String
  | debug => "DEBUG"
  | info => "INFO "
  | warning => "WARNI"
  | error => "ERROR"

def threshold : Nat → Severity
  | 0 => warning
  | 1 => info
  | _ => debug

end Severity

structure Notice where
  severity : Severity
  topic : String
  text : String
  deriving DecidableEq, Repr

namespace Notice

def line (notice : Notice) : String :=
  "[" ++ notice.severity.label ++ "] " ++ notice.topic ++ ": " ++ notice.text ++ "\n"

def isTold (notice : Notice) (verbosity : Nat) : Bool :=
  (Severity.threshold verbosity).rank ≤ notice.severity.rank

end Notice

end TreeMatch
