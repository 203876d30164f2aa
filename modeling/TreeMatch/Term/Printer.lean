import TreeMatch.Term
import TreeMatch.Value.Printer

/-! The written forms of a term. -/

namespace TreeMatch.Term

mutual

def pretty : Term → String
  | atom value => value.pretty
  | node _ tag _ children => Value.nodeText tag (prettyAll children)
termination_by structural term => term

def prettyAll : List Term → List String
  | [] => []
  | child :: rest => pretty child :: prettyAll rest
termination_by structural terms => terms

end

def exactRange : Option Range → String
  | none => "None"
  | some loc =>
    "SourceRange(begin=" ++ toString loc.start ++ ", end=" ++ toString loc.stop ++ ")"

mutual

def exact : Term → String
  | atom value => value.exact
  | node _ tag loc children =>
    "PatternNode(type=" ++ Text.quoted tag ++ ", children=" ++
      Value.tupleText (exactAll children) ++ ", loc=" ++ exactRange loc ++ ")"
termination_by structural term => term

def exactAll : List Term → List String
  | [] => []
  | child :: rest => exact child :: exactAll rest
termination_by structural terms => terms

end

def plain : Term → String
  | atom value => value.plain
  | term => term.pretty

end TreeMatch.Term
