import TreeMatch.Matcher

/-! Paintings: how far a pattern got with each node of a tree, and with each character of the
text the tree was read from. -/

namespace TreeMatch

inductive MatchStatus
  /-- No part of the pattern can reach it. -/
  | notVisitable
  | notVisited
  | failed
  | matched
  deriving DecidableEq, Repr

namespace MatchStatus

def ofOutcome : Option Bool → MatchStatus
  | none => notVisited
  | some true => matched
  | some false => failed

def label : MatchStatus → String
  | notVisitable => "not_visitable"
  | notVisited => "not_visited"
  | failed => "failed"
  | matched => "matched"

end MatchStatus

structure ColorScheme where
  notVisitable : String
  notVisited : String
  failed : String
  matched : String
  reset : String
  deriving DecidableEq, Repr

namespace ColorScheme

def escape (number : String) : String :=
  "\x1b[" ++ number ++ "m"

def standard : ColorScheme :=
  ⟨escape "36", escape "33", escape "31", escape "32", escape "0"⟩

def plain : ColorScheme :=
  ⟨"", "", "", "", ""⟩

def code (scheme : ColorScheme) : MatchStatus → String
  | .notVisitable => scheme.notVisitable
  | .notVisited => scheme.notVisited
  | .failed => scheme.failed
  | .matched => scheme.matched

end ColorScheme

/-- One run of a matcher against a node, with the trace it left. -/
structure Painting where
  matcher : Matcher
  document : Document
  root : Node
  trace : Trace
  returned : Value

namespace Painting

def follow (document : Document) (value : Value) : Step → Value
  | .parent =>
    match value.node? with
    | some node => ((document.parent? node.id).map Node.toValue).getD .absent
    | none => .absent
  | .child index =>
    match value.node? with
    | some node => (childAt? node.children index).getD .absent
    | none => .absent

def resolve (painting : Painting) (path : List Step) : Option Node :=
  (path.foldl (follow painting.document) painting.root.toValue).node?

def staticId (painting : Painting) (node : Node) : Option Nat :=
  (painting.matcher.positions.filterMap fun (id, path) =>
    match painting.resolve path with
    | some found => if found.id = node.id then some id else none
    | none => none).min?

/-- The outermost part of the pattern that has to do with a node: it was tested on it, or its
path leads there. -/
def patternId (painting : Painting) (node : Node) : Option Nat :=
  (painting.trace.examinedBy node.id ++ (painting.staticId node).toList).min?

def status (painting : Painting) (node : Node) : MatchStatus :=
  match painting.patternId node with
  | none => .notVisitable
  | some id => .ofOutcome (painting.trace.outcome id node.id)

def matchMap (painting : Painting) : List (Node × MatchStatus) :=
  painting.root.distinctNodes.map fun node => (node, painting.status node)

def source (painting : Painting) : Except Failure (List Char) :=
  match painting.document.sourceOf painting.root with
  | some text => .ok text.toList
  | none => .error .noSource

/-- Gives the characters of a node its status. Offsets behind the text are none of them. -/
def paint (colors : Array MatchStatus) (entry : Node × MatchStatus) : Array MatchStatus :=
  match entry.1.loc with
  | some loc => loc.offsets.foldl (fun colors offset => colors.setIfInBounds offset entry.2) colors
  | none => colors

/-- The status of each character. A node paints over the nodes before it. -/
def colorMap (painting : Painting) : Except Failure (List (Char × MatchStatus)) := do
  let text ← painting.source
  let blank := Array.replicate text.length MatchStatus.notVisitable
  return text.zip (painting.matchMap.foldl paint blank).toList

/-- Colors characters: a code where the status changes, and a reset where it ends. -/
def colorRuns (scheme : ColorScheme) : Option MatchStatus → List (Char × MatchStatus) → String
  | none, [] => ""
  | some _, [] => scheme.reset
  | current, (c, status) :: rest =>
    let change :=
      match current with
      | none => scheme.code status
      | some old => if old = status then "" else scheme.reset ++ scheme.code status
    change ++ String.singleton c ++ colorRuns scheme (some status) rest

def colorize (painting : Painting) (scheme : ColorScheme) : Except Failure String := do
  return colorRuns scheme none (← painting.colorMap)

def runNames : List String :=
  ["self", "source", Matcher.traceName]

def run (matcher : Matcher) (document : Document) (root : Node) (arguments : Matcher.Arguments) :
    Except Failure Painting := do
  if arguments.keywords.any fun keyword => runNames.contains keyword.1 then
    throw (.call .givenTwice)
  let keywords := arguments.keywords.filter fun keyword => keyword.1 != "syntax"
  let result := matcher.call document root.toValue
    { arguments with keywords := (Matcher.traceName, .recorder) :: keywords }
  return ⟨matcher, document, root, Trace.empty.replay result.log, ← result.returned⟩

/-- A run whose matcher's function may know its parameters under other names. -/
def serve (matcher : Matcher) (document : Document) (root : Node) (arguments : Matcher.Arguments) :
    Except Failure Painting :=
  let painting := run matcher document root arguments
  if Matcher.isRefused painting || matcher.isServable then painting
  else .error (.call .unknownKeyword)

end Painting

end TreeMatch
