import TreeMatch.Command.Arguments
import TreeMatch.Command.Notice
import TreeMatch.Painting.Display
import TreeMatch.Term.Printer
import TreeMatch.Text.Padding

/-! Running commands. -/

namespace TreeMatch

structure Surroundings where
  /-- The text that stands in for a source written as a single dash. -/
  input : String
  chart : Text.CodeChart
  parser : Program.Parser
  display : Display

structure Transcript where
  output : String
  notices : List Notice
  deriving DecidableEq, Repr

def Transcript.empty : Transcript :=
  ⟨"", []⟩

inductive Interruption
  | failure (failure : Failure)
  | noSource
  deriving Repr

/-- A step of a command. What is written before a failure stays written. -/
abbrev CommandM (α : Type) := ExceptT Interruption (StateM Transcript) α

namespace Command

def write (text : String) : CommandM Unit :=
  modify fun transcript => { transcript with output := transcript.output ++ text }

def tell (severity : Severity) (topic text : String) : CommandM Unit :=
  modify fun transcript =>
    { transcript with notices := transcript.notices ++ [⟨severity, topic, text⟩] }

def require (result : Except Failure α) : CommandM α :=
  match result with
  | .ok value => return value
  | .error failure => throw (.failure failure)

def tokenLine (token : Token) : String :=
  Text.padLeft 4 (toString token.start) ++ "  " ++ Text.padRight 10 token.kind.name ++ " " ++
    String.ofList token.text ++ "\n"

def runTokenize (pattern : String) : CommandM Nat := do
  let tokens ← require
    ((TreeMatch.tokenize pattern.toList).mapError (Failure.ofPatternFault pattern.toList))
  write (String.join (tokens.map tokenLine))
  return 0

def readPattern (surroundings : Surroundings) (pattern : String) : CommandM Term := do
  let term ← require ((PatternInput.text pattern).toTerm surroundings.chart)
  tell .debug "treepat.parser" ("parsed pattern " ++ Text.quoted pattern ++ " -> " ++ term.pretty)
  return term

def runParse (surroundings : Surroundings) (pattern : String) : CommandM Nat := do
  write ((← readPattern surroundings pattern).pretty ++ "\n")
  return 0

def nameList (names : List String) : String :=
  (Value.list (names.map .str)).exact

def compilePattern (surroundings : Surroundings) (pattern : String) (recording : Bool)
    (name : String) : CommandM Matcher := do
  for warning in Script.nameWarnings name do
    tell .warning "treepat.compiler" warning
  let term ← readPattern surroundings pattern
  let matcher ← require (Matcher.ofTerm .node pattern term recording name)
  tell .debug "treepat.compiler"
    ("compiled pattern " ++ Text.quoted matcher.label ++ " (debug=" ++
      (Value.bool recording).exact ++ "):\n" ++ matcher.script)
  tell .debug "treepat.compiler"
    ("matcher parameters: positional=" ++ nameList matcher.positional ++ " named=" ++
      nameList matcher.keywordParameters)
  require matcher.loaded

def runCompile (surroundings : Surroundings) (pattern : String) (recording : Bool)
    (name : String) : CommandM Nat := do
  let matcher ← compilePattern surroundings pattern recording name
  write matcher.script
  tell .info "treepat" ("parameters: " ++ ", ".intercalate matcher.parameters)
  return 0

def readTree (surroundings : Surroundings) (form : Form) (text : String) : CommandM Document := do
  let document ← require (Document.read surroundings.chart surroundings.parser form text)
  match form with
  | .program => tell .debug "treepat.builder" ("built analyzed tree " ++ document.root.pretty)
  | .sexp => return document
  return document

def rangeText : Option Range → String
  | some loc => "[" ++ toString loc.start ++ ", " ++ toString loc.stop ++ ")"
  | none => "[?]"

def statusLine (node : Node) (status : MatchStatus) : String :=
  Text.padRight 14 status.label ++ " " ++ Text.padRight 10 (rangeText node.loc) ++ " " ++
    node.pretty ++ "\n"

/-- The text of a tree as it is given, or the text that stands in for a single dash. -/
def sourceText (surroundings : Surroundings) (source : String) : String :=
  if source = "-" then surroundings.input else source

/-- Paints the tree with what a matcher does on it, and answers whether the matcher matched. -/
def runTest (surroundings : Surroundings) (pattern : String) (source : Option String)
    (form : Form) (listing : Bool) : CommandM Nat := do
  let matcher ← compilePattern surroundings pattern true "matcher"
  let document ← match source with
    | some source => readTree surroundings form (sourceText surroundings source)
    | none => do
      require ((matcher.checkArguments ⟨[], [(Matcher.traceName, .recorder)]⟩).mapError
        fun fault => .reported fault.diagnostic)
      throw .noSource
  let painting ← require (Painting.run matcher document document.root .none)
  tell .debug "treepat.visualizer"
    ("pattern " ++ Text.quoted pattern ++ " returned " ++ painting.returned.exact ++ " (" ++
      toString painting.trace.size ++ " trace entries)")
  write ((← require (painting.colorize surroundings.display.scheme)) ++ "\n")
  if listing then
    write (String.join (painting.matchMap.map fun (node, status) => statusLine node status))
  let display := surroundings.display
  write (display.code .bold ++ "returned:" ++ display.code .reset ++ " " ++
    painting.returned.exact ++ "\n")
  return match painting.returned with
    | .absent => 1
    | _ => 0

def perform (surroundings : Surroundings) : Command → CommandM Nat
  | tokenize pattern => runTokenize pattern
  | parse pattern => runParse surroundings pattern
  | compile pattern recording name => runCompile surroundings pattern recording name
  | test pattern source form listing => runTest surroundings pattern source form listing

end Command

inductive Conclusion
  | usage (usage : Usage)
  | idle
  | finished (status : Nat)
  | reported (diagnostic : Diagnostic)
  /-- A failure that nobody expects. -/
  | broken (interruption : Interruption)
  deriving Repr

namespace Conclusion

def status : Conclusion → Nat
  | usage .help => 0
  | usage .version => 0
  | finished status => status
  | _ => 2

end Conclusion

structure CommandResult where
  conclusion : Conclusion
  output : String
  messages : String
  deriving Repr

namespace Request

def told (verbosity : Nat) (notices : List Notice) : String :=
  String.join ((notices.filter (·.isTold verbosity)).map Notice.line)

def conclude : Except Interruption Nat → Conclusion
  | .ok status => .finished status
  | .error (.failure (.reported diagnostic)) => .reported diagnostic
  | .error interruption => .broken interruption

def lastWord : Conclusion → String
  | .reported diagnostic => diagnostic.report ++ "\n"
  | _ => ""

def run (surroundings : Surroundings) (request : Request) : CommandResult :=
  match request.command with
  | none => ⟨.idle, "", ""⟩
  | some command =>
    let (result, transcript) := (command.perform surroundings).run.run .empty
    let conclusion := conclude result
    { conclusion
      output := transcript.output
      messages := told request.verbosity transcript.notices ++ lastWord conclusion }

end Request

def runCommandLine (surroundings : Surroundings) (arguments : List String) : CommandResult :=
  match Arguments.readRequest arguments with
  | .ok request => request.run surroundings
  | .error usage => ⟨.usage usage, "", ""⟩

end TreeMatch
