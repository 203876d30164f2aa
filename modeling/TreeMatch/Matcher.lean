import TreeMatch.Compile
import TreeMatch.Failure
import TreeMatch.Script.Writer
import TreeMatch.Test.Severed
import TreeMatch.Text.Compatible
import TreeMatch.Trace

/-! Matchers: compiled patterns, ready to be called on a node with arguments. -/

namespace TreeMatch

inductive PatternInput
  | text (text : String)
  | term (term : Term)

namespace PatternInput

/-- The text of the pattern; nothing if it was made by hand. -/
def sourceText : PatternInput → String
  | .text source => source
  | .term _ => ""

def toTerm (chart : Text.CodeChart) : PatternInput → Except Failure Term
  | .text source =>
    match Pattern.read chart source.toList with
    | .ok pattern => .ok pattern.toTerm
    | .error fault => .error (Failure.ofPatternFault source.toList fault)
  | .term made => .ok made

end PatternInput

structure Matcher where
  /-- The text of the pattern; nothing if it was made by hand. -/
  text : String
  term : Term
  test : Test
  slots : Nat
  positional : List String
  named : List String
  recording : Bool
  ids : NodeIds
  positions : List (Nat × List Step)
  functionName : String
  deriving Repr

namespace Matcher

def traceName : String := "trace"

def instrumented (matcher : Matcher) : List String :=
  if matcher.recording then [traceName] else []

def keywordParameters (matcher : Matcher) : List String :=
  matcher.named ++ matcher.instrumented

def parameters (matcher : Matcher) : List String :=
  rootName :: matcher.positional ++ matcher.keywordParameters

/-- The text of the pattern, or its written form if it was made by hand. -/
def label (matcher : Matcher) : String :=
  if matcher.text = "" then matcher.term.pretty else matcher.text

def signature (matcher : Matcher) : String :=
  let keywords := matcher.keywordParameters
  ", ".intercalate
    (rootName :: matcher.positional ++ if keywords.isEmpty then [] else "*" :: keywords)

/-- The script of the matcher: a function of the root argument and the parameters. -/
def script (matcher : Matcher) : String :=
  let writer := (Script.Writer.start "    ").openBlock
    ("def " ++ matcher.functionName ++ "(" ++ matcher.signature ++ "):")
  let writer := writer.docstring "Generated node-pattern matcher."
  let writer := writer.comment ("pattern: " ++ matcher.label)
  let writer := writer.line ("captures = [None] * " ++ toString matcher.slots)
  let writer := writer.openBlock ("if not " ++ matcher.test.text ++ ":")
  let writer := (writer.line "return None").dedent
  (writer.line "return _result(captures)").dedent.written

def splitReturns : List Char → List (List Char)
  | [] => [[]]
  | c :: rest =>
    if c = '\r' then [] :: splitReturns rest
    else
      match splitReturns rest with
      | [] => [[c]]
      | part :: parts => (c :: part) :: parts

/-- The width of the blanks in front of a line, reckoned from `width` on. -/
def indentWidth (width : Nat) : List Char → Nat
  | ' ' :: rest => indentWidth (width + 1) rest
  | '\t' :: rest => indentWidth ((width / 8 + 1) * 8) rest
  | '\x0c' :: rest => indentWidth 0 rest
  | _ => width

/-- What stands behind a carriage return is read as a line of its own, which has to be blank or a
comment. A line at neither of the two levels of the script goes wrong by its indentation
already. -/
def lineFault? (line : List Char) : Option ScriptFault :=
  match line.dropWhile fun c => c == ' ' || c == '\t' || c == '\x0c' with
  | [] => none
  | '#' :: _ => none
  | _ => if [0, 4].contains (indentWidth 0 line) then some .illFormed else some .badIndentation

def labelFault? (label : String) : Option ScriptFault :=
  let lines := (Text.splitLineFeeds label.toList).flatMap fun line => (splitReturns line).tail
  lines.findSome? lineFault?

/-- Why names cannot stand side by side as parameters: in a script they are read in their compatible
forms, and no two of those may be the same. -/
def parameterFault? (names : List String) : Option ScriptFault :=
  if (names.map Text.compatible).Nodup then none else some .illFormed

/-- Why the script cannot be loaded, if it cannot. Its lines are read before its parameters are
looked at. No keyword gets in the way of a positional parameter, which has an underscore in
front. -/
def scriptFault? (matcher : Matcher) : Option ScriptFault :=
  if matcher.label.toList.contains '\x00' then some .nullCharacter
  else if matcher.named.all Text.isIdentifier then
    (labelFault? matcher.label).or (parameterFault? (rootName :: matcher.keywordParameters))
  else some .illFormed

def exact (matcher : Matcher) : String :=
  "CompiledMatcher(" ++ Text.quoted matcher.label ++ ", parameters=" ++
    Value.tupleText (matcher.parameters.map Text.quoted) ++ ")"

def ofSession (text : String) (term : Term) (functionName : String) (test : Test)
    (session : Session) : Matcher where
  text := text
  term := term
  test := test
  slots := session.captures
  positional := session.positionalNames
  named := session.named
  recording := session.recording
  ids := session.ids
  positions := session.positions
  functionName := functionName

/-- Compiles the term of a pattern. The name is the one wanted for the function of the script. -/
def ofTerm (handlers : Handlers) (text : String) (term : Term) (recording : Bool)
    (name : String) : Except Failure Matcher :=
  match TreeMatch.Compile.compile handlers .root term (Session.start text recording) with
  | (.ok test, session) => .ok (ofSession text term (Script.functionName name) test session)
  | (.error fault, session) => .error (Failure.ofCompileFault session fault)

def loaded (matcher : Matcher) : Except Failure Matcher :=
  match matcher.scriptFault? with
  | some fault => .error (.script fault)
  | none => .ok matcher

def compile (chart : Text.CodeChart) (handlers : Handlers) (input : PatternInput)
    (recording : Bool) (name : String) : Except Failure Matcher := do
  (← ofTerm handlers input.sourceText (← input.toTerm chart) recording name).loaded

inductive Keyword
  | argument (argument : Argument)
  | recorder

structure Arguments where
  positional : List Argument
  keywords : List (String × Keyword)

def Arguments.none : Arguments :=
  ⟨[], []⟩

/-- Nothing is given for the trace: the keyword is missing, or stands for an absent value. -/
def isUnset : Option Keyword → Bool
  | .none => true
  | some (.argument (.value .absent)) => true
  | _ => false

inductive ArgumentFault
  | missingPositional (names : List String)
  | tooManyPositional (expected given : Nat)
  | missingKeywords (names : List String)
  | unexpectedKeywords (names : List String)
  deriving DecidableEq, Repr

namespace ArgumentFault

def message : ArgumentFault → String
  | missingPositional names =>
    "missing positional matcher parameter(s): " ++ ", ".intercalate names
  | tooManyPositional expected given =>
    "matcher takes " ++ toString expected ++ " positional parameter(s) after the node, got " ++
      toString given
  | missingKeywords names => "missing matcher parameter(s): " ++ ", ".intercalate names
  | unexpectedKeywords names => "unexpected matcher parameter(s): " ++ ", ".intercalate names

def parameters : ArgumentFault → List String
  | missingPositional names => names
  | tooManyPositional .. => []
  | missingKeywords names => names
  | unexpectedKeywords names => names

def code : ArgumentFault → ErrorCode
  | missingPositional _ => .missingParameter
  | tooManyPositional .. => .unexpectedParameter
  | missingKeywords _ => .missingParameter
  | unexpectedKeywords _ => .unexpectedParameter

def diagnostic (fault : ArgumentFault) : Diagnostic :=
  Diagnostic.make (.arguments fault.parameters) fault.message (some fault.code) none "" ""

end ArgumentFault

def missingKeywordsOf (matcher : Matcher) (keywords : List (String × Keyword)) : List String :=
  matcher.named.filter (fun name => (keywords.lookup name).isNone) ++
    matcher.instrumented.filter fun name => isUnset (keywords.lookup name)

def unexpectedKeywordsOf (matcher : Matcher) (keywords : List (String × Keyword)) : List String :=
  ((keywords.map Prod.fst).filter fun name => !matcher.keywordParameters.contains name).mergeSort
    fun a b => decide (a ≤ b)

def checkArguments (matcher : Matcher) (arguments : Arguments) : Except ArgumentFault Unit :=
  let expected := matcher.positional.length
  let given := arguments.positional.length
  if given < expected then .error (.missingPositional (matcher.positional.drop given))
  else if expected < given then .error (.tooManyPositional expected given)
  else
    match missingKeywordsOf matcher arguments.keywords,
      unexpectedKeywordsOf matcher arguments.keywords with
    | [], [] => .ok ()
    | [], unexpected => .error (.unexpectedKeywords unexpected)
    | missing, _ => .error (.missingKeywords missing)

def Keyword.toArgument? : Keyword → Option Argument
  | .argument given => some given
  | .recorder => none

def bind (matcher : Matcher) (arguments : Arguments) : List (String × Argument) :=
  matcher.positional.zip arguments.positional ++
    arguments.keywords.filterMap fun (name, keyword) => keyword.toArgument?.map (name, ·)

/-- What a match returns: nothing to capture gives a plain yes, one capture gives its value, and
several give a tuple. -/
def resultOf : List Value → Value
  | [] => .bool true
  | [single] => single
  | several => .tuple several

/-- What a call gives: the value returned or the failure, and the marks left for the trace. -/
structure CallResult where
  returned : Except Failure Value
  log : List Event

def execute (matcher : Matcher) (document : Document) (subject : Value)
    (arguments : List (String × Argument)) : CallResult :=
  let env : Environment := ⟨document, subject, arguments, []⟩
  match matcher.test.run env ⟨List.replicate matcher.slots .absent, []⟩ with
  | (.ok true, state) => ⟨.ok (resultOf state.slots), state.log⟩
  | (.ok false, state) => ⟨.ok .absent, state.log⟩
  | (.error fault, state) => ⟨.error (.run fault), state.log⟩

def callNames : List String :=
  ["self", rootName]

/-- Checks the arguments and runs the function of the script on them, whatever the names of the
function and of its parameters are. -/
def call (matcher : Matcher) (document : Document) (subject : Value) (arguments : Arguments) :
    CallResult :=
  if arguments.keywords.any fun keyword => callNames.contains keyword.1 then
    ⟨.error (.call .givenTwice), []⟩
  else
    match matcher.checkArguments arguments with
    | .error fault => ⟨.error (.reported fault.diagnostic), []⟩
    | .ok () =>
      match matcher.recording, arguments.keywords.lookup traceName with
      | true, some (.argument _) => ⟨.error (.call .notTrace), []⟩
      | _, _ => matcher.execute document subject (matcher.bind arguments)

/-- Runs the matcher's test on a value while the matcher's function stands in the place of the
builtins. -/
def executeSevered (matcher : Matcher) (document : Document) (subject : Value)
    (arguments : List (String × Argument)) : CallResult :=
  let env : Environment := ⟨document, subject, arguments, []⟩
  match matcher.test.runSevered env ⟨List.replicate matcher.slots .absent, []⟩ with
  | (.ok true, state) => ⟨.ok (resultOf state.slots), state.log⟩
  | (.ok false, state) => ⟨.ok .absent, state.log⟩
  | (.error fault, state) => ⟨.error (.run fault), state.log⟩

def CallResult.isRun (result : CallResult) : Bool :=
  match result.returned with
  | .ok _ => true
  | .error (.run _) => true
  | .error _ => false

/-- The answer of the matcher's function under the name that it has in its script. -/
def respond (matcher : Matcher) (document : Document) (subject : Value) (arguments : Arguments) :
    CallResult :=
  let result := matcher.call document subject arguments
  if matcher.functionName = Script.builtinsName ∧ result.isRun then
    matcher.executeSevered document subject (matcher.bind arguments)
  else result

/-- A trace where the pattern has a parameter of its own is a datum that no value equals. -/
def Keyword.plain : Keyword → Keyword
  | .recorder => .argument (.set [])
  | given => given

/-- The arguments as the parameters of the matcher take them. -/
def settled (matcher : Matcher) (arguments : Arguments) : Arguments :=
  { arguments with keywords := arguments.keywords.map fun (name, keyword) =>
      (name, if matcher.instrumented.contains name then keyword else keyword.plain) }

/-- The call failed before it got to the function of the script. -/
def isRefused : Except Failure α → Bool
  | .error (.reported _) => true
  | .error (.call .givenTwice) => true
  | _ => false

/-- The function of the script has its parameters under the compatible forms of their names, but is
given them under the names themselves. -/
def isServable (matcher : Matcher) : Bool :=
  matcher.named.all Text.isCompatible

/-- What a call of the matcher gives. -/
def serve (matcher : Matcher) (document : Document) (subject : Value) (arguments : Arguments) :
    CallResult :=
  let result := matcher.respond document subject (matcher.settled arguments)
  if isRefused result.returned || matcher.isServable then result
  else ⟨.error (.call .unknownKeyword), []⟩

/-- Calls the matcher on one value after the other, up to the first failure. The marks of all
calls are kept in order. -/
def callAll (matcher : Matcher) (document : Document) (arguments : Arguments) :
    List Value → Except Failure (List Value) × List Event
  | [] => (.ok [], [])
  | subject :: rest =>
    let result := matcher.serve document subject arguments
    match result.returned with
    | .error failure => (.error failure, result.log)
    | .ok returned =>
      let (others, log) := matcher.callAll document arguments rest
      (others.map (returned :: ·), result.log ++ log)

end Matcher

end TreeMatch
