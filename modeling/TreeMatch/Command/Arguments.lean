import TreeMatch.Command
import TreeMatch.Text.Charset

/-! Reading command lines. Options may stand among the operands and may be shortened as long as
one name fits; a double dash marks everything behind it as operands. -/

namespace TreeMatch.Arguments

inductive Flag
  | help
  | version
  | verbose
  | debug
  | name
  | sexp
  | map
  deriving DecidableEq, Repr

def Flag.takesText (flag : Flag) : Bool :=
  flag == .name

abbrev Options := List (String × Flag)

def helpOptions : Options :=
  [("-h", .help), ("--help", .help)]

def globalOptions : Options :=
  helpOptions ++ [("--version", .version), ("-v", .verbose), ("--verbose", .verbose)]

inductive Attachment
  | nothing
  /-- A text behind an equals sign. -/
  | text (text : List Char)
  /-- Further letters behind a dash and a letter. -/
  | letters (letters : List Char)
  deriving DecidableEq, Repr

inductive Word
  | operand (text : String)
  | mark
  | option (flag : Flag) (attached : Attachment)
  | unknown
  deriving DecidableEq, Repr

/-- A minus sign with a decimal number behind it; a line feed at the very end does not count. -/
def isNegativeNumber (text : List Char) : Bool :=
  match text with
  | '-' :: rest =>
    let body := if rest.getLast? = some '\n' then rest.dropLast else rest
    let (whole, fraction) := body.span Text.isDigit
    match fraction with
    | [] => !whole.isEmpty
    | '.' :: places => !places.isEmpty && places.all Text.isDigit
    | _ => false
  | _ => false

def splitEquals (text : List Char) : List Char × Attachment :=
  match text.span (· ≠ '=') with
  | (name, _ :: attached) => (name, .text attached)
  | (name, []) => (name, .nothing)

def longCandidates (options : Options) (text : List Char) : List Word :=
  let (start, attached) := splitEquals text
  (options.filter fun (name, _) => start.isPrefixOf name.toList).map fun (_, flag) =>
    .option flag attached

/-- The options that a text with one dash may mean: a letter with something behind it. -/
def shortCandidates (options : Options) (text : List Char) : List Word :=
  (options.filter fun (name, _) => name.toList == text.take 2).map fun (_, flag) =>
    .option flag (.letters (text.drop 2))

def exactOption? (options : Options) (text : List Char) : Option Word :=
  match options.lookup (String.ofList text) with
  | some flag => some (.option flag .nothing)
  | none =>
    match splitEquals text with
    | (_, .nothing) => none
    | (name, attached) => (options.lookup (String.ofList name)).map (.option · attached)

/-- What a text that begins with a dash and names no option in full looks like. -/
def classifyOther (options : Options) (text : List Char) : Except Usage Word :=
  let candidates :=
    if ['-', '-'].isPrefixOf text then longCandidates options text
    else shortCandidates options text
  match candidates with
  | [single] => .ok single
  | _ :: _ :: _ => .error .misuse
  | [] =>
    if isNegativeNumber text || text.contains ' ' then .ok (.operand (String.ofList text))
    else .ok .unknown

def classify (options : Options) (argument : String) : Except Usage Word :=
  match argument.toList with
  | '-' :: c :: rest =>
    match exactOption? options ('-' :: c :: rest) with
    | some word => .ok word
    | none => classifyOther options ('-' :: c :: rest)
  | _ => .ok (.operand argument)

def classifyAll (options : Options) : List String → Except Usage (List Word)
  | [] => .ok []
  | argument :: rest =>
    if argument = "--" then .ok (.mark :: rest.map .operand)
    else do
      let word ← classify options argument
      let words ← classifyAll options rest
      return word :: words

abbrev Setting := Flag × Option String

/-- The options behind a single dash. A letter that is no option ends them and fits nowhere. -/
def unbundle (options : Options) (flag : Flag) : List Char → Except Usage (List Setting × Bool)
  | [] => .ok ([(flag, none)], false)
  | letter :: rest =>
    if letter = '-' ∨ letter = '=' then .error .misuse
    else
      match options.lookup (String.ofList ['-', letter]) with
      | some next => do
        let (settings, surplus) ← unbundle options next rest
        return ((flag, none) :: settings, surplus)
      | none => .ok ([(flag, none)], true)

/-- What is asked for instead of a command, if any of the settings does that. -/
def usageOf? (settings : List Setting) : Option Usage :=
  settings.findSome? fun setting =>
    match setting.1 with
    | .help => some .help
    | .version => some .version
    | _ => none

structure Parts where
  settings : List Setting
  operands : List (Option String)
  surplus : Bool
  deriving DecidableEq, Repr

namespace Parts

def empty : Parts :=
  ⟨[], [], false⟩

/-- Settings that ask for usage end the reading at once. -/
def addSettings (parts : Parts) (settings : List Setting) : Except Usage Parts :=
  match usageOf? settings with
  | some usage => .error usage
  | none => .ok { parts with settings := parts.settings ++ settings }

def addSurplus (parts : Parts) : Parts :=
  { parts with surplus := true }

def addOperand (parts : Parts) (wanted : Nat) (operand : Option String) : Parts :=
  if parts.operands.length < wanted then { parts with operands := parts.operands ++ [operand] }
  else parts.addSurplus

end Parts

def Parts.addOption (parts : Parts) (options : Options) (flag : Flag) :
    Attachment → Except Usage Parts
  | .nothing =>
    if flag.takesText then .error .misuse else parts.addSettings [(flag, none)]
  | .text text =>
    if flag.takesText then parts.addSettings [(flag, some (String.ofList text))]
    else .error .misuse
  | .letters letters => do
    let (settings, surplus) ← unbundle options flag letters
    let parts ← parts.addSettings settings
    return if surplus then parts.addSurplus else parts

/-- The operand that a word stands for. A double dash in its place is dropped. -/
def operandOf (text : String) : Option String :=
  if text = "--" then none else some text

/-- Reads the words of a command with so many operands. The mark goes with an operand directly
before it or else directly behind it. -/
def readWords (options : Options) (wanted : Nat) (parts : Parts) (afterOperand : Bool) :
    List Word → Except Usage Parts
  | [] => .ok parts
  | .option flag .nothing :: .operand text :: rest => do
    if flag.takesText then
      readWords options wanted (← parts.addSettings [(flag, some text)]) false rest
    else
      let parts ← parts.addSettings [(flag, none)]
      readWords options wanted (parts.addOperand wanted (operandOf text)) true rest
  | .option flag attached :: rest => do
    readWords options wanted (← parts.addOption options flag attached) false rest
  | .unknown :: rest => readWords options wanted parts.addSurplus false rest
  | .mark :: .operand text :: rest =>
    let operand := if afterOperand then operandOf text else some text
    readWords options wanted (parts.addOperand wanted operand) true rest
  | .mark :: rest =>
    readWords options wanted (if afterOperand then parts else parts.addSurplus) false rest
  | .operand text :: rest =>
    readWords options wanted (parts.addOperand wanted (operandOf text)) true rest

def read (options : Options) (wanted : Nat) (arguments : List String) : Except Usage Parts := do
  readWords options wanted .empty false (← classifyAll options arguments)

inductive Verb
  | tokenize
  | parse
  | compile
  | test
  deriving DecidableEq, Repr

namespace Verb

def ofName? (name : String) : Option Verb :=
  [("tokenize", tokenize), ("parse", parse), ("compile", compile), ("test", test)].lookup name

def options : Verb → Options
  | tokenize | parse => helpOptions
  | compile => helpOptions ++ [("--debug", .debug), ("--name", .name)]
  | test => helpOptions ++ [("--sexp", .sexp), ("--map", .map)]

def operands : Verb → Nat
  | test => 2
  | _ => 1

end Verb

namespace Parts

def isSet (parts : Parts) (flag : Flag) : Bool :=
  parts.settings.any (·.1 == flag)

def verbosity (parts : Parts) : Nat :=
  (parts.settings.filter (·.1 == .verbose)).length

def functionName (parts : Parts) : String :=
  ((parts.settings.filter (·.1 == .name)).getLast?.bind Prod.snd).getD "matcher"

def form (parts : Parts) : Form :=
  if parts.isSet .sexp then .sexp else .program

def command (parts : Parts) : Verb → Except Usage Command
  | .tokenize =>
    match parts.operands with
    | [some pattern] => .ok (.tokenize pattern)
    | _ => .error .misuse
  | .parse =>
    match parts.operands with
    | [some pattern] => .ok (.parse pattern)
    | _ => .error .misuse
  | .compile =>
    match parts.operands with
    | [some pattern] => .ok (.compile pattern (parts.isSet .debug) parts.functionName)
    | _ => .error .misuse
  | .test =>
    match parts.operands with
    | [some pattern, source] => .ok (.test pattern source parts.form (parts.isSet .map))
    | _ => .error .misuse

end Parts

def readCommand (verb : Verb) (arguments : List String) (surplus : Bool) :
    Except Usage Command := do
  let parts ← read verb.options verb.operands arguments
  let command ← parts.command verb
  if surplus || parts.surplus then throw .misuse
  return command

/-- Reads the words before the command and then the command itself, whose arguments are read
anew. -/
def readGlobal (parts : Parts) : List (String × Word) → Except Usage Request
  | [] =>
    if parts.surplus then .error .misuse else .ok ⟨parts.verbosity, none⟩
  | (_, .option flag attached) :: rest => do
    readGlobal (← parts.addOption globalOptions flag attached) rest
  | (_, .unknown) :: rest => readGlobal parts.addSurplus rest
  | (_, .mark) :: _ => .error .misuse
  | (text, .operand _) :: rest =>
    match Verb.ofName? text with
    | none => .error .misuse
    | some verb => do
      let command ← readCommand verb (rest.map Prod.fst) parts.surplus
      return ⟨parts.verbosity, some command⟩

def readRequest (arguments : List String) : Except Usage Request := do
  let words ← classifyAll globalOptions arguments
  readGlobal .empty (arguments.zip words)

end TreeMatch.Arguments
