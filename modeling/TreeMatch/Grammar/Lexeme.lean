import TreeMatch.Text.Charset

/-! Lexical classes. Each takes as much as it can from the front of a text and answers the
characters taken and those that remain, or nothing if the text does not start so. -/

namespace TreeMatch.Grammar.Lexeme

open TreeMatch.Text

abbrev Split := List Char × List Char

/-- Skips blanks and comments. A comment runs from its mark to the end of the line. -/
def dropBlanks (mark : Char) : Bool → List Char → List Char
  | _, [] => []
  | true, c :: rest => dropBlanks mark (c ≠ '\n') rest
  | false, c :: rest =>
    if isBlank c then dropBlanks mark false rest
    else if c = mark then dropBlanks mark true rest
    else c :: rest

def blanks (mark : Char) (text : List Char) : Option Split :=
  let rest := dropBlanks mark false text
  some (text.take (text.length - rest.length), rest)

def literal (expected : List Char) (text : List Char) : Option Split :=
  if expected.isPrefixOf text then some (expected, text.drop expected.length) else none

def single (test : Char → Bool) : List Char → Option Split
  | [] => none
  | c :: rest => if test c then some ([c], rest) else none

/-- A first character that passes one test, and the run after it that passes another. -/
def run (first follow : Char → Bool) : List Char → Option Split
  | [] => none
  | c :: rest =>
    if first c then
      let (word, rest) := rest.span follow
      some (c :: word, rest)
    else none

/-- What a class takes, unless a character that passes the test stands right behind it. -/
def notBefore (test : Char → Bool) (split : Option Split) : Option Split :=
  match split with
  | some (taken, c :: rest) => if test c then none else some (taken, c :: rest)
  | other => other

def followedBy (c : Char) (split : Option Split) : Option Split :=
  match split with
  | some (taken, d :: rest) => if d = c then some (taken ++ [d], rest) else none
  | _ => none

def cons (c : Char) (split : Option Split) : Option Split :=
  split.map fun (taken, rest) => (c :: taken, rest)

def isWordStart (c : Char) : Bool :=
  isAsciiLetter c || c == '_'

def isWordOrQuery (c : Char) : Bool :=
  isWord c || c == '?'

/-- A word that neither a word character nor a question mark follows. -/
def keyword (word : String) (text : List Char) : Option Split :=
  notBefore isWordOrQuery (literal word.toList text)

def isOperator (c : Char) : Bool :=
  "-+*/%<>=!&|^~".toList.contains c

def isNameMark (c : Char) : Bool :=
  c == '?' || c == '!' || c == '='

/-- A symbol's name: a word with perhaps a mark behind it, a run of operator characters, or the
brackets of an element access, perhaps with an equals sign. -/
def symbolName (text : List Char) : Option Split :=
  match run isWordStart isWord text with
  | some (word, c :: rest) =>
    if isNameMark c then some (word ++ [c], rest) else some (word, c :: rest)
  | some (word, []) => some (word, [])
  | none =>
    match run isOperator isOperator text, text with
    | some split, _ => some split
    | none, '[' :: ']' :: '=' :: rest => some (['[', ']', '='], rest)
    | none, '[' :: ']' :: rest => some (['[', ']'], rest)
    | none, _ => none

def symbol : List Char → Option Split
  | ':' :: rest => cons ':' (symbolName rest)
  | _ => none

def integer : List Char → Option Split
  | '-' :: rest => cons '-' (run isDigit isDigit rest)
  | text => run isDigit isDigit text

def fraction : List Char → Option Split
  | '.' :: rest => cons '.' (run isDigit isDigit rest)
  | _ => none

def decimal (text : List Char) : Option Split := do
  let (whole, rest) ← integer text
  let (part, rest) ← fraction rest
  return (whole ++ part, rest)

def number (text : List Char) : Option Split :=
  match decimal text with
  | some split => some split
  | none => integer text

/-- The rest of a string literal after its opening quote, closing quote included. A backslash
hides the character after it, which may not be a line feed. -/
def stringTail : List Char → Option Split
  | [] => none
  | '"' :: rest => some (['"'], rest)
  | '\\' :: c :: rest => if c = '\n' then none else cons '\\' (cons c (stringTail rest))
  | c :: rest => if c = '\\' then none else cons c (stringTail rest)

def string : List Char → Option Split
  | '"' :: rest => cons '"' (stringTail rest)
  | _ => none

end TreeMatch.Grammar.Lexeme
