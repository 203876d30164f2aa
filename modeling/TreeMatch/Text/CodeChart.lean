import TreeMatch.Text.Charset

/-! Characters by their names. -/

namespace TreeMatch.Text

/-- A chart that tells which character has a name. The full one is kept elsewhere. -/
abbrev CodeChart := List Char → Option Char

def isNameChar (c : Char) : Bool :=
  isAsciiLetter c || isAsciiDigit c || c == ' ' || c == '-'

def digitNames : List (String × Char) :=
  [("ZERO", '0'), ("ONE", '1'), ("TWO", '2'), ("THREE", '3'), ("FOUR", '4'), ("FIVE", '5'),
   ("SIX", '6'), ("SEVEN", '7'), ("EIGHT", '8'), ("NINE", '9')]

def markNames : List (String × Char) :=
  [("SPACE", ' '), ("EXCLAMATION MARK", '!'), ("QUOTATION MARK", '"'), ("NUMBER SIGN", '#'),
   ("DOLLAR SIGN", '$'), ("PERCENT SIGN", '%'), ("AMPERSAND", '&'), ("APOSTROPHE", '\''),
   ("LEFT PARENTHESIS", '('), ("RIGHT PARENTHESIS", ')'), ("ASTERISK", '*'), ("PLUS SIGN", '+'),
   ("COMMA", ','), ("HYPHEN-MINUS", '-'), ("FULL STOP", '.'), ("SOLIDUS", '/'), ("COLON", ':'),
   ("SEMICOLON", ';'), ("LESS-THAN SIGN", '<'), ("EQUALS SIGN", '='), ("GREATER-THAN SIGN", '>'),
   ("QUESTION MARK", '?'), ("COMMERCIAL AT", '@'), ("LEFT SQUARE BRACKET", '['),
   ("REVERSE SOLIDUS", '\\'), ("RIGHT SQUARE BRACKET", ']'), ("CIRCUMFLEX ACCENT", '^'),
   ("LOW LINE", '_'), ("GRAVE ACCENT", '\x60'), ("LEFT CURLY BRACKET", '\x7b'),
   ("VERTICAL LINE", '|'), ("RIGHT CURLY BRACKET", '\x7d'), ("TILDE", '~')]

def prefixed? (front : String) (name : List Char) : Option (List Char) :=
  if front.toList.isPrefixOf name then some (name.drop front.length) else none

/-- The printable characters of the ASCII block. A name may be written in letters of either case. -/
def basicLatin : CodeChart := fun name =>
  let name := name.map Char.toUpper
  match prefixed? "DIGIT " name, prefixed? "LATIN CAPITAL LETTER " name,
    prefixed? "LATIN SMALL LETTER " name with
  | some digit, _, _ => digitNames.lookup (String.ofList digit)
  | none, some [c], _ => if isAsciiLetter c then some c else none
  | none, _, some [c] => if isAsciiLetter c then some c.toLower else none
  | _, _, _ => markNames.lookup (String.ofList name)

end TreeMatch.Text
