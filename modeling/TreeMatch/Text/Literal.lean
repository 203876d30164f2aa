import TreeMatch.Text.CodeChart

/-! Reading the text between the quotes of a string literal. -/

namespace TreeMatch.Text

inductive LiteralFault
  /-- A raw character that may not stand in a literal. -/
  | rawControl
  | nullCharacter
  /-- An escape by code point with too few digits or beyond the last code point, or one by name
  without its braces. -/
  | badEscape
  /-- An escape by a name that no character has. -/
  | unknownName
  deriving DecidableEq, Repr

def isOctalDigit (c : Char) : Bool :=
  '0' ≤ c && c ≤ '7'

/-- The leading octal digits, at most the given number of them, read after `value`. -/
def octalRun : Nat → Nat → List Char → Nat × List Char
  | 0, value, text => (value, text)
  | _ + 1, value, [] => (value, [])
  | room + 1, value, c :: rest =>
    if isOctalDigit c then octalRun room (8 * value + (c.toNat - '0'.toNat)) rest
    else (value, c :: rest)

def hexRun : Nat → Nat → List Char → Option (Nat × List Char)
  | 0, value, text => some (value, text)
  | _ + 1, _, [] => none
  | width + 1, value, c :: rest => do
    let digit ← hexValue? c
    hexRun width (16 * value + digit) rest

def simpleEscape? : Char → Option Char
  | 'n' => some '\n'
  | 't' => some '\t'
  | 'r' => some '\r'
  | 'a' => some '\x07'
  | 'b' => some '\x08'
  | 'f' => some '\x0c'
  | 'v' => some '\x0b'
  | '\\' => some '\\'
  | '\'' => some '\''
  | '"' => some '"'
  | _ => none

def codeWidth? : Char → Option Nat
  | 'x' => some 2
  | 'u' => some 4
  | 'U' => some 8
  | _ => none

/-- The character with a code point. A surrogate is no character and reads as the replacement
character. -/
def charOfCode (code : Nat) : Char :=
  if 0xD800 ≤ code ∧ code ≤ 0xDFFF then '\ufffd' else Char.ofNat code

/-- The character named between braces, and the text after them. The chart is asked for nothing but
what a name can be. -/
def decodeName (chart : CodeChart) : List Char → Except LiteralFault (List Char × List Char)
  | '\x7b' :: text =>
    match text.span (· ≠ '\x7d') with
    | ([], _) => .error .badEscape
    | (_, []) => .error .badEscape
    | (name, _ :: rest) =>
      match if name.all isNameChar then chart name else none with
      | some c => .ok ([c], rest)
      | none => .error .unknownName
  | _ => .error .badEscape

/-- What a backslash and the text after it stand for, and the text after the escape. An unknown
letter keeps its backslash; an escaped line end stands for nothing. -/
def decodeEscape (chart : CodeChart) : List Char → Except LiteralFault (List Char × List Char)
  | [] => .ok (['\\'], [])
  | '\r' :: '\n' :: rest => .ok ([], rest)
  | c :: rest =>
    if c = '\n' ∨ c = '\r' then .ok ([], rest)
    else if isOctalDigit c then
      let (code, rest) := octalRun 3 0 (c :: rest)
      .ok ([Char.ofNat code], rest)
    else if c = 'N' then decodeName chart rest
    else
      match simpleEscape? c, codeWidth? c with
      | some plain, _ => .ok ([plain], rest)
      | none, some width =>
        match hexRun width 0 rest with
        | some (code, rest) =>
          if code ≤ 0x10FFFF then .ok ([charOfCode code], rest) else .error .badEscape
        | none => .error .badEscape
      | none, none => .ok (['\\', c], rest)

def decodeWithin (chart : CodeChart) : Nat → List Char → Except LiteralFault (List Char)
  | 0, _ => .ok []
  | _ + 1, [] => .ok []
  | fuel + 1, c :: rest =>
    if c = '\n' ∨ c = '\r' then .error .rawControl
    else if c = '\\' then do
      let (plain, rest) ← decodeEscape chart rest
      return plain ++ (← decodeWithin chart fuel rest)
    else return c :: (← decodeWithin chart fuel rest)

/-- The text that a literal's body stands for. The body of a literal that holds the null
character is refused as a whole, whatever else is wrong with it. -/
def decodeLiteral (chart : CodeChart) (body : List Char) : Except LiteralFault String :=
  if body.contains '\x00' then .error .nullCharacter
  else (decodeWithin chart body.length body).map String.ofList

end TreeMatch.Text
