/-! Parsing rules with ordered choice. A rule either reads a value and moves on, or fails; it also
tells at which places it looked for something in vain. -/

namespace TreeMatch.Grammar

/-- A place in a text: the number of characters before it, and the characters after it. -/
structure Cursor where
  offset : Nat
  rest : List Char
  deriving Repr

def Cursor.ofText (text : List Char) : Cursor :=
  ⟨0, text⟩

/-- An attempt that failed. Only rules with a name are worth reporting for themselves. -/
structure Miss where
  offset : Nat
  named : Bool
  deriving DecidableEq, Repr

/-- The miss to be reported after one more: a later place wins, and so does an equal one, but
once a rule with a name has been recorded only rules with a name replace it. -/
def Miss.note (recorded : Option Miss) (miss : Miss) : Option Miss :=
  match recorded with
  | none => some miss
  | some old =>
    if old.offset ≤ miss.offset ∧ (miss.named ∨ ¬ old.named) then some miss else some old

def Miss.furthest (misses : List Miss) : Option Miss :=
  misses.foldl Miss.note none

/-- What a rule made of its input: the misses in order and, on success, the value and the place
behind it. -/
structure Outcome (α : Type) where
  misses : List Miss
  result : Option (α × Cursor)

def Rule (α : Type) := Cursor → Outcome α

namespace Rule

def run (rule : Rule α) (cursor : Cursor) : Outcome α :=
  rule cursor

def succeed (value : α) : Rule α := fun cursor =>
  ⟨[], some (value, cursor)⟩

def andThen (rule : Rule α) (next : α → Rule β) : Rule β := fun cursor =>
  match rule cursor with
  | ⟨misses, none⟩ => ⟨misses, none⟩
  | ⟨misses, some (value, cursor)⟩ =>
    let outcome := next value cursor
    ⟨misses ++ outcome.misses, outcome.result⟩

instance : Monad Rule where
  pure := succeed
  bind := andThen

def orElse (first second : Rule α) : Rule α := fun cursor =>
  match first cursor with
  | ⟨misses, some result⟩ => ⟨misses, some result⟩
  | ⟨misses, none⟩ =>
    let outcome := second cursor
    ⟨misses ++ outcome.misses, outcome.result⟩

def choice (first : Rule α) (others : List (Rule α)) : Rule α :=
  others.foldl orElse first

def named (rule : Rule α) : Rule α := fun cursor =>
  match rule cursor with
  | ⟨misses, none⟩ => ⟨misses ++ [⟨cursor.offset, true⟩], none⟩
  | outcome => outcome

/-- Reads what a lexical class takes from the front of the text: the class answers the characters
taken and those that remain. -/
def lexeme (take : List Char → Option (List Char × List Char)) : Rule (List Char) := fun cursor =>
  match take cursor.rest with
  | none => ⟨[⟨cursor.offset, false⟩], none⟩
  | some (taken, rest) => ⟨[], some (taken, ⟨cursor.offset + taken.length, rest⟩)⟩

def char (c : Char) : Rule Unit := fun cursor =>
  match cursor.rest with
  | [] => ⟨[⟨cursor.offset, false⟩], none⟩
  | d :: rest =>
    if d = c then ⟨[], some ((), ⟨cursor.offset + 1, rest⟩)⟩
    else ⟨[⟨cursor.offset, false⟩], none⟩

/-- Repeats a rule at most `fuel` times: it stops where the rule fails, where the rule reads
nothing, and at the end of the text, where the rule is not even tried. -/
def manyWithin (rule : Rule α) : Nat → Rule (List α)
  | 0 => succeed []
  | fuel + 1 => fun cursor =>
    if cursor.rest.isEmpty then ⟨[], some ([], cursor)⟩
    else
      match rule cursor with
      | ⟨misses, none⟩ => ⟨misses, some ([], cursor)⟩
      | ⟨misses, some (value, next)⟩ =>
        if next.offset = cursor.offset then ⟨misses, some ([value], next)⟩
        else
          match manyWithin rule fuel next with
          | ⟨more, some (values, last)⟩ => ⟨misses ++ more, some (value :: values, last)⟩
          | ⟨more, none⟩ => ⟨misses ++ more, none⟩

def many (rule : Rule α) : Rule (List α) := fun cursor =>
  manyWithin rule cursor.rest.length cursor

/-- Reads with a rule or not at all. At the end of the text the rule is not even tried. -/
def optional (rule : Rule α) : Rule (Option α) := fun cursor =>
  if cursor.rest.isEmpty then ⟨[], some (none, cursor)⟩
  else
    match rule cursor with
    | ⟨misses, none⟩ => ⟨misses, some (none, cursor)⟩
    | ⟨misses, some (value, next)⟩ => ⟨misses, some (some value, next)⟩

def offset : Rule Nat := fun cursor =>
  ⟨[], some (cursor.offset, cursor)⟩

end Rule

inductive ReadFault
  /-- The rule failed; the place is that of the miss to be reported. -/
  | unexpected (offset : Nat)
  /-- The rule succeeded and left this place behind it. -/
  | trailing (offset : Nat)
  deriving DecidableEq, Repr

def ReadFault.offset : ReadFault → Nat
  | unexpected offset => offset
  | trailing offset => offset

def Rule.readAll (rule : Rule α) (text : List Char) : Except ReadFault α :=
  match rule (Cursor.ofText text) with
  | ⟨misses, none⟩ => .error (.unexpected (((Miss.furthest misses).map Miss.offset).getD 0))
  | ⟨_, some (value, cursor)⟩ =>
    if cursor.rest.isEmpty then .ok value else .error (.trailing cursor.offset)

end TreeMatch.Grammar
