import TreeMatch.Text.Charset

/-! Three ways of cutting a text into lines. They differ in the characters that end a line, and
each has its own use: positions count line feeds only, excerpts follow every line boundary, and
byte columns refer to the physical lines of a source file. -/

namespace TreeMatch.Text

/-- The parts of a text between line feeds. There is always at least one. -/
def splitLineFeeds : List Char → List (List Char)
  | [] => [[]]
  | c :: rest =>
    if c = '\n' then [] :: splitLineFeeds rest
    else
      match splitLineFeeds rest with
      | [] => [[c]]
      | line :: lines => (c :: line) :: lines

def isLineBoundary (c : Char) : Bool :=
  let code := c.toNat
  (10 ≤ code && code ≤ 13) || (0x1C ≤ code && code ≤ 0x1E) || code == 0x85 || code == 0x2028 ||
    code == 0x2029

/-- The lines of a text without their ends. A carriage return and a line feed end one line
together, and a boundary at the very end opens no further line. -/
def boundedLines : List Char → List (List Char)
  | [] => []
  | '\r' :: '\n' :: rest => [] :: boundedLines rest
  | c :: rest =>
    if isLineBoundary c then [] :: boundedLines rest
    else
      match boundedLines rest with
      | [] => [[c]]
      | line :: lines => (c :: line) :: lines

/-- The physical lines of a text, ends included: a line ends after a line feed, a carriage
return, or the two in that order. -/
def physicalLines : List Char → List (List Char)
  | [] => []
  | '\r' :: '\n' :: rest => ['\r', '\n'] :: physicalLines rest
  | c :: rest =>
    if c = '\n' ∨ c = '\r' then [c] :: physicalLines rest
    else
      match physicalLines rest with
      | [] => [[c]]
      | line :: lines => (c :: line) :: lines

@[simp] theorem splitLineFeeds_ne_nil (text : List Char) : splitLineFeeds text ≠ [] := by
  cases text with
  | nil => simp [splitLineFeeds]
  | cons c rest =>
    unfold splitLineFeeds
    split
    · simp
    · split <;> simp

@[simp] theorem flatten_physicalLines (text : List Char) : (physicalLines text).flatten = text := by
  fun_induction physicalLines text <;> simp_all

end TreeMatch.Text
