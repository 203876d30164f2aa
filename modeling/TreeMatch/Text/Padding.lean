/-! Filling a text with blanks to a width. A text that is too long stays as it is. -/

namespace TreeMatch.Text

def blanks (width : Nat) (text : String) : String :=
  String.ofList (List.replicate (width - text.length) ' ')

def padLeft (width : Nat) (text : String) : String :=
  blanks width text ++ text

def padRight (width : Nat) (text : String) : String :=
  text ++ blanks width text

end TreeMatch.Text
