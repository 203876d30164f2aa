import TreeMatch.Number.Shortest
import TreeMatch.Text.Quoted
import TreeMatch.Value

/-! The written forms of a value. The pretty form is an s-expression; the plain form is the bare
text of an atom; the exact form names the type of what it shows. -/

namespace TreeMatch.Value

def tupleText : List String → String
  | [item] => "(" ++ item ++ ",)"
  | items => "(" ++ ", ".intercalate items ++ ")"

def nodeText (type : String) (children : List String) : String :=
  "(" ++ " ".intercalate (type :: children) ++ ")"

mutual

def pretty : Value → String
  | absent => "nil"
  | bool b => if b then "true" else "false"
  | int i => toString i
  | float x => x.text
  | str s => Text.escaped s
  | sym name => ":" ++ name
  | list items => "[" ++ ", ".intercalate (exactAll items) ++ "]"
  | tuple items => tupleText (exactAll items)
  | foreign _ text => text
  | node _ type _ children => nodeText type (prettyAll children)
termination_by structural value => value

def prettyAll : List Value → List String
  | [] => []
  | child :: rest => pretty child :: prettyAll rest
termination_by structural values => values

def exact : Value → String
  | absent => "None"
  | bool b => if b then "True" else "False"
  | int i => toString i
  | float x => x.text
  | str s => Text.quoted s
  | sym name => "Sym(name=" ++ Text.quoted name ++ ")"
  | list items => "[" ++ ", ".intercalate (exactAll items) ++ "]"
  | tuple items => tupleText (exactAll items)
  | foreign _ text => text
  | node _ type _ children => "Node(" ++ nodeText type (prettyAll children) ++ ")"
termination_by structural value => value

def exactAll : List Value → List String
  | [] => []
  | item :: rest => exact item :: exactAll rest
termination_by structural values => values

end

def plain : Value → String
  | str s => s
  | sym name => ":" ++ name
  | node id type loc children => pretty (node id type loc children)
  | value => value.exact

end TreeMatch.Value

def TreeMatch.Node.pretty (node : TreeMatch.Node) : String :=
  node.toValue.pretty

def TreeMatch.Node.exact (node : TreeMatch.Node) : String :=
  node.toValue.exact
