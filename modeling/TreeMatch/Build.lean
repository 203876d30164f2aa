import TreeMatch.Document

/-! Making the nodes of a tree one by one. A node gets its number when it is made, and is the parent
of its children from then on. -/

namespace TreeMatch

abbrev Build := StateM (List Node)

namespace Build

def make (type : String) (loc : Option Range) (children : List Value) : Build Value :=
  fun made =>
    let node : Node := ⟨made.length, type, loc, children⟩
    (node.toValue, made ++ [node])

def after {α : Type} (action : Build α) (made : List Node) : α × List Node :=
  action made

end Build

def Document.ofMade (root : Node) (made : List Node) (source : String) : Document where
  earlier := made.filter fun node => node.id != root.id
  root := root
  source := some source

end TreeMatch
