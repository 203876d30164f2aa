import TreeMatch.Number.Binary64
import TreeMatch.Range

/-! The data that matchers run against: atoms, and nodes with a type and children. Nodes carry a
number that identifies them, so that two nodes of one form remain two nodes. -/

namespace TreeMatch

inductive Value
  /-- The child that is not there, such as the receiver of a plain call. -/
  | absent
  | bool (b : Bool)
  | int (i : Int)
  | float (x : Number.Binary64)
  | str (s : String)
  | sym (name : String)
  | list (items : List Value)
  | tuple (items : List Value)
  /-- A datum of any other kind, known by its kind and its text. -/
  | foreign (kind text : String)
  | node (id : Nat) (type : String) (loc : Option Range) (children : List Value)
  deriving Repr, Inhabited

structure Node where
  id : Nat
  type : String
  loc : Option Range
  children : List Value
  deriving Repr, Inhabited

def Node.toValue (node : Node) : Value :=
  .node node.id node.type node.loc node.children

namespace Value

def node? : Value → Option Node
  | node id type loc children => some ⟨id, type, loc, children⟩
  | _ => none

def isNode : Value → Bool
  | node .. => true
  | _ => false

@[simp] theorem node?_toValue (n : Node) : n.toValue.node? = some n := rfl

theorem eq_toValue {value : Value} {node : Node} (hnode : value.node? = some node) :
    value = node.toValue := by
  cases value with
  | node id type loc children =>
    cases hnode
    rfl
  | _ => cases hnode

theorem isNode_eq_isSome_node? (v : Value) : v.isNode = v.node?.isSome := by
  cases v <;> rfl

def truthy : Value → Bool
  | absent => false
  | bool b => b
  | int i => i != 0
  | float x => !x.isZero
  | str s => s != ""
  | list items => !items.isEmpty
  | tuple items => !items.isEmpty
  | _ => true

mutual

def eachNode : Value → List Node
  | node id type loc children => ⟨id, type, loc, children⟩ :: eachNodeAmong children
  | _ => []

def eachNodeAmong : List Value → List Node
  | [] => []
  | child :: rest => eachNode child ++ eachNodeAmong rest

end

mutual

/-- All nodes in the order in which a builder makes them, each after its children. -/
def builtNodes : Value → List Node
  | node id type loc children => builtNodesAmong children ++ [⟨id, type, loc, children⟩]
  | list items => builtNodesAmong items
  | tuple items => builtNodesAmong items
  | _ => []

def builtNodesAmong : List Value → List Node
  | [] => []
  | child :: rest => builtNodes child ++ builtNodesAmong rest

end

mutual

/-- Numbers the nodes in the order in which a builder makes them, from `next` on. Answers the
number after the last one. -/
def numbered (next : Nat) : Value → Value × Nat
  | node _ type loc children =>
    let (children, next) := numberedAll next children
    (node next type loc children, next + 1)
  | list items =>
    let (items, next) := numberedAll next items
    (list items, next)
  | tuple items =>
    let (items, next) := numberedAll next items
    (tuple items, next)
  | atom => (atom, next)

def numberedAll (next : Nat) : List Value → List Value × Nat
  | [] => ([], next)
  | child :: rest =>
    let (child, next) := numbered next child
    let (rest, next) := numberedAll next rest
    (child :: rest, next)

end

mutual

def eachPath : Value → List (List Nat)
  | node _ _ _ children => [] :: eachPathAmong 0 children
  | _ => []

def eachPathAmong (index : Nat) : List Value → List (List Nat)
  | [] => []
  | child :: rest => (eachPath child).map (index :: ·) ++ eachPathAmong (index + 1) rest

end

mutual

/-- A tree as nested lists: the type of a node, followed by its children. -/
def nested : Value → Value
  | node _ type _ children => list (str type :: nestedAll children)
  | atom => atom
termination_by structural value => value

def nestedAll : List Value → List Value
  | [] => []
  | child :: rest => nested child :: nestedAll rest
termination_by structural values => values

end

def at? (value : Value) : List Nat → Option Value
  | [] => some value
  | index :: path =>
    match value.node? with
    | some n =>
      match n.children[index]? with
      | some child => child.at? path
      | none => none
    | none => none

end Value

namespace Node

def childNodes (node : Node) : List Node :=
  node.children.filterMap Value.node?

def eachNode (node : Node) : List Node :=
  node.toValue.eachNode

def distinctNodes (node : Node) : List Node :=
  node.eachNode.foldl
    (fun seen n => if seen.any (·.id == n.id) then seen else seen ++ [n]) []

def descendants (node : Node) : List Node :=
  Value.eachNodeAmong node.children

/-- The first path, in the order of `eachNode`, that leads to the node with a number. -/
def pathOf? (node : Node) (id : Nat) : Option (List Nat) :=
  (node.eachNode.zip node.toValue.eachPath).findSome? fun (n, path) =>
    if n.id = id then some path else none

end Node

end TreeMatch
