import TreeMatch.Value

/-! A document: a root node, all nodes that were made with it, and the text they were read from.
Parents are a fact of the whole collection: nodes know their children only. -/

namespace TreeMatch

structure Document where
  /-- The nodes made before the root, in order. -/
  earlier : List Node
  root : Node
  source : Option String
  deriving Repr

namespace Document

def nodes (doc : Document) : List Node :=
  doc.earlier ++ [doc.root]

/-- The parent of the node with a number: the last node made that has it as a child. -/
def parent? (doc : Document) (id : Nat) : Option Node :=
  doc.nodes.reverse.find? fun n => n.childNodes.any (·.id == id)

def climb (doc : Document) : Nat → Node → Node
  | 0, node => node
  | fuel + 1, node =>
    match doc.parent? node.id with
    | some parent => doc.climb fuel parent
    | none => node

def topOf (doc : Document) (node : Node) : Node :=
  doc.climb doc.nodes.length node

/-- The text that a node belongs to: only the root carries it. -/
def sourceOf (doc : Document) (node : Node) : Option String :=
  if (doc.topOf node).id = doc.root.id then doc.source else none

def textOf (doc : Document) (node : Node) : Option String :=
  match doc.sourceOf node, node.loc with
  | some source, some loc => some (String.ofList (loc.slice source.toList))
  | _, _ => none

/-- The path from the root to the node with a number, if it is below the root. -/
def pathOf? (doc : Document) (id : Nat) : Option (List Nat) :=
  doc.root.pathOf? id

def at? (doc : Document) (path : List Nat) : Option Value :=
  doc.root.toValue.at? path

/-- The document of a tree. Its nodes are numbered in the order in which a builder makes them. -/
def ofNode (root : Node) (source : String) : Document :=
  match (root.toValue.numbered 0).1.node? with
  | some root =>
    { earlier := Value.builtNodesAmong root.children, root, source := some source }
  | none => { earlier := [], root, source := some source }

inductive EntryChild
  | atom (value : Value)
  | entry (index : Nat)

structure Entry where
  type : String
  children : List EntryChild
  bounds : Option (Int × Int)

inductive EntryFault
  | invalidRange (fault : InvalidRange)
  | unknownEntry
  | empty
  deriving Repr

def rangeOfBounds : Option (Int × Int) → Except InvalidRange (Option Range)
  | none => .ok none
  | some (start, stop) => (Range.ofBounds start stop).map some

def EntryChild.resolve (made : Array Node) : EntryChild → Except EntryFault Value
  | .atom value => .ok value
  | .entry index =>
    match made[index]? with
    | some node => .ok node.toValue
    | none => .error .unknownEntry

/-- Makes the node of an entry. Its number is its place in the list. -/
def Entry.make (made : Array Node) (entry : Entry) : Except EntryFault (Array Node) := do
  let loc ← (rangeOfBounds entry.bounds).mapError .invalidRange
  let children ← entry.children.mapM (EntryChild.resolve made)
  return made.push ⟨made.size, entry.type, loc, children⟩

/-- The document of a list of entries, whose last entry is the root. Entries may share children;
a node then has the parent made last. -/
def ofEntries (entries : List Entry) (source : Option String) : Except EntryFault Document := do
  let made ← entries.foldlM Entry.make #[]
  match made.back? with
  | some root => return { earlier := made.pop.toList, root, source }
  | none => throw .empty

end Document

end TreeMatch
