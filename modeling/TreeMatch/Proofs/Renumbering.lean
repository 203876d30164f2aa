import TreeMatch.Proofs.Identity

/-! Values up to the numbers of their nodes. -/

namespace TreeMatch

namespace Value

mutual

def unnumbered : Value → Value
  | node _ type loc children => node 0 type loc (unnumberedAll children)
  | list items => list (unnumberedAll items)
  | tuple items => tuple (unnumberedAll items)
  | atom => atom
termination_by structural value => value

def unnumberedAll : List Value → List Value
  | [] => []
  | child :: rest => unnumbered child :: unnumberedAll rest
termination_by structural values => values

end

theorem unnumberedAll_eq_map (values : List Value) :
    unnumberedAll values = values.map unnumbered := by
  induction values with
  | nil => rfl
  | cons value rest induction => rw [unnumberedAll, induction, List.map_cons]

theorem unnumbered_numbered (value : Value) (next : Nat) :
    (value.numbered next).1.unnumbered = value.unnumbered := by
  have among : ∀ {values : List Value},
      (∀ value ∈ values, ∀ next, (value.numbered next).1.unnumbered = value.unnumbered) →
      ∀ next, unnumberedAll (numberedAll next values).1 = unnumberedAll values := by
    intro values each
    induction values with
    | nil => exact fun next => rfl
    | cons value rest induction =>
        obtain ⟨hfirst, hrest⟩ := List.forall_mem_cons.mp each
        intro next
        rw [numberedAll, unnumberedAll, unnumberedAll, hfirst, induction hrest]
  induction value using induct generalizing next with
  | list items each | tuple items each =>
      rw [numbered, unnumbered, unnumbered, among each]
  | node id type loc children each => rw [numbered, unnumbered, unnumbered, among each]
  | _ => rfl

end Value

/-- The root of a document is the tree that it was made of, with numbers. -/
theorem Document.unnumbered_ofNode (root : Node) (source : String) :
    (ofNode root source).root.toValue.unnumbered = root.toValue.unnumbered :=
  Value.unnumbered_numbered root.toValue 0

def Node.unnumbered (node : Node) : Node :=
  ⟨0, node.type, node.loc, node.children.map Value.unnumbered⟩

theorem Node.toValue_unnumbered (node : Node) :
    node.unnumbered.toValue = node.toValue.unnumbered := by
  rw [Node.toValue, Node.toValue, Value.unnumbered, Value.unnumberedAll_eq_map]
  rfl

theorem Value.eachNode_unnumbered (value : Value) :
    value.unnumbered.eachNode = value.eachNode.map Node.unnumbered := by
  have among : ∀ {values : List Value},
      (∀ value ∈ values, value.unnumbered.eachNode = value.eachNode.map Node.unnumbered) →
      eachNodeAmong (values.map unnumbered) = (eachNodeAmong values).map Node.unnumbered := by
    intro values each
    induction values with
    | nil => rfl
    | cons value rest induction =>
        obtain ⟨hfirst, hrest⟩ := List.forall_mem_cons.mp each
        rw [List.map_cons, eachNodeAmong, eachNodeAmong, List.map_append, hfirst, induction hrest]
  induction value using induct with
  | node id type loc children each =>
      rw [unnumbered, eachNode, eachNode, unnumberedAll_eq_map, List.map_cons, among each]
      rfl
  | _ => rfl

end TreeMatch
