import Mathlib.Data.List.Pairwise
import TreeMatch.Proofs.Calls
import TreeMatch.Proofs.Identity

/-! Documents that are trees: every node is met once, and the parent of a node is the one node that
has it as a child. -/

namespace TreeMatch

namespace Value

/-- The nodes of a value are the value itself and the children of its nodes. -/
theorem eachNode_perm (value : Value) :
    value.eachNode.Perm (value.node?.toList ++ value.eachNode.flatMap Node.childNodes) := by
  have among : ∀ {values : List Value},
      (∀ value ∈ values,
        value.eachNode.Perm (value.node?.toList ++ value.eachNode.flatMap Node.childNodes)) →
      (eachNodeAmong values).Perm
        (values.filterMap node? ++ (eachNodeAmong values).flatMap Node.childNodes) := by
    intro values each
    induction values with
    | nil => exact .nil
    | cons value rest induction =>
        obtain ⟨hfirst, hrest⟩ := List.forall_mem_cons.mp each
        have hsplit : (value :: rest).filterMap node? =
            value.node?.toList ++ rest.filterMap node? := by
          cases hnode : value.node? with
          | none => rw [List.filterMap_cons_none hnode]; rfl
          | some node => rw [List.filterMap_cons_some hnode]; rfl
        rw [eachNodeAmong, hsplit, List.flatMap_append]
        refine (hfirst.append (induction hrest)).trans ?_
        rw [List.append_assoc, List.append_assoc]
        refine .append_left _ ?_
        rw [← List.append_assoc, ← List.append_assoc]
        exact .append_right _ List.perm_append_comm
  induction value using induct with
  | node id type loc children each =>
      rw [eachNode, List.flatMap_cons]
      exact .cons _ (among each)
  | _ => exact .nil

theorem sublist_eachNodeAmong {value : Value} {values : List Value} (member : value ∈ values) :
    value.eachNode.Sublist (eachNodeAmong values) := by
  induction values with
  | nil => cases member
  | cons first rest induction =>
      rw [eachNodeAmong]
      rcases List.mem_cons.mp member with rfl | hrest
      · exact List.sublist_append_left _ _
      · exact (induction hrest).trans (List.sublist_append_right _ _)

theorem sublist_eachNode {value : Value} {node : Node} (member : node ∈ value.eachNode) :
    node.eachNode.Sublist value.eachNode := by
  induction value using induct with
  | node id type loc children each =>
      rw [eachNode] at member ⊢
      rcases List.mem_cons.mp member with rfl | hbelow
      · exact .refl _
      · obtain ⟨child, hchild, hnode⟩ := mem_eachNodeAmong.mp hbelow
        exact ((each child hchild hnode).trans (sublist_eachNodeAmong hchild)).cons _
  | _ => cases member

end Value

theorem Node.eachNode_eq_cons (node : Node) :
    node.eachNode = node :: Value.eachNodeAmong node.children := by
  rw [eachNode, toValue, Value.eachNode]

theorem Node.length_eachNode_lt {parent child : Node} (member : child ∈ parent.childNodes) :
    child.eachNode.length < parent.eachNode.length := by
  obtain ⟨value, hvalue, hnode⟩ := List.mem_filterMap.mp member
  have hsame : child.eachNode = value.eachNode := by
    rw [Value.eq_toValue hnode]
    rfl
  rw [hsame, eachNode_eq_cons, List.length_cons]
  exact Nat.lt_succ_of_le (Value.sublist_eachNodeAmong hvalue).length_le

namespace Document

structure IsTree (document : Document) (text : String) : Prop where
  once : (document.root.eachNode.map Node.id).Nodup
  /-- No node is made that is not met. -/
  met : document.root.eachNode.Perm document.nodes
  top : document.parent? document.root.id = none
  parents : ∀ parent ∈ document.root.eachNode, ∀ child ∈ document.root.eachNode,
    document.parent? child.id = some parent ↔ child ∈ parent.childNodes
  roots : ∀ node ∈ document.root.eachNode, document.topOf node = document.root
  texts : ∀ node ∈ document.root.eachNode, ∀ loc, node.loc = some loc →
    document.textOf node = some (String.ofList (loc.slice text.toList))

section Kinship

variable {document : Document} {parent child node other : Node}

theorem eachNode_perm_children :
    document.root.eachNode.Perm
      (document.root :: document.root.eachNode.flatMap Node.childNodes) :=
  Value.eachNode_perm document.root.toValue

theorem root_mem_eachNode : document.root ∈ document.root.eachNode := by
  rw [Node.eachNode_eq_cons]
  exact List.mem_cons_self

theorem child_mem_eachNode (hparent : parent ∈ document.root.eachNode)
    (hchild : child ∈ parent.childNodes) : child ∈ document.root.eachNode :=
  eachNode_perm_children.mem_iff.mpr
    (List.mem_cons_of_mem _ (List.mem_flatMap.mpr ⟨parent, hparent, hchild⟩))

theorem parent?_eq_some (hparent : document.parent? child.id = some parent) :
    parent ∈ document.nodes ∧ ∃ other ∈ parent.childNodes, other.id = child.id := by
  have hfound := List.find?_some hparent
  obtain ⟨other, hother, hid⟩ := List.any_eq_true.mp hfound
  exact ⟨List.mem_reverse.mp (List.mem_of_find?_eq_some hparent), other, hother, eq_of_beq hid⟩

variable (distinct : (document.nodes.map Node.id).Nodup)
  (met : document.root.eachNode.Perm document.nodes)
include distinct met

theorem eq_of_id (hnode : node ∈ document.root.eachNode) (hother : other ∈ document.root.eachNode)
    (hid : node.id = other.id) : node = other :=
  List.inj_on_of_nodup_map distinct (met.mem_iff.mp hnode) (met.mem_iff.mp hother) hid

theorem nodup_children :
    (document.root :: document.root.eachNode.flatMap Node.childNodes).Nodup :=
  eachNode_perm_children.nodup_iff.mp (met.nodup_iff.mpr (List.Nodup.of_map _ distinct))

theorem child_of_parent? (hchild : child ∈ document.root.eachNode)
    (hparent : document.parent? child.id = some parent) :
    parent ∈ document.root.eachNode ∧ child ∈ parent.childNodes := by
  obtain ⟨member, other, hother, hid⟩ := parent?_eq_some hparent
  have hmet := met.mem_iff.mpr member
  have hsame := eq_of_id distinct met (child_mem_eachNode hmet hother) hchild hid
  exact ⟨hmet, hsame ▸ hother⟩

/-- A node has no more than one parent: the children of all nodes are distinct. -/
theorem parent_unique (hparent : parent ∈ document.root.eachNode)
    (hother : other ∈ document.root.eachNode) (hchild : child ∈ parent.childNodes)
    (hshared : child ∈ other.childNodes) : parent = other := by
  have hdisjoint := (List.nodup_flatMap.mp (nodup_children distinct met).of_cons).2
  have hsymmetric : Std.Symm (Function.onFun List.Disjoint Node.childNodes) :=
    ⟨fun _ _ hapart _ hfirst hsecond => hapart hsecond hfirst⟩
  by_contra hdifferent
  exact hdisjoint.forall hparent hother hdifferent hchild hshared

theorem parent?_iff (hparent : parent ∈ document.root.eachNode)
    (hchild : child ∈ document.root.eachNode) :
    document.parent? child.id = some parent ↔ child ∈ parent.childNodes := by
  refine ⟨fun hfound => (child_of_parent? distinct met hchild hfound).2, fun member => ?_⟩
  have hsome : (document.parent? child.id).isSome := by
    refine List.find?_isSome.mpr ⟨parent, List.mem_reverse.mpr (met.mem_iff.mp hparent), ?_⟩
    exact List.any_eq_true.mpr ⟨child, member, beq_self_eq_true _⟩
  obtain ⟨found, hfound⟩ := Option.isSome_iff_exists.mp hsome
  obtain ⟨hmet, hshared⟩ := child_of_parent? distinct met hchild hfound
  rw [hfound, parent_unique distinct met hmet hparent hshared member]

theorem parent?_root : document.parent? document.root.id = none := by
  rw [← Option.not_isSome_iff_eq_none, Option.isSome_iff_exists]
  rintro ⟨parent, hparent⟩
  obtain ⟨hmet, hchild⟩ := child_of_parent? distinct met root_mem_eachNode hparent
  exact (List.nodup_cons.mp (nodup_children distinct met)).1
    (List.mem_flatMap.mpr ⟨parent, hmet, hchild⟩)

theorem exists_parent (hnode : node ∈ document.root.eachNode) (hother : node ≠ document.root) :
    ∃ parent ∈ document.root.eachNode, document.parent? node.id = some parent := by
  have hbelow := (List.mem_cons.mp (eachNode_perm_children.mem_iff.mp hnode)).resolve_left hother
  obtain ⟨parent, hparent, hchild⟩ := List.mem_flatMap.mp hbelow
  exact ⟨parent, hparent, (parent?_iff distinct met hparent hnode).mpr hchild⟩

/-- Climbing ends at the root: with every step there are more nodes below. -/
theorem climb_eq_root (fuel : Nat) (hnode : node ∈ document.root.eachNode)
    (henough : document.nodes.length ≤ fuel + node.eachNode.length) :
    document.climb fuel node = document.root := by
  induction fuel generalizing node with
  | zero =>
      by_contra hother
      obtain ⟨parent, hparent, hfound⟩ := exists_parent distinct met hnode hother
      have hchild := (parent?_iff distinct met hparent hnode).mp hfound
      have hmore := Node.length_eachNode_lt hchild
      have hall := (Value.sublist_eachNode hparent).length_le
      have hlength : document.root.toValue.eachNode.length = document.nodes.length := met.length_eq
      omega
  | succ fuel induction =>
      rw [climb]
      by_cases hroot : node = document.root
      · rw [hroot, parent?_root distinct met]
      · obtain ⟨parent, hparent, hfound⟩ := exists_parent distinct met hnode hroot
        have hchild := (parent?_iff distinct met hparent hnode).mp hfound
        have hmore := Node.length_eachNode_lt hchild
        rw [hfound]
        exact induction hparent (by omega)

theorem topOf_eq_root (hnode : node ∈ document.root.eachNode) :
    document.topOf node = document.root :=
  climb_eq_root distinct met _ hnode (Nat.le_add_right _ _)

theorem isTree {text : String} (hsource : document.source = some text) :
    document.IsTree text := by
  refine ⟨?_, met, parent?_root distinct met, fun parent hparent child hchild =>
    parent?_iff distinct met hparent hchild, fun node hnode => topOf_eq_root distinct met hnode, ?_⟩
  · exact (met.map Node.id).nodup_iff.mpr distinct
  · intro node hnode loc hloc
    rw [textOf, sourceOf, topOf_eq_root distinct met hnode, if_pos rfl, hsource, hloc]

end Kinship

end Document

end TreeMatch
