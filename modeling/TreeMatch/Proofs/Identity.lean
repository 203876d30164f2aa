import Mathlib.Data.List.Nodup
import TreeMatch.Proofs.Matching
import TreeMatch.Proofs.Reading

/-! Documents whose numbers identify their nodes, and where values of a document lead. -/

namespace TreeMatch

namespace Value

@[elab_as_elim]
theorem induct {motive : Value → Prop} (absent : motive .absent) (bool : ∀ b, motive (.bool b))
    (int : ∀ i, motive (.int i)) (float : ∀ x, motive (.float x)) (str : ∀ s, motive (.str s))
    (sym : ∀ name, motive (.sym name))
    (list : ∀ items, (∀ item ∈ items, motive item) → motive (.list items))
    (tuple : ∀ items, (∀ item ∈ items, motive item) → motive (.tuple items))
    (foreign : ∀ kind text, motive (.foreign kind text))
    (node : ∀ id type loc children,
      (∀ child ∈ children, motive child) → motive (.node id type loc children)) :
    ∀ value, motive value := by
  intro value
  refine Value.rec (motive_1 := motive) (motive_2 := fun values => ∀ value ∈ values, motive value)
    absent bool int float str sym list tuple foreign node ?_ ?_ value
  · intro other member
    cases member
  · intro head tail headHolds tailHolds other member
    cases member with
    | head => exact headHolds
    | tail _ inTail => exact tailHolds other inTail

theorem mem_builtNodesAmong {node : Node} {values : List Value} :
    node ∈ builtNodesAmong values ↔ ∃ value ∈ values, node ∈ value.builtNodes := by
  induction values with
  | nil => simp [builtNodesAmong]
  | cons value rest induction => simp [builtNodesAmong, induction]

theorem mem_builtNodes_self {value : Value} {node : Node} (hnode : value.node? = some node) :
    node ∈ value.builtNodes := by
  rw [eq_toValue hnode, Node.toValue, builtNodes]
  simp

theorem childNodes_builtNodes (value : Value) :
    ∀ node ∈ value.builtNodes, ∀ child ∈ node.childNodes, child ∈ value.builtNodes := by
  have among : ∀ {values : List Value},
      (∀ item ∈ values, ∀ node ∈ item.builtNodes, ∀ child ∈ node.childNodes,
        child ∈ item.builtNodes) →
      ∀ node ∈ builtNodesAmong values, ∀ child ∈ node.childNodes,
        child ∈ builtNodesAmong values := by
    intro values each node member child inNode
    obtain ⟨item, inValues, inItem⟩ := mem_builtNodesAmong.mp member
    exact mem_builtNodesAmong.mpr ⟨item, inValues, each item inValues node inItem child inNode⟩
  induction value using induct with
  | list items each => exact among each
  | tuple items each => exact among each
  | node id type loc children each =>
      intro node member child inNode
      rw [builtNodes, List.mem_append, List.mem_singleton] at member ⊢
      rcases member with hbelow | rfl
      · exact .inl (among each node hbelow child inNode)
      · obtain ⟨value, inChildren, hvalue⟩ := List.mem_filterMap.mp inNode
        exact .inl (mem_builtNodesAmong.mpr ⟨value, inChildren, mem_builtNodes_self hvalue⟩)
  | _ =>
      intro node member
      cases member

/-- The nodes of a numbered value have consecutive numbers in the order in which they are built. -/
def NumbersApart (value : Value) : Prop :=
  ∀ next, (value.numbered next).2 = next + value.builtNodes.length ∧
    (value.numbered next).1.builtNodes.map Node.id = List.range' next value.builtNodes.length

theorem numberedAll_apart {values : List Value} (each : ∀ value ∈ values, value.NumbersApart)
    (next : Nat) :
    (numberedAll next values).2 = next + (builtNodesAmong values).length ∧
      (builtNodesAmong (numberedAll next values).1).map Node.id =
        List.range' next (builtNodesAmong values).length := by
  induction values generalizing next with
  | nil => exact ⟨rfl, rfl⟩
  | cons value rest induction =>
      obtain ⟨hfirst, hids⟩ := each value (by simp) next
      obtain ⟨hlast, hothers⟩ := induction (fun other member => each other (by simp [member]))
        (next + value.builtNodes.length)
      simp only [numberedAll, builtNodesAmong, hfirst, List.map_append, List.length_append, hids,
        hothers, hlast, List.range'_append_1]
      exact ⟨Nat.add_assoc .., trivial⟩

theorem numbersApart (value : Value) : value.NumbersApart := by
  induction value using induct with
  | list items each | tuple items each =>
      intro next
      simpa only [numbered, builtNodes] using numberedAll_apart each next
  | node id type loc children each =>
      intro next
      obtain ⟨hlast, hids⟩ := numberedAll_apart each next
      simp only [numbered, builtNodes, List.map_append, hids, hlast, List.length_append,
        List.map_singleton, List.length_singleton, ← List.range'_append_1]
      exact ⟨rfl, rfl⟩
  | _ => exact fun next => ⟨rfl, rfl⟩

end Value

namespace Document

structure Faithful (document : Document) : Prop where
  identified : ∀ node ∈ document.nodes, ∀ other ∈ document.nodes, node.id = other.id → node = other
  closed : ∀ node ∈ document.nodes, ∀ child ∈ node.childNodes, child ∈ document.nodes

theorem identified_of_ids {nodes : List Node} {start count : Nat}
    (hids : nodes.map Node.id = List.range' start count) :
    ∀ node ∈ nodes, ∀ other ∈ nodes, node.id = other.id → node = other := by
  have hnodup : (nodes.map Node.id).Nodup := by
    rw [hids]
    exact List.nodup_range'
  intro node member other inNodes hid
  exact List.inj_on_of_nodup_map hnodup member inNodes hid

theorem faithful_ofNode (root : Node) (source : String) : (ofNode root source).Faithful := by
  obtain ⟨id, type, loc, children⟩ := root
  have hnodes : (ofNode ⟨id, type, loc, children⟩ source).nodes =
      ((Value.node id type loc children).numbered 0).1.builtNodes := rfl
  refine ⟨?_, ?_⟩
  · rw [hnodes]
    exact identified_of_ids (Value.numbersApart _ 0).2
  · rw [hnodes]
    exact Value.childNodes_builtNodes _

theorem mem_of_mapM {f : α → Except ε β} {values : List α} {results : List β}
    (hresults : values.mapM f = .ok results) {result : β} (member : result ∈ results) :
    ∃ value ∈ values, f value = .ok result := by
  induction values generalizing results with
  | nil =>
      cases hresults
      cases member
  | cons value rest induction =>
      rw [List.mapM_cons] at hresults
      obtain ⟨first, hfirst, hlater⟩ := bind_ok hresults
      obtain ⟨others, hothers, hall⟩ := bind_ok hlater
      cases hall
      cases member with
      | head => exact ⟨value, by simp, hfirst⟩
      | tail _ inOthers =>
          obtain ⟨origin, inRest, horigin⟩ := induction hothers inOthers
          exact ⟨origin, by simp [inRest], horigin⟩

def Entry.IsPlain (entry : Entry) : Prop :=
  ∀ value, .atom value ∈ entry.children → value.node? = none

theorem nodes_make {made after : Array Node} {entry : Entry} (hplain : entry.IsPlain)
    (hmake : entry.make made = .ok after) :
    ∃ node : Node, after.toList = made.toList ++ [node] ∧ node.id = made.size ∧
      ∀ child ∈ node.childNodes, child ∈ made.toList := by
  obtain ⟨loc, -, hrest⟩ := bind_ok hmake
  obtain ⟨children, hchildren, hpushed⟩ := bind_ok hrest
  cases hpushed
  refine ⟨⟨made.size, entry.type, loc, children⟩, Array.toList_push, rfl, ?_⟩
  intro child member
  obtain ⟨value, inChildren, hvalue⟩ := List.mem_filterMap.mp member
  obtain ⟨given, inEntry, hgiven⟩ := mem_of_mapM hchildren inChildren
  cases given with
  | atom atom =>
      cases hgiven
      rw [hplain _ inEntry] at hvalue
      cases hvalue
  | entry index =>
      unfold EntryChild.resolve at hgiven
      dsimp only at hgiven
      cases hfound : made[index]? with
      | none =>
          rw [hfound] at hgiven
          cases hgiven
      | some node =>
          rw [hfound] at hgiven
          cases hgiven
          cases hvalue
          exact Array.mem_toList_iff.mpr (Array.mem_of_getElem? hfound)

structure Made (nodes : List Node) : Prop where
  ids : nodes.map Node.id = List.range' 0 nodes.length
  closed : ∀ node ∈ nodes, ∀ child ∈ node.childNodes, child ∈ nodes

theorem made_foldlM {entries : List Entry} (hplain : ∀ entry ∈ entries, entry.IsPlain)
    {before after : Array Node} (hmade : entries.foldlM Entry.make before = .ok after)
    (made : Made before.toList) : Made after.toList := by
  induction entries generalizing before with
  | nil =>
      cases hmade
      exact made
  | cons entry rest induction =>
      rw [List.foldlM_cons] at hmade
      obtain ⟨middle, hmiddle, hrest⟩ := bind_ok hmade
      obtain ⟨node, hnodes, hid, hchildren⟩ := nodes_make (hplain entry (by simp)) hmiddle
      refine induction (fun other member => hplain other (by simp [member])) hrest ⟨?_, ?_⟩
      · rw [hnodes, List.map_append, made.ids, List.length_append, List.map_singleton, hid,
          List.length_singleton, ← List.range'_append_1]
        simp
      · rw [hnodes]
        intro other member child inOther
        rw [List.mem_append] at member ⊢
        rcases member with hold | hnew
        · exact .inl (made.closed other hold child inOther)
        · rw [List.mem_singleton] at hnew
          rw [hnew] at inOther
          exact .inl (hchildren child inOther)

/-- The document of a list of entries is faithful, though they may share children. -/
theorem faithful_ofEntries {entries : List Entry} (hplain : ∀ entry ∈ entries, entry.IsPlain)
    {source : Option String} {document : Document}
    (hdocument : ofEntries entries source = .ok document) : document.Faithful := by
  obtain ⟨made, hmade, hlast⟩ := bind_ok hdocument
  have hnodes := made_foldlM hplain hmade ⟨rfl, fun node member => by cases member⟩
  cases hroot : made.back? with
  | none =>
      rw [hroot] at hlast
      cases hlast
  | some root =>
      rw [hroot] at hlast
      cases hlast
      have hall : nodes ⟨made.pop.toList, root, source⟩ = made.toList := by
        rw [nodes, Array.toList_pop]
        exact List.dropLast_append_getLast? root (by rw [Array.getLast?_toList]; exact hroot)
      refine ⟨?_, ?_⟩
      · rw [hall]
        exact identified_of_ids hnodes.ids
      · rw [hall]
        exact hnodes.closed

def Knows (document : Document) (value : Value) : Prop :=
  ∀ node, value.node? = some node → node ∈ document.nodes

theorem knows_above {document : Document} {value above : Value}
    (habove : document.above value = some above) : document.Knows above := by
  obtain ⟨node, -, rfl⟩ := Option.map_eq_some_iff.mp habove
  intro found hfound
  cases hparent : document.parent? node.id with
  | none =>
      rw [hparent] at hfound
      cases hfound
  | some parent =>
      rw [hparent] at hfound
      cases hfound
      exact List.mem_reverse.mp (List.mem_of_find?_eq_some hparent)

theorem Faithful.knows_child {document : Document} (faithful : document.Faithful) {node : Node}
    (member : node ∈ document.nodes) : ∀ child ∈ node.children, document.Knows child :=
  fun child inNode found hfound =>
    faithful.closed node member found (List.mem_filterMap.mpr ⟨child, inNode, hfound⟩)

end Document

end TreeMatch
