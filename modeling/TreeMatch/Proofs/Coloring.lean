import Mathlib.Data.List.Induction
import TreeMatch.Painting
import TreeMatch.Proofs.Compiled
import TreeMatch.Proofs.Excision

/-! The colors of a text: each character has the status of the last node that covers it. Of an
s-expression that is the innermost list around the character. -/

namespace TreeMatch

variable {chart : Text.CodeChart}

namespace Node

variable {root node other : Node} {offset : Nat}

/-- The last node that covers an offset, in the order in which a tree is painted. -/
def painter? (root : Node) (offset : Nat) : Option Node :=
  (root.eachNode.filter (·.Covers offset)).getLast?

/-- A node that covers an offset and is below all others that do. -/
structure IsInnermost (root : Node) (offset : Nat) (node : Node) : Prop where
  member : node ∈ root.eachNode
  covers : node.Covers offset
  within : ∀ other ∈ root.eachNode, other.Covers offset → node ∈ other.eachNode

theorem covers_iff_mem_offsets {loc : Range} (hloc : node.loc = some loc) :
    node.Covers offset ↔ offset ∈ loc.offsets := by
  rw [Covers, hloc, Range.offsets, List.mem_range'_1]
  simp [Range.stop]

theorem distinctNodes_eq (hdistinct : (root.eachNode.map Node.id).Nodup) :
    root.distinctNodes = root.eachNode := by
  have hfold : ∀ (nodes seen : List Node), ((seen ++ nodes).map Node.id).Nodup →
      nodes.foldl (fun seen n => if seen.any (·.id == n.id) then seen else seen ++ [n]) seen =
        seen ++ nodes := by
    intro nodes
    induction nodes with
    | nil => exact fun seen _ => (List.append_nil seen).symm
    | cons node rest induction =>
        intro seen hnodup
        have hnew : seen.any (·.id == node.id) = false := by
          rw [List.map_append, List.nodup_append] at hnodup
          refine List.any_eq_false.mpr fun other member => ?_
          have hapart := hnodup.2.2 other.id (List.mem_map_of_mem member) node.id
            (List.mem_map_of_mem List.mem_cons_self)
          simpa using hapart
        rw [List.append_cons] at hnodup ⊢
        rw [List.foldl_cons, hnew]
        exact induction (seen ++ [node]) hnodup
  exact hfold root.eachNode [] hdistinct

theorem painter?_eq_some (hpainter : root.painter? offset = some node) :
    node ∈ root.eachNode ∧ node.Covers offset := by
  have member := List.mem_of_getLast? hpainter
  simpa using List.mem_filter.mp member

theorem painter?_eq_none :
    root.painter? offset = none ↔ ∀ node ∈ root.eachNode, ¬ node.Covers offset := by
  rw [painter?, List.getLast?_eq_none_iff, List.filter_eq_nil_iff]
  simp

/-- No node below the painter has the offset in its range: it would be painted later. -/
theorem not_covers_below (hdistinct : (root.eachNode.map Node.id).Nodup)
    (hpainter : root.painter? offset = some node) :
    ∀ below ∈ node.descendants, ¬ below.Covers offset := by
  intro below member covers
  obtain ⟨hnode, hcovers⟩ := painter?_eq_some hpainter
  have hsub := (Value.sublist_eachNode hnode).filter (·.Covers offset)
  rw [eachNode_eq_cons, List.filter_cons, if_pos (decide_eq_true hcovers),
    List.cons_sublist_iff] at hsub
  obtain ⟨before, behind, hsplit, hbefore, hlater⟩ := hsub
  have hbelow : below ∈ behind :=
    hlater.subset (List.mem_filter.mpr ⟨member, decide_eq_true covers⟩)
  have hnodup : (before ++ behind).Nodup :=
    hsplit ▸ (List.Nodup.of_map Node.id hdistinct).filter _
  have hlast : (before ++ behind).getLast? = some node := hsplit ▸ hpainter
  rw [List.getLast?_append_of_ne_nil _ (List.ne_nil_of_mem hbelow)] at hlast
  exact (List.nodup_append.mp hnodup).2.2 node hbefore node (List.mem_of_getLast? hlast) rfl

/-- In a tree whose lists stand as they are nested, the painter is the innermost node. -/
theorem painter?_eq_some_iff {text : List Char} {low high : Nat}
    (stands : root.toValue.Stands text low high) (hdistinct : (root.eachNode.map Node.id).Nodup) :
    root.painter? offset = some node ↔ root.IsInnermost offset node := by
  have hinnermost : ∀ {node}, root.painter? offset = some node → root.IsInnermost offset node := by
    intro node hpainter
    obtain ⟨hnode, covers⟩ := painter?_eq_some hpainter
    refine ⟨hnode, covers, fun other hother covers' => ?_⟩
    rcases stands.nested hnode covers hother covers' with hwithin | hbelow
    · exact hwithin
    · rw [eachNode_eq_cons, List.mem_cons] at hbelow
      rcases hbelow with rfl | hbelow
      · rw [eachNode_eq_cons]
        exact List.mem_cons_self
      · exact absurd covers' (not_covers_below hdistinct hpainter other hbelow)
  refine ⟨hinnermost, fun innermost => ?_⟩
  cases hpainter : root.painter? offset with
  | none => exact absurd innermost.covers (painter?_eq_none.mp hpainter node innermost.member)
  | some painter =>
      obtain ⟨member, covers, -⟩ := hinnermost hpainter
      have hwithin := innermost.within painter member covers
      rw [eachNode_eq_cons, List.mem_cons] at hwithin
      rcases hwithin with rfl | hbelow
      · rfl
      · exact absurd innermost.covers (not_covers_below hdistinct hpainter node hbelow)

theorem covers_of_below {text : List Char} {low high : Nat}
    (stands : root.toValue.Stands text low high) (member : node ∈ root.eachNode)
    (covers : node.Covers offset) : root.Covers offset := by
  rw [eachNode_eq_cons, List.mem_cons] at member
  rcases member with rfl | hbelow
  · exact covers
  · obtain ⟨inner, outer, hinner, houter, hstart, hstop⟩ := stands.strictly_inside hbelow
    obtain ⟨loc, hloc, hfirst, hlast⟩ := covers
    cases hinner.symm.trans hloc
    exact ⟨outer, houter, by omega, by omega⟩

end Node

namespace Painting

variable {painting : Painting} {text : List Char}

/-- The status that the character at an offset is shown with. -/
def colorAt (painting : Painting) (offset : Nat) : MatchStatus :=
  ((painting.root.painter? offset).map painting.status).getD .notVisitable

theorem getElem?_setAll (offsets : List Nat) (status : MatchStatus) (colors : Array MatchStatus)
    (offset : Nat) :
    (offsets.foldl (fun colors offset => colors.setIfInBounds offset status) colors)[offset]? =
      if offset ∈ offsets then colors[offset]?.map fun _ => status else colors[offset]? := by
  induction offsets generalizing colors with
  | nil => rfl
  | cons first rest induction =>
      rw [List.foldl_cons, induction, Array.getElem?_setIfInBounds]
      by_cases hfirst : first = offset
      · subst hfirst
        rw [if_pos rfl, if_pos List.mem_cons_self]
        split <;> split <;> simp_all
      · simp [hfirst, List.mem_cons, Ne.symm hfirst]

theorem getElem?_paint (colors : Array MatchStatus) (entry : Node × MatchStatus) (offset : Nat) :
    (paint colors entry)[offset]? =
      if entry.1.Covers offset then colors[offset]?.map fun _ => entry.2 else colors[offset]? := by
  unfold paint
  cases hloc : entry.1.loc with
  | none =>
      have hnot : ¬ entry.1.Covers offset := by
        rintro ⟨loc, hsome, -⟩
        cases hloc.symm.trans hsome
      rw [if_neg hnot]
  | some loc =>
      rw [getElem?_setAll]
      exact if_congr (Node.covers_iff_mem_offsets hloc).symm rfl rfl

theorem getElem?_paintAll (entries : List (Node × MatchStatus)) (colors : Array MatchStatus)
    (offset : Nat) :
    (entries.foldl paint colors)[offset]? = colors[offset]?.map fun old =>
      ((entries.filter (·.1.Covers offset)).getLast?.map Prod.snd).getD old := by
  induction entries using List.reverseRecOn with
  | nil => exact Option.map_id'.symm
  | append_singleton entries entry induction =>
      rw [List.foldl_append, List.foldl_cons, List.foldl_nil, getElem?_paint, induction,
        List.filter_append, List.filter_cons, List.filter_nil]
      by_cases covers : entry.1.Covers offset
      · rw [if_pos covers, if_pos (decide_eq_true covers), List.getLast?_concat, Option.map_map]
        rfl
      · rw [if_neg covers, if_neg (by simpa using covers), List.append_nil]

theorem colorMap_eq (hsource : painting.source = .ok text)
    (hdistinct : (painting.root.eachNode.map Node.id).Nodup) :
    painting.colorMap = .ok (text.zip ((List.range text.length).map painting.colorAt)) := by
  have hcolors : (painting.matchMap.foldl paint
      (Array.replicate text.length MatchStatus.notVisitable)).toList =
        (List.range text.length).map painting.colorAt := by
    refine List.ext_getElem? fun offset => ?_
    rw [Array.getElem?_toList, getElem?_paintAll, matchMap, Node.distinctNodes_eq hdistinct,
      List.filter_map, List.getLast?_map, Option.map_map, Array.getElem?_replicate,
      List.getElem?_map]
    by_cases hoffset : offset < text.length
    · rw [if_pos hoffset, List.getElem?_range hoffset]
      rfl
    · rw [if_neg hoffset, List.getElem?_eq_none (by simpa using hoffset)]
      rfl
  rw [colorMap, hsource]
  exact congrArg (fun colors => Except.ok (text.zip colors)) hcolors

/-- Each character has the status of the last node that covers it. In an s-expression that is the
innermost list around it, and nothing outside the outermost list is reached by the pattern. -/
theorem colorMap_paints (chart : Text.CodeChart) :
    (∀ (painting : Painting) (text : List Char), painting.source = .ok text →
      (painting.root.eachNode.map Node.id).Nodup →
        painting.colorMap = .ok (text.zip ((List.range text.length).map painting.colorAt)) ∧
        ∀ offset node, painting.root.painter? offset = some node →
          ∀ below ∈ node.descendants, ¬ below.Covers offset) ∧
    ∀ (painting : Painting) (text : String), Sexp.readDocument chart text = .ok painting.document →
      painting.root ∈ painting.document.root.eachNode →
        painting.source = .ok text.toList ∧ (painting.root.eachNode.map Node.id).Nodup ∧
        (∀ node ∈ painting.root.eachNode, ∃ loc, node.loc = some loc ∧
          loc.stop ≤ text.toList.length ∧ loc.IsBracketed text.toList ∧
          Zone.plain.closing 0 (loc.slice text.toList) = some loc.size) ∧
        (∀ offset node,
          painting.root.painter? offset = some node ↔ painting.root.IsInnermost offset node) ∧
        ∀ offset, ¬ painting.root.Covers offset → painting.colorAt offset = .notVisitable := by
  refine ⟨fun painting text hsource hdistinct => ?_, fun painting text hread hroot => ?_⟩
  · exact ⟨colorMap_eq hsource hdistinct, fun _ _ => Node.not_covers_below hdistinct⟩
  obtain ⟨tree, htext⟩ := Sexp.isTree_of_readDocument hread
  have stands := (Sexp.stands_of_readDocument hread).of_mem hroot
  have hdistinct : (painting.root.eachNode.map Node.id).Nodup :=
    tree.once.sublist ((Value.sublist_eachNode hroot).map Node.id)
  refine ⟨?_, hdistinct, fun node member => ?_, fun offset node =>
    Node.painter?_eq_some_iff stands hdistinct, fun offset hnot => ?_⟩
  · rw [source, Document.sourceOf, tree.roots _ hroot, if_pos rfl, htext]
  · obtain ⟨loc, hloc, -, hstop, brackets, -⟩ := stands.of_mem member
    have hnode := (Value.sublist_eachNode hroot).subset member
    obtain ⟨place, excerpt, standsAt⟩ := Sexp.standsAt_of_readDocument hread node hnode
    cases hloc.symm.trans standsAt.placed
    have hexcerpt := standsAt.text.symm.trans (tree.texts node hnode loc hloc)
    have hmatched := standsAt.matched
    rw [Option.some.inj hexcerpt, String.toList_ofList, Range.length_slice hstop] at hmatched
    exact ⟨loc, hloc, hstop, brackets, hmatched⟩
  · have hnone : painting.root.painter? offset = none :=
      Node.painter?_eq_none.mpr fun node member covers =>
        hnot (Node.covers_of_below stands member covers)
    rw [colorAt, hnone]
    rfl

/-- A blank, and a list in a list: each parenthesis belongs to its own list. -/
theorem colorMap_paints_nested :
    let matcher := Matcher.ofPattern "_" (.leaf ⟨0, 1⟩ (.wildcard "")) true "m"
    ∃ document, Sexp.readDocument Text.basicLatin " (a (b))" = .ok document ∧
      let painting : Painting := ⟨matcher, document, document.root, Trace.empty, .absent⟩
      painting.source = .ok " (a (b))".toList ∧
      painting.colorMap = .ok (" (a (b))".toList.zip ((List.range 8).map painting.colorAt)) ∧
      painting.colorAt 0 = .notVisitable ∧
      (∃ inner, painting.root.IsInnermost 4 inner ∧ inner.type = "b") ∧
      (∃ outer, painting.root.IsInnermost 7 outer ∧ outer.type = "a") := by
  intro matcher
  let root : Node := ⟨0, "a", some ⟨1, 7⟩, [.node 0 "b" (some ⟨4, 3⟩) []]⟩
  have hread : Sexp.readDocument Text.basicLatin " (a (b))" =
      .ok (Document.ofNode root " (a (b))") := by
    cbv
  let painting : Painting :=
    ⟨matcher, Document.ofNode root " (a (b))", (Document.ofNode root " (a (b))").root,
      Trace.empty, .absent⟩
  have hroot : painting.root ∈ painting.document.root.eachNode := Document.root_mem_eachNode
  obtain ⟨hsource, hdistinct, -, hinnermost, houtside⟩ :=
    (colorMap_paints Text.basicLatin).2 painting " (a (b))" hread hroot
  obtain ⟨hcolors, -⟩ := (colorMap_paints Text.basicLatin).1 painting _ hsource hdistinct
  refine ⟨_, hread, hsource, hcolors, houtside 0 (by decide), ?_, ?_⟩
  · exact ⟨_, (hinnermost 4 _).mp rfl, rfl⟩
  · exact ⟨_, (hinnermost 7 _).mp rfl, rfl⟩

end Painting

end TreeMatch
