import TreeMatch.Proofs.Numbering

/-! The numbers of nodes follow the order in which a walk meets them: each node before those below
it, and those before the ones behind it. -/

namespace TreeMatch

variable {chart : Text.CodeChart}

namespace Term

theorem walkAll_eq_flatten (terms : List Term) : walkAll terms = (terms.map walk).flatten := by
  induction terms with
  | nil => rfl
  | cons term rest induction => rw [walkAll, List.map_cons, List.flatten_cons, induction]

theorem sublist_walkAll {child : Term} {terms : List Term} (member : child ∈ terms) :
    child.walk.Sublist (walkAll terms) := by
  rw [walkAll_eq_flatten]
  exact List.sublist_flatten_of_mem (List.mem_map_of_mem member)

theorem sublist_walk {part whole : Term} (member : part ∈ whole.walk) :
    part.walk.Sublist whole.walk := by
  induction whole using induct with
  | atom value => cases member
  | node key tag loc children each =>
      rw [walk] at member ⊢
      rcases List.mem_cons.mp member with rfl | hbelow
      · exact .refl _
      · obtain ⟨child, hchild, hpart⟩ := mem_walkAll.mp hbelow
        exact ((each child hchild hpart).trans (sublist_walkAll hchild)).cons _

theorem walk_of_mem_walk {part whole : Term} (member : part ∈ whole.walk) :
    part.walk = part :: walkAll part.children := by
  induction whole using induct with
  | atom value => cases member
  | node key tag loc children each =>
      rcases List.mem_cons.mp member with rfl | hbelow
      · rfl
      · obtain ⟨child, hchild, hpart⟩ := mem_walkAll.mp hbelow
        exact each child hchild hpart

end Term

namespace NodeIds

/-- Both nodes are numbered, the first one with the smaller number. -/
def Before (ids : NodeIds) (node other : Term) : Prop :=
  ∃ number later, ids.get? node = some number ∧ ids.get? other = some later ∧ number < later

structure Follows (ids : NodeIds) (term : Term) : Prop where
  nodes : ids.nodes = term.walk
  numbers : ∀ (number : Nat) (node : Term), term.walk[number]? = some node →
    ids.get? node = some number
  only : ∀ (node : Term) (number : Nat), ids.get? node = some number →
    ∃ known, term.walk[number]? = some known ∧ known.key? = node.key?
  below : ∀ node ∈ term.walk, ∀ part ∈ Term.walkAll node.children, ids.Before node part
  siblings : ∀ node ∈ term.walk, node.childNodes.Pairwise fun first second =>
    ∀ part ∈ first.walk, ∀ other ∈ second.walk, ids.Before part other

variable {ids : NodeIds} {term : Term}

theorem pairwise_before (hnumbers : ∀ (number : Nat) (node : Term),
      term.walk[number]? = some node → ids.get? node = some number) :
    term.walk.Pairwise ids.Before := by
  rw [List.pairwise_iff_getElem]
  intro number later hnumber hlater hless
  exact ⟨number, later, hnumbers _ _ (List.getElem?_eq_getElem hnumber),
    hnumbers _ _ (List.getElem?_eq_getElem hlater), hless⟩

/-- It is enough that the nodes are listed as they are met, and found where they are listed. -/
theorem follows_of_nodes (hnodes : ids.nodes = term.walk)
    (hnumbers : ∀ (number : Nat) (node : Term), term.walk[number]? = some node →
      ids.get? node = some number) : ids.Follows term := by
  have hordered := pairwise_before hnumbers
  have hpart : ∀ node ∈ term.walk, (∀ part ∈ Term.walkAll node.children, ids.Before node part) ∧
      (Term.walkAll node.children).Pairwise ids.Before := by
    intro node member
    have hwalk := hordered.sublist (Term.sublist_walk member)
    rw [Term.walk_of_mem_walk member] at hwalk
    exact List.pairwise_cons.mp hwalk
  refine ⟨hnodes, hnumbers, ?_, fun node member => (hpart node member).1, ?_⟩
  · intro node number hnumber
    obtain ⟨hbound, hkey, -⟩ := List.findIdx?_eq_some_iff_getElem.mp hnumber
    refine ⟨ids.nodes[number], ?_, eq_of_beq hkey⟩
    rw [← hnodes]
    exact List.getElem?_eq_getElem hbound
  · intro node member
    have hbelow := (hpart node member).2
    rw [Term.walkAll_eq_flatten, List.pairwise_flatten, List.pairwise_map] at hbelow
    exact hbelow.2.sublist List.filter_sublist

end NodeIds

theorem NodeIds.Follows.map_get? {ids : NodeIds} {term : Term} (follows : ids.Follows term) :
    term.walk.map ids.get? = (List.range term.walk.length).map some := by
  refine List.ext_getElem (by simp) fun number hnumber _ => ?_
  rw [List.length_map] at hnumber
  rw [List.getElem_map, List.getElem_map, List.getElem_range]
  exact follows.numbers _ _ (List.getElem?_eq_getElem hnumber)

namespace Matcher

/-- The nodes of a pattern are numbered as a walk meets them, however often the text is
compiled. -/
theorem ids_follow_of_compile {text name : String} {matcher : Matcher}
    (hcompile : compile chart .node (.text text) true name = .ok matcher) :
    (PatternInput.text text).toTerm chart = .ok matcher.term ∧ matcher.ids.Follows matcher.term ∧
      ∀ (other : String) (again : Matcher),
        compile chart .node (.text text) true other = .ok again →
          again.term = matcher.term ∧ again.ids = matcher.ids := by
  obtain ⟨pattern, hread⟩ := read_of_compile hcompile
  obtain ⟨-, rfl⟩ := of_compile_text hread hcompile
  refine ⟨toTerm_text hread, NodeIds.follows_of_nodes ?_ ?_, fun other again hagain => ?_⟩
  · rw [ids_ofPattern, term_ofPattern, Pattern.walk_termFrom]
  · intro number node hnode
    rw [get?_ofPattern (List.mem_of_getElem? hnode)]
    rw [term_ofPattern, Pattern.walk_termFrom, Pattern.getElem?_partTerms] at hnode
    obtain ⟨part, -, rfl⟩ := Option.map_eq_some_iff.mp hnode
    rw [Pattern.key?_termFrom, Nat.zero_add]
  · obtain ⟨-, rfl⟩ := of_compile_text hread hagain
    have hids : ∀ wanted, (ofPattern text pattern true wanted).ids =
        ⟨Pattern.partTerms 0 pattern.walk⟩ :=
      fun wanted => congrArg NodeIds.mk (ids_ofPattern text pattern wanted)
    exact ⟨term_ofPattern true, (hids other).trans (hids name).symm⟩

/-- The terms of a sequence around a repetition, numbered across the passes in which they are
compiled. -/
theorem ids_follow_of_compile_sequence :
    ∃ matcher, compile Text.basicLatin .node (.text "(a $b c+ !d)") true "m" = .ok matcher ∧
      matcher.term.walk.map Term.tag =
        ["sequence", "node_type", "capture", "node_type", "repetition", "node_type", "negation",
          "node_type"] ∧
      matcher.term.walk.map matcher.ids.get? = (List.range 8).map some := by
  let pattern : Pattern Leaf := .grouped ⟨0, 12⟩ .sequence (.leaf ⟨1, 1⟩ (.nodeType "a"))
    [.marked ⟨3, 2⟩ .capture (.leaf ⟨4, 1⟩ (.nodeType "b")),
      .repeated ⟨6, 2⟩ (.leaf ⟨6, 1⟩ (.nodeType "c")) .atLeastOnce,
      .marked ⟨9, 2⟩ .negation (.leaf ⟨10, 1⟩ (.nodeType "d"))]
  have hread : Pattern.read Text.basicLatin "(a $b c+ !d)".toList = .ok pattern := by decide +kernel
  have hcompile := compile_text_eq_ok hread rfl (by cbv) rfl (by cbv) true "m"
  obtain ⟨-, follows, -⟩ := ids_follow_of_compile hcompile
  exact ⟨_, hcompile, rfl, follows.map_get?⟩

end Matcher

end TreeMatch
