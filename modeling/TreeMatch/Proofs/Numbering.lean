import TreeMatch.Proofs.Truth

/-! The numbers that a recording matcher gives to the nodes of its term. -/

namespace TreeMatch

variable {chart : Text.CodeChart}

namespace Term

theorem mem_walkAll {part : Term} {terms : List Term} :
    part ∈ walkAll terms ↔ ∃ term ∈ terms, part ∈ term.walk := by
  induction terms with
  | nil => simp [walkAll]
  | cons term rest induction => simp [walkAll, induction]

theorem mem_walk_self {term : Term} (hnode : term.isNode = true) : term ∈ term.walk := by
  cases term with
  | atom value => cases hnode
  | node key tag loc children => exact List.mem_cons_self

theorem walk_trans {below part whole : Term} (hbelow : below ∈ part.walk)
    (hpart : part ∈ whole.walk) : below ∈ whole.walk := by
  induction whole using induct with
  | atom value => cases hpart
  | node key tag loc children each =>
      rw [walk, List.mem_cons] at hpart
      rcases hpart with rfl | hpart
      · exact hbelow
      · obtain ⟨child, inChildren, inChild⟩ := mem_walkAll.mp hpart
        have hchild := each child inChildren inChild
        exact List.mem_cons_of_mem _ (mem_walkAll.mpr ⟨child, inChildren, hchild⟩)

theorem walk_childNodes {child node : Term} (member : child ∈ node.childNodes) :
    child ∈ node.walk := by
  obtain ⟨inChildren, hnode⟩ := List.mem_filter.mp member
  cases node with
  | atom value => cases inChildren
  | node key tag loc children =>
      exact List.mem_cons_of_mem _ (mem_walkAll.mpr ⟨child, inChildren, mem_walk_self hnode⟩)

end Term

namespace Pattern

theorem findIdx?_partTerms {next index : Nat} {parts : List (Pattern Leaf)}
    (hindex : index < parts.length) :
    (partTerms next parts).findIdx? (fun known => known.key? == some (next + index)) =
      some index := by
  induction parts generalizing next index with
  | nil => cases hindex
  | cons part rest induction =>
      rw [partTerms, List.findIdx?_cons, key?_termFrom]
      cases index with
      | zero => simp
      | succ index =>
          have hother : (some next == some (next + (index + 1))) = false := by simp
          have hrest := @induction (next + 1) index (Nat.lt_of_succ_lt_succ hindex)
          rw [show next + 1 + index = next + (index + 1) by omega] at hrest
          rw [hother, hrest]
          rfl

theorem key_of_mem_walk {pattern : Pattern Leaf} {next : Nat} {node : Term}
    (member : node ∈ (pattern.termFrom next).walk) :
    ∃ id, node.key? = some id ∧ next ≤ id ∧ id < next + pattern.size := by
  rw [walk_termFrom] at member
  obtain ⟨index, part, hpart, rfl⟩ := mem_partTerms.mp member
  obtain ⟨hindex, -⟩ := List.getElem?_eq_some_iff.mp hpart
  exact ⟨next + index, key?_termFrom part _, Nat.le_add_right .., Nat.add_lt_add_left hindex next⟩

end Pattern

namespace Matcher

variable {text name : String} {pattern : Pattern Leaf}

theorem read_of_compile {recording : Bool} {matcher : Matcher}
    (hcompile : compile chart .node (.text text) recording name = .ok matcher) :
    ∃ pattern, Pattern.read chart text.toList = .ok pattern := by
  cases hread : Pattern.read chart text.toList with
  | ok pattern => exact ⟨pattern, rfl⟩
  | error fault =>
      have hterm : (PatternInput.text text).toTerm chart =
          .error (Failure.ofPatternFault text.toList fault) := by
        unfold PatternInput.toTerm
        dsimp only
        rw [hread]
      unfold compile at hcompile
      rw [hterm] at hcompile
      cases hcompile

@[simp] theorem term_ofPattern (recording : Bool) :
    (ofPattern text pattern recording name).term = pattern.termFrom 0 := rfl

theorem get?_ofPattern {node : Term} (member : node ∈ (pattern.termFrom 0).walk) :
    (ofPattern text pattern true name).ids.get? node = node.key? := by
  rw [Pattern.walk_termFrom] at member
  obtain ⟨index, part, hpart, rfl⟩ := Pattern.mem_partTerms.mp member
  obtain ⟨hindex, -⟩ := List.getElem?_eq_some_iff.mp hpart
  rw [NodeIds.get?, ids_ofPattern, Pattern.key?_termFrom, Pattern.findIdx?_partTerms hindex,
    Nat.zero_add]

end Matcher

end TreeMatch
