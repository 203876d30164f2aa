import Mathlib.Data.List.Forall2
import TreeMatch.Proofs.Blueprint

/-! The terms behind the head of a sequence: at most one of them stands for a run of children. -/

namespace TreeMatch

namespace Pattern

inductive Layout : List (Pattern Leaf) → Prop
  | fixed (terms : List (Pattern Leaf)) (hfixed : ∀ term ∈ terms, term.isVariadic = false) :
      Layout terms
  | split (before : List (Pattern Leaf)) (middle : Pattern Leaf) (after : List (Pattern Leaf))
      (hbefore : ∀ term ∈ before, term.isVariadic = false)
      (hmiddle : middle.isVariadic = true)
      (hafter : ∀ term ∈ after, term.isVariadic = false) :
      Layout (before ++ middle :: after)

theorem filter_isVariadic_of_fixed {terms : List (Pattern Leaf)}
    (hfixed : ∀ term ∈ terms, term.isVariadic = false) : terms.filter isVariadic = [] := by
  rw [List.filter_eq_nil_iff]
  intro term member
  rw [hfixed term member]
  exact Bool.false_ne_true

theorem layout_or_second (terms : List (Pattern Leaf)) :
    Layout terms ∨ ∃ single second rest, terms.filter isVariadic = single :: second :: rest := by
  cases hvariadic : terms.filter isVariadic with
  | nil =>
      refine .inl (.fixed terms ?_)
      intro term member
      have hnot := List.filter_eq_nil_iff.mp hvariadic term member
      simpa using hnot
  | cons single more =>
      cases more with
      | cons second rest => exact .inr ⟨single, second, rest, rfl⟩
      | nil =>
          obtain ⟨before, after, rfl, hbefore, hsingle, hafter⟩ :=
            List.filter_eq_cons_iff.mp hvariadic
          refine .inl (.split before single after ?_ hsingle ?_)
          · intro term member
            simpa using hbefore term member
          · intro term member
            have hnot := List.filter_eq_nil_iff.mp hafter term member
            simpa using hnot

theorem crowding?_of_layout {terms : List (Pattern Leaf)} (layout : Layout terms) :
    crowding? terms = none := by
  cases layout with
  | fixed _ hfixed => rw [crowding?, filter_isVariadic_of_fixed hfixed]
  | split before middle after hbefore hmiddle hafter =>
      rw [crowding?, List.filter_append, filter_isVariadic_of_fixed hbefore,
        List.filter_cons_of_pos hmiddle, filter_isVariadic_of_fixed hafter]
      rfl

theorem crowding?_of_second {terms rest : List (Pattern Leaf)} {single second : Pattern Leaf}
    (hsecond : terms.filter isVariadic = single :: second :: rest) :
    crowding? terms = some (.multipleVariadic, second.loc) := by
  rw [crowding?, hsecond]

theorem layout_of_crowding? {terms : List (Pattern Leaf)} (hnone : crowding? terms = none) :
    Layout terms := by
  rcases layout_or_second terms with layout | ⟨single, second, rest, hsecond⟩
  · exact layout
  · rw [crowding?_of_second hsecond] at hnone
    cases hnone

theorem length_filter_isVariadic {terms : List (Pattern Leaf)} (layout : Layout terms) :
    (terms.filter isVariadic).length ≤ 1 := by
  cases layout with
  | fixed _ hfixed => simp [filter_isVariadic_of_fixed hfixed]
  | split before middle after hbefore hmiddle hafter =>
      simp [filter_isVariadic_of_fixed hbefore, filter_isVariadic_of_fixed hafter, hmiddle]

section Fixed

variable {terms : List (Pattern Leaf)} (hfixed : ∀ term ∈ terms, term.isVariadic = false)
include hfixed

theorem findIdx?_fixed : terms.findIdx? isVariadic = none := by
  rw [List.findIdx?_eq_none_iff]
  exact hfixed

theorem placesOf_fixed (place : Place) :
    placesOf place terms = (List.range terms.length).map fun (i : Nat) => place.child i := by
  rw [placesOf, findIdx?_fixed hfixed]
  rfl

theorem countOf_fixed : countOf terms = .exactly terms.length := by
  have hnone : terms.find? isVariadic = none := by
    rw [List.find?_eq_none]
    intro term member
    rw [hfixed term member]
    exact Bool.false_ne_true
  rw [countOf, hnone]

end Fixed

section Split

variable {before : List (Pattern Leaf)} {middle : Pattern Leaf} (after : List (Pattern Leaf))
  (hbefore : ∀ term ∈ before, term.isVariadic = false) (hmiddle : middle.isVariadic = true)
include hbefore hmiddle

theorem findIdx?_split :
    (before ++ middle :: after).findIdx? isVariadic = some before.length := by
  rw [List.findIdx?_append, findIdx?_fixed hbefore, List.findIdx?_cons, hmiddle]
  simp

theorem placesOf_split (place : Place) :
    placesOf place (before ++ middle :: after) =
      ((List.range before.length).map fun (i : Nat) => place.child i) ++
        place.slice before.length after.length ::
          (List.range after.length).map fun (i : Nat) =>
            place.child ((i : Int) - after.length) := by
  have hlength : (before ++ middle :: after).length - before.length - 1 = after.length := by
    rw [List.length_append, List.length_cons]
    omega
  rw [placesOf, findIdx?_split after hbefore hmiddle, Compile.termPlaces, hlength]

theorem countOf_split :
    countOf (before ++ middle :: after) =
      Compile.countFor (before.length + after.length) middle.arity := by
  have hfind : (before ++ middle :: after).find? isVariadic = some middle := by
    have hnone : before.find? isVariadic = none := by
      rw [List.find?_eq_none]
      intro term member
      rw [hbefore term member]
      exact Bool.false_ne_true
    rw [List.find?_append, hnone, List.find?_cons, hmiddle]
    rfl
  have hlength : (before ++ middle :: after).length - 1 = before.length + after.length := by
    rw [List.length_append, List.length_cons]
    omega
  rw [countOf, hfind, hlength]

end Split

def Fits (place : Place) (term : Pattern Leaf) : Prop :=
  place.isSlice = term.isVariadic

theorem forall₂_fits {terms : List (Pattern Leaf)} {places : List Place}
    (hlength : places.length = terms.length) (hplaces : ∀ place ∈ places, place.isSlice = false)
    (hfixed : ∀ term ∈ terms, term.isVariadic = false) : List.Forall₂ Fits places terms := by
  induction terms generalizing places with
  | nil =>
      rw [List.length_eq_zero_iff.mp hlength]
      exact .nil
  | cons term rest induction =>
      cases places with
      | nil => cases hlength
      | cons place places =>
          refine .cons ?_ (induction (Nat.succ.inj hlength) ?_ ?_)
          · rw [Fits, hplaces place (by simp), hfixed term (by simp)]
          · exact fun other member => hplaces other (by simp [member])
          · exact fun other member => hfixed other (by simp [member])

theorem fits_placesOf (place : Place) {terms : List (Pattern Leaf)} (layout : Layout terms) :
    List.Forall₂ Fits (placesOf place terms) terms := by
  have hchildren : ∀ (count : Nat) (index : Nat → Int),
      ∀ child ∈ (List.range count).map fun (i : Nat) => place.child (index i),
        child.isSlice = false := by
    intro count index child member
    obtain ⟨i, -, rfl⟩ := List.mem_map.mp member
    rfl
  cases layout with
  | fixed terms hfixed =>
      rw [placesOf_fixed hfixed]
      exact forall₂_fits (by simp) (hchildren _ _) hfixed
  | split before middle after hbefore hmiddle hafter =>
      rw [placesOf_split after hbefore hmiddle]
      refine List.rel_append (forall₂_fits (by simp) (hchildren _ _) hbefore) (.cons ?_ ?_)
      · rw [Fits, hmiddle]
        rfl
      · exact forall₂_fits (by simp) (hchildren _ _) hafter

theorem holds_countFor {fixed number : Nat} {arity : Nat × Option Nat} :
    (Compile.countFor fixed arity).holds number = true ↔
      fixed + arity.1 ≤ number ∧ ∀ most, arity.2 = some most → number ≤ fixed + most := by
  obtain ⟨least, most⟩ := arity
  cases most <;> simp [Compile.countFor, Count.holds]

end Pattern

end TreeMatch
