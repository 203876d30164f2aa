import TreeMatch.Proofs.Numbering

/-! The sites that have a path: those of the parts outside all runs of children. -/

namespace TreeMatch

namespace Term

/-- The term stands, through captures only, for a run of children of any length. -/
def isVariadic : Term → Bool
  | atom _ => false
  | node _ tag _ (first :: _) =>
    if tag = Mark.capture.tag then isVariadic first
    else [TokenKind.rest.name, "repetition"].contains tag
  | node _ tag _ [] => [TokenKind.rest.name, "repetition"].contains tag

def InRun (nodes : List Term) (id : Nat) : Prop :=
  ∃ run ∈ nodes, run.isVariadic = true ∧ ∃ node ∈ run.walk, node.key? = some id

variable {front back nodes : List Term} {node : Term} {id : Nat}

theorem inRun_append : InRun (front ++ back) id ↔ InRun front id ∨ InRun back id := by
  simp only [InRun, List.mem_append, or_and_right, exists_or]

theorem inRun_cons (hfixed : node.isVariadic = false) :
    InRun (node :: nodes) id ↔ InRun nodes id := by
  constructor
  · rintro ⟨run, member, hvariadic, hincludes⟩
    rcases List.mem_cons.mp member with rfl | inNodes
    · rw [hfixed] at hvariadic
      cases hvariadic
    · exact ⟨run, inNodes, hvariadic, hincludes⟩
  · rintro ⟨run, inNodes, hvariadic, hincludes⟩
    exact ⟨run, List.mem_cons_of_mem _ inNodes, hvariadic, hincludes⟩

end Term

namespace Pattern

theorem isVariadic_termFrom (pattern : Pattern Leaf) (next : Nat) :
    (pattern.termFrom next).isVariadic = pattern.isVariadic := by
  induction pattern using induct generalizing next with
  | leaf loc value =>
      cases value with
      | wildcard name =>
          rw [termFrom_leaf, Leaf.atoms]
          split <;> rfl
      | _ => rfl
  | marked loc mark inner induction =>
      cases mark with
      | capture => exact induction (next + 1)
      | negation | ascend => rfl
  | repeated loc inner quantity induction => rfl
  | grouped loc bracket first others firstHolds othersHold =>
      rw [termFrom_grouped]
      cases bracket <;> rfl

end Pattern

/-! Nothing beyond a place without a path has one. -/

namespace Pattern

theorem length_placesOf (place : Place) (terms : List (Pattern Leaf)) :
    (placesOf place terms).length = terms.length := by
  unfold placesOf
  cases hsplit : terms.findIdx? isVariadic with
  | none => simp [Compile.termPlaces]
  | some split =>
      obtain ⟨hless, -⟩ := List.findIdx?_eq_some_iff_getElem.mp hsplit
      simp [Compile.termPlaces]
      omega

/-- The places of the terms are children of the node, but for those of runs. -/
theorem path?_isSome_of_mem_placesOf {place site : Place} {terms : List (Pattern Leaf)}
    (member : site ∈ placesOf place terms) :
    site.path?.isSome = (place.path?.isSome && !site.isSlice) := by
  have hchildren : ∀ (count : Nat) (index : Nat → Int),
      ∀ child ∈ (List.range count).map fun (i : Nat) => place.child (index i),
        child.path?.isSome = (place.path?.isSome && !child.isSlice) := by
    intro count index child inChildren
    obtain ⟨i, -, rfl⟩ := List.mem_map.mp inChildren
    simp [Place.path?, Place.isSlice]
  unfold placesOf at member
  cases hsplit : terms.findIdx? isVariadic with
  | none =>
      rw [hsplit] at member
      exact hchildren _ _ site member
  | some split =>
      rw [hsplit] at member
      rcases List.mem_append.mp member with inFront | inBack
      · exact hchildren _ _ site inFront
      · rcases List.mem_cons.mp inBack with rfl | inRest
        · simp [Place.path?, Place.isSlice]
        · exact hchildren _ _ site inRest

def StaysPathless (pattern : Pattern Leaf) : Prop :=
  ∀ place tally, place.path? = none → ∀ site ∈ pattern.sites place tally, site.2.path? = none

section Lists

variable {patterns : List (Pattern Leaf)} (each : ∀ pattern ∈ patterns, StaysPathless pattern)
include each

theorem pathless_memberSites {place : Place} (hplace : place.path? = none) (tally : Tally) :
    ∀ site ∈ memberSites place tally patterns, site.2.path? = none := by
  induction patterns generalizing tally with
  | nil => exact List.forall_mem_nil _
  | cons pattern rest induction =>
      refine List.forall_mem_append.mpr ⟨each pattern (by simp) place tally hplace, ?_⟩
      exact induction (fun other member => each other (by simp [member])) _

theorem pathless_termSites {places : List Place} (hlength : places.length = patterns.length)
    (hplaces : ∀ place ∈ places, place.path? = none) (tally : Tally) :
    ∀ site ∈ termSites places tally patterns, site.2.path? = none := by
  induction patterns generalizing places tally with
  | nil => exact List.forall_mem_nil _
  | cons pattern rest induction =>
      cases places with
      | nil => cases hlength
      | cons place places =>
          obtain ⟨hplace, hlater⟩ := List.forall_mem_cons.mp hplaces
          refine List.forall_mem_append.mpr ⟨each pattern (by simp) place tally hplace, ?_⟩
          exact induction (fun other member => each other (by simp [member]))
            (Nat.succ.inj hlength) hlater _

end Lists

theorem staysPathless (pattern : Pattern Leaf) : StaysPathless pattern := by
  induction pattern using induct with
  | leaf loc value =>
      intro place tally hplace
      exact List.forall_mem_singleton.mpr hplace
  | marked loc mark inner induction =>
      intro place tally hplace
      cases mark with
      | capture =>
          exact List.forall_mem_cons.mpr ⟨hplace, induction place tally.captured hplace⟩
      | negation => exact List.forall_mem_cons.mpr ⟨hplace, induction place tally.inner hplace⟩
      | ascend =>
          have hparent : place.parent.path? = none := by rw [Place.path?, hplace]; rfl
          exact List.forall_mem_cons.mpr ⟨hplace, induction place.parent tally.inner hparent⟩
  | repeated loc inner quantity induction =>
      intro place tally hplace
      exact List.forall_mem_cons.mpr ⟨hplace, induction _ tally.repeated rfl⟩
  | grouped loc bracket first others firstHolds othersHold =>
      intro place tally hplace
      have hfirst := firstHolds place tally.inner hplace
      have hmembers := pathless_memberSites othersHold hplace (tally.inner.after first)
      have hterms : ∀ site ∈ termSites (placesOf place others) (tally.inner.after first) others,
          site.2.path? = none := by
        apply pathless_termSites othersHold (length_placesOf place others)
        intro site member
        have hsome := path?_isSome_of_mem_placesOf member
        rw [hplace] at hsome
        exact Option.not_isSome_iff_eq_none.mp (by simp [hsome])
      cases bracket with
      | sequence =>
          exact List.forall_mem_cons.mpr ⟨hplace, List.forall_mem_append.mpr ⟨hfirst, hterms⟩⟩
      | union | intersection =>
          exact List.forall_mem_cons.mpr ⟨hplace, List.forall_mem_append.mpr ⟨hfirst, hmembers⟩⟩

end Pattern

/-- The sites and the nodes have numbers from `low` on and below `high`, and a site has no path
just if its node is in a run. -/
structure PathsOutsideRuns (low high : Nat) (sites : List (Nat × Place)) (nodes : List Term) :
    Prop where
  siteWithin : ∀ site ∈ sites, low ≤ site.1 ∧ site.1 < high
  runWithin : ∀ id, Term.InRun nodes id → low ≤ id ∧ id < high
  pathless : ∀ site ∈ sites, site.2.path? = none ↔ Term.InRun nodes site.1

namespace PathsOutsideRuns

variable {low middle high : Nat} {sites more : List (Nat × Place)} {nodes others : List Term}

theorem nil (low : Nat) : PathsOutsideRuns low low [] [] where
  siteWithin := List.forall_mem_nil _
  runWithin := fun _ ⟨_, member, _⟩ => absurd member List.not_mem_nil
  pathless := List.forall_mem_nil _

theorem append (first : PathsOutsideRuns low middle sites nodes)
    (second : PathsOutsideRuns middle high more others) (hlow : low ≤ middle)
    (hhigh : middle ≤ high) : PathsOutsideRuns low high (sites ++ more) (nodes ++ others) := by
  refine ⟨?_, ?_, ?_⟩
  · intro site member
    rcases List.mem_append.mp member with inFirst | inSecond
    · have := first.siteWithin site inFirst
      omega
    · have := second.siteWithin site inSecond
      omega
  · intro id inRun
    rcases Term.inRun_append.mp inRun with inFirst | inSecond
    · have := first.runWithin id inFirst
      omega
    · have := second.runWithin id inSecond
      omega
  · intro site member
    rw [Term.inRun_append]
    rcases List.mem_append.mp member with inFirst | inSecond
    · rw [first.pathless site inFirst, or_iff_left]
      intro inOther
      have := first.siteWithin site inFirst
      have := second.runWithin _ inOther
      omega
    · rw [second.pathless site inSecond, or_iff_right]
      intro inOther
      have := second.siteWithin site inSecond
      have := first.runWithin _ inOther
      omega

theorem cons (below : PathsOutsideRuns (low + 1) high sites nodes) {place : Place}
    (hplace : place.path?.isSome = true) {node : Term} (hfixed : node.isVariadic = false)
    (hless : low < high) : PathsOutsideRuns low high ((low, place) :: sites) (node :: nodes) := by
  refine ⟨?_, ?_, ?_⟩
  · refine List.forall_mem_cons.mpr ⟨⟨Nat.le_refl low, hless⟩, fun site member => ?_⟩
    have := below.siteWithin site member
    omega
  · intro id inRun
    have := below.runWithin id ((Term.inRun_cons hfixed).mp inRun)
    omega
  · simp only [Term.inRun_cons hfixed]
    refine List.forall_mem_cons.mpr ⟨⟨?_, ?_⟩, below.pathless⟩
    · intro hnone
      rw [hnone] at hplace
      cases hplace
    · intro inRun
      have := below.runWithin _ inRun
      omega

end PathsOutsideRuns

namespace Pattern

theorem pathsOutsideRuns_variadic {pattern : Pattern Leaf} (hvariadic : pattern.isVariadic = true)
    {place : Place} (hplace : place.path? = none) (tally : Tally) :
    PathsOutsideRuns tally.key (tally.key + pattern.size) (pattern.sites place tally)
      (pattern.termFrom tally.key).walk := by
  have hwithin : ∀ site ∈ pattern.sites place tally,
      tally.key ≤ site.1 ∧ site.1 < tally.key + pattern.size := by
    intro site member
    have hkey := List.mem_map_of_mem (f := Prod.fst) member
    rw [keys_sites] at hkey
    exact List.mem_range'_1.mp hkey
  refine ⟨hwithin, ?_, ?_⟩
  · rintro id ⟨run, inTerm, -, node, inRun, hkey⟩
    obtain ⟨known, hknown, hlower, hupper⟩ := key_of_mem_walk (Term.walk_trans inRun inTerm)
    cases Option.some.inj (hknown.symm.trans hkey)
    exact ⟨hlower, hupper⟩
  · intro site member
    refine iff_of_true (staysPathless pattern place tally hplace site member) ?_
    refine ⟨_, Term.mem_walk_self (isNode_termFrom pattern tally.key), ?_, ?_⟩
    · rw [isVariadic_termFrom, hvariadic]
    · obtain ⟨hlower, hupper⟩ := hwithin site member
      obtain ⟨offset, hoffset⟩ := Nat.exists_eq_add_of_le hlower
      have hinside : offset < pattern.walk.length := by
        rw [hoffset] at hupper
        exact Nat.lt_of_add_lt_add_left hupper
      refine ⟨(pattern.walk[offset]).termFrom site.1, ?_, key?_termFrom _ _⟩
      rw [walk_termFrom, mem_partTerms]
      exact ⟨offset, _, List.getElem?_eq_getElem hinside, by rw [hoffset]⟩

def KeepsPaths (pattern : Pattern Leaf) : Prop :=
  ∀ standing place tally, pattern.rejection? standing = none →
    place.path?.isSome = !pattern.isVariadic →
    PathsOutsideRuns tally.key (tally.key + pattern.size) (pattern.sites place tally)
      (pattern.termFrom tally.key).walk

section Lists

variable {patterns : List (Pattern Leaf)} (each : ∀ pattern ∈ patterns, KeepsPaths pattern)
include each

theorem pathsOutsideRuns_members {standing : Standing} (hstanding : standing ≠ .term)
    (hnone : rejectionAmong? standing patterns = none) {place : Place}
    (hplace : place.path?.isSome = true) (tally : Tally) :
    PathsOutsideRuns tally.key (tally.key + sizeAll patterns) (memberSites place tally patterns)
      (Term.walkAll (termsFrom tally.key patterns)) := by
  induction patterns generalizing tally with
  | nil => exact .nil _
  | cons pattern rest induction =>
      rw [rejectionAmong?, Option.or_eq_none_iff] at hnone
      have hfirst := each pattern (by simp) standing place tally hnone.1
        (by rw [not_isVariadic hnone.1 hstanding, hplace]; rfl)
      have hlater := induction (fun other member => each other (by simp [member])) hnone.2
        (tally.after pattern)
      rw [sizeAll_cons, ← Nat.add_assoc]
      exact hfirst.append hlater (Nat.le_add_right _ _) (Nat.le_add_right _ _)

theorem pathsOutsideRuns_terms (hnone : rejectionAmong? .term patterns = none)
    {places : List Place} (hplaces : List.Forall₂ (fun place (pattern : Pattern Leaf) =>
      place.path?.isSome = !pattern.isVariadic) places patterns) (tally : Tally) :
    PathsOutsideRuns tally.key (tally.key + sizeAll patterns) (termSites places tally patterns)
      (Term.walkAll (termsFrom tally.key patterns)) := by
  induction hplaces generalizing tally with
  | nil => exact .nil _
  | @cons place pattern places rest hplace _ induction =>
      rw [rejectionAmong?, Option.or_eq_none_iff] at hnone
      have hfirst := each pattern (by simp) .term place tally hnone.1 hplace
      have hlater := induction (fun other member => each other (by simp [member])) hnone.2
        (tally.after pattern)
      rw [sizeAll_cons, ← Nat.add_assoc]
      exact hfirst.append hlater (Nat.le_add_right _ _) (Nat.le_add_right _ _)

end Lists

theorem forall₂_path?_placesOf {place : Place} (hplace : place.path?.isSome = true)
    {terms : List (Pattern Leaf)} (layout : Layout terms) :
    List.Forall₂ (fun site (term : Pattern Leaf) => site.path?.isSome = !term.isVariadic)
      (placesOf place terms) terms := by
  have hfits := fits_placesOf place layout
  refine List.forall₂_iff_get.mpr ⟨hfits.length_eq, fun index inPlaces inTerms => ?_⟩
  have hfit := (List.forall₂_iff_get.mp hfits).2 index inPlaces inTerms
  rw [path?_isSome_of_mem_placesOf (List.get_mem _ _), hplace, hfit]
  rfl

theorem pathsOutsideRuns_marked {loc : Range} {mark : Mark} {inner : Pattern Leaf}
    (hfixed : (marked loc mark inner).isVariadic = false) {place : Place}
    (hplace : place.path?.isSome = true) {key : Nat} {sites : List (Nat × Place)}
    (hinner : PathsOutsideRuns (key + 1) (key + 1 + inner.size) sites
      (inner.termFrom (key + 1)).walk) :
    PathsOutsideRuns key (key + (marked loc mark inner).size) ((key, place) :: sites)
      ((marked loc mark inner).termFrom key).walk := by
  have hnode := isVariadic_termFrom (marked loc mark inner) key
  rw [hfixed, termFrom_marked] at hnode
  rw [termFrom_marked, Term.walk, Term.walkAll, Term.walkAll, List.append_nil, size_marked,
    Nat.add_comm inner.size 1, ← Nat.add_assoc]
  exact hinner.cons hplace hnode (by omega)

theorem pathsOutsideRuns_grouped {loc : Range} {bracket : Bracket} {first : Pattern Leaf}
    {others : List (Pattern Leaf)} {place : Place} (hplace : place.path?.isSome = true) {key : Nat}
    {sites more : List (Nat × Place)}
    (hfirst : PathsOutsideRuns (key + 1) (key + 1 + first.size) sites
      (first.termFrom (key + 1)).walk)
    (hothers : PathsOutsideRuns (key + 1 + first.size) (key + 1 + first.size + sizeAll others) more
      (Term.walkAll (termsFrom (key + 1 + first.size) others))) :
    PathsOutsideRuns key (key + (grouped loc bracket first others).size)
      ((key, place) :: (sites ++ more)) ((grouped loc bracket first others).termFrom key).walk := by
  have hnode := isVariadic_termFrom (grouped loc bracket first others) key
  rw [termFrom_grouped] at hnode
  have hsize : key + (grouped loc bracket first others).size =
      key + 1 + first.size + sizeAll others := by
    rw [size_grouped]
    omega
  rw [termFrom_grouped, Term.walk, Term.walkAll, hsize]
  apply (hfirst.append hothers (by omega) (by omega)).cons hplace hnode
  omega

theorem keepsPaths (pattern : Pattern Leaf) : KeepsPaths pattern := by
  induction pattern using induct with
  | leaf loc value =>
      intro standing place tally hnone hplace
      cases hvariadic : (leaf loc value).isVariadic with
      | true => exact pathsOutsideRuns_variadic hvariadic (by simpa [hvariadic] using hplace) tally
      | false =>
          have hfixed := isVariadic_termFrom (leaf loc value) tally.key
          rw [hvariadic] at hplace hfixed
          rw [walk_termFrom]
          exact (PathsOutsideRuns.nil _).cons hplace hfixed (Nat.lt_succ_self _)
  | marked loc mark inner induction =>
      intro standing place tally hnone hplace
      have hinner := @not_isVariadic inner standing.inner
      cases mark with
      | capture =>
          -- A capture of a run stands at the slice of the run, which has no path.
          cases hvariadic : (marked loc .capture inner).isVariadic with
          | true =>
              apply pathsOutsideRuns_variadic hvariadic
              simpa [hvariadic] using hplace
          | false =>
              have hsome : place.path?.isSome = true := by simpa [hvariadic] using hplace
              apply pathsOutsideRuns_marked hvariadic hsome
              exact induction standing place tally.captured hnone hplace
      | negation =>
          apply pathsOutsideRuns_marked rfl hplace
          apply induction standing.inner place tally.inner hnone
          rw [hinner hnone standing.inner_ne_term, hplace]
          rfl
      | ascend =>
          apply pathsOutsideRuns_marked rfl hplace
          apply induction standing.inner place.parent tally.inner hnone
          rw [hinner hnone standing.inner_ne_term, Place.path?, Option.isSome_map, hplace]
          rfl
  | repeated loc inner quantity induction =>
      intro standing place tally hnone hplace
      exact pathsOutsideRuns_variadic rfl (by simpa [isVariadic] using hplace) tally
  | grouped loc bracket first others firstHolds othersHold =>
      intro standing place tally hnone hplace
      have hfirst : ∀ {standing : Standing}, first.rejection? standing = none →
          standing ≠ .term → place.path?.isSome = !first.isVariadic := by
        intro standing hunrejected hstanding
        rw [not_isVariadic hunrejected hstanding, hplace]
        rfl
      cases bracket with
      | sequence =>
          rw [rejection?, Option.or_eq_none_iff, Option.or_eq_none_iff] at hnone
          obtain ⟨hcrowding, hhead, hterms⟩ := hnone
          have hplaces := forall₂_path?_placesOf hplace (layout_of_crowding? hcrowding)
          exact pathsOutsideRuns_grouped hplace
            (firstHolds .within place tally.inner hhead (hfirst hhead Standing.noConfusion))
            (pathsOutsideRuns_terms othersHold hterms hplaces (tally.inner.after first))
      | union =>
          rw [rejection?, Option.or_eq_none_iff, Option.or_eq_none_iff] at hnone
          obtain ⟨⟨hbranch, hbranches⟩, -⟩ := hnone
          have hstanding := standing.inner_ne_term
          exact pathsOutsideRuns_grouped hplace
            (firstHolds standing.inner place tally.inner hbranch (hfirst hbranch hstanding))
            (pathsOutsideRuns_members othersHold hstanding hbranches hplace
              (tally.inner.after first))
      | intersection =>
          rw [rejection?, Option.or_eq_none_iff] at hnone
          obtain ⟨hmember, hmembers⟩ := hnone
          have hstanding := standing.inner_ne_term
          exact pathsOutsideRuns_grouped hplace
            (firstHolds standing.inner place tally.inner hmember (hfirst hmember hstanding))
            (pathsOutsideRuns_members othersHold hstanding hmembers hplace
              (tally.inner.after first))

end Pattern

end TreeMatch
