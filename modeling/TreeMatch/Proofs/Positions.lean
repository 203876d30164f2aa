import TreeMatch.Proofs.Marks
import TreeMatch.Proofs.Sites

/-! The positions that a recording matcher keeps agree with the subjects of its runs. -/

namespace TreeMatch

variable {chart : Text.CodeChart}

theorem Place.foldl_follow {env : Environment} {place : Place} {path : List Step} {value : Value}
    (hpath : place.path? = some path) (hvalue : place.value env = .ok value) :
    path.foldl (Painting.follow env.document) env.root = value := by
  induction place generalizing path value with
  | root =>
      cases hpath
      cases hvalue
      rfl
  | child place index induction =>
      obtain ⟨front, hfront, rfl⟩ := Option.map_eq_some_iff.mp hpath
      obtain ⟨above, habove, hbelow⟩ := bind_ok hvalue
      rw [List.foldl_append, induction hfront habove]
      change Painting.follow env.document above (.child index) = value
      unfold Painting.follow
      cases hnode : above.node? with
      | none =>
          rw [hnode] at hbelow
          cases hbelow
      | some node =>
          rw [hnode] at hbelow
          dsimp only at hbelow ⊢
          cases hchild : childAt? node.children index with
          | none =>
              rw [hchild] at hbelow
              cases hbelow
          | some found =>
              rw [hchild] at hbelow
              cases hbelow
              rfl
  | parent place induction =>
      obtain ⟨front, hfront, rfl⟩ := Option.map_eq_some_iff.mp hpath
      obtain ⟨below, hbelow, habove⟩ := bind_ok hvalue
      rw [List.foldl_append, induction hfront hbelow]
      change Painting.follow env.document below .parent = value
      unfold Painting.follow
      cases hnode : below.node? with
      | none =>
          rw [hnode] at habove
          cases habove
      | some node =>
          rw [hnode] at habove
          dsimp only at habove ⊢
          cases hparent : env.document.parent? node.id with
          | none =>
              rw [hparent] at habove
              cases habove
              rfl
          | some above =>
              rw [hparent] at habove
              cases habove
              rfl
  -- Slices and elements have no path.
  | slice | element => cases hpath

namespace Session

theorem mem_sitePaths {sites : List (Nat × Place)} {id : Nat} {path : List Step} :
    (id, path) ∈ sitePaths sites ↔ ∃ place, (id, place) ∈ sites ∧ place.path? = some path := by
  simp [sitePaths, Option.map_eq_some_iff]

end Session

namespace Pattern

theorem sites_inj {pattern : Pattern Leaf} {place : Place} {tally : Tally} {id : Nat}
    {first second : Place} (hfirst : (id, first) ∈ pattern.sites place tally)
    (hsecond : (id, second) ∈ pattern.sites place tally) : first = second := by
  have hkeys : ((pattern.sites place tally).map Prod.fst).Nodup := by
    rw [keys_sites]
    exact List.nodup_range'
  exact congrArg Prod.snd (List.inj_on_of_nodup_map hkeys hfirst hsecond rfl)

theorem eq_of_key? {pattern : Pattern Leaf} {next : Nat} {first second : Term}
    (hfirst : first ∈ (pattern.termFrom next).walk)
    (hsecond : second ∈ (pattern.termFrom next).walk)
    (hkey : first.key? = second.key?) : first = second := by
  rw [walk_termFrom] at hfirst hsecond
  obtain ⟨index, part, hpart, rfl⟩ := mem_partTerms.mp hfirst
  obtain ⟨other, another, hother, rfl⟩ := mem_partTerms.mp hsecond
  rw [key?_termFrom, key?_termFrom, Option.some.injEq, Nat.add_left_cancel_iff] at hkey
  subst hkey
  rw [Option.some.inj (hpart.symm.trans hother)]

theorem inRun_iff {pattern : Pattern Leaf} {next id : Nat} {node : Term}
    (member : node ∈ (pattern.termFrom next).walk) (hkey : node.key? = some id) :
    Term.InRun (pattern.termFrom next).walk id ↔
      ∃ run ∈ (pattern.termFrom next).walk, run.isVariadic = true ∧ node ∈ run.walk := by
  constructor
  · rintro ⟨run, inTerm, hvariadic, found, inRun, hfound⟩
    have hsame := eq_of_key? member (Term.walk_trans inRun inTerm) (hkey.trans hfound.symm)
    exact ⟨run, inTerm, hvariadic, hsame ▸ inRun⟩
  · rintro ⟨run, inTerm, hvariadic, inRun⟩
    exact ⟨run, inTerm, hvariadic, node, inRun, hkey⟩

end Pattern

namespace Painting

def resolveFrom (document : Document) (start : Value) (path : List Step) : Option Node :=
  (path.foldl (follow document) start).node?

theorem resolve_eq_resolveFrom (painting : Painting) :
    painting.resolve = resolveFrom painting.document painting.root.toValue := rfl

end Painting

namespace Matcher

variable {text name : String} {pattern : Pattern Leaf}

theorem positions_ofPattern :
    (ofPattern text pattern true name).positions =
      (Session.sitePaths (pattern.sites .root .start)).reverse :=
  List.append_nil _

theorem lookup_positions {id : Nat} {path : List Step} :
    (ofPattern text pattern true name).positions.lookup id = some path ↔
      ∃ place, (id, place) ∈ pattern.sites .root .start ∧ place.path? = some path := by
  rw [positions_ofPattern, ← Session.mem_sitePaths]
  constructor
  · intro hfound
    obtain ⟨front, back, hsplit, -⟩ := List.lookup_eq_some_iff.mp hfound
    rw [← List.mem_reverse, hsplit]
    exact List.mem_append_right _ List.mem_cons_self
  · intro member
    obtain ⟨place, hsite, hpath⟩ := Session.mem_sitePaths.mp member
    cases hfound : (Session.sitePaths (pattern.sites .root .start)).reverse.lookup id with
    | none =>
        have hdistinct := List.lookup_eq_none_iff.mp hfound _ (List.mem_reverse.mpr member)
        simp at hdistinct
    | some other =>
        obtain ⟨front, back, hsplit, -⟩ := List.lookup_eq_some_iff.mp hfound
        have hother : (id, other) ∈ Session.sitePaths (pattern.sites .root .start) := by
          rw [← List.mem_reverse, hsplit]
          exact List.mem_append_right _ List.mem_cons_self
        obtain ⟨another, hanother, hbeyond⟩ := Session.mem_sitePaths.mp hother
        rw [Pattern.sites_inj hsite hanother, hbeyond] at hpath
        rw [hpath]

theorem lookup_positions_isSome (hnone : pattern.rejection? .outside = none) {node : Term}
    {id : Nat} (member : node ∈ (pattern.termFrom 0).walk) (hkey : node.key? = some id) :
    ((ofPattern text pattern true name).positions.lookup id).isSome ↔
      ¬ ∃ run ∈ (pattern.termFrom 0).walk, run.isVariadic = true ∧ node ∈ run.walk := by
  have hfixed := Pattern.not_isVariadic hnone Standing.noConfusion
  have hpaths := Pattern.keepsPaths pattern .outside .root .start hnone (by rw [hfixed]; rfl)
  have hsite : ∃ place, (id, place) ∈ pattern.sites .root .start := by
    obtain ⟨known, hknown, hlower, hupper⟩ := Pattern.key_of_mem_walk member
    cases Option.some.inj (hkey.symm.trans hknown)
    have hrange : id ∈ (pattern.sites .root .start).map Prod.fst := by
      rw [Pattern.keys_sites]
      exact List.mem_range'_1.mpr ⟨hlower, hupper⟩
    obtain ⟨⟨_, place⟩, hplace, rfl⟩ := List.mem_map.mp hrange
    exact ⟨place, hplace⟩
  obtain ⟨place, hplace⟩ := hsite
  have hpathless : place.path? = none ↔ Term.InRun (pattern.termFrom 0).walk id :=
    hpaths.pathless _ hplace
  rw [← Pattern.inRun_iff member hkey, ← hpathless, ← ne_eq, Option.ne_none_iff_isSome]
  constructor
  · intro hfound
    obtain ⟨path, hpath⟩ := Option.isSome_iff_exists.mp hfound
    obtain ⟨other, hother, hsome⟩ := lookup_positions.mp hpath
    rw [Pattern.sites_inj hplace hother, hsome]
    rfl
  · intro hsome
    obtain ⟨path, hpath⟩ := Option.isSome_iff_exists.mp hsome
    rw [lookup_positions.mpr ⟨place, hplace, hpath⟩]
    rfl

/-- A position leads to the subject that a run marks, whatever the arguments reply. -/
theorem resolveFrom_of_logged {replies : Replies} {document : Document} {subject : Value}
    {arguments : Arguments} {event : Event} {path : List Step}
    (member : event ∈ ((ofPattern text pattern true name).callUnder replies document subject
      arguments).log)
    (hposition : (ofPattern text pattern true name).positions.lookup event.id = some path) :
    Painting.resolveFrom document subject path = event.subject.node? := by
  unfold callUnder at member
  cases hrefusal : (ofPattern text pattern true name).refusal? arguments with
  | some failure =>
      rw [hrefusal] at member
      cases member
  | none =>
      rw [hrefusal] at member
      dsimp only at member
      rw [CallResult.log_ofRun, test_ofPattern] at member
      obtain ⟨events, hlog, hevents⟩ := Test.logsAt_runUnder replies
        (pattern.test true .root .start)
        ⟨document, subject, (ofPattern text pattern true name).bind arguments, []⟩
        ⟨List.replicate (ofPattern text pattern true name).slots .absent, []⟩
      rw [hlog, List.nil_append] at member
      obtain ⟨place, elements, hmark, hvalue⟩ := hevents event member
      obtain ⟨other, hother, hpath⟩ := lookup_positions.mp hposition
      have hsite := Pattern.marksItsSites true pattern .root .start _ hmark
      rw [← Pattern.sites_inj hsite hother] at hpath
      exact congrArg Value.node? (Place.foldl_follow hpath hvalue)

end Matcher

end TreeMatch
