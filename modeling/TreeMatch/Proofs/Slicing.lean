import TreeMatch.Proofs.Grafting
import TreeMatch.Proofs.Relocation

/-! Cutting a pattern out of its text: each part of a pattern has a range of its own, and the text
of that range is a text of the part. -/

namespace TreeMatch

variable {chart : Text.CodeChart}

open Grammar

namespace Grammar.Cursor

def back (distance : Nat) (cursor : Cursor) : Cursor :=
  ⟨cursor.offset - distance, cursor.rest⟩

variable {distance : Nat} {cursor start stop : Cursor} {text front : List Char}

theorem skip_back (mark : Char) (hoffset : distance ≤ cursor.offset) :
    (cursor.back distance).skip mark = (cursor.skip mark).back distance := by
  simp only [skip, back, Nat.sub_add_comm hoffset]

theorem back_succ (hoffset : distance ≤ cursor.offset) (rest : List Char) :
    (⟨(cursor.back distance).offset + 1, rest⟩ : Cursor) =
      back distance ⟨cursor.offset + 1, rest⟩ := by
  simp only [back, Nat.sub_add_comm hoffset]

theorem back_offset (start : Nat) (text : List Char) : back start ⟨start, text⟩ = ofText text := by
  rw [back, Nat.sub_self]
  rfl

theorem slice_between (reaches : (ofText text).Reaches start)
    (hfront : start.rest = front ++ stop.rest)
    (hstop : stop.offset = start.offset + front.length) :
    (Range.between start.offset stop.offset).slice text = front ∧ stop.offset ≤ text.length := by
  obtain ⟨before, hbefore, hoffset⟩ := reaches
  have htext : text = before ++ (front ++ stop.rest) := hbefore.trans (congrArg _ hfront)
  have hlength : start.offset = before.length := hoffset.trans (Nat.zero_add _)
  have hsize : Range.between start.offset stop.offset = ⟨before.length, front.length⟩ := by
    rw [hstop, Range.between, Nat.add_sub_cancel_left, hlength]
  constructor
  · rw [hsize, Range.slice, htext, List.drop_left, List.take_left]
  · rw [hstop, hlength, htext, List.length_append, List.length_append]
    omega

end Grammar.Cursor

namespace PatternText

variable {cursor : Cursor}

theorem skip_back {distance : Nat} (hoffset : distance ≤ cursor.offset) :
    skip (cursor.back distance) = (skip cursor).back distance :=
  Cursor.skip_back '#' hoffset

end PatternText

namespace Pattern

open PatternText (skip skip_back reaches_skip)

section Back

variable {pattern : Pattern Lexed} {patterns : List (Pattern Lexed)} {cursor next last : Cursor}
  {distance : Nat}

@[simp] theorem isAtom_relocated (pattern : Pattern α) (move : Range → Range) :
    (pattern.relocated move).isAtom = pattern.isAtom := by
  cases pattern <;> rfl

theorem ends_back (hends : pattern.Ends next) :
    (pattern.relocated (Range.back distance)).Ends (next.back distance) := by
  intro hatom
  rw [isAtom_relocated] at hatom
  exact hends hatom

theorem occupiesAll_back (each : ∀ pattern ∈ patterns, ∀ {cursor next : Cursor},
      pattern.Occupies cursor next → distance ≤ cursor.offset →
      (pattern.relocated (Range.back distance)).Occupies (cursor.back distance)
        (next.back distance))
    (occupies : OccupiesAll patterns cursor last) (hoffset : distance ≤ cursor.offset) :
    OccupiesAll (relocatedAll (Range.back distance) patterns) (cursor.back distance)
      (last.back distance) := by
  induction patterns generalizing cursor with
  | nil =>
      cases occupies
      rfl
  | cons pattern rest induction =>
      obtain ⟨next, hfirst, hends, hrest⟩ := occupies
      have hskip := Nat.le_trans hoffset (reaches_skip cursor).offset_le
      have hnext := Nat.le_trans hskip (reaches_of_occupies hfirst).offset_le
      have later := induction (fun other member => each other (by simp [member])) hrest hnext
      refine ⟨next.back distance, ?_, ends_back hends, later⟩
      rw [skip_back hoffset]
      exact each pattern (by simp) hfirst hskip

theorem loc_back (occupies : pattern.Occupies cursor next) (hoffset : distance ≤ cursor.offset) :
    pattern.loc.back distance =
      Range.between (cursor.back distance).offset (next.back distance).offset := by
  rw [loc_of_occupies occupies]
  exact (Range.between_back hoffset next.offset).symm

/-- A pattern stands in the same way in a text without some of its front. -/
theorem occupies_back (occupies : pattern.Occupies cursor next)
    (hoffset : distance ≤ cursor.offset) :
    (pattern.relocated (Range.back distance)).Occupies (cursor.back distance)
      (next.back distance) := by
  induction pattern using induct generalizing cursor next with
  | leaf loc lexed =>
      have hloc := loc_back occupies hoffset
      obtain ⟨htake, hstop, -⟩ := occupies
      refine ⟨htake, ?_, hloc⟩
      simp only [Cursor.back]
      omega
  | marked loc mark inner induction =>
      have hloc := loc_back occupies hoffset
      obtain ⟨rest, hrest, hinner, hends, -⟩ := occupies
      refine ⟨rest, hrest, ?_, ends_back hends, hloc⟩
      rw [Cursor.back_succ hoffset]
      exact induction hinner (Nat.le_succ_of_le hoffset)
  | repeated loc inner quantity induction =>
      have hloc := loc_back occupies hoffset
      obtain ⟨behind, hatom, hinner, hquantity, hstop, -⟩ := occupies
      have hbehind := Nat.le_trans hoffset (reaches_of_occupies hinner).offset_le
      refine ⟨behind.back distance, ?_, induction hinner hoffset, hquantity, ?_, hloc⟩
      · rw [isAtom_relocated]
        exact hatom
      · simp only [Cursor.back]
        omega
  | grouped loc bracket first others firstHolds othersHold =>
      have hloc := loc_back occupies hoffset
      obtain ⟨rest, parted, behind, hleft, hfirst, hends, hothers, hright, hstop, -⟩ := occupies
      have hopened : distance ≤ cursor.offset + 1 := Nat.le_succ_of_le hoffset
      have hopening := Nat.le_trans hopened (reaches_skip ⟨cursor.offset + 1, rest⟩).offset_le
      have hparted := Nat.le_trans hopening (reaches_of_occupies hfirst).offset_le
      have hbehind := Nat.le_trans hparted (reaches_of_occupiesAll hothers).offset_le
      have hclosing := Nat.le_trans hbehind (reaches_skip behind).offset_le
      refine ⟨rest, parted.back distance, behind.back distance, hleft, ?_, ends_back hends, ?_, ?_,
        ?_, hloc⟩
      · rw [Cursor.back_succ hoffset, skip_back hopened]
        exact firstHolds hfirst hopening
      · exact occupiesAll_back
          (fun other member _ _ hother hother' => othersHold other member hother hother')
          hothers hparted
      · rw [skip_back hbehind]
        exact hright
      · rw [skip_back hbehind]
        simp only [Cursor.back]
        omega

end Back

def OccursBetween (pattern : Pattern Lexed) (cursor next : Cursor) : Prop :=
  ∃ start stop, pattern.Occupies start stop ∧ cursor.Reaches start ∧ stop.Reaches next

section Parts

variable {pattern part : Pattern Lexed} {patterns : List (Pattern Lexed)}
  {cursor middle next last : Cursor}

theorem OccursBetween.of_occupies (occupies : pattern.Occupies cursor next) :
    pattern.OccursBetween cursor next :=
  ⟨cursor, next, occupies, .refl _, .refl _⟩

theorem OccursBetween.mono (occurs : pattern.OccursBetween middle next)
    (before : cursor.Reaches middle) (behind : next.Reaches last) :
    pattern.OccursBetween cursor last := by
  obtain ⟨start, stop, occupies, hstart, hstop⟩ := occurs
  exact ⟨start, stop, occupies, before.trans hstart, hstop.trans behind⟩

theorem OccursBetween.bounds (occurs : pattern.OccursBetween cursor next) :
    cursor.offset ≤ pattern.loc.start ∧ pattern.loc.stop ≤ next.offset := by
  obtain ⟨start, stop, occupies, hstart, hstop⟩ := occurs
  rw [loc_of_occupies occupies, Range.stop_between (Nat.le_of_lt (lt_of_occupies occupies))]
  exact ⟨hstart.offset_le, hstop.offset_le⟩

theorem occursBetween_of_mem (occupies : OccupiesAll patterns cursor last) :
    ∀ pattern ∈ patterns, pattern.OccursBetween cursor last := by
  induction patterns generalizing cursor with
  | nil => exact List.forall_mem_nil _
  | cons pattern rest induction =>
      obtain ⟨next, hfirst, -, hrest⟩ := occupies
      have hskip := reaches_skip cursor
      have hnext := hskip.trans (reaches_of_occupies hfirst)
      refine List.forall_mem_cons.mpr ⟨?_, ?_⟩
      · exact (OccursBetween.of_occupies hfirst).mono hskip (reaches_of_occupiesAll hrest)
      · exact fun other member => (induction hrest other member).mono hnext (.refl _)

theorem pairwise_of_occupiesAll (occupies : OccupiesAll patterns cursor last) :
    patterns.Pairwise fun first second => first.loc.stop ≤ second.loc.start := by
  induction patterns generalizing cursor with
  | nil => exact .nil
  | cons pattern rest induction =>
      obtain ⟨next, hfirst, -, hrest⟩ := occupies
      refine .cons (fun other member => ?_) (induction hrest)
      have hstop := (OccursBetween.of_occupies hfirst).bounds.2
      exact Nat.le_trans hstop (occursBetween_of_mem hrest other member).bounds.1

theorem parts_of_occupies (occupies : pattern.Occupies cursor next) :
    (∀ part ∈ pattern.parts, part.OccursBetween cursor next) ∧
      pattern.parts.Pairwise fun first second => first.loc.stop ≤ second.loc.start := by
  cases pattern with
  | leaf loc lexed => exact ⟨List.forall_mem_nil _, .nil⟩
  | marked loc mark inner =>
      obtain ⟨rest, hrest, hinner, -, -⟩ := occupies
      refine ⟨List.forall_mem_singleton.mpr ?_, List.pairwise_singleton _ _⟩
      exact (OccursBetween.of_occupies hinner).mono (.step hrest) (.refl _)
  | repeated loc inner quantity =>
      obtain ⟨behind, -, hinner, hquantity, hoffset, -⟩ := occupies
      refine ⟨List.forall_mem_singleton.mpr ?_, List.pairwise_singleton _ _⟩
      exact (OccursBetween.of_occupies hinner).mono (.refl _) ⟨[quantity.char], hquantity, hoffset⟩
  | grouped loc bracket first others =>
      obtain ⟨rest, parted, behind, hleft, hfirst, -, hothers, hright, hoffset, -⟩ := occupies
      have hopening := (Cursor.Reaches.step hleft).trans (reaches_skip _)
      have hclosing : behind.Reaches next :=
        (reaches_skip behind).trans ⟨[bracket.right], hright, hoffset⟩
      have hparted := hopening.trans (reaches_of_occupies hfirst)
      have hbehind := (reaches_of_occupiesAll hothers).trans hclosing
      have hall := occursBetween_of_mem hothers
      constructor
      · refine List.forall_mem_cons.mpr ⟨?_, fun other member => ?_⟩
        · exact (OccursBetween.of_occupies hfirst).mono hopening hbehind
        · exact (hall other member).mono hparted hclosing
      · refine .cons (fun other member => ?_) (pairwise_of_occupiesAll hothers)
        have hstop := (OccursBetween.of_occupies hfirst).bounds.2
        exact Nat.le_trans hstop (hall other member).bounds.1

theorem mem_walk {pattern part : Pattern α} :
    part ∈ pattern.walk ↔ part = pattern ∨ ∃ inner ∈ pattern.parts, part ∈ inner.walk := by
  cases pattern <;> simp [walk, parts, mem_walkAll]

theorem occursBetween_of_mem_walk (occupies : pattern.Occupies cursor next) :
    ∀ part ∈ pattern.walk, part.OccursBetween cursor next := by
  have deeper : ∀ {pattern : Pattern Lexed},
      (∀ inner ∈ pattern.parts, ∀ {cursor next : Cursor}, inner.Occupies cursor next →
        ∀ part ∈ inner.walk, part.OccursBetween cursor next) →
      ∀ {cursor next : Cursor}, pattern.Occupies cursor next →
        ∀ part ∈ pattern.walk, part.OccursBetween cursor next := by
    intro pattern each cursor next occupies part member
    rcases mem_walk.mp member with rfl | ⟨inner, hinner, hpart⟩
    · exact .of_occupies occupies
    · obtain ⟨start, stop, hoccupies, hstart, hstop⟩ := (parts_of_occupies occupies).1 inner hinner
      exact (each inner hinner hoccupies part hpart).mono hstart hstop
  induction pattern using induct generalizing cursor next with
  | leaf loc lexed => exact deeper (fun inner hinner => absurd hinner List.not_mem_nil) occupies
  | marked loc mark inner induction | repeated loc inner quantity induction =>
      refine deeper ?_ occupies
      exact List.forall_mem_singleton.mpr fun hinner => induction hinner
  | grouped loc bracket first others firstHolds othersHold =>
      refine deeper ?_ occupies
      exact List.forall_mem_cons.mpr
        ⟨fun hfirst => firstHolds hfirst,
          fun other member _ _ hother => othersHold other member hother⟩

end Parts

section Decoding

variable {decode : Range → α → Except ε β} {pattern : Pattern α} {found : Pattern β}

theorem loc_of_decode (hfound : pattern.decodeLeaves decode = .ok found) :
    found.loc = pattern.loc := by
  cases pattern with
  | leaf loc value | marked loc mark inner | repeated loc inner quantity =>
      obtain ⟨result, -, hdone⟩ := bind_ok hfound
      cases hdone
      rfl
  | grouped loc bracket first others =>
      obtain ⟨head, -, hrest⟩ := bind_ok hfound
      obtain ⟨tail, -, hdone⟩ := bind_ok hrest
      cases hdone
      rfl

theorem forall₂_of_decodeAll {patterns : List (Pattern α)} {results : List (Pattern β)}
    (hresults : decodeLeavesAll decode patterns = .ok results) :
    List.Forall₂ (fun pattern found => pattern.decodeLeaves decode = .ok found) patterns
      results := by
  induction patterns generalizing results with
  | nil =>
      cases hresults
      exact .nil
  | cons pattern rest induction =>
      obtain ⟨head, hhead, hrest⟩ := bind_ok hresults
      obtain ⟨tail, htail, hdone⟩ := bind_ok hrest
      cases hdone
      exact .cons hhead (induction htail)

theorem exists_of_forall₂ {R : α → β → Prop} {values : List α} {results : List β}
    (each : List.Forall₂ R values results) :
    ∀ result ∈ results, ∃ value ∈ values, R value result := by
  induction each with
  | nil => exact List.forall_mem_nil _
  | @cons value result values results hfirst hrest induction =>
      refine List.forall_mem_cons.mpr ⟨⟨value, List.mem_cons_self, hfirst⟩, fun other member => ?_⟩
      obtain ⟨source, hsource, hother⟩ := induction other member
      exact ⟨source, List.mem_cons_of_mem _ hsource, hother⟩

theorem parts_of_decode (hfound : pattern.decodeLeaves decode = .ok found) :
    List.Forall₂ (fun pattern found => pattern.decodeLeaves decode = .ok found) pattern.parts
      found.parts := by
  cases pattern with
  | leaf loc value =>
      obtain ⟨result, -, hdone⟩ := bind_ok hfound
      cases hdone
      exact .nil
  | marked loc mark inner | repeated loc inner quantity =>
      obtain ⟨result, hresult, hdone⟩ := bind_ok hfound
      cases hdone
      exact .cons hresult .nil
  | grouped loc bracket first others =>
      obtain ⟨head, hhead, hrest⟩ := bind_ok hfound
      obtain ⟨tail, htail, hdone⟩ := bind_ok hrest
      cases hdone
      exact .cons hhead (forall₂_of_decodeAll htail)

theorem map_loc_parts (hfound : pattern.decodeLeaves decode = .ok found) :
    found.parts.map loc = pattern.parts.map loc := by
  rw [← List.forall₂_eq_eq_eq, List.forall₂_map_left_iff, List.forall₂_map_right_iff]
  exact (parts_of_decode hfound).flip.imp fun _ _ hpart => loc_of_decode hpart

theorem source_of_mem_walk (hfound : pattern.decodeLeaves decode = .ok found) :
    ∀ part ∈ found.walk, ∃ source ∈ pattern.walk, source.decodeLeaves decode = .ok part := by
  have deeper : ∀ {pattern : Pattern α} {found : Pattern β},
      (∀ inner ∈ pattern.parts, ∀ {found : Pattern β}, inner.decodeLeaves decode = .ok found →
        ∀ part ∈ found.walk, ∃ source ∈ inner.walk, source.decodeLeaves decode = .ok part) →
      pattern.decodeLeaves decode = .ok found →
        ∀ part ∈ found.walk, ∃ source ∈ pattern.walk, source.decodeLeaves decode = .ok part := by
    intro pattern found each hfound part member
    rcases mem_walk.mp member with rfl | ⟨result, hresult, hpart⟩
    · exact ⟨pattern, mem_walk_self pattern, hfound⟩
    · obtain ⟨inner, hinner, hdecoded⟩ := exists_of_forall₂ (parts_of_decode hfound) result hresult
      obtain ⟨source, hsource, hpart⟩ := each inner hinner hdecoded part hpart
      exact ⟨source, mem_walk.mpr (.inr ⟨inner, hinner, hsource⟩), hpart⟩
  induction pattern using induct generalizing found with
  | leaf loc value => exact deeper (fun inner hinner => absurd hinner List.not_mem_nil) hfound
  | marked loc mark inner induction | repeated loc inner quantity induction =>
      refine deeper ?_ hfound
      exact List.forall_mem_singleton.mpr fun hinner => induction hinner
  | grouped loc bracket first others firstHolds othersHold =>
      refine deeper ?_ hfound
      exact List.forall_mem_cons.mpr
        ⟨fun hfirst => firstHolds hfirst,
          fun other member _ hother => othersHold other member hother⟩

end Decoding

theorem locs_termFrom (pattern : Pattern Leaf) (next : Nat) :
    (pattern.termFrom next).walk.map Term.loc? = pattern.walk.map fun part => some part.loc := by
  have among : ∀ (parts : List (Pattern Leaf)) (next : Nat),
      (partTerms next parts).map Term.loc? = parts.map fun part => some part.loc := by
    intro parts
    induction parts with
    | nil => exact fun _ => rfl
    | cons part rest induction =>
        intro next
        rw [partTerms, List.map_cons, List.map_cons, loc?_termFrom, induction]
  rw [walk_termFrom, among]

theorem map_loc?_termsFrom (next : Nat) (patterns : List (Pattern Leaf)) :
    (termsFrom next patterns).map Term.loc? = patterns.map fun pattern => some pattern.loc := by
  induction patterns generalizing next with
  | nil => rfl
  | cons pattern rest induction =>
      rw [termsFrom, List.map_cons, List.map_cons, loc?_termFrom, induction]

theorem readAll_slice {text : List Char} {lexed part : Pattern Lexed}
    (hread : PatternText.pattern.readAll text = .ok lexed) (member : part ∈ lexed.walk) :
    part.loc.stop ≤ text.length ∧
      PatternText.pattern.readAll (part.loc.slice text) =
        .ok (part.relocated (Range.back part.loc.start)) := by
  obtain ⟨next, stands, -⟩ := PatternText.readAll_pattern_iff.mp hread
  obtain ⟨start, stop, occupies, hstart, -⟩ := occursBetween_of_mem_walk stands.occupies part member
  have hreaches := (reaches_skip (Cursor.ofText text)).trans hstart
  obtain ⟨front, hfront, hstop⟩ := reaches_of_occupies occupies
  obtain ⟨hslice, hinside⟩ := Cursor.slice_between hreaches hfront hstop
  have hforward := Nat.le_of_lt (lt_of_occupies occupies)
  have hcut := occupies_onto (.nil _) occupies (.refl stop)
  rw [Cursor.onto_of_rest hfront, Cursor.onto_self, List.append_nil] at hcut
  have hback := occupies_back hcut (Nat.le_refl _)
  rw [Cursor.back_offset] at hback
  rw [loc_of_occupies occupies]
  constructor
  · rw [Range.stop_between hforward]
    exact hinside
  · rw [hslice]
    refine PatternText.readAll_pattern_iff.mpr ⟨⟨stop.offset - start.offset, []⟩, ?_, rfl⟩
    rw [PatternText.skip_of_occupies hback]
    refine ⟨hback, fun hatom quantity hhead => ?_⟩
    cases hhead

theorem ranges_of_mem_walk {text : List Char} {lexed part : Pattern Lexed}
    (hread : PatternText.pattern.readAll text = .ok lexed) (member : part ∈ lexed.walk) :
    (∀ range ∈ part.parts.map loc, part.loc.start ≤ range.start ∧ range.stop ≤ part.loc.stop) ∧
      (part.parts.map loc).Pairwise (fun first second => first.stop ≤ second.start) ∧
      ∀ inner ∈ part.walk, part.loc.start ≤ inner.loc.start := by
  obtain ⟨next, stands, -⟩ := PatternText.readAll_pattern_iff.mp hread
  obtain ⟨start, stop, occupies, -, -⟩ := occursBetween_of_mem_walk stands.occupies part member
  obtain ⟨hparts, hordered⟩ := parts_of_occupies occupies
  have hstop := Range.stop_between (Nat.le_of_lt (lt_of_occupies occupies))
  rw [loc_of_occupies occupies, hstop]
  refine ⟨?_, List.pairwise_map.mpr hordered, fun inner hinner => ?_⟩
  · exact List.forall_mem_map.mpr fun inner hinner => (hparts inner hinner).bounds
  · exact (occursBetween_of_mem_walk occupies inner hinner).bounds.1

end Pattern

/-- The node has its place in the text, its children lie there one behind the other, and the text
at its place is a text of the node. -/
structure Term.StandsAt (chart : Text.CodeChart) (text : List Char) (node : Term) (loc : Range) :
    Prop where
  placed : node.loc? = some loc
  inside : loc.stop ≤ text.length
  children : ∃ ranges : List Range, node.childNodes.map Term.loc? = ranges.map some ∧
    (∀ inner ∈ ranges, loc.start ≤ inner.start ∧ inner.stop ≤ loc.stop) ∧
    ranges.Pairwise fun first second => first.stop ≤ second.start
  slice : ∃ pattern, Pattern.read chart (loc.slice text) = .ok pattern ∧
    Term.equal pattern.toTerm node = true ∧ pattern.toTerm.unplaced = node.unplaced ∧
    node.walk.map Term.loc? =
      pattern.toTerm.walk.map fun part => part.loc?.map (Range.moved loc.start)

namespace Pattern

variable {text : List Char} {lexed source : Pattern Lexed} {part : Pattern Leaf}

theorem read_slice (hread : PatternText.pattern.readAll text = .ok lexed)
    (member : source ∈ lexed.walk) (hpart : source.decodeLeaves (Leaf.decode chart) = .ok part) :
    Pattern.read chart (part.loc.slice text) =
      .ok (part.relocated (Range.back part.loc.start)) := by
  have hslice := (readAll_slice hread member).2
  have hdecode :
      (source.relocated (Range.back source.loc.start)).decodeLeaves (Leaf.decode chart) = _ :=
    decodeLeaves_relocated Leaf.decode_elsewhere hpart
  rw [loc_of_decode hpart, Pattern.read, hslice]
  change Except.mapError PatternFault.leaf (decodeLeaves _ _) = _
  rw [hdecode]
  rfl

/-- The ranges of a part that was moved to the front, moved to where the part stands. -/
theorem locs_back (distance next : Nat)
    (hbehind : ∀ inner ∈ part.walk, distance ≤ inner.loc.start) :
    (part.termFrom next).walk.map Term.loc? =
      ((part.relocated (Range.back distance)).termFrom 0).walk.map
        fun inner => inner.loc?.map (Range.moved distance) := by
  have hmoved : ∀ inner ∈ part.walk,
      inner.loc = (inner.relocated (Range.back distance)).loc.moved distance := by
    intro inner member
    rw [loc_relocated]
    exact (Range.moved_back (hbehind inner member)).symm
  calc (part.termFrom next).walk.map Term.loc?
      = part.walk.map fun inner => some inner.loc := locs_termFrom part next
    _ = part.walk.map fun inner =>
          some ((inner.relocated (Range.back distance)).loc.moved distance) :=
        List.map_congr_left fun inner member => congrArg some (hmoved inner member)
    _ = ((part.relocated (Range.back distance)).walk.map fun inner => some inner.loc).map
          (Option.map (Range.moved distance)) := by
        rw [walk_relocated, List.map_map, List.map_map]
        rfl
    _ = ((part.relocated (Range.back distance)).termFrom 0).walk.map fun inner =>
          inner.loc?.map (Range.moved distance) := by
        rw [← locs_termFrom _ 0, List.map_map]
        rfl

/-- The ranges of a pattern are those of its text. -/
theorem standsAt_of_read {pattern : Pattern Leaf} (hread : Pattern.read chart text = .ok pattern) :
    ∀ node ∈ pattern.toTerm.walk, ∃ loc, node.StandsAt chart text loc := by
  obtain ⟨lexed, hlexed, hdecoded⟩ := lexed_of_read hread
  intro node member
  change node ∈ (pattern.termFrom 0).walk at member
  rw [walk_termFrom, mem_partTerms] at member
  obtain ⟨index, part, hindex, rfl⟩ := member
  obtain ⟨source, hsource, hpart⟩ :=
    source_of_mem_walk hdecoded part (List.mem_of_getElem? hindex)
  obtain ⟨hinside, hordered, hbehind⟩ := ranges_of_mem_walk hlexed hsource
  have hloc := loc_of_decode hpart
  have hunplaced := unplaced_termFrom part (Range.back part.loc.start) 0 (0 + index)
  refine ⟨part.loc, loc?_termFrom part _, ?_, ⟨part.parts.map loc, ?_, ?_⟩, ?_⟩
  · rw [hloc]
    exact (readAll_slice hlexed hsource).1
  · rw [childNodes_termFrom, map_loc?_termsFrom, List.map_map]
    rfl
  · rw [map_loc_parts hpart, hloc]
    exact ⟨hinside, hordered⟩
  · refine ⟨_, read_slice hlexed hsource hpart, Term.equal_of_unplaced hunplaced, hunplaced, ?_⟩
    refine locs_back part.loc.start (0 + index) fun inner hinner => ?_
    obtain ⟨origin, horigin, hdecode⟩ := source_of_mem_walk hpart inner hinner
    rw [hloc, loc_of_decode hdecode]
    exact hbehind origin horigin

/-- A part that is cut out of comments, and of brackets after which it would be another. -/
theorem standsAt_of_read_commented :
    ∃ pattern, Pattern.read Text.basicLatin "(a # b)\n nil?* :c)".toList = .ok pattern ∧
      ∃ node ∈ pattern.toTerm.walk,
        node.StandsAt Text.basicLatin "(a # b)\n nil?* :c)".toList ⟨9, 5⟩ := by
  let pattern : Pattern Leaf := .grouped ⟨0, 18⟩ .sequence (.leaf ⟨1, 1⟩ (.nodeType "a"))
    [.repeated ⟨9, 5⟩ (.leaf ⟨9, 4⟩ (.predicate "nil?")) .any, .leaf ⟨15, 2⟩ (.symbol "c")]
  have hread : Pattern.read Text.basicLatin "(a # b)\n nil?* :c)".toList = .ok pattern := by
    decide +kernel
  let part : Pattern Leaf := .repeated ⟨9, 5⟩ (.leaf ⟨9, 4⟩ (.predicate "nil?")) .any
  have member : part.termFrom 2 ∈ pattern.toTerm.walk := by
    change _ ∈ (pattern.termFrom 0).walk
    rw [walk_termFrom]
    exact .tail _ (.tail _ (.head _))
  obtain ⟨loc, stands⟩ := standsAt_of_read hread _ member
  cases stands.placed
  exact ⟨pattern, hread, part.termFrom 2, member, stands⟩

end Pattern

end TreeMatch
