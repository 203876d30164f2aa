import Mathlib.Data.List.Flatten
import TreeMatch.Proofs.Growth
import TreeMatch.Proofs.Renumbering

/-! The ranges in the tree of a program lie within the text; and they lie within one another if the
positions do that the parser gives. -/

namespace TreeMatch

namespace Range

structure Within (inner outer : Range) : Prop where
  start : outer.start ≤ inner.start
  stop : inner.stop ≤ outer.stop

theorem Within.refl (range : Range) : range.Within range :=
  ⟨Nat.le_refl _, Nat.le_refl _⟩

variable {inner middle outer : Range} {ranges : List Range}

theorem Within.trans (hinner : inner.Within middle) (houter : middle.Within outer) :
    inner.Within outer :=
  ⟨Nat.le_trans houter.start hinner.start, Nat.le_trans hinner.stop houter.stop⟩

theorem hull_eq_some (hhull : hull ranges = some outer) :
    (ranges.map start).min? = some outer.start ∧ (ranges.map stop).max? = some outer.stop := by
  cases ranges with
  | nil => cases hhull
  | cons first rest =>
      have hleast : ((first :: rest).map start).min? =
          some (rest.foldl (fun least r => min least r.start) first.start) := by
        rw [List.map_cons, List.min?_cons', List.foldl_map]
      have hgreatest : ((first :: rest).map stop).max? =
          some (rest.foldl (fun most r => max most r.stop) first.stop) := by
        rw [List.map_cons, List.max?_cons', List.foldl_map]
      rw [hull] at hhull
      cases hhull
      rw [hleast, hgreatest, stop_between]
      · exact ⟨rfl, rfl⟩
      · have hbelow := (List.min?_eq_some_iff.mp hleast).2 first.start List.mem_cons_self
        have habove := (List.max?_eq_some_iff.mp hgreatest).2 first.stop List.mem_cons_self
        exact Nat.le_trans hbelow (Nat.le_trans (Nat.le_add_right _ _) habove)

theorem within_hull (hhull : hull ranges = some outer) (member : inner ∈ ranges) :
    inner.Within outer := by
  obtain ⟨hleast, hgreatest⟩ := hull_eq_some hhull
  exact ⟨(List.min?_eq_some_iff.mp hleast).2 _ (List.mem_map_of_mem member),
    (List.max?_eq_some_iff.mp hgreatest).2 _ (List.mem_map_of_mem member)⟩

theorem hull_within (hhull : hull ranges = some middle)
    (each : ∀ range ∈ ranges, range.Within outer) : middle.Within outer := by
  obtain ⟨hleast, hgreatest⟩ := hull_eq_some hhull
  obtain ⟨first, hfirst, hstart⟩ := List.mem_map.mp (List.min?_eq_some_iff.mp hleast).1
  obtain ⟨last, hlast, hstop⟩ := List.mem_map.mp (List.max?_eq_some_iff.mp hgreatest).1
  exact ⟨hstart ▸ (each first hfirst).start, hstop ▸ (each last hlast).stop⟩

theorem ofBounds_of_le {start stop : Nat} (hle : start ≤ stop) :
    ofBounds start stop = .ok (between start stop) := by
  have hsize : ((stop : Int) - start).toNat = stop - start := by omega
  rw [ofBounds, if_neg (by omega), hsize, Int.toNat_natCast, between]

end Range

namespace Position

/-- A place in a program, by line and column, is not behind another. -/
def NotBehind (line column line' column' : Int) : Prop :=
  line < line' ∨ line = line' ∧ column ≤ column'

instance (line column line' column' : Int) : Decidable (NotBehind line column line' column') :=
  inferInstanceAs (Decidable (_ ∨ _))

structure IsOrdered (position : Position) : Prop where
  line : 1 ≤ position.line
  column : 0 ≤ position.column
  endLine : 1 ≤ position.endLine
  endColumn : 0 ≤ position.endColumn
  ordered : NotBehind position.line position.column position.endLine position.endColumn

structure Within (inner outer : Position) : Prop where
  start : NotBehind outer.line outer.column inner.line inner.column
  stop : NotBehind inner.endLine inner.endColumn outer.endLine outer.endColumn

instance (position : Position) : Decidable position.IsOrdered :=
  decidable_of_iff (1 ≤ position.line ∧ 0 ≤ position.column ∧ 1 ≤ position.endLine ∧
      0 ≤ position.endColumn ∧
      NotBehind position.line position.column position.endLine position.endColumn)
    ⟨fun ⟨line, column, endLine, endColumn, ordered⟩ => ⟨line, column, endLine, endColumn, ordered⟩,
      fun ⟨line, column, endLine, endColumn, ordered⟩ => ⟨line, column, endLine, endColumn, ordered⟩⟩

instance (inner outer : Position) : Decidable (inner.Within outer) :=
  decidable_of_iff (NotBehind outer.line outer.column inner.line inner.column ∧
      NotBehind inner.endLine inner.endColumn outer.endLine outer.endColumn)
    ⟨fun ⟨start, stop⟩ => ⟨start, stop⟩, fun ⟨start, stop⟩ => ⟨start, stop⟩⟩

end Position

namespace LineIndex

theorem charsWithin_le (bytes : Nat) (chars : List Char) :
    charsWithin bytes chars ≤ chars.length := by
  induction chars generalizing bytes with
  | nil => exact Nat.le_refl 0
  | cons c rest induction =>
      rw [charsWithin]
      split
      · exact Nat.succ_le_succ (induction _)
      · exact Nat.zero_le _

theorem charsWithin_mono {bytes more : Nat} (hmore : bytes ≤ more) (chars : List Char) :
    charsWithin bytes chars ≤ charsWithin more chars := by
  induction chars generalizing bytes more with
  | nil => exact Nat.le_refl 0
  | cons c rest induction =>
      rw [charsWithin, charsWithin]
      split
      · rw [if_pos (by omega)]
        exact Nat.succ_le_succ (induction (by omega))
      · exact Nat.zero_le _

theorem getElem?_withStarts (start : Nat) (lines : List (List Char)) (line : Nat) :
    (withStarts start lines)[line]? =
      lines[line]?.map fun chars => (start + (lines.take line).flatten.length, chars) := by
  induction lines generalizing start line with
  | nil => rfl
  | cons first rest induction =>
      cases line with
      | zero => rfl
      | succ line =>
          rw [withStarts, List.getElem?_cons_succ, List.getElem?_cons_succ, induction]
          rw [List.take_succ_cons, List.flatten_cons, List.length_append, Nat.add_assoc]

theorem length_flatten_take {lines : List (List Char)} {line : Nat} {chars : List Char}
    (hline : lines[line]? = some chars) :
    (lines.take (line + 1)).flatten.length = (lines.take line).flatten.length + chars.length := by
  rw [List.take_add_one, hline, Option.toList_some, List.flatten_append, List.length_append,
    List.flatten_singleton]

theorem length_flatten_take_mono (lines : List (List Char)) {line later : Nat}
    (hlater : line ≤ later) :
    (lines.take line).flatten.length ≤ (lines.take later).flatten.length :=
  (List.Sublist.flatten (List.take_sublist_take_left hlater)).length_le

variable (text : List Char)

theorem length_flatten_take_le (line : Nat) :
    ((Text.physicalLines text).take line).flatten.length ≤ text.length := by
  conv_rhs => rw [← Text.flatten_physicalLines text]
  exact (List.Sublist.flatten (List.take_sublist _ _)).length_le

theorem offset_cases (line column : Int) :
    (line < 1 ∨ (Text.physicalLines text).length ≤ line.toNat - 1) ∧
        (ofText text).offset line column = text.length ∨
      ∃ chars, 1 ≤ line ∧ (Text.physicalLines text)[line.toNat - 1]? = some chars ∧
        (ofText text).offset line column =
          ((Text.physicalLines text).take (line.toNat - 1)).flatten.length +
            charsWithin (columnBytes column chars) chars := by
  rw [offset]
  split
  · exact .inl ⟨.inl ‹_›, rfl⟩
  · rename_i hline
    rw [ofText, getElem?_withStarts]
    cases hchars : (Text.physicalLines text)[line.toNat - 1]? with
    | none => exact .inl ⟨.inr (List.getElem?_eq_none_iff.mp hchars), rfl⟩
    | some chars =>
        refine .inr ⟨chars, by omega, rfl, ?_⟩
        rw [Option.map_some, Nat.zero_add]

theorem offset_line_le {line later : Nat} {chars : List Char}
    (hchars : (Text.physicalLines text)[line]? = some chars) (hlater : line < later)
    (bytes : Nat) :
    ((Text.physicalLines text).take line).flatten.length + charsWithin bytes chars ≤
      ((Text.physicalLines text).take later).flatten.length :=
  calc ((Text.physicalLines text).take line).flatten.length + charsWithin bytes chars
    _ ≤ ((Text.physicalLines text).take line).flatten.length + chars.length :=
      Nat.add_le_add_left (charsWithin_le _ _) _
    _ = ((Text.physicalLines text).take (line + 1)).flatten.length :=
      (length_flatten_take hchars).symm
    _ ≤ ((Text.physicalLines text).take later).flatten.length :=
      length_flatten_take_mono _ hlater

theorem offset_le (line column : Int) : (ofText text).offset line column ≤ text.length := by
  rcases offset_cases text line column with ⟨-, hend⟩ | ⟨chars, -, hchars, hoffset⟩
  · exact Nat.le_of_eq hend
  · rw [hoffset]
    exact Nat.le_trans (offset_line_le text hchars (Nat.lt_succ_self _) _)
      (length_flatten_take_le text _)

theorem offset_mono {line column line' column' : Int} (hfirst : 1 ≤ line) (hcolumn : 0 ≤ column)
    (hcolumn' : 0 ≤ column') (hle : Position.NotBehind line column line' column') :
    (ofText text).offset line column ≤ (ofText text).offset line' column' := by
  have hlines : line ≤ line' := by
    rcases hle with hline | ⟨hline, -⟩ <;> omega
  rcases offset_cases text line' column' with ⟨-, hend⟩ | ⟨chars', -, hchars', hoffset'⟩
  · rw [hend]
    exact offset_le text line column
  have hexists : line'.toNat - 1 < (Text.physicalLines text).length :=
    (List.getElem?_eq_some_iff.mp hchars').1
  rcases offset_cases text line column with ⟨hnone, -⟩ | ⟨chars, -, hchars, hoffset⟩
  · omega
  rw [hoffset, hoffset']
  rcases hle with hline | ⟨rfl, hcolumns⟩
  · have hlater : line.toNat - 1 < line'.toNat - 1 := by omega
    exact Nat.le_trans (offset_line_le text hchars hlater _) (Nat.le_add_right _ _)
  · rw [hchars] at hchars'
    cases hchars'
    refine Nat.add_le_add_left (charsWithin_mono ?_ _) _
    rw [columnBytes, columnBytes, if_neg (by omega), if_neg (by omega)]
    omega

theorem stop_rangeOf (position : Position) :
    ((ofText text).rangeOf position).stop ≤ text.length := by
  have hstart := offset_le text position.line position.column
  have hstop := offset_le text position.endLine position.endColumn
  simp only [rangeOf, Range.between, Range.stop]
  omega

theorem ofBounds_rangeOf (position : Position) :
    Range.ofBounds ((ofText text).offset position.line position.column)
      (max ((ofText text).offset position.line position.column)
        ((ofText text).offset position.endLine position.endColumn) : Nat) =
      .ok ((ofText text).rangeOf position) := by
  rw [Range.ofBounds_of_le (Nat.le_max_left _ _), rangeOf, Range.between, Range.between]
  congr 2
  omega

theorem rangeOf_within {inner outer : Position} (hinner : inner.IsOrdered)
    (houter : outer.IsOrdered) (within : inner.Within outer) :
    ((ofText text).rangeOf inner).Within ((ofText text).rangeOf outer) := by
  have hordered := offset_mono text hinner.line hinner.column hinner.endColumn hinner.ordered
  have hordered' := offset_mono text houter.line houter.column houter.endColumn houter.ordered
  have hstart := offset_mono text houter.line houter.column hinner.column within.start
  have hstop := offset_mono text hinner.endLine hinner.endColumn houter.endColumn within.stop
  refine ⟨hstart, ?_⟩
  rw [rangeOf, rangeOf, Range.stop_between hordered, Range.stop_between hordered']
  exact hstop

end LineIndex

namespace Value

def LiesIn (bounds : Range) (value : Value) : Prop :=
  ∀ node ∈ value.eachNode, ∀ loc, node.loc = some loc → loc.Within bounds

def IsNested (value : Value) : Prop :=
  ∀ outer ∈ value.eachNode, ∀ bounds, outer.loc = some bounds → outer.toValue.LiesIn bounds

variable {bounds outer : Range} {value : Value} {type : String} {loc : Option Range}
  {children : List Value}

theorem liesIn_of_isUnplaced (unplaced : value.IsUnplaced) : value.LiesIn bounds := by
  intro node member range hrange
  rw [unplaced node member] at hrange
  cases hrange

theorem LiesIn.trans (liesIn : value.LiesIn bounds) (within : bounds.Within outer) :
    value.LiesIn outer :=
  fun node member loc hloc => (liesIn node member loc hloc).trans within

theorem liesIn_node {id : Nat} (hloc : ∀ range, loc = some range → range.Within bounds)
    (each : ∀ child ∈ children, child.LiesIn bounds) :
    (node id type loc children).LiesIn bounds := by
  intro found member
  rcases List.mem_cons.mp member with rfl | hbelow
  · exact hloc
  · obtain ⟨child, inChildren, inChild⟩ := mem_eachNodeAmong.mp hbelow
    exact each child inChildren found inChild

theorem LiesIn.locOf (liesIn : value.LiesIn bounds) {range : Range}
    (hrange : Program.locOf value = some range) : range.Within bounds := by
  cases value with
  | node id type loc children => exact liesIn _ List.mem_cons_self range hrange
  | _ => cases hrange

theorem isNested_of_no_node (hnone : value.eachNode = []) : value.IsNested := by
  intro outer member
  rw [hnone] at member
  cases member

theorem isNested_node {id : Nat}
    (hchildren : ∀ bounds, loc = some bounds → ∀ child ∈ children, child.LiesIn bounds)
    (each : ∀ child ∈ children, child.IsNested) : (node id type loc children).IsNested := by
  intro outer member bounds hbounds
  rcases List.mem_cons.mp member with rfl | hbelow
  · refine liesIn_node (fun range hrange => ?_) (hchildren bounds hbounds)
    rw [show loc = some bounds from hbounds] at hrange
    cases hrange
    exact .refl _
  · obtain ⟨child, inChildren, inChild⟩ := mem_eachNodeAmong.mp hbelow
    exact each child inChildren outer inChild bounds hbounds

theorem IsNested.liesIn (nested : value.IsNested) (hbounds : Program.locOf value = some bounds) :
    value.LiesIn bounds := by
  cases value with
  | node id type loc children => exact nested _ List.mem_cons_self bounds hbounds
  | _ => cases hbounds

theorem liesIn_unnumbered : value.unnumbered.LiesIn bounds ↔ value.LiesIn bounds := by
  rw [LiesIn, eachNode_unnumbered, List.forall_mem_map]
  rfl

theorem isNested_unnumbered : value.unnumbered.IsNested ↔ value.IsNested := by
  rw [IsNested, eachNode_unnumbered, List.forall_mem_map]
  refine forall₂_congr fun node member => forall₂_congr fun bounds hbounds => ?_
  rw [Node.toValue_unnumbered]
  exact liesIn_unnumbered

end Value

namespace Construct

/-- The positions in a program are in order and lie within one another, decorations aside. -/
structure IsOrderly (program : Construct) : Prop where
  ordered : ∀ part, Part part program → ∀ position, part.position? = some position →
    position.IsOrdered
  within : ∀ outer, Part outer program → ∀ bounds, outer.position? = some bounds →
    ∀ inner, Part inner outer → ∀ position, inner.position? = some position →
      position.Within bounds

/-- The program is placed as its grammar has it: its statements, parameters, keywords and entries
have positions, and what has none holds none. -/
def IsPlaced (program : Construct) : Prop :=
  ∀ part, Part part program → ∀ head ∈ part.heads, head.position? = none → head.IsBare

variable {program part : Construct}

theorem IsOrderly.below (orderly : program.IsOrderly) (hpart : Part part program) :
    part.IsOrderly :=
  ⟨fun inner hinner => orderly.ordered inner (hinner.trans hpart),
    fun outer houter => orderly.within outer (houter.trans hpart)⟩

theorem IsPlaced.below (placed : program.IsPlaced) (hpart : Part part program) :
    part.IsPlaced :=
  fun inner hinner => placed inner (hinner.trans hpart)

theorem isOrderly_of_parts
    (ordered : ∀ part ∈ program.parts, ∀ position ∈ part.position?, position.IsOrdered)
    (within : ∀ outer ∈ program.parts, ∀ bounds ∈ outer.position?, ∀ inner ∈ outer.parts,
      ∀ position ∈ inner.position?, position.Within bounds) : program.IsOrderly :=
  ⟨fun part hpart => ordered part hpart.mem_parts,
    fun outer houter bounds hbounds inner hinner =>
      within outer houter.mem_parts bounds hbounds inner hinner.mem_parts⟩

theorem isPlaced_of_parts (placed : ∀ part ∈ program.parts, ∀ head ∈ part.heads,
    head.position? = none → ∀ inner ∈ head.parts, inner.position? = none) : program.IsPlaced :=
  fun part hpart head hhead hnone inner hinner =>
    placed part hpart.mem_parts head hhead hnone inner hinner.mem_parts

/-- In an orderly program the range of a construct holds those of its parts. -/
theorem IsOrderly.loc_within (orderly : program.IsOrderly) {text : List Char} {bounds range : Range}
    (hbounds : program.loc (.ofText text) = some bounds) (hpart : Part part program)
    (hrange : part.loc (.ofText text) = some range) : range.Within bounds := by
  obtain ⟨outer, houter, rfl⟩ := Option.map_eq_some_iff.mp hbounds
  obtain ⟨inner, hinner, rfl⟩ := Option.map_eq_some_iff.mp hrange
  exact LineIndex.rangeOf_within text (orderly.ordered part hpart inner hinner)
    (orderly.ordered program .self outer houter)
    (orderly.within program .self outer houter part hpart inner hinner)

end Construct

namespace Program

open Construct (Part)

variable {vocabulary : Vocabulary} {index : LineIndex} {construct : Construct} {value : Value}
  {bounds : Range}

theorem Grown.liesIn (grown : Grown vocabulary index construct value)
    (hbounds : ∀ part, Part part construct → ∀ range, part.loc index = some range →
      range.Within bounds) : value.LiesIn bounds := by
  induction grown with
  | absent => exact Value.liesIn_of_isUnplaced (isUnplaced_of_atom trivial)
  | atom hatom hplain => exact Value.liesIn_of_isUnplaced (isUnplaced_of_atom hplain)
  | list hlists each induction => exact fun node member => nomatch member
  | own htype each induction =>
      exact Value.liesIn_node (hbounds _ .self) fun child member =>
        induction child member hbounds
  | span htype stand each induction =>
      have hchildren := fun child member => induction child member hbounds
      refine Value.liesIn_node (fun range hrange => ?_) hchildren
      refine Range.hull_within hrange fun inner hinner => ?_
      obtain ⟨child, member, hloc⟩ := List.mem_filterMap.mp hinner
      exact (hchildren child member).locOf hloc
  | part hpart grown induction =>
      exact induction fun inner hinner => hbounds inner (hinner.trans hpart)

/-- A value that stands for a construct has a range, or there is none in it. -/
theorem Stands.covers (stands : Stands index construct value)
    (placed : construct.IsPlaced) (hplaced : construct.position? = none → construct.IsBare) :
    (∃ range, locOf value = some range) ∨ value.IsUnplaced := by
  induction stands with
  | @data construct value hdata =>
      refine .inr fun node member => ?_
      cases value with
      | node id type loc children => cases hdata
      | _ => cases member
  | @own construct type children hbare =>
      cases hposition : construct.position? with
      | some position =>
          refine .inl ⟨index.rangeOf position, ?_⟩
          change construct.loc index = _
          rw [Construct.loc, hposition]
          rfl
      | none =>
          refine .inr (isUnplaced_node ?_ (hbare (hplaced hposition)))
          rw [Construct.loc, hposition]
          rfl
  | @span construct type children head heads parts each induction =>
      have hcovers : ∀ child ∈ children,
          (∃ range, locOf child = some range) ∨ child.IsUnplaced := fun child member =>
        induction child member (placed.below (parts child member))
          (placed construct .self _ (heads child member))
      -- The span of the children has a range if one of them has.
      by_cases hsome : ∃ child ∈ children, ∃ range, locOf child = some range
      · obtain ⟨child, member, range, hrange⟩ := hsome
        have hmem : range ∈ children.filterMap locOf :=
          List.mem_filterMap.mpr ⟨child, member, hrange⟩
        refine .inl ?_
        change ∃ range, Program.span children = some range
        rw [Program.span]
        cases hranges : children.filterMap locOf with
        | nil =>
            rw [hranges] at hmem
            cases hmem
        | cons first rest => exact ⟨_, rfl⟩
      · have hunplaced : ∀ child ∈ children, child.IsUnplaced := fun child member =>
          (hcovers child member).resolve_left fun hrange => hsome ⟨child, member, hrange⟩
        exact .inr (isUnplaced_node (span_of_isUnplaced hunplaced) hunplaced)
  | @head construct head value member hpart stands induction =>
      exact induction (placed.below hpart) (placed construct .self head member)

theorem Grown.isNested {text : List Char}
    (grown : Grown vocabulary (.ofText text) construct value) (placed : construct.IsPlaced)
    (orderly : construct.IsOrderly) : value.IsNested := by
  induction grown with
  | absent => exact Value.isNested_of_no_node rfl
  | @atom construct atom hatom hplain =>
      refine Value.isNested_of_no_node ?_
      cases atom with
      | node id type loc children => cases hplain
      | _ => rfl
  | list hlists each induction => exact Value.isNested_of_no_node rfl
  | @own construct type children htype each induction =>
      refine Value.isNested_node (fun bounds hbounds child member => ?_)
        fun child member => induction child member placed orderly
      exact (each child member).liesIn fun part hpart range hrange =>
        orderly.loc_within hbounds hpart hrange
  | @span construct type children htype stand each induction =>
      have hnested := fun child member => induction child member placed orderly
      refine Value.isNested_node (fun bounds hbounds child member => ?_) hnested
      obtain ⟨head, hhead, hpart, stands⟩ := stand child member
      rcases stands.covers (placed.below hpart) (placed construct .self head hhead) with
        ⟨range, hrange⟩ | hunplaced
      · exact ((hnested child member).liesIn hrange).trans
          (Range.within_hull hbounds (List.mem_filterMap.mpr ⟨child, member, hrange⟩))
      · exact Value.liesIn_of_isUnplaced hunplaced
  | part hpart grown induction => exact induction (placed.below hpart) (orderly.below hpart)

def anything : Vocabulary :=
  ⟨fun _ => True, fun _ => True, True⟩

theorem grown_anything (source : String) (program : Construct) :
    Grown anything (.ofText source.toList) program (toTree source program).toValue := by
  have hfits : ∀ construct, anything.Fits construct :=
    fun construct => ⟨fun _ _ => trivial, fun _ => trivial⟩
  refine grown_toTree ⟨fun _ _ => trivial, fun _ _ => trivial⟩ (fun part kept => ?_) (hfits _) source
  exact ⟨fun _ _ => trivial, fun _ _ => trivial, fun _ _ => hfits _, fun _ _ _ _ => hfits _,
    fun _ _ _ _ _ _ => hfits _, fun _ _ _ => hfits _⟩

theorem liesIn_ofNode {root : Node} {source : String} :
    (Document.ofNode root source).root.toValue.LiesIn bounds ↔ root.toValue.LiesIn bounds := by
  rw [← Value.liesIn_unnumbered, Document.unnumbered_ofNode, Value.liesIn_unnumbered]

theorem isNested_ofNode {root : Node} {source : String} :
    (Document.ofNode root source).root.toValue.IsNested ↔ root.toValue.IsNested := by
  rw [← Value.isNested_unnumbered, Document.unnumbered_ofNode, Value.isNested_unnumbered]

/-- A span goes from the least start to the greatest stop, which are in order. -/
theorem ofBounds_span {values : List Value} {loc : Range} (hspan : span values = some loc) :
    ∃ least greatest : Nat, ((values.filterMap locOf).map Range.start).min? = some least ∧
      ((values.filterMap locOf).map Range.stop).max? = some greatest ∧
      Range.ofBounds least greatest = .ok loc := by
  obtain ⟨hleast, hgreatest⟩ := Range.hull_eq_some hspan
  refine ⟨_, _, hleast, hgreatest, ?_⟩
  have hordered : loc.start ≤ loc.stop := Nat.le_add_right _ _
  have hsize : loc.stop - loc.start = loc.size := Nat.add_sub_cancel_left ..
  rw [Range.ofBounds_of_le hordered, Range.between, hsize]

/-- The ranges in the tree of a program are made of offsets in order and lie within the text; and
if the positions in a program lie within one another, so do the ranges in its tree. -/
theorem readDocument_ranges (source : String) (program : Construct) :
    (∀ position, Range.ofBounds
        ((LineIndex.ofText source.toList).offset position.line position.column)
        (max ((LineIndex.ofText source.toList).offset position.line position.column)
          ((LineIndex.ofText source.toList).offset position.endLine position.endColumn) : Nat) =
      .ok ((LineIndex.ofText source.toList).rangeOf position)) ∧
    (∀ values loc, span values = some loc → ∃ least greatest : Nat,
      ((values.filterMap locOf).map Range.start).min? = some least ∧
      ((values.filterMap locOf).map Range.stop).max? = some greatest ∧
      Range.ofBounds least greatest = .ok loc) ∧
    ∃ document, readDocument source (.ok program) = .ok document ∧
      (∀ node ∈ document.root.eachNode, ∀ loc, node.loc = some loc →
        loc.stop ≤ source.toList.length) ∧
      (program.IsPlaced → program.IsOrderly →
        ∀ outer ∈ document.root.eachNode, ∀ bounds, outer.loc = some bounds →
          ∀ inner ∈ outer.eachNode, ∀ loc, inner.loc = some loc → loc.Within bounds) := by
  have hgrown := grown_anything source program
  refine ⟨LineIndex.ofBounds_rangeOf source.toList, fun values loc => ofBounds_span, _, rfl, ?_, ?_⟩
  · have hwhole : ∀ part, Part part program → ∀ range,
        part.loc (.ofText source.toList) = some range →
        range.Within ⟨0, source.toList.length⟩ := by
      intro part _ range hrange
      obtain ⟨position, -, rfl⟩ := Option.map_eq_some_iff.mp hrange
      have hstop := LineIndex.stop_rangeOf source.toList position
      exact ⟨Nat.zero_le _, Nat.le_trans hstop (Nat.le_of_eq (Nat.zero_add _).symm)⟩
    intro node member loc hloc
    have hwithin := (liesIn_ofNode.mpr (hgrown.liesIn hwhole)) node member loc hloc
    exact Nat.le_trans hwithin.stop (Nat.le_of_eq (Nat.zero_add _))
  · intro placed orderly
    exact isNested_ofNode.mpr (hgrown.isNested placed orderly)

/-- A decorated function: the decoration lies outside of it, and the hash around the keyword within
the call. -/
theorem readDocument_ranges_decorated :
    let load : Construct := .node "Load" none [] []
    let argument : Construct := .node "Name" (some ⟨3, 13, 3, 15⟩) ["id", "ctx"] [.str "é", load]
    let keyword : Construct := .node "keyword" (some ⟨3, 17, 3, 20⟩) ["arg", "value"]
      [.str "k", .node "Constant" (some ⟨3, 19, 3, 20⟩) ["value", "kind"] [.int 1, .absent]]
    let call : Construct := .node "Call" (some ⟨3, 11, 3, 21⟩) ["func", "args", "keywords"]
      [.node "Name" (some ⟨3, 11, 3, 12⟩) ["id", "ctx"] [.str "g", load], .list [argument],
        .list [keyword]]
    let args : Construct := .node "arguments" none ["posonlyargs", "args", "vararg", "kwonlyargs"]
      [.list [], .list [.node "arg" (some ⟨2, 6, 2, 8⟩) ["arg"] [.str "é"]], .absent, .list []]
    let program : Construct := .node "Module" none ["body", "type_ignores"]
      [.list [.node "FunctionDef" (some ⟨2, 0, 3, 21⟩) ["name", "args", "body", "decorator_list"]
        [.str "f", args, .list [.node "Return" (some ⟨3, 4, 3, 21⟩) ["value"] [call]],
          .list [.node "Name" (some ⟨1, 1, 1, 2⟩) ["id", "ctx"] [.str "d", load]]]], .list []]
    program.IsPlaced ∧ program.IsOrderly ∧
      ∃ document, readDocument "@d\ndef f(é):\n    return g(é, k=1)\n" (.ok program) = .ok document ∧
        document.root.eachNode.map (fun node => (node.type, node.loc)) =
          [("def", some ⟨3, 30⟩), ("args", some ⟨9, 1⟩), ("arg", some ⟨9, 1⟩),
            ("return", some ⟨17, 16⟩), ("send", some ⟨24, 9⟩), ("lvar", some ⟨26, 1⟩),
            ("hash", some ⟨29, 3⟩), ("pair", some ⟨29, 3⟩), ("sym", some ⟨29, 3⟩),
            ("int", some ⟨31, 1⟩)] ∧
        ∀ outer ∈ document.root.eachNode, ∀ bounds, outer.loc = some bounds →
          ∀ inner ∈ outer.eachNode, ∀ loc, inner.loc = some loc → loc.Within bounds := by
  intro load argument keyword call args program
  have placed : program.IsPlaced := Construct.isPlaced_of_parts (by decide +kernel)
  have orderly : program.IsOrderly :=
    Construct.isOrderly_of_parts (by decide +kernel) (by decide +kernel)
  refine ⟨placed, orderly, ?_⟩
  obtain ⟨-, -, document, hread, -, hnested⟩ :=
    readDocument_ranges "@d\ndef f(é):\n    return g(é, k=1)\n" program
  refine ⟨document, hread, ?_, hnested placed orderly⟩
  cases hread
  decide +kernel

end Program

end TreeMatch
