import TreeMatch.Proofs.Anatomy
import TreeMatch.Proofs.Calls

/-! How the trees of programs grow out of constructs. Each node has the range of a construct, or the
range around the parts that stand for one; and it is written with the words of that construct. -/

namespace TreeMatch

def Value.IsUnplaced (value : Value) : Prop :=
  ∀ node ∈ value.eachNode, node.loc = none

def Value.IsAtom : Value → Prop
  | list _ => False
  | tuple _ => False
  | node .. => False
  | _ => True

namespace Program

open Construct (Part Kept Inside fieldKind)

section Read

variable (index : LineIndex) (construct : Construct)

theorem loc_read : (read index construct).loc = construct.loc index := by
  cases construct <;> rfl

theorem className_read : (read index construct).className = construct.className := by
  rw [Reading.className, construct_read]

theorem isAbsent_read : (read index construct).isAbsent = construct.isAbsent := by
  rw [Reading.isAbsent, construct_read]

theorem items_read_map : (read index construct).items = construct.items.map (read index) := by
  cases construct with
  | list items => exact items_read index items
  | _ => rfl

theorem fields_read : (read index construct).fields =
    construct.entries.map fun entry => (entry.1, read index entry.2) := by
  cases construct with
  | node className position names fields =>
      rw [read_node]
      exact List.zip_map_right
  | _ => rfl

theorem get_fields (name : String) : (read index construct).fields.get name =
    ((construct.entries.lookup name).map (read index)).getD .absent := by
  cases construct with
  | node className position names fields =>
      rw [read_node]
      exact get_read index name names fields
  | _ => rfl

theorem apply_get {α : Type} (f : Reading → α) (habsent : f .absent = f (read index .absent))
    (name : String) :
    f ((read index construct).fields.get name) = f (read index (construct.field name)) := by
  rw [get_fields, Construct.field]
  cases construct.entries.lookup name with
  | none => exact habsent
  | some found => rfl

variable (name : String)

theorem value_get : ((read index construct).fields.get name).value =
    (read index (construct.field name)).value :=
  apply_get index construct Reading.value rfl name

theorem construct_get :
    ((read index construct).fields.get name).construct = construct.field name := by
  rw [apply_get index construct Reading.construct rfl name, construct_read]

theorem className_get :
    ((read index construct).fields.get name).className = (construct.field name).className := by
  rw [Reading.className, construct_get]

theorem isAbsent_get :
    ((read index construct).fields.get name).isAbsent = (construct.field name).isAbsent := by
  rw [Reading.isAbsent, construct_get]

theorem items_get : ((read index construct).fields.get name).items =
    (construct.field name).items.map (read index) := by
  rw [apply_get index construct Reading.items rfl name, items_read_map]

theorem fields_get : ((read index construct).fields.get name).fields =
    (read index (construct.field name)).fields :=
  apply_get index construct Reading.fields rfl name

theorem symbol_get (added : String) : (read index construct).fields.symbol name added =
    .sym (construct.word name ++ added) := by
  rw [Fields.symbol, construct_get, Construct.word]

theorem operatorSymbol_get : operatorSymbol ((read index construct).fields.get name) =
    (construct.field name).operator := by
  rw [operatorSymbol, className_get, Construct.operator]

end Read

inductive Stands (index : LineIndex) : Construct → Value → Prop
  | data {construct : Construct} {value : Value} (hdata : value.node? = none) :
      Stands index construct value
  | own {construct : Construct} {type : String} {children : List Value}
      (hbare : construct.IsBare → ∀ child ∈ children, child.IsUnplaced) :
      Stands index construct (.node 0 type (construct.loc index) children)
  | span {construct : Construct} {type : String} {children : List Value}
      (head : Value → Construct) (heads : ∀ child ∈ children, head child ∈ construct.heads)
      (parts : ∀ child ∈ children, Part (head child) construct)
      (each : ∀ child ∈ children, Stands index (head child) child) :
      Stands index construct (.node 0 type (span children) children)
  | head {construct head : Construct} {value : Value} (member : head ∈ construct.heads)
      (hpart : Part head construct) (stands : Stands index head value) :
      Stands index construct value

def StandsIn (index : LineIndex) (construct : Construct) (value : Value) : Prop :=
  ∃ head ∈ construct.heads, Part head construct ∧ Stands index head value

/-- A value has grown out of a construct: it is made of atoms and nodes of a vocabulary, and each
node has the range of one of the construct's parts or spans the parts that stand for one. -/
inductive Grown (vocabulary : Vocabulary) (index : LineIndex) : Construct → Value → Prop
  | absent {construct : Construct} : Grown vocabulary index construct .absent
  | atom {construct : Construct} {atom : Value} (hatom : vocabulary.atoms atom)
      (hplain : atom.IsAtom) : Grown vocabulary index construct atom
  | list {construct : Construct} {items : List Value} (hlists : vocabulary.lists)
      (each : ∀ item ∈ items, Grown vocabulary index construct item) :
      Grown vocabulary index construct (.list items)
  | own {construct : Construct} {type : String} {children : List Value}
      (htype : vocabulary.types type)
      (each : ∀ child ∈ children, Grown vocabulary index construct child) :
      Grown vocabulary index construct (.node 0 type (construct.loc index) children)
  | span {construct : Construct} {type : String} {children : List Value}
      (htype : vocabulary.types type) (stand : ∀ child ∈ children, StandsIn index construct child)
      (each : ∀ child ∈ children, Grown vocabulary index construct child) :
      Grown vocabulary index construct (.node 0 type (span children) children)
  | part {part construct : Construct} {value : Value} (hpart : Part part construct)
      (grown : Grown vocabulary index part value) : Grown vocabulary index construct value

structure Grows (vocabulary : Vocabulary) (index : LineIndex) (construct : Construct)
    (value : Value) : Prop where
  grown : Grown vocabulary index construct value
  stands : Stands index construct value

structure Sprouts (vocabulary : Vocabulary) (index : LineIndex) (construct : Construct) :
    Prop where
  grows : vocabulary.Fits construct → Grows vocabulary index construct (read index construct).value
  target : vocabulary.Fits construct → ∀ outer, Part construct outer → ∀ values,
    (∀ value ∈ values, Grown vocabulary index outer value) →
    Grown vocabulary index outer ((read index construct).target (outer.loc index) values)

structure Ready (vocabulary : Vocabulary) (index : LineIndex) (construct : Construct) : Prop where
  isOpen : vocabulary.IsOpen
  suits : ∀ part, Kept part construct → vocabulary.Suits part
  sprouts : ∀ part, Inside part construct → Sprouts vocabulary index part

section Grows

variable {vocabulary : Vocabulary} {index : LineIndex} {construct part : Construct}
  {type : String} {children : List Value}

theorem Grows.absent : Grows vocabulary index construct .absent :=
  ⟨.absent, .data rfl⟩

theorem isUnplaced_of_atom {atom : Value} (hplain : atom.IsAtom) : atom.IsUnplaced := by
  intro node member
  cases atom with
  | node id type loc children => cases hplain
  | _ => cases member

theorem isUnplaced_node {loc : Option Range} (hloc : loc = none)
    (each : ∀ child ∈ children, child.IsUnplaced) : (node type loc children).IsUnplaced := by
  intro found member
  rcases List.mem_cons.mp member with rfl | hbelow
  · exact hloc
  · obtain ⟨child, inChildren, inChild⟩ := Value.mem_eachNodeAmong.mp hbelow
    exact each child inChildren found inChild

theorem locOf_of_isUnplaced {value : Value} (unplaced : value.IsUnplaced) : locOf value = none := by
  cases value with
  | node id type loc children => exact unplaced _ List.mem_cons_self
  | _ => rfl

theorem span_of_isUnplaced (each : ∀ child ∈ children, child.IsUnplaced) :
    span children = none := by
  rw [span, List.filterMap_eq_nil_iff.mpr fun child member => locOf_of_isUnplaced (each child member)]
  rfl

theorem Grown.isUnplaced {value : Value} (grown : Grown vocabulary index construct value)
    (hbare : construct.IsBare) : value.IsUnplaced := by
  induction grown with
  | absent => exact isUnplaced_of_atom trivial
  | atom hatom hplain => exact isUnplaced_of_atom hplain
  | list hlists each induction => exact fun node member => nomatch member
  | own htype each induction =>
      refine isUnplaced_node ?_ fun child member => induction child member hbare
      rw [Construct.loc, hbare _ .self]
      rfl
  | span htype stand each induction =>
      have hchildren := fun child member => induction child member hbare
      exact isUnplaced_node (span_of_isUnplaced hchildren) hchildren
  | part hpart grown induction => exact induction fun inner hinner => hbare inner (hinner.trans hpart)

theorem Grown.grows
    (grown : Grown vocabulary index construct (node type (construct.loc index) children)) :
    Grows vocabulary index construct (node type (construct.loc index) children) := by
  refine ⟨grown, .own fun hbare child member found inChild => ?_⟩
  exact grown.isUnplaced hbare found
    (List.mem_cons_of_mem _ (Value.mem_eachNodeAmong.mpr ⟨child, member, inChild⟩))

theorem Grows.own (htype : vocabulary.types type)
    (each : ∀ child ∈ children, Grown vocabulary index construct child) :
    Grows vocabulary index construct (node type (construct.loc index) children) :=
  Grown.grows (.own htype each)

theorem Grows.span (htype : vocabulary.types type)
    (each : ∀ child ∈ children, Grown vocabulary index construct child)
    (stand : ∀ child ∈ children, StandsIn index construct child) :
    Grows vocabulary index construct (node type (span children) children) := by
  refine ⟨.span htype stand each, ?_⟩
  choose! head hheads hparts hstands using stand
  exact .span head hheads hparts hstands

theorem Grows.standsIn {head : Construct} {value : Value}
    (grows : Grows vocabulary index head value) (member : head ∈ construct.heads)
    (hpart : Part head construct) : StandsIn index construct value :=
  ⟨head, member, hpart, grows.stands⟩

/-- What has the range of a part and is made of its values has grown out of the whole. -/
theorem Grows.whole (hpart : Part part construct) {value : Value}
    (grows : Grows vocabulary index part value) : Grown vocabulary index construct value :=
  .part hpart grows.grown

theorem fieldKind_of_many {className name : String} (hmany : fieldKind className name = .many) :
    fieldKind className name ≠ .lost ∧ fieldKind className name ≠ .first := by
  rw [hmany]
  decide

theorem span_singleton (value : Value) : span [value] = locOf value := by
  rw [span, List.filterMap_cons, List.filterMap_nil]
  cases locOf value with
  | none => rfl
  | some loc =>
      simp only [Range.hull, List.foldl_nil, Range.between, Range.stop]
      rw [Nat.add_sub_cancel_left]

theorem target?_eq_node {className : String} {own loc : Option Range} {fields : Fields}
    {values : List Value} {target : Value}
    (htarget : target? className own fields loc values = some target) :
    ∃ type children, target = node type loc children := by
  unfold target? at htarget
  split at htarget
  · exact ⟨_, _, (Option.some.inj htarget).symm⟩
  split at htarget
  · exact ⟨_, _, (Option.some.inj htarget).symm⟩
  split at htarget
  · exact ⟨_, _, (Option.some.inj htarget).symm⟩
  split at htarget
  · exact ⟨_, _, (Option.some.inj htarget).symm⟩
  · cases htarget

theorem target_eq_node (index : LineIndex) (construct : Construct) (loc : Option Range)
    (values : List Value) :
    ∃ type children, (read index construct).target loc values = node type loc children := by
  cases construct with
  | node className position names fields =>
      rw [read_node, readNode, Reading.target]
      cases htarget : target? className (position.map index.rangeOf)
          (names.zip (fields.map (read index))) loc values with
      | none => exact ⟨_, _, rfl⟩
      | some target => exact target?_eq_node htarget
  | _ => exact ⟨_, _, rfl⟩

theorem optionalParameter_get (index : LineIndex) (construct : Construct) (type name : String) :
    optionalParameter type ((read index construct).fields.get name) =
      (construct.field name).present.map fun p => parameter type (read index p) := by
  rw [apply_get index construct (optionalParameter type) rfl name, optionalParameter, isAbsent_read,
    Construct.present]
  cases (construct.field name).isAbsent with
  | true => rfl
  | false => rfl

namespace Ready

variable (ready : Ready vocabulary index construct) {name : String}
include ready

theorem common (member : type ∈ Vocabulary.commonTypes) : vocabulary.types type :=
  ready.isOpen.types type member

theorem symbol {symbol : String} (member : symbol ∈ Vocabulary.commonSymbols) :
    Grown vocabulary index construct (.sym symbol) :=
  .atom (ready.isOpen.symbols symbol member) trivial

theorem leaf {atom : Value} (member : atom ∈ construct.leaves) (hplain : atom.IsAtom) :
    Grown vocabulary index construct atom :=
  .atom ((ready.suits construct .self).leaves atom member) hplain

theorem inside (hinside : Inside part construct) : Ready vocabulary index part :=
  ⟨ready.isOpen, fun inner kept => ready.suits inner (kept.trans hinside.1),
    fun inner hinner => ready.sprouts inner (hinner.trans hinside)⟩

theorem fits_field (hone : fieldKind construct.className name = .one)
    (member : (name, construct.field name) ∈ construct.entries) :
    vocabulary.Fits (construct.field name) := by
  refine (ready.suits construct .self).fields name _ member ?_
  rw [Construct.Takes, hone]
  trivial

theorem fits_item (hmany : fieldKind construct.className name = .many)
    (member : part ∈ (construct.field name).items) : vocabulary.Fits part := by
  obtain ⟨hlost, hfirst⟩ := fieldKind_of_many hmany
  rcases Construct.inside_field hlost hfirst with habsent | hinside
  · rw [habsent] at member
    cases member
  · exact (ready.suits _ hinside.1).items part member

theorem grown_part (hinside : Inside part construct) (hfits : vocabulary.Fits part) :
    Grown vocabulary index construct (read index part).value :=
  .part (Construct.part_of_kept hinside.1) ((ready.sprouts _ hinside).grows hfits).grown

theorem grown_field (hone : fieldKind construct.className name = .one) :
    Grown vocabulary index construct ((read index construct).fields.get name).value := by
  rw [value_get]
  rcases construct.field_mem_entries name with habsent | member
  · rw [habsent]
    exact .absent
  · have hinside : Inside (construct.field name) construct :=
      Construct.inside_entry member (by rw [hone]; decide) (by rw [hone]; decide)
    exact ready.grown_part hinside (ready.fits_field hone member)

theorem grown_item (hmany : fieldKind construct.className name = .many)
    (member : part ∈ (construct.field name).items) :
    Grown vocabulary index construct (read index part).value := by
  obtain ⟨hlost, hfirst⟩ := fieldKind_of_many hmany
  exact ready.grown_part (Construct.inside_of_item hlost hfirst member)
    (ready.fits_item hmany member)

theorem grown_items (hmany : fieldKind construct.className name = .many) :
    ∀ child ∈ ((read index construct).fields.get name).items.map Reading.value,
      Grown vocabulary index construct child := by
  rw [items_get, List.map_map]
  exact List.forall_mem_map.mpr fun part member => ready.grown_item hmany member

theorem grown_targetAlone (hinside : Inside part construct) (hfits : vocabulary.Fits part) :
    Grown vocabulary index construct (targetAlone (read index part)) := by
  rw [targetAlone, loc_read]
  exact .part (Construct.part_of_kept hinside.1)
    ((ready.sprouts _ hinside).target hfits part .self [] (List.forall_mem_nil _))

theorem grown_targetAlone_field (hone : fieldKind construct.className name = .one) :
    Grown vocabulary index construct
      (targetAlone ((read index construct).fields.get name)) := by
  rw [get_fields]
  cases hlookup : construct.entries.lookup name with
  | none => exact .absent
  | some found =>
      have hfound : construct.field name = found := by
        rw [Construct.field, hlookup]
        rfl
      have member := mem_of_lookup hlookup
      have hinside : Inside found construct :=
        Construct.inside_entry member (by rw [hone]; decide) (by rw [hone]; decide)
      exact ready.grown_targetAlone hinside (hfound ▸ ready.fits_field hone (hfound.symm ▸ member))

/-- A series of statements has grown out of the construct that they stand for. -/
theorem grows_body (hmany : fieldKind construct.className name = .many)
    (heads : ∀ item ∈ (construct.field name).items, item ∈ construct.heads) :
    Grows vocabulary index construct (body ((read index construct).fields.get name)) := by
  obtain ⟨hlost, hfirst⟩ := fieldKind_of_many hmany
  have hgrown := ready.grown_items hmany
  have hstands : ∀ child ∈ ((read index construct).fields.get name).items.map Reading.value,
      StandsIn index construct child := by
    rw [items_get, List.map_map]
    refine List.forall_mem_map.mpr fun part member => ?_
    have hinside := Construct.inside_of_item hlost hfirst member
    exact ((ready.sprouts part hinside).grows (ready.fits_item hmany member)).standsIn
      (heads part member) (Construct.part_of_kept hinside.1)
  unfold body
  split
  · exact .absent
  · rename_i single hsingle
    rw [hsingle] at hgrown hstands
    obtain ⟨head, hhead, hpart, stands⟩ := hstands single List.mem_cons_self
    exact ⟨hgrown single List.mem_cons_self, .head hhead hpart stands⟩
  · exact .span (ready.common (by decide)) hgrown hstands

theorem grows_generic {className : String} {position : Option Position} {names : List String}
    {fields : List Construct} (hnode : construct = .node className position names fields)
    (hspread : Construct.isSpread className = true) (hfits : vocabulary.Fits construct) :
    Grows vocabulary index construct
      (generic className (construct.loc index) (read index construct).fields) := by
  have hclass : construct.className = className := by
    rw [hnode]
    rfl
  unfold generic
  split
  · rename_i symbol hsymbol
    refine ⟨.atom (hfits.atoms _ ?_) trivial, .data rfl⟩
    rw [hnode, Construct.bare, hsymbol]
    exact List.mem_singleton_self _
  split
  · exact .absent
  rename_i hnone hmarker
  refine .own ((ready.suits construct .self).types _ ?_) fun child member => ?_
  · have hmark : Construct.isMark className = false := by
      rw [Construct.isMark, hnone, eq_false_of_ne_true hmarker]
      rfl
    have hother : className ≠ "Constant" := by
      rintro rfl
      exact absurd hspread (by decide)
    rw [hnode, Construct.types, if_neg hother, hmark]
    exact List.mem_singleton_self _
  · rw [genericChildren, fields_read, List.mem_flatMap] at member
    obtain ⟨entry, hentry, hchild⟩ := member
    obtain ⟨⟨name, field⟩, hfield, rfl⟩ := List.mem_map.mp hentry
    obtain ⟨hlost, hfirst⟩ := Construct.fieldKind_of_isSpread hspread name
    have hinside : Inside field construct :=
      Construct.inside_entry hfield (by rwa [hclass]) (by rwa [hclass])
    dsimp only at hchild
    split at hchild
    · cases hchild
    rename_i hhidden
    rw [construct_read] at hchild
    split at hchild
    · rename_i items
      obtain ⟨reading, hreading, rfl⟩ := List.mem_map.mp hchild
      have hitems : (read index (.list items)).parts = items.map (read index) :=
        readAll_eq_map index items
      rw [hitems] at hreading
      obtain ⟨item, hitem, rfl⟩ := List.mem_map.mp hreading
      exact ready.grown_part ((Construct.inside_item hitem).trans hinside)
        ((ready.suits _ hinside.1).items item hitem)
    · rename_i hlist
      rw [List.mem_singleton] at hchild
      rw [hchild]
      refine ready.grown_part hinside ((ready.suits construct .self).fields name field hfield ?_)
      rw [hclass]
      refine Construct.takes_of_isSpread hspread (eq_false_of_ne_true hhidden) ?_
      cases field with
      | list items => exact absurd rfl (hlist items)
      | _ => rfl

theorem grown_operator (member : (construct.field name).operator ∈ construct.leaves) :
    Grown vocabulary index construct
      (operatorSymbol ((read index construct).fields.get name)) := by
  rw [operatorSymbol_get]
  exact ready.leaf member trivial

theorem grown_symbol (member : .sym (construct.word name) ∈ construct.leaves) :
    Grown vocabulary index construct ((read index construct).fields.symbol name "") := by
  rw [symbol_get, String.append_empty]
  exact ready.leaf member trivial

theorem grown_target {value : Value} (hvalue : Grown vocabulary index construct value)
    {outer : Construct} (hpart : Part construct outer) {values : List Value}
    (hvalues : ∀ value ∈ values, Grown vocabulary index outer value) :
    Grown vocabulary index outer
      ((target? construct.className (construct.loc index) (read index construct).fields
        (outer.loc index) values).getD (node "asgn" (outer.loc index) (value :: values))) := by
  have hopen := fun type (member : type ∈ Vocabulary.commonTypes) => ready.common member
  unfold target?
  split
  · rename_i hname
    rw [symbol_get]
    refine .own (hopen _ (by decide)) (List.forall_mem_cons.mpr ⟨.part hpart ?_, hvalues⟩)
    refine ready.leaf ?_ trivial
    rw [Construct.leaves, hname, String.append_empty]
    exact List.mem_singleton_self _
  split
  · rename_i hattribute
    rw [symbol_get]
    refine .own (hopen _ (by decide)) (List.forall_mem_cons.mpr ⟨.part hpart ?_,
      List.forall_mem_cons.mpr ⟨.part hpart ?_, hvalues⟩⟩)
    · exact ready.grown_field (by rw [hattribute]; rfl)
    · refine ready.leaf ?_ trivial
      rw [Construct.leaves, hattribute]
      exact List.mem_cons_of_mem _ (List.mem_singleton_self _)
  split
  · rename_i hsubscript
    refine .own (hopen _ (by decide)) (List.forall_mem_cons.mpr ⟨.part hpart ?_,
      List.forall_mem_cons.mpr ⟨.part hpart ?_, List.forall_mem_cons.mpr ⟨.part hpart ?_,
        hvalues⟩⟩⟩)
    · exact ready.grown_field (by rw [hsubscript]; rfl)
    · exact ready.symbol (by decide)
    · exact ready.grown_field (by rw [hsubscript]; rfl)
  split
  · rename_i hdisplay
    have hmany : fieldKind construct.className "elts" = .many := by
      rcases hdisplay with hdisplay | hdisplay <;> rw [hdisplay] <;> rfl
    obtain ⟨hlost, hfirst⟩ := fieldKind_of_many hmany
    refine .own (hopen _ (by decide)) (List.forall_mem_cons.mpr ⟨.part hpart ?_, hvalues⟩)
    refine .own (hopen _ (by decide)) ?_
    rw [items_get, List.map_map]
    exact List.forall_mem_map.mpr fun element member => ready.grown_targetAlone
      (Construct.inside_of_item hlost hfirst member) (ready.fits_item hmany member)
  · exact .own (hopen _ (by decide)) (List.forall_mem_cons.mpr ⟨.part hpart hvalue, hvalues⟩)

omit ready in
theorem grown_assigned {value : Value} (grown : Grown vocabulary index construct value) :
    ∀ child ∈ assigned value, Grown vocabulary index construct child := by
  intro child member
  unfold assigned at member
  split at member
  · cases member
  · rwa [List.mem_singleton.mp member]

theorem grows_field (hone : fieldKind construct.className name = .one)
    (heads : (construct.field name).present ⊆ construct.heads) :
    Grows vocabulary index construct ((read index construct).fields.get name).value := by
  refine ⟨ready.grown_field hone, ?_⟩
  rw [value_get]
  cases hpresent : (construct.field name).isAbsent with
  | true =>
      rw [Construct.eq_absent hpresent]
      exact .data rfl
  | false =>
      have member := (construct.field_mem_entries name).resolve_left
        (Construct.ne_absent hpresent)
      have hinside : Inside (construct.field name) construct :=
        Construct.inside_entry member (by rw [hone]; decide) (by rw [hone]; decide)
      exact .head (heads (Construct.mem_present.mpr ⟨rfl, hpresent⟩))
        (Construct.part_of_kept hinside.1)
        ((ready.sprouts _ hinside).grows (ready.fits_field hone member)).stands

theorem grows_assign (hclass : construct.className = "Assign") :
    Grows vocabulary index construct
      (assign (construct.loc index) (read index construct).fields) := by
  have hmany : fieldKind construct.className "targets" = .many := by rw [hclass]; rfl
  have hone : fieldKind construct.className "value" = .one := by rw [hclass]; rfl
  obtain ⟨hlost, hfirst⟩ := fieldKind_of_many hmany
  have hvalue : Grows vocabulary index construct
      ((read index construct).fields.get "value").value := by
    refine ready.grows_field hone ?_
    simp only [Construct.heads, hclass, List.Subset.refl]
  have htargets : ∀ target ∈ (construct.field "targets").items, ∀ value,
      Grown vocabulary index construct value → Grows vocabulary index construct
        ((read index target).target (construct.loc index) (assigned value)) := by
    intro target member value grown
    have hinside := Construct.inside_of_item hlost hfirst member
    have htarget := (ready.sprouts _ hinside).target (ready.fits_item hmany member) construct
      (Construct.part_of_kept hinside.1) _ (grown_assigned grown)
    obtain ⟨type, children, hnode⟩ := target_eq_node index target (construct.loc index) _
    rw [hnode] at htarget ⊢
    exact htarget.grows
  unfold assign
  rw [items_get]
  generalize (construct.field "targets").items = targets at htargets
  induction targets with
  | nil => exact hvalue
  | cons target rest induction =>
      obtain ⟨hfirst, hrest⟩ := List.forall_mem_cons.mp htargets
      exact hfirst _ (induction hrest).grown

theorem grows_function (hclass : construct.className = "FunctionDef" ∨
      construct.className = "AsyncFunctionDef") :
    Grows vocabulary index construct
      (function (construct.loc index) (read index construct).fields) := by
  have hmany : fieldKind construct.className "body" = .many := by
    rcases hclass with hclass | hclass <;> rw [hclass] <;> rfl
  have hargs : Construct.isDecoration construct.className "args" = false := rfl
  have hheads : construct.heads = construct.parameters ++ (construct.field "body").items := by
    rcases hclass with hclass | hclass <;> simp only [Construct.heads, hclass]
  have hleaves : construct.leaves = .sym (construct.word "name") ::
      construct.parameters.map fun p => .sym (p.word "arg") := by
    rcases hclass with hclass | hclass <;> simp only [Construct.leaves, hclass]
  have hparameter : ∀ (type : String) (p : Construct), type ∈ Vocabulary.commonTypes →
      p ∈ construct.parameters →
      Grown vocabulary index construct (parameter type (read index p)) ∧
        StandsIn index construct (parameter type (read index p)) := by
    intro type p htype member
    have hgrows : Grows vocabulary index p (parameter type (read index p)) := by
      rw [parameter, loc_read, symbol_get, String.append_empty]
      refine .own (ready.common htype) (List.forall_mem_singleton.mpr (.atom ?_ trivial))
      refine (ready.suits construct .self).leaves _ ?_
      rw [hleaves]
      exact List.mem_cons_of_mem _ (List.mem_map_of_mem member)
    have hpart := Construct.part_parameter hargs member
    exact ⟨hgrows.whole hpart, hgrows.standsIn (hheads ▸ List.mem_append_left _ member) hpart⟩
  have hbody := ready.grows_body hmany fun item member => hheads ▸ List.mem_append_right _ member
  unfold function
  dsimp only
  rw [symbol_get, String.append_empty, fields_get, items_get, items_get, items_get,
    optionalParameter_get, optionalParameter_get]
  generalize hparams : List.map (parameter "arg") _ ++ _ ++ _ = params
  -- Whatever its kind, a parameter becomes a node that holds its name.
  have heach : ∀ child ∈ params, ∃ type p, type ∈ Vocabulary.commonTypes ∧
      p ∈ construct.parameters ∧ child = parameter type (read index p) := by
    intro child member
    simp only [← hparams, List.mem_append, List.mem_map] at member
    rcases member with (⟨_, (⟨p, hp, rfl⟩ | ⟨p, hp, rfl⟩) | ⟨p, hp, rfl⟩, rfl⟩ | ⟨p, hp, rfl⟩) |
      ⟨p, hp, rfl⟩
    · exact ⟨"arg", p, by decide, by simp [Construct.parameters, hp], rfl⟩
    · exact ⟨"arg", p, by decide, by simp [Construct.parameters, hp], rfl⟩
    · exact ⟨"arg", p, by decide, by simp [Construct.parameters, hp], rfl⟩
    · exact ⟨"restarg", p, by decide, by simp [Construct.parameters, hp], rfl⟩
    · exact ⟨"kwrestarg", p, by decide, by simp [Construct.parameters, hp], rfl⟩
  have hargs : Grows vocabulary index construct (node "args" (span params) params) := by
    refine .span (ready.common (by decide)) (fun child member => ?_) fun child member => ?_
    · obtain ⟨type, p, htype, hp, rfl⟩ := heach child member
      exact (hparameter type p htype hp).1
    · obtain ⟨type, p, htype, hp, rfl⟩ := heach child member
      exact (hparameter type p htype hp).2
  refine .own (ready.common (by decide)) (List.forall_mem_cons.mpr ⟨?_, List.forall_mem_cons.mpr
    ⟨hargs.grown, List.forall_mem_singleton.mpr hbody.grown⟩⟩)
  exact ready.leaf (hleaves ▸ List.mem_cons_self) trivial

theorem grows_classDefinition (hclass : construct.className = "ClassDef") :
    Grows vocabulary index construct
      (classDefinition (construct.loc index) (read index construct).fields) := by
  have hname : Grown vocabulary index construct ((read index construct).fields.symbol "name" "") := by
    rw [symbol_get, String.append_empty]
    refine ready.leaf ?_ trivial
    rw [Construct.leaves, hclass]
    exact List.mem_singleton_self _
  have hmany : fieldKind construct.className "body" = .many := by rw [hclass]; rfl
  have hbody := ready.grows_body hmany fun item member => by
    rwa [Construct.heads, hclass]
  have hbases : ∀ first rest, (construct.field "bases").items = first :: rest →
      Grown vocabulary index construct (read index first).value := by
    intro first rest hitems
    have hkind : fieldKind construct.className "bases" = .first := by rw [hclass]; rfl
    have hentry := (construct.field_mem_entries "bases").resolve_left fun habsent => by
      rw [habsent] at hitems
      cases hitems
    refine ready.grown_part (Construct.inside_first hkind hitems)
      ((ready.suits construct .self).first _ _ hentry hkind first ?_)
    rw [hitems]
    rfl
  unfold classDefinition
  dsimp only
  refine .own (ready.common (by decide)) (List.forall_mem_cons.mpr ⟨?_, List.forall_mem_cons.mpr
    ⟨?_, List.forall_mem_singleton.mpr hbody.grown⟩⟩)
  · exact .own (ready.common (by decide))
      (List.forall_mem_cons.mpr ⟨.absent, List.forall_mem_singleton.mpr hname⟩)
  · rw [items_get]
    cases hitems : (construct.field "bases").items with
    | nil => exact .absent
    | cons first rest => exact hbases first rest hitems

end Ready

theorem Ready.grown_argument (ready : Ready vocabulary index construct)
    (hfits : vocabulary.Fits construct)
    (sprouts : Sprouts vocabulary index construct) :
    Grown vocabulary index construct (argument (read index construct)) := by
  unfold argument
  split
  · rename_i hstarred
    rw [className_read] at hstarred
    rw [loc_read]
    refine .own (ready.common (by decide)) (List.forall_mem_singleton.mpr ?_)
    exact ready.grown_field (by rw [hstarred]; rfl)
  · exact (sprouts.grows hfits).grown

namespace Ready

variable (ready : Ready vocabulary index construct) {name : String}
include ready

theorem grows_keywordArgument (hword : vocabulary.atoms (.sym (construct.word "arg")))
    (hfits : vocabulary.Fits (construct.field "value")) :
    Grows vocabulary index construct (keywordArgument (read index construct)) := by
  have hvalue : Grown vocabulary index construct
      ((read index construct).fields.get "value").value := by
    obtain ⟨hlost, hfirst⟩ := Construct.fieldKind_value construct.className
    rw [value_get]
    rcases Construct.inside_field hlost hfirst with habsent | hinside
    · rw [habsent]
      exact .absent
    · exact ready.grown_part hinside hfits
  unfold keywordArgument
  dsimp only
  rw [loc_read, symbol_get, String.append_empty]
  split
  · exact .own (ready.common (by decide)) (List.forall_mem_singleton.mpr hvalue)
  · refine .own (ready.common (by decide)) (List.forall_mem_cons.mpr
      ⟨?_, List.forall_mem_singleton.mpr hvalue⟩)
    exact .own (ready.common (by decide)) (List.forall_mem_singleton.mpr (.atom hword trivial))

theorem grown_callHead (hclass : construct.className = "Call") :
    ∀ child ∈ (if ((read index construct).fields.get "func").className = "Name" then
        [.absent, ((read index construct).fields.get "func").fields.symbol "id" ""]
      else if ((read index construct).fields.get "func").className = "Attribute" then
        [(((read index construct).fields.get "func").fields.get "value").value,
          ((read index construct).fields.get "func").fields.symbol "attr" ""]
      else [((read index construct).fields.get "func").value, .sym "call"]),
      Grown vocabulary index construct child := by
  have hone : fieldKind construct.className "func" = .one := by rw [hclass]; rfl
  have hfunction : (construct.field "func").className ≠ "" →
      Inside (construct.field "func") construct := by
    intro hnamed
    refine (Construct.inside_field (by rw [hone]; decide) (by rw [hone]; decide)).resolve_left
      fun habsent => hnamed ?_
    rw [habsent]
    rfl
  rw [className_get, fields_get]
  split
  · rename_i hname
    have hinside := hfunction (by rw [hname]; decide)
    refine List.forall_mem_cons.mpr ⟨.absent, List.forall_mem_singleton.mpr ?_⟩
    rw [symbol_get, String.append_empty]
    refine .part (Construct.part_of_kept hinside.1) ((ready.inside hinside).leaf ?_ trivial)
    rw [Construct.leaves, hname]
    exact List.mem_singleton_self _
  split
  · rename_i hattribute
    have hinside := hfunction (by rw [hattribute]; decide)
    have hpart := Construct.part_of_kept hinside.1
    refine List.forall_mem_cons.mpr ⟨.part hpart ?_, List.forall_mem_singleton.mpr
      (.part hpart ?_)⟩
    · exact (ready.inside hinside).grown_field (by rw [hattribute]; rfl)
    · rw [symbol_get, String.append_empty]
      refine (ready.inside hinside).leaf ?_ trivial
      rw [Construct.leaves, hattribute]
      exact List.mem_cons_self
  · exact List.forall_mem_cons.mpr
      ⟨ready.grown_field hone, List.forall_mem_singleton.mpr (ready.symbol (by decide))⟩

/-- A call sends a message with its arguments, and the keywords last in a hash. -/
theorem grows_call (hclass : construct.className = "Call") :
    Grows vocabulary index construct (call (construct.loc index) (read index construct).fields) := by
  have hargs : fieldKind construct.className "args" = .many := by rw [hclass]; rfl
  have hkeywords : fieldKind construct.className "keywords" = .many := by rw [hclass]; rfl
  have hheads : construct.heads = (construct.field "keywords").items := by
    simp only [Construct.heads, hclass]
  have hpair : ∀ keyword ∈ (construct.field "keywords").items,
      Inside keyword construct ∧
        Grows vocabulary index keyword (keywordArgument (read index keyword)) := by
    intro keyword member
    obtain ⟨hlost, hfirst⟩ := fieldKind_of_many hkeywords
    have hinside := Construct.inside_of_item hlost hfirst member
    refine ⟨hinside, (ready.inside hinside).grows_keywordArgument ?_ ?_⟩
    · refine (ready.suits construct .self).leaves _ ?_
      simp only [Construct.leaves, hclass]
      exact List.mem_map_of_mem member
    · exact (ready.suits construct .self).keywords hclass keyword member
  unfold call
  refine .own (ready.common (by decide)) (List.forall_mem_append.mpr
    ⟨ready.grown_callHead hclass, ?_⟩)
  unfold arguments
  dsimp only
  rw [items_get, items_get, List.map_map, List.map_map]
  refine List.forall_mem_append.mpr ⟨List.forall_mem_map.mpr fun item member => ?_, ?_⟩
  · obtain ⟨hlost, hfirst⟩ := fieldKind_of_many hargs
    have hinside := Construct.inside_of_item hlost hfirst member
    exact .part (Construct.part_of_kept hinside.1) ((ready.inside hinside).grown_argument
      (ready.fits_item hargs member) (ready.sprouts item hinside))
  split
  · exact List.forall_mem_nil _
  · refine List.forall_mem_singleton.mpr (Grows.grown (.span (ready.common (by decide)) ?_ ?_))
    · exact List.forall_mem_map.mpr fun keyword member =>
        (hpair keyword member).2.whole (Construct.part_of_kept (hpair keyword member).1.1)
    · exact List.forall_mem_map.mpr fun keyword member =>
        (hpair keyword member).2.standsIn (hheads ▸ member)
          (Construct.part_of_kept (hpair keyword member).1.1)

theorem grows_constant (hclass : construct.className = "Constant") :
    Grows vocabulary index construct
      (constant (construct.loc index) ((read index construct).fields.get "value").construct) := by
  have hsuits := ready.suits construct .self
  have hleaves : construct.leaves = (construct.field "value").payload := by
    simp only [Construct.leaves, hclass]
  have htypes : construct.types = (construct.field "value").payloadType := by
    cases construct with
    | node className position names fields => exact if_pos hclass
    | _ => exact absurd hclass (by simp [Construct.className])
  have hnode : ∀ type atom, vocabulary.types type →
      (construct.field "value").payload = [atom] → atom.IsAtom →
      Grows vocabulary index construct (node type (construct.loc index) [atom]) := by
    intro type atom htype hpayload hplain
    refine .own htype (List.forall_mem_singleton.mpr (ready.leaf ?_ hplain))
    rw [hleaves, hpayload]
    exact List.mem_singleton_self _
  have hempty : ∀ type, vocabulary.types type →
      Grows vocabulary index construct (node type (construct.loc index) []) :=
    fun type htype => .own htype (List.forall_mem_nil _)
  have hother : ∀ type, (construct.field "value").payloadType = [type] →
      vocabulary.types type := by
    intro type hpayload
    refine hsuits.types type ?_
    rw [htypes, hpayload]
    exact List.mem_singleton_self _
  rw [construct_get]
  generalize construct.field "value" = value at hnode hother
  cases value with
  | absent => exact hempty "nil" (ready.common (by decide))
  | bool b =>
      cases b with
      | true => exact hempty "true" (ready.common (by decide))
      | false => exact hempty "false" (ready.common (by decide))
  | int i => exact hnode "int" (.int i) (ready.common (by decide)) rfl trivial
  | float x => exact hnode "float" (.float x) (ready.common (by decide)) rfl trivial
  | str s => exact hnode "str" (.str s) (ready.common (by decide)) rfl trivial
  | foreign kind text => exact hnode _ (.str text) (hother _ rfl) rfl trivial
  | list items => exact hempty "" (hother _ rfl)
  | node className position names fields => exact hempty "" (hother _ rfl)

theorem grows_unary (hclass : construct.className = "UnaryOp") :
    Grows vocabulary index construct
      (unary (construct.loc index) (read index construct).fields) := by
  have hfoldedLeaves : ∀ number, construct.folded? = some number →
      construct.leaves = [number] := by
    intro number hfolded
    simp only [Construct.leaves, hclass, hfolded]
  have hsentLeaves : construct.folded? = none → construct.leaves =
      if (construct.field "op").className = "Not" then []
      else [(construct.field "op").operator] := by
    intro hfolded
    simp only [Construct.leaves, hclass, hfolded]
  have hnumber : ∀ type number, construct.folded? = some number → number.IsAtom →
      vocabulary.types type →
      Grows vocabulary index construct (node type (construct.loc index) [number]) := by
    intro type number hfolded hplain htype
    refine .own htype (List.forall_mem_singleton.mpr (ready.leaf ?_ hplain))
    rw [hfoldedLeaves number hfolded]
    exact List.mem_singleton_self _
  have hsent : construct.folded? = none → Grows vocabulary index construct
      (node "send" (construct.loc index) [((read index construct).fields.get "operand").value,
        if (construct.field "op").className = "Not" then .sym "!"
        else (construct.field "op").operator]) := by
    intro hfolded
    refine .own (ready.common (by decide)) (List.forall_mem_cons.mpr
      ⟨ready.grown_field (by rw [hclass]; rfl), List.forall_mem_singleton.mpr ?_⟩)
    split
    · exact ready.symbol (by decide)
    · rename_i hnot
      refine ready.leaf ?_ trivial
      rw [hsentLeaves hfolded, if_neg hnot]
      exact List.mem_singleton_self _
  unfold unary
  dsimp only
  rw [operatorSymbol_get, className_get, className_get, fields_get, construct_get]
  -- Whether a number is folded is told by the operator first and then by the operand.
  rw [Construct.folded?] at hnumber hsent
  split
  · rename_i hminus
    rw [if_pos hminus] at hnumber hsent
    split
    · rename_i i hvalue
      rw [hvalue] at hnumber
      exact hnumber "int" _ rfl trivial (ready.common (by decide))
    · rename_i x hvalue
      rw [hvalue] at hnumber
      exact hnumber "float" _ rfl trivial (ready.common (by decide))
    · rename_i hint hfloat
      refine hsent ?_
      split
      · exact absurd ‹_› (hint _)
      · exact absurd ‹_› (hfloat _)
      · rfl
  · rename_i hplus
    rw [if_neg hplus] at hsent
    exact hsent rfl

theorem grown_dictEntry (hclass : construct.className = "Dict") {key value : Construct}
    (hkey : key ∈ (construct.field "keys").items)
    (hvalue : value ∈ (construct.field "values").items) :
    Grown vocabulary index construct (dictEntry (read index key) (read index value)) := by
  have hkeys : fieldKind construct.className "keys" = .many := by rw [hclass]; rfl
  have hvalues : fieldKind construct.className "values" = .many := by rw [hclass]; rfl
  have hheads : construct.heads =
      (construct.field "keys").items ++ (construct.field "values").items := by
    simp only [Construct.heads, hclass]
  have hstands : ∀ {name : String} {part : Construct},
      fieldKind construct.className name = .many → part ∈ (construct.field name).items →
      part ∈ construct.heads → StandsIn index construct (read index part).value := by
    intro name part hmany member hhead
    obtain ⟨hlost, hfirst⟩ := fieldKind_of_many hmany
    have hinside := Construct.inside_of_item hlost hfirst member
    exact ((ready.sprouts part hinside).grows (ready.fits_item hmany member)).standsIn hhead
      (Construct.part_of_kept hinside.1)
  have hvalueGrown := ready.grown_item hvalues hvalue
  have hvalueStands := hstands hvalues hvalue (hheads ▸ List.mem_append_right _ hvalue)
  unfold dictEntry
  split
  · rw [← span_singleton]
    exact Grows.grown (.span (ready.common (by decide)) (List.forall_mem_singleton.mpr hvalueGrown)
      (List.forall_mem_singleton.mpr hvalueStands))
  · refine Grows.grown (.span (ready.common (by decide)) ?_ ?_)
    · exact List.forall_mem_cons.mpr
        ⟨ready.grown_item hkeys hkey, List.forall_mem_singleton.mpr hvalueGrown⟩
    · exact List.forall_mem_cons.mpr ⟨hstands hkeys hkey (hheads ▸ List.mem_append_left _ hkey),
        List.forall_mem_singleton.mpr hvalueStands⟩

theorem grows_dict (hclass : construct.className = "Dict") :
    Grows vocabulary index construct (dict (construct.loc index) (read index construct).fields) := by
  refine .own (ready.common (by decide)) ?_
  rw [items_get, items_get, List.zip_map, List.map_map]
  refine List.forall_mem_map.mpr fun entry member => ?_
  obtain ⟨hkey, hvalue⟩ := List.of_mem_zip member
  exact ready.grown_dictEntry hclass hkey hvalue

/-- A comparison of two sends a message; a longer one is named after its class. -/
theorem grows_compare {position : Option Position} {names : List String}
    {fields : List Construct} (hnode : construct = .node "Compare" position names fields)
    (hfits : vocabulary.Fits construct) (alone : Value) :
    Grows vocabulary index construct
      (convert "Compare" (construct.loc index) (read index construct).fields alone) := by
  have hclass : construct.className = "Compare" := by
    rw [hnode]
    rfl
  rw [convert_compare]
  split
  · rename_i op other more hops hothers
    rw [items_get] at hops hothers
    obtain ⟨opConstruct, hop, rfl⟩ := List.map_eq_singleton_iff.mp hops
    obtain ⟨otherConstruct, rest, hother, rfl, -⟩ := List.map_eq_cons_iff.mp hothers
    refine .own (ready.common (by decide)) (List.forall_mem_cons.mpr
      ⟨ready.grown_field (by rw [hclass]; rfl), List.forall_mem_cons.mpr
        ⟨?_, List.forall_mem_singleton.mpr ?_⟩⟩)
    · refine ready.leaf ?_ trivial
      simp only [Construct.leaves, hclass, hop]
      rw [operatorSymbol, className_read]
      exact List.mem_singleton_self _
    · exact ready.grown_item (by rw [hclass]; rfl) (hother ▸ List.mem_cons_self)
  · exact ready.grows_generic hnode (by decide) hfits

theorem grows_display (hmany : fieldKind construct.className "elts" = .many) {alone : Value}
    (halone : Grows vocabulary index construct alone) :
    Grows vocabulary index construct (if isLoaded (read index construct).fields
      then node "array" (construct.loc index)
        (((read index construct).fields.get "elts").items.map Reading.value)
      else alone) := by
  split
  · exact .own (ready.common (by decide)) (ready.grown_items hmany)
  · exact halone

end Ready

def dedicated : List String :=
  ["Module", "Interactive", "Expression", "Expr", "Assign", "AugAssign", "FunctionDef",
    "AsyncFunctionDef", "ClassDef", "Return", "If", "While", "For", "Call", "Attribute",
    "Subscript", "Name", "Constant", "BinOp", "Compare", "BoolOp", "UnaryOp", "List", "Tuple",
    "Dict"]

theorem isSpread_of_not_dedicated {className : String} (hother : className ∉ dedicated) :
    Construct.isSpread className = true := by
  rw [Construct.isSpread, Bool.or_eq_true]
  cases hlookup : Construct.grammar.lookup className with
  | none => exact .inl rfl
  | some entry =>
      have hspecial : ∀ entry ∈ Construct.grammar, entry.1 ∉ dedicated →
          ["Compare", "keyword", "Starred"].contains entry.1 = true := by
        decide +kernel
      exact .inr (hspecial _ (mem_of_lookup hlookup) hother)

theorem Ready.grows_convert (ready : Ready vocabulary index construct) {className : String}
    {position : Option Position} {names : List String} {fields : List Construct}
    (hnode : construct = .node className position names fields)
    (hfits : vocabulary.Fits construct) {alone : Value}
    (halone : Grows vocabulary index construct alone) :
    Grows vocabulary index construct
      (convert className (construct.loc index) (read index construct).fields alone) := by
  have hclass : construct.className = className := by
    rw [hnode]
    rfl
  have hnodes : ∀ type children, type ∈ Vocabulary.commonTypes →
      (∀ child ∈ children, Grown vocabulary index construct child) →
      Grows vocabulary index construct (node type (construct.loc index) children) :=
    fun type children htype each => .own (ready.common htype) each
  -- The cases are those of the conversion: statements, expressions, and the rest.
  unfold convert
  split
  · refine ready.grows_body (by rw [hclass]; rfl) fun item member => ?_
    simp only [Construct.heads, hclass, member]
  · refine ready.grows_body (by rw [hclass]; rfl) fun item member => ?_
    simp only [Construct.heads, hclass, member]
  · refine ready.grows_field (by rw [hclass]; rfl) ?_
    simp only [Construct.heads, hclass, List.Subset.refl]
  · refine ready.grows_field (by rw [hclass]; rfl) ?_
    simp only [Construct.heads, hclass, List.Subset.refl]
  · exact ready.grows_assign hclass
  · refine hnodes _ _ (by decide) (List.forall_mem_cons.mpr ⟨?_, List.forall_mem_cons.mpr
      ⟨?_, List.forall_mem_singleton.mpr ?_⟩⟩)
    · exact ready.grown_targetAlone_field (by rw [hclass]; rfl)
    · exact ready.grown_operator (by simp only [Construct.leaves, hclass, List.mem_singleton])
    · exact ready.grown_field (by rw [hclass]; rfl)
  · exact ready.grows_function (.inl hclass)
  · exact ready.grows_function (.inr hclass)
  · exact ready.grows_classDefinition hclass
  · refine hnodes _ _ (by decide) ?_
    split
    · exact List.forall_mem_nil _
    · exact List.forall_mem_singleton.mpr (ready.grown_field (by rw [hclass]; rfl))
  · refine hnodes _ _ (by decide) (List.forall_mem_cons.mpr ⟨?_, List.forall_mem_cons.mpr
      ⟨?_, List.forall_mem_singleton.mpr ?_⟩⟩)
    · exact ready.grown_field (by rw [hclass]; rfl)
    · refine (ready.grows_body (by rw [hclass]; rfl) fun item member => ?_).grown
      simp only [Construct.heads, hclass, List.mem_append, member, true_or]
    · refine (ready.grows_body (by rw [hclass]; rfl) fun item member => ?_).grown
      simp only [Construct.heads, hclass, List.mem_append, member, or_true]
  · refine hnodes _ _ (by decide) (List.forall_mem_cons.mpr
      ⟨?_, List.forall_mem_singleton.mpr ?_⟩)
    · exact ready.grown_field (by rw [hclass]; rfl)
    · refine (ready.grows_body (by rw [hclass]; rfl) fun item member => ?_).grown
      simp only [Construct.heads, hclass, member]
  · refine hnodes _ _ (by decide) (List.forall_mem_cons.mpr ⟨?_, List.forall_mem_cons.mpr
      ⟨?_, List.forall_mem_singleton.mpr ?_⟩⟩)
    · exact ready.grown_targetAlone_field (by rw [hclass]; rfl)
    · exact ready.grown_field (by rw [hclass]; rfl)
    · refine (ready.grows_body (by rw [hclass]; rfl) fun item member => ?_).grown
      simp only [Construct.heads, hclass, member]
  · exact ready.grows_call hclass
  · refine hnodes _ _ (by decide) (List.forall_mem_cons.mpr
      ⟨?_, List.forall_mem_singleton.mpr ?_⟩)
    · exact ready.grown_field (by rw [hclass]; rfl)
    · exact ready.grown_symbol (by simp [Construct.leaves, hclass])
  · refine hnodes _ _ (by decide) (List.forall_mem_cons.mpr ⟨?_, List.forall_mem_cons.mpr
      ⟨?_, List.forall_mem_singleton.mpr ?_⟩⟩)
    · exact ready.grown_field (by rw [hclass]; rfl)
    · exact ready.symbol (by decide)
    · exact ready.grown_field (by rw [hclass]; rfl)
  · split
    · refine hnodes _ _ (by decide) (List.forall_mem_singleton.mpr ?_)
      exact ready.grown_symbol (by simp [Construct.leaves, hclass])
    · exact halone
  · exact ready.grows_constant hclass
  · refine hnodes _ _ (by decide) (List.forall_mem_cons.mpr ⟨?_, List.forall_mem_cons.mpr
      ⟨?_, List.forall_mem_singleton.mpr ?_⟩⟩)
    · exact ready.grown_field (by rw [hclass]; rfl)
    · exact ready.grown_operator (by simp only [Construct.leaves, hclass, List.mem_singleton])
    · exact ready.grown_field (by rw [hclass]; rfl)
  · have hcompare := ready.grows_compare hnode hfits alone
    rwa [convert_compare] at hcompare
  · refine hnodes _ _ ?_ (ready.grown_items (by rw [hclass]; rfl))
    split <;> decide
  · exact ready.grows_unary hclass
  · exact ready.grows_display (by rw [hclass]; rfl) halone
  · exact ready.grows_display (by rw [hclass]; rfl) halone
  · exact ready.grows_dict hclass
  · refine ready.grows_generic hnode (isSpread_of_not_dedicated ?_) hfits
    simp only [dedicated, List.mem_cons, List.not_mem_nil, or_false, not_or]
    exact ⟨‹_›, ‹_›, ‹_›, ‹_›, ‹_›, ‹_›, ‹_›, ‹_›, ‹_›, ‹_›, ‹_›, ‹_›, ‹_›, ‹_›, ‹_›, ‹_›, ‹_›,
      ‹_›, ‹_›, ‹_›, ‹_›, ‹_›, ‹_›, ‹_›, ‹_›⟩

theorem Ready.grows_alone (ready : Ready vocabulary index construct) :
    Grows vocabulary index construct
      ((target? construct.className (construct.loc index) (read index construct).fields
        (construct.loc index) []).getD .absent) := by
  have hgrown := ready.grown_target .absent .self (List.forall_mem_nil _)
  cases htarget : target? construct.className (construct.loc index) (read index construct).fields
      (construct.loc index) [] with
  | none => exact .absent
  | some target =>
      rw [htarget] at hgrown
      obtain ⟨type, children, rfl⟩ := target?_eq_node htarget
      exact hgrown.grows

theorem sprouts_atom (isOpen : vocabulary.IsOpen) {value : Value}
    (hread : read index construct = readAtom construct value [])
    (hbare : value = .absent ∨ construct.bare = [value]) (hplain : value.IsAtom) :
    Sprouts vocabulary index construct := by
  have hgrows : vocabulary.Fits construct → Grows vocabulary index construct value := by
    intro hfits
    refine ⟨?_, .data ?_⟩
    · rcases hbare with rfl | hbare
      · exact .absent
      · exact .atom (hfits.atoms value (hbare ▸ List.mem_singleton_self _)) hplain
    · cases value with
      | node id type loc children => cases hplain
      | _ => rfl
  refine ⟨?_, fun hfits outer hpart values hvalues => ?_⟩
  · rw [hread]
    exact hgrows
  · rw [hread]
    exact .own (isOpen.types _ (by decide))
      (List.forall_mem_cons.mpr ⟨.part hpart (hgrows hfits).grown, hvalues⟩)

theorem Ready.sprouts_list (isOpen : vocabulary.IsOpen) {items : List Construct}
    (ready : Ready vocabulary index (.list items)) :
    Sprouts vocabulary index (.list items) := by
  have hitems : ∀ child ∈ (read index (.list items)).parts.map Reading.value,
      Grown vocabulary index (.list items) child := by
    have hparts : (read index (.list items)).parts = items.map (read index) :=
      readAll_eq_map index items
    rw [hparts, List.map_map]
    refine List.forall_mem_map.mpr fun item member => ?_
    exact ready.grown_part (Construct.inside_item member)
      ((ready.suits _ .self).items item member)
  refine ⟨fun hfits => ⟨.list (hfits.lists rfl) hitems, .data rfl⟩,
    fun hfits outer hpart values hvalues => ?_⟩
  exact .own (isOpen.types _ (by decide)) (List.forall_mem_cons.mpr
    ⟨.part hpart (.list (hfits.lists rfl) hitems), hvalues⟩)

theorem Ready.sprouts_node {className : String} {position : Option Position}
    {names : List String} {fields : List Construct}
    (ready : Ready vocabulary index (.node className position names fields)) :
    Sprouts vocabulary index (.node className position names fields) := by
  have hgrows := fun hfits => ready.grows_convert rfl hfits ready.grows_alone
  exact ⟨hgrows, fun hfits outer hpart values hvalues =>
    ready.grown_target (hgrows hfits).grown hpart hvalues⟩

/-- What a construct becomes has grown out of it, whatever it is, if the vocabulary suits all that
is kept of it. -/
theorem sprouts_read (isOpen : vocabulary.IsOpen) (index : LineIndex) (construct : Construct)
    (suits : ∀ part, Kept part construct → vocabulary.Suits part) :
    Sprouts vocabulary index construct := by
  induction hsize : sizeOf construct using Nat.strongRecOn generalizing construct with
  | _ size induction =>
    have ready : Ready vocabulary index construct :=
      ⟨isOpen, suits, fun part hinside => induction _ (hsize ▸ hinside.2) part
        (fun inner kept => suits inner (kept.trans hinside.1)) rfl⟩
    cases construct with
    | absent => exact sprouts_atom isOpen rfl (.inl rfl) trivial
    | bool b => exact sprouts_atom isOpen rfl (.inr rfl) trivial
    | int i => exact sprouts_atom isOpen rfl (.inr rfl) trivial
    | float x => exact sprouts_atom isOpen rfl (.inr rfl) trivial
    | str s => exact sprouts_atom isOpen rfl (.inr rfl) trivial
    | foreign kind text => exact sprouts_atom isOpen rfl (.inr rfl) trivial
    | list items => exact ready.sprouts_list isOpen
    | node className position names fields => exact ready.sprouts_node

theorem grown_toTree (isOpen : vocabulary.IsOpen) {program : Construct}
    (suits : ∀ part, Kept part program → vocabulary.Suits part)
    (fits : vocabulary.Fits program) (source : String) :
    Grown vocabulary (.ofText source.toList) program (toTree source program).toValue := by
  have hgrown := ((sprouts_read isOpen (.ofText source.toList) program suits).grows fits).grown
  rw [toTree]
  cases hnode : (read (.ofText source.toList) program).value.node? with
  | none =>
      exact .span (isOpen.types "begin" (by decide)) (List.forall_mem_nil _) (List.forall_mem_nil _)
  | some root =>
      rw [Value.eq_toValue hnode] at hgrown
      exact hgrown

end Grows

end Program

end TreeMatch
