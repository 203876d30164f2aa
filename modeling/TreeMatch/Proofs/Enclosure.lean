import TreeMatch.Proofs.Expressions
import TreeMatch.Proofs.Kinship
import TreeMatch.Proofs.Renumbering

/-! Where the lists of an s-expression stand: each between the parentheses of the list around it,
and behind the lists before it. The lists that enclose a place in the text lie one in the other. -/

namespace TreeMatch

variable {chart : Text.CodeChart}

open Grammar

def Node.Covers (node : Node) (offset : Nat) : Prop :=
  ∃ loc ∈ node.loc, loc.start ≤ offset ∧ offset < loc.stop

instance (node : Node) (offset : Nat) : Decidable (node.Covers offset) :=
  inferInstanceAs (Decidable (∃ loc ∈ node.loc, loc.start ≤ offset ∧ offset < loc.stop))

structure Range.IsBracketed (range : Range) (text : List Char) : Prop where
  left : text[range.start]? = some '('
  right : text[range.stop - 1]? = some ')'
  apart : range.start + 1 < range.stop

namespace Value

variable (text : List Char)

mutual

/-- The nodes of a value stand between two offsets. Each has parentheses at the ends of its range,
and its children between them. -/
def Stands (low high : Nat) : Value → Prop
  | node _ _ loc children => ∃ range, loc = some range ∧ low ≤ range.start ∧ range.stop ≤ high ∧
      range.IsBracketed text ∧ StandInTurn (range.start + 1) (range.stop - 1) children
  | _ => low ≤ high
termination_by structural value => value

def StandInTurn (low high : Nat) : List Value → Prop
  | [] => low ≤ high
  | value :: rest => ∃ middle, Stands low middle value ∧ StandInTurn middle high rest
termination_by structural values => values

end

variable {text} {low high low' high' : Nat} {value child : Value} {values : List Value}
  {node other : Node}

theorem Stands.le (stands : value.Stands text low high) : low ≤ high := by
  cases value with
  | node id type loc children =>
      obtain ⟨range, -, hlow, hhigh, brackets, -⟩ := stands
      have hapart := brackets.apart
      omega
  | _ => exact stands

theorem Stands.widen (stands : value.Stands text low high) (hlow : low' ≤ low)
    (hhigh : high ≤ high') : value.Stands text low' high' := by
  cases value with
  | node id type loc children =>
      obtain ⟨range, hrange, hstart, hstop, inside⟩ := stands
      exact ⟨range, hrange, Nat.le_trans hlow hstart, Nat.le_trans hstop hhigh, inside⟩
  | _ => exact Nat.le_trans hlow (Nat.le_trans stands hhigh)

theorem stands_of_isSexpAtom (hatom : value.IsSexpAtom) (hle : low ≤ high) :
    value.Stands text low high := by
  cases value with
  | node id type loc children => cases hatom
  | _ => exact hle

theorem StandInTurn.le (stand : StandInTurn text low high values) : low ≤ high := by
  induction values generalizing low with
  | nil => exact stand
  | cons value rest induction =>
      obtain ⟨middle, first, later⟩ := stand
      exact Nat.le_trans first.le (induction later)

theorem StandInTurn.widen (stand : StandInTurn text low high values) (hlow : low' ≤ low)
    (hhigh : high ≤ high') : StandInTurn text low' high' values := by
  induction values generalizing low low' with
  | nil => exact Nat.le_trans hlow (Nat.le_trans stand hhigh)
  | cons value rest induction =>
      obtain ⟨middle, first, later⟩ := stand
      exact ⟨middle, first.widen hlow (Nat.le_refl middle), induction later (Nat.le_refl middle)⟩

theorem StandInTurn.stands (stand : StandInTurn text low high values) (member : value ∈ values) :
    value.Stands text low high := by
  induction values generalizing low with
  | nil => cases member
  | cons first rest induction =>
      obtain ⟨middle, hfirst, later⟩ := stand
      rcases List.mem_cons.mp member with rfl | hrest
      · exact hfirst.widen (Nat.le_refl low) later.le
      · exact (induction later hrest).widen hfirst.le (Nat.le_refl high)

theorem Stands.of_mem (stands : value.Stands text low high) (member : node ∈ value.eachNode) :
    node.toValue.Stands text low high := by
  induction value using Value.induct generalizing low high with
  | node id type loc children each =>
      rw [eachNode] at member
      rcases List.mem_cons.mp member with rfl | hbelow
      · exact stands
      · obtain ⟨child, hchild, hnode⟩ := mem_eachNodeAmong.mp hbelow
        obtain ⟨range, -, hstart, hstop, -, inside⟩ := stands
        exact (each child hchild (inside.stands hchild) hnode).widen (by omega) (by omega)
  | _ => cases member

theorem StandInTurn.of_mem (stand : StandInTurn text low high values)
    (member : node ∈ eachNodeAmong values) : node.toValue.Stands text low high := by
  obtain ⟨value, hvalue, hnode⟩ := mem_eachNodeAmong.mp member
  exact (stand.stands hvalue).of_mem hnode

theorem Stands.bounds {offset : Nat} (stands : node.toValue.Stands text low high)
    (covers : node.Covers offset) : low ≤ offset ∧ offset < high := by
  obtain ⟨range, hrange, hlow, hhigh, -⟩ := stands
  obtain ⟨loc, hloc, hstart, hstop⟩ := covers
  cases hrange.symm.trans hloc
  omega

/-- Two nodes in values that stand in turn cover one offset only if they are in the same value. -/
theorem StandInTurn.nested {offset : Nat}
    (each : ∀ value ∈ values, ∀ {low high : Nat}, value.Stands text low high →
      node ∈ value.eachNode → other ∈ value.eachNode →
        node ∈ other.eachNode ∨ other ∈ node.eachNode)
    (stand : StandInTurn text low high values)
    (hnode : node ∈ eachNodeAmong values) (covers : node.Covers offset)
    (hother : other ∈ eachNodeAmong values) (covers' : other.Covers offset) :
    node ∈ other.eachNode ∨ other ∈ node.eachNode := by
  induction values generalizing low with
  | nil => cases hnode
  | cons value rest induction =>
      obtain ⟨hfirst, hrest⟩ := List.forall_mem_cons.mp each
      obtain ⟨middle, first, later⟩ := stand
      rw [eachNodeAmong, List.mem_append] at hnode hother
      rcases hnode with hnode | hnode <;> rcases hother with hother | hother
      · exact hfirst first hnode hother
      · have hbefore := ((first.of_mem hnode).bounds covers).2
        have hbehind := ((later.of_mem hother).bounds covers').1
        omega
      · have hbehind := ((later.of_mem hnode).bounds covers).1
        have hbefore := ((first.of_mem hother).bounds covers').2
        omega
      · exact induction hrest later hnode hother

/-- Of two nodes that cover one offset, one is below the other or they are the same. -/
theorem Stands.nested (stands : value.Stands text low high) {offset : Nat}
    (hnode : node ∈ value.eachNode) (covers : node.Covers offset)
    (hother : other ∈ value.eachNode) (covers' : other.Covers offset) :
    node ∈ other.eachNode ∨ other ∈ node.eachNode := by
  induction value using Value.induct generalizing low high with
  | node id type loc children each =>
      obtain ⟨range, -, -, -, -, inside⟩ := stands
      rw [eachNode, List.mem_cons] at hnode hother
      rcases hnode with rfl | hbelow
      · refine .inr ?_
        rw [Node.eachNode_eq_cons]
        exact List.mem_cons.mpr hother
      rcases hother with rfl | hbelow'
      · refine .inl ?_
        rw [Node.eachNode_eq_cons]
        exact List.mem_cons_of_mem _ hbelow
      · exact inside.nested (fun child member => each child member) hbelow covers hbelow' covers'
  | _ => cases hnode

/-- A node below another has its parentheses strictly between those of the other. -/
theorem Stands.strictly_inside (stands : other.toValue.Stands text low high)
    (member : node ∈ other.descendants) :
    ∃ inner outer, node.loc = some inner ∧ other.loc = some outer ∧
      outer.start < inner.start ∧ inner.stop < outer.stop := by
  obtain ⟨outer, houter, -, -, brackets, inside⟩ := stands
  obtain ⟨inner, hinner, hstart, hstop, -⟩ := inside.of_mem member
  have hapart := brackets.apart
  exact ⟨inner, outer, hinner, houter, by omega, by omega⟩

theorem mem_childNodes {child : Node} :
    child ∈ node.childNodes ↔ child.toValue ∈ node.children := by
  rw [Node.childNodes, List.mem_filterMap]
  constructor
  · rintro ⟨value, member, hnode⟩
    exact eq_toValue hnode ▸ member
  · exact fun member => ⟨child.toValue, member, rfl⟩

/-- Of two nodes among values that stand in turn, the second begins where the first has ended. -/
theorem StandInTurn.pairwise (stand : StandInTurn text low high values) :
    (values.filterMap node?).Pairwise fun first second =>
      ∃ range ∈ first.loc, ∃ range' ∈ second.loc, range.stop ≤ range'.start := by
  induction values generalizing low with
  | nil => exact .nil
  | cons value rest induction =>
      obtain ⟨middle, first, later⟩ := stand
      cases hnode : value.node? with
      | none =>
          rw [List.filterMap_cons_none hnode]
          exact induction later
      | some node =>
          rw [List.filterMap_cons_some hnode]
          refine .cons (fun other member => ?_) (induction later)
          obtain ⟨value', hvalue', hother⟩ := List.mem_filterMap.mp member
          rw [eq_toValue hnode] at first
          have second := later.stands hvalue'
          rw [eq_toValue hother] at second
          obtain ⟨range, hrange, -, hstop, -⟩ := first
          obtain ⟨range', hrange', hstart, -⟩ := second
          exact ⟨range, hrange, range', hrange', Nat.le_trans hstop hstart⟩

theorem standInTurn_map_unnumbered
    (each : ∀ value ∈ values, ∀ low high,
      value.unnumbered.Stands text low high ↔ value.Stands text low high) :
    StandInTurn text low high (values.map unnumbered) ↔ StandInTurn text low high values := by
  induction values generalizing low with
  | nil => exact .rfl
  | cons value rest induction =>
      obtain ⟨hfirst, hrest⟩ := List.forall_mem_cons.mp each
      rw [List.map_cons, StandInTurn, StandInTurn]
      simp only [hfirst, induction hrest]

theorem stands_unnumbered (value : Value) (low high : Nat) :
    value.unnumbered.Stands text low high ↔ value.Stands text low high := by
  induction value using induct generalizing low high with
  | node id type loc children each =>
      rw [unnumbered, Stands, Stands, unnumberedAll_eq_map]
      simp only [standInTurn_map_unnumbered each]
  | _ => exact .rfl

end Value

namespace SexpText

variable {text : List Char} {expr : Rule Sexp} {cursor next last : Cursor} {sexp : Sexp}
  {items : List Sexp} {values : List Value} {value : Value}

theorem getElem?_of_reaches (reaches : (Cursor.ofText text).Reaches cursor) {c : Char}
    {rest : List Char} (hrest : cursor.rest = c :: rest) : text[cursor.offset]? = some c := by
  obtain ⟨taken, htext, hoffset⟩ := reaches
  have hwhole : text = taken ++ c :: rest := hrest ▸ htext
  have hlength : cursor.offset = taken.length := hoffset.trans (Nat.zero_add _)
  rw [hwhole, hlength]
  rw [List.getElem?_append_right (Nat.le_refl _), Nat.sub_self]
  rfl

def Places (chart : Text.CodeChart) (text : List Char) (rule : Rule Sexp) : Prop :=
  ∀ {cursor sexp next value}, (Cursor.ofText text).Reaches cursor →
    (rule cursor).result = some (sexp, next) → sexp.toValue chart = .ok value →
      value.Stands text cursor.offset next.offset

theorem standInTurn_of_repeats (places : Places chart text expr) (advances : Advances expr)
    (reaches : (Cursor.ofText text).Reaches cursor)
    (repeats : Rule.Repeats (item expr) cursor items last)
    (hvalues : Sexp.toValues chart items = .ok values) :
    Value.StandInTurn text cursor.offset last.offset values := by
  induction repeats generalizing values with
  | nil cursor =>
      cases hvalues
      exact Nat.le_refl _
  | @cons cursor next last sexp items first later induction =>
      obtain ⟨value, hvalue, hmore⟩ := bind_ok hvalues
      obtain ⟨others, hothers, hdone⟩ := bind_ok hmore
      cases hdone
      have hnext := (advances_item advances first).1
      rw [result_item] at first
      have hskip := Cursor.reaches_skip ';' cursor
      have stands := places (reaches.trans hskip) first hvalue
      exact ⟨next.offset, stands.widen hskip.offset_le (Nat.le_refl _),
        induction (reaches.trans hnext) hothers⟩

theorem places_list (places : Places chart text expr) (advances : Advances expr) :
    Places chart text (list expr) := by
  intro cursor sexp next value reaches hread hvalue
  obtain ⟨rest, word, named, items, last, hleft, hhead, hitems, hright, rfl⟩ := list_eq_some hread
  obtain ⟨values, hvalues, hdone⟩ := bind_ok hvalue
  cases hdone
  obtain ⟨behind, hclose, rfl⟩ := Rule.result_char hright
  have hnamed := (Cursor.reaches_skip ';' _).trans (reaches_of_head hhead)
  have hinside := (Cursor.Reaches.step hleft).trans hnamed
  have hbetween := reaches_of_repeats (advances_item advances) hitems
  have hlast := Cursor.reaches_skip ';' last
  have inside := standInTurn_of_repeats places advances (reaches.trans hinside) hitems hvalues
  have hend := reaches.trans (hinside.trans (hbetween.trans hlast))
  have hfirst := hnamed.offset_le
  have hmiddle := hbetween.offset_le
  have hblanks := hlast.offset_le
  dsimp only at hfirst
  have hstop := @Range.stop_between cursor.offset ((last.skip ';').offset + 1) (by omega)
  refine ⟨_, rfl, Nat.le_refl _, Nat.le_of_eq hstop, ⟨?_, ?_, ?_⟩, ?_⟩
  · exact getElem?_of_reaches reaches hleft
  · rw [hstop]
    exact getElem?_of_reaches hend hclose
  · rw [hstop]
    change cursor.offset + 1 < _
    omega
  · rw [hstop]
    exact inside.widen hfirst hblanks

theorem places_anyAtom : Places chart text anyAtom := by
  intro cursor sexp next value reaches hread hvalue
  have hless := (advances_anyAtom hread).2
  rw [result_anyAtom] at hread
  obtain ⟨⟨kind, taken, rest⟩, htake, hboth⟩ := Option.map_eq_some_iff.mp hread
  cases hboth
  have hwhole := Sexp.take_whole (AtomKind.local_take kind) (AtomKind.takeFirst_eq_some htake)
  exact Value.stands_of_isSexpAtom (Sexp.isSexpAtom_of_decode hwhole hvalue) (Nat.le_of_lt hless)

theorem places_exprWithin (depth : Nat) : Places chart text (exprWithin depth) := by
  induction depth with
  | zero =>
      intro cursor sexp next value reaches hread hvalue
      cases hread
  | succ depth induction =>
      intro cursor sexp next value reaches hread hvalue
      rw [result_exprWithin, Option.or_eq_some_iff] at hread
      rcases hread with hlist | ⟨-, hatom⟩
      · exact places_list induction (advances_exprWithin depth) reaches hlist hvalue
      · exact places_anyAtom reaches hatom hvalue

end SexpText

namespace Sexp

theorem stands_of_readDocument {text : String} {document : Document}
    (hread : readDocument chart text = .ok document) :
    document.root.toValue.Stands text.toList 0 text.toList.length := by
  obtain ⟨sexp, root, hsexp, hvalue, rfl⟩ := readDocument_eq_ok_iff.mp hread
  obtain ⟨last, hdocument, hend⟩ := Rule.readAll_eq_ok.mp hsexp
  rw [result_document, SexpText.expr] at hdocument
  obtain ⟨⟨found, next⟩, hexpr, hboth⟩ := Option.map_eq_some_iff.mp hdocument
  cases hboth
  have hskip := Cursor.reaches_skip ';' (Cursor.ofText text.toList)
  have stands := SexpText.places_exprWithin _ hskip hexpr hvalue
  have hnext := hskip.trans (SexpText.advances_exprWithin _ hexpr).1
  have hlength := hnext.length_add
  rw [← Value.stands_unnumbered, Document.toValue_root_ofNode, Value.unnumbered_numbered,
    Value.stands_unnumbered]
  refine stands.widen (Nat.zero_le _) ?_
  change 0 + text.toList.length = _ at hlength
  omega

end Sexp

end TreeMatch
