import TreeMatch.Proofs.Enclosure
import TreeMatch.Proofs.Parentheses
import TreeMatch.Proofs.Slicing
import TreeMatch.Proofs.Trees

/-! Cutting a list out of an s-expression: the text of its range is a text of the list. -/

namespace TreeMatch

variable {chart : Text.CodeChart}

open Grammar

/-! An expression in a text that goes on differently behind it. -/

namespace Sexp

section Onto

variable {sexp : Sexp} {items : List Sexp} {cursor next last behind : Cursor} {other : List Char}

theorem ends_onto (hends : sexp.Ends next) (reaches : next.Reaches last)
    (hfollows : Lexeme.Follows last.rest other) : sexp.Ends (last.onto other next) := by
  cases sexp with
  | atom kind text =>
      intro hhead
      rcases Cursor.follows_onto reaches hfollows '.' hhead with hsame | hspace | hclose
      · exact hends hsame
      · revert hspace
        decide
      · revert hclose
        decide
  | list loc head items => trivial

theorem takeFirst_onto {kind : AtomKind} {text : List Char}
    (htake : AtomKind.takeFirst cursor.rest = some (kind, text, next.rest))
    (hpoint : next.rest.head? ≠ some '.') (reaches : next.Reaches last)
    (hfollows : Lexeme.Follows last.rest other) :
    AtomKind.takeFirst (last.onto other cursor).rest =
      some (kind, text, (last.onto other next).rest) := by
  have htaken := AtomKind.takeFirst_eq_some htake
  rw [Cursor.onto_append (AtomKind.take_eq_some htaken).1 reaches]
  exact AtomKind.takeFirst_of_follows htaken (Cursor.follows_onto reaches hfollows) hpoint

theorem takeHead_onto {word : List Char} (htake : takeHead cursor.rest = some (word, next.rest))
    (reaches : next.Reaches last) (hfollows : Lexeme.Follows last.rest other) :
    takeHead (last.onto other cursor).rest = some (word, (last.onto other next).rest) := by
  have hlocal : Lexeme.Local takeHead := Lexeme.local_run (by decide) (by decide)
  rw [Cursor.onto_append (Lexeme.run_eq_some htake).1 reaches]
  exact hlocal htake (Cursor.follows_onto reaches hfollows)

theorem occupyAll_onto (each : ∀ item ∈ items, ∀ {cursor next : Cursor},
      item.Occupies cursor next → item.Ends next → next.Reaches last →
      item.Occupies (last.onto other cursor) (last.onto other next))
    (hfollows : Lexeme.Follows last.rest other) (occupy : OccupyAll items cursor behind)
    (reaches : behind.Reaches last) :
    OccupyAll items (last.onto other cursor) (last.onto other behind) := by
  induction items generalizing cursor with
  | nil =>
      cases occupy
      rfl
  | cons item rest induction =>
      obtain ⟨hitem, hothers⟩ := List.forall_mem_cons.mp each
      obtain ⟨next, hfirst, hends, hrest⟩ := occupy
      have hnext := (reaches_of_occupyAll hrest).trans reaches
      have hskip := (reaches_of_occupies hfirst).trans hnext
      have hbefore := Nat.lt_of_lt_of_le (lt_of_occupies hfirst) hnext.offset_le
      refine ⟨last.onto other next, ?_, ends_onto hends hnext hfollows, induction hothers hrest⟩
      rw [Cursor.skip_onto hskip hbefore]
      exact hitem hfirst hends hnext

theorem occupies_onto (hfollows : Lexeme.Follows last.rest other)
    (occupies : sexp.Occupies cursor next) (hends : sexp.Ends next) (reaches : next.Reaches last) :
    sexp.Occupies (last.onto other cursor) (last.onto other next) := by
  induction sexp using induct generalizing cursor next with
  | atom kind text => exact ⟨takeFirst_onto occupies.1 hends reaches hfollows, occupies.2⟩
  | list loc head items each =>
      have hforward := reaches.offset_le
      obtain ⟨rest, opened, named, behind, hleft, rfl, hhead, hnamed, hitems, hright, hoffset,
        hloc⟩ := occupies
      have hnext : next = ⟨(behind.skip ';').offset + 1, next.rest⟩ := by
        rw [← hoffset]
      have hclosing : (behind.skip ';').Reaches last :=
        Cursor.Reaches.trans ⟨[')'], hright, hoffset⟩ reaches
      have hbehind := (Cursor.reaches_skip ';' behind).trans hclosing
      have hword := (reaches_of_occupyAll hitems).trans hbehind
      have hopened := (reaches_of_takeHead hhead hnamed).trans hword
      have hinside := (Cursor.reaches_skip ';' ⟨cursor.offset + 1, rest⟩).trans hopened
      have hclosed : (behind.skip ';').offset < last.offset := by omega
      have hopening : (Cursor.skip ';' ⟨cursor.offset + 1, rest⟩).offset < last.offset := by
        have hbetween := (reaches_of_occupyAll hitems).offset_le
        have hblanks := (Cursor.reaches_skip ';' behind).offset_le
        omega
      refine ⟨(last.onto other ⟨cursor.offset + 1, rest⟩).rest, _, last.onto other named,
        last.onto other behind, Cursor.onto_cons hleft hinside,
        (Cursor.skip_onto hopened hopening).symm, takeHead_onto hhead hword hfollows, hnamed, ?_,
        ?_, ?_, hloc⟩
      · exact occupyAll_onto (fun item member _ _ hitem => each item member hitem) hfollows hitems
          hbehind
      · rw [Cursor.skip_onto hclosing hclosed]
        rw [hnext] at reaches ⊢
        exact Cursor.onto_cons hright reaches
      · rw [Cursor.skip_onto hclosing hclosed]
        exact hoffset

end Onto

/-! An expression in a text without some of its front. -/

mutual

def relocated (move : Range → Range) : Sexp → Sexp
  | atom kind text => atom kind text
  | list loc head items => list (move loc) head (relocatedAll move items)
termination_by structural sexp => sexp

def relocatedAll (move : Range → Range) : List Sexp → List Sexp
  | [] => []
  | item :: rest => relocated move item :: relocatedAll move rest
termination_by structural items => items

end

section Back

variable {sexp : Sexp} {items : List Sexp} {cursor next last : Cursor} {distance : Nat}

theorem ends_back (hends : sexp.Ends next) :
    (sexp.relocated (Range.back distance)).Ends (next.back distance) := by
  cases sexp with
  | atom kind text => exact hends
  | list loc head items => trivial

theorem occupyAll_back (each : ∀ item ∈ items, ∀ {cursor next : Cursor},
      item.Occupies cursor next → distance ≤ cursor.offset →
      (item.relocated (Range.back distance)).Occupies (cursor.back distance) (next.back distance))
    (occupy : OccupyAll items cursor last) (hoffset : distance ≤ cursor.offset) :
    OccupyAll (relocatedAll (Range.back distance) items) (cursor.back distance)
      (last.back distance) := by
  induction items generalizing cursor with
  | nil =>
      cases occupy
      rfl
  | cons item rest induction =>
      obtain ⟨hitem, hothers⟩ := List.forall_mem_cons.mp each
      obtain ⟨next, hfirst, hends, hrest⟩ := occupy
      have hskip := Nat.le_trans hoffset (Cursor.reaches_skip ';' cursor).offset_le
      have hnext := Nat.le_trans hskip (reaches_of_occupies hfirst).offset_le
      refine ⟨next.back distance, ?_, ends_back hends, induction hothers hrest hnext⟩
      rw [Cursor.skip_back ';' hoffset]
      exact hitem hfirst hskip

/-- An expression stands in the same way in a text without some of its front. -/
theorem occupies_back (occupies : sexp.Occupies cursor next) (hoffset : distance ≤ cursor.offset) :
    (sexp.relocated (Range.back distance)).Occupies (cursor.back distance)
      (next.back distance) := by
  induction sexp using induct generalizing cursor next with
  | atom kind text =>
      obtain ⟨htake, hstop⟩ := occupies
      exact ⟨htake, by simp only [Cursor.back]; omega⟩
  | list loc head items each =>
      obtain ⟨rest, opened, named, last, hleft, rfl, hhead, hnamed, hitems, hright, hstop, rfl⟩ :=
        occupies
      have hopened : distance ≤ cursor.offset + 1 := Nat.le_succ_of_le hoffset
      have hopening := Nat.le_trans hopened (Cursor.reaches_skip ';' ⟨_, rest⟩).offset_le
      have hword := Nat.le_trans hopening (reaches_of_takeHead hhead hnamed).offset_le
      have hlast := Nat.le_trans hword (reaches_of_occupyAll hitems).offset_le
      have hclosing := Nat.le_trans hlast (Cursor.reaches_skip ';' last).offset_le
      let opened := Cursor.skip ';' ⟨cursor.offset + 1, rest⟩
      refine ⟨rest, opened.back distance, named.back distance, last.back distance, hleft, ?_, hhead,
        ?_, ?_, ?_, ?_, (Range.between_back hoffset next.offset).symm⟩
      · rw [Cursor.back_succ hoffset, Cursor.skip_back ';' hopened]
      · simp only [Cursor.back, opened]
        omega
      · exact occupyAll_back (fun item member _ _ hitem hfar => each item member hitem hfar) hitems
          hword
      · rw [Cursor.skip_back ';' hlast]
        exact hright
      · rw [Cursor.skip_back ';' hlast]
        simp only [Cursor.back]
        omega

theorem relocatedAll_moved_back (each : ∀ item ∈ items, ∀ {cursor next : Cursor},
      item.Occupies cursor next → distance ≤ cursor.offset →
      (item.relocated (Range.back distance)).relocated (Range.moved distance) = item)
    (occupy : OccupyAll items cursor last) (hoffset : distance ≤ cursor.offset) :
    relocatedAll (Range.moved distance) (relocatedAll (Range.back distance) items) = items := by
  induction items generalizing cursor with
  | nil => rfl
  | cons item rest induction =>
      obtain ⟨hitem, hothers⟩ := List.forall_mem_cons.mp each
      obtain ⟨next, hfirst, -, hrest⟩ := occupy
      have hskip := Nat.le_trans hoffset (Cursor.reaches_skip ';' cursor).offset_le
      have hnext := Nat.le_trans hskip (reaches_of_occupies hfirst).offset_le
      rw [relocatedAll, relocatedAll, hitem hfirst hskip, induction hothers hrest hnext]

/-- Moved to the front and back again, an expression stands where it stood. -/
theorem relocated_moved_back (occupies : sexp.Occupies cursor next)
    (hoffset : distance ≤ cursor.offset) :
    (sexp.relocated (Range.back distance)).relocated (Range.moved distance) = sexp := by
  induction sexp using induct generalizing cursor next with
  | atom kind text => rfl
  | list loc head items each =>
      obtain ⟨named, last, ⟨hopening, -⟩, hitems, -⟩ := items_of_occupies occupies
      have hall := relocatedAll_moved_back
        (fun item member _ _ hitem hfar => each item member hitem hfar) hitems
        (Nat.le_trans hoffset hopening.offset_le)
      have hloc : (loc.back distance).moved distance = loc := by
        rw [loc_of_occupies occupies]
        exact Range.moved_back hoffset
      rw [relocated, relocated, hall, hloc]

end Back

end Sexp

/-! The trees that relocated expressions stand for. -/

namespace Value

mutual

def relocated (move : Range → Range) : Value → Value
  | node id type loc children => node id type (loc.map move) (relocatedAll move children)
  | atom => atom
termination_by structural value => value

def relocatedAll (move : Range → Range) : List Value → List Value
  | [] => []
  | child :: rest => relocated move child :: relocatedAll move rest
termination_by structural values => values

end

variable {move : Range → Range}

theorem unnumbered_relocated (value : Value) :
    (value.relocated move).unnumbered = value.unnumbered.relocated move := by
  induction value using induct with
  | node id type loc children each =>
      have hall : unnumberedAll (relocatedAll move children) =
          relocatedAll move (unnumberedAll children) := by
        induction children with
        | nil => rfl
        | cons child rest induction =>
            obtain ⟨hchild, hrest⟩ := List.forall_mem_cons.mp each
            rw [relocatedAll, unnumberedAll, unnumberedAll, relocatedAll, hchild, induction hrest]
      rw [relocated, unnumbered, unnumbered, relocated, hall]
  | _ => rfl

theorem nested_relocated (value : Value) :
    (value.relocated move).nested = value.nested := by
  induction value using induct with
  | node id type loc children each =>
      have hall : nestedAll (relocatedAll move children) = nestedAll children := by
        induction children with
        | nil => rfl
        | cons child rest induction =>
            obtain ⟨hchild, hrest⟩ := List.forall_mem_cons.mp each
            rw [relocatedAll, nestedAll, nestedAll, hchild, induction hrest]
      rw [relocated, nested, nested, hall]
  | _ => rfl

theorem builtOf_of_mem {value : Value} {node : Node} (built : value.BuiltOf IsHead IsSexpAtom)
    (member : node ∈ value.eachNode) : node.toValue.BuiltOf IsHead IsSexpAtom := by
  induction built with
  | @atom value hatom =>
      cases value with
      | node id type loc children => cases hatom
      | _ => cases member
  | node htype each induction =>
      rcases List.mem_cons.mp member with rfl | hbelow
      · exact .node htype each
      · obtain ⟨child, hchild, hnode⟩ := mem_eachNodeAmong.mp hbelow
        exact induction child hchild hnode

theorem nested_unnumbered {value : Value} (built : value.BuiltOf IsHead IsSexpAtom) :
    value.unnumbered.nested = value.nested := by
  induction built with
  | @atom value hatom =>
      cases value with
      | node id type loc children | list items | tuple items => cases hatom
      | _ => rfl
  | @node id type loc children htype each induction =>
      have hall : nestedAll (unnumberedAll children) = nestedAll children := by
        clear each
        induction children with
        | nil => rfl
        | cons child rest rests =>
            obtain ⟨hchild, hrest⟩ := List.forall_mem_cons.mp induction
            rw [unnumberedAll, nestedAll, nestedAll, hchild, rests hrest]
      rw [unnumbered, nested, nested, hall]

end Value

theorem AtomKind.decode_ne_node (kind : AtomKind) (text : List Char) (node : Node) :
    kind.decode chart text ≠ .ok node.toValue := by
  intro hvalue
  cases kind with
  | nil | «true» | «false» | symbol | float => cases hvalue
  | integer =>
      change decodeInteger text = _ at hvalue
      unfold decodeInteger at hvalue
      split at hvalue <;> cases hvalue
  | string =>
      simp only [decode] at hvalue
      split at hvalue <;> cases hvalue

namespace Sexp

variable {sexp : Sexp} {value : Value} {node : Node} {cursor next last middle : Cursor}

theorem toValues_relocatedAll {items : List Sexp} {values : List Value} (move : Range → Range)
    (each : ∀ item ∈ items, ∀ {value : Value}, item.toValue chart = .ok value →
      (item.relocated move).toValue chart = .ok (value.relocated move))
    (hvalues : toValues chart items = .ok values) :
    toValues chart (relocatedAll move items) = .ok (Value.relocatedAll move values) := by
  induction items generalizing values with
  | nil =>
      cases hvalues
      rfl
  | cons item rest induction =>
      obtain ⟨hitem, hothers⟩ := List.forall_mem_cons.mp each
      obtain ⟨first, hfirst, hmore⟩ := bind_ok hvalues
      obtain ⟨others, hrest, hdone⟩ := bind_ok hmore
      cases hdone
      rw [relocatedAll, toValues, hitem hfirst, ok_bind, induction hothers hrest]
      rfl

theorem toValue_relocated (move : Range → Range) (hvalue : sexp.toValue chart = .ok value) :
    (sexp.relocated move).toValue chart = .ok (value.relocated move) := by
  induction sexp using induct generalizing value with
  | atom kind text =>
      cases value with
      | node id type loc children =>
          exact absurd hvalue (kind.decode_ne_node text ⟨id, type, loc, children⟩)
      | _ => exact hvalue
  | list loc head items each =>
      obtain ⟨values, hvalues, hdone⟩ := bind_ok hvalue
      cases hdone
      rw [relocated, toValue, toValues_relocatedAll move (fun item member _ => each item member)
        hvalues]
      rfl

def NodeOccurs (chart : Text.CodeChart) (node : Node) (cursor next : Cursor) : Prop :=
  ∃ (sexp : Sexp) (start stop : Cursor), sexp.Occupies start stop ∧
    sexp.toValue chart = .ok node.toValue ∧ cursor.Reaches start ∧ stop.Reaches next

theorem NodeOccurs.mono (occurs : NodeOccurs chart node middle next)
    (before : cursor.Reaches middle) (behind : next.Reaches last) :
    NodeOccurs chart node cursor last := by
  obtain ⟨sexp, start, stop, occupies, hvalue, hstart, hstop⟩ := occurs
  exact ⟨sexp, start, stop, occupies, hvalue, before.trans hstart, hstop.trans behind⟩

theorem nodeOccurs_among {items : List Sexp} {values : List Value}
    (each : ∀ item ∈ items, ∀ {cursor next : Cursor} {value : Value}, item.Occupies cursor next →
      item.toValue chart = .ok value → node ∈ value.eachNode → NodeOccurs chart node cursor next)
    (occupy : OccupyAll items cursor last) (hvalues : toValues chart items = .ok values)
    (member : node ∈ Value.eachNodeAmong values) : NodeOccurs chart node cursor last := by
  induction items generalizing cursor values with
  | nil =>
      cases hvalues
      cases member
  | cons item rest induction =>
      obtain ⟨hitem, hothers⟩ := List.forall_mem_cons.mp each
      obtain ⟨next, hfirst, -, hrest⟩ := occupy
      obtain ⟨value, hvalue, hmore⟩ := bind_ok hvalues
      obtain ⟨others, hlater, hdone⟩ := bind_ok hmore
      cases hdone
      have hskip := Cursor.reaches_skip ';' cursor
      rcases List.mem_append.mp member with hhere | hbehind
      · exact (hitem hfirst hvalue hhere).mono hskip (reaches_of_occupyAll hrest)
      · have hnext := hskip.trans (reaches_of_occupies hfirst)
        exact (induction hothers hrest hlater hbehind).mono hnext (.refl last)

/-- Every node of a tree was read from a list, which stands where the tree's expression does. -/
theorem nodeOccurs_of_mem (occupies : sexp.Occupies cursor next)
    (hvalue : sexp.toValue chart = .ok value)
    (member : node ∈ value.eachNode) : NodeOccurs chart node cursor next := by
  induction sexp using induct generalizing cursor next value with
  | atom kind text =>
      cases value with
      | node id type loc children =>
          exact absurd hvalue (kind.decode_ne_node text ⟨id, type, loc, children⟩)
      | _ => cases member
  | list loc head items each =>
      obtain ⟨values, hvalues, hdone⟩ := bind_ok hvalue
      cases hdone
      rcases List.mem_cons.mp member with rfl | hbelow
      · exact ⟨_, cursor, next, occupies, hvalue, .refl cursor, .refl next⟩
      · obtain ⟨named, behind, ⟨hopening, -⟩, hitems, hclosing⟩ := items_of_occupies occupies
        refine (nodeOccurs_among ?_ hitems hvalues hbelow).mono hopening hclosing
        exact fun item member _ _ _ hitem hread hnode => each item member hitem hread hnode

end Sexp

/-- The node stands at a range of its document's text. The text of that range starts with a
parenthesis and ends with the one that closes it, and is read as the same tree, with its ranges
counted from there. The children stand between the parentheses, one behind the other. -/
structure Document.StandsAt (chart : Text.CodeChart) (document : Document) (node : Node)
    (loc : Range) (excerpt : String) : Prop where
  placed : node.loc = some loc
  text : document.textOf node = some excerpt
  opened : excerpt.toList.head? = some '('
  closed : excerpt.toList.getLast? = some ')'
  matched : Zone.plain.closing 0 excerpt.toList = some excerpt.toList.length
  read : ∃ again, Sexp.readDocument chart excerpt = .ok again ∧
    again.root.toValue.nested = node.toValue.nested ∧
    again.root.toValue.unnumbered.relocated (Range.moved loc.start) = node.toValue.unnumbered
  siblings : node.childNodes.Pairwise fun first second =>
    ∃ range ∈ first.loc, ∃ range' ∈ second.loc, range.stop ≤ range'.start
  children : ∀ child ∈ node.childNodes,
    ∃ range ∈ child.loc, loc.start < range.start ∧ range.stop < loc.stop

namespace Sexp

variable {text : String} {document : Document} {node : Node} {sexp : Sexp} {start stop : Cursor}

theorem nodeOccurs_of_readDocument (hread : readDocument chart text = .ok document)
    (member : node ∈ document.root.eachNode) :
    ∃ (origin : Node) (next : Cursor), origin.unnumbered = node.unnumbered ∧
      NodeOccurs chart origin (Cursor.ofText text.toList) next := by
  obtain ⟨sexp, root, hsexp, hvalue, rfl⟩ := readDocument_eq_ok_iff.mp hread
  obtain ⟨next, occupies, -⟩ := readAll_document_iff.mp hsexp
  have hsame : ((Document.ofNode root text).root.eachNode).map Node.unnumbered =
      root.eachNode.map Node.unnumbered := by
    rw [Node.eachNode, Node.eachNode, ← Value.eachNode_unnumbered, ← Value.eachNode_unnumbered,
      Document.unnumbered_ofNode]
  have hmapped := List.mem_map_of_mem (f := Node.unnumbered) member
  rw [hsame] at hmapped
  obtain ⟨origin, horigin, hnumber⟩ := List.mem_map.mp hmapped
  have hskip := Cursor.reaches_skip ';' (Cursor.ofText text.toList)
  exact ⟨origin, next, hnumber, (nodeOccurs_of_mem occupies hvalue horigin).mono hskip (.refl next)⟩

theorem exists_list (hvalue : sexp.toValue chart = .ok node.toValue) :
    ∃ loc head items, sexp = .list loc head items ∧ node.loc = some loc := by
  cases sexp with
  | atom kind text => exact absurd hvalue (kind.decode_ne_node text node)
  | list loc head items =>
      obtain ⟨values, -, hdone⟩ := bind_ok hvalue
      obtain ⟨id, type, place, children⟩ := node
      cases hdone
      exact ⟨loc, head, items, rfl, rfl⟩

/-- Cut out of its text, a list is read as it was, but for where it stands. -/
theorem readDocument_cut {front : List Char} (occupies : sexp.Occupies start stop)
    (hfront : start.rest = front ++ stop.rest) (hvalue : sexp.toValue chart = .ok node.toValue) :
    ∃ again, readDocument chart (String.ofList front) = .ok again ∧
      again.root.toValue.unnumbered.relocated (Range.moved start.offset) =
        node.toValue.unnumbered := by
  obtain ⟨loc, head, items, rfl, -⟩ := exists_list hvalue
  have hcut := occupies_onto (.nil _) occupies trivial (.refl stop)
  rw [Cursor.onto_of_rest hfront, Cursor.onto_self, List.append_nil] at hcut
  have hback := occupies_back hcut (Nat.le_refl _)
  rw [Cursor.back_offset] at hback
  have hread : SexpText.document.readAll (String.ofList front).toList =
      .ok ((list loc head items).relocated (Range.back start.offset)) := by
    rw [String.toList_ofList]
    refine readAll_document_iff.mpr ⟨⟨stop.offset - start.offset, []⟩, ?_, rfl⟩
    rw [skip_of_occupies hback]
    exact hback
  -- What is read is the node at the front of the text; moved back to its place it is the node.
  have hfound := toValue_relocated (Range.back start.offset) hvalue
  have hplaced := toValue_relocated (Range.moved start.offset) hfound
  rw [relocated_moved_back occupies (Nat.le_refl _), hvalue] at hplaced
  let root : Node := ⟨node.id, node.type, node.loc.map (Range.back start.offset),
    Value.relocatedAll (Range.back start.offset) node.children⟩
  refine ⟨Document.ofNode root (String.ofList front),
    readDocument_eq_ok_iff.mpr ⟨_, root, hread, hfound, rfl⟩, ?_⟩
  rw [Document.unnumbered_ofNode, ← Value.unnumbered_relocated]
  exact congrArg Value.unnumbered (Except.ok.inj hplaced).symm

/-- Every node of a document stands in its text where its range says. -/
theorem standsAt_of_readDocument (hread : readDocument chart text = .ok document) :
    ∀ node ∈ document.root.eachNode,
      ∃ loc excerpt, document.StandsAt chart node loc excerpt := by
  intro node member
  obtain ⟨origin, next, hnumber, sexp, start, stop, occupies, hvalue, hstart, -⟩ :=
    nodeOccurs_of_readDocument hread member
  obtain ⟨front, hfront, hstop⟩ := reaches_of_occupies occupies
  obtain ⟨again, hagain, hmoved⟩ := readDocument_cut occupies hfront hvalue
  obtain ⟨loc, head, items, rfl, hloc⟩ := exists_list hvalue
  obtain ⟨hopened, hclosed, hmatched⟩ := enclosed_of_occupies occupies hfront
  have hplaced : node.loc = some (Range.between start.offset stop.offset) := by
    rw [← loc_of_occupies occupies, ← hloc]
    exact (congrArg Node.loc hnumber).symm
  have hslice := (Cursor.slice_between hstart hfront hstop).1
  have htext := (isTree_of_readDocument hread).1.texts node member _ hplaced
  rw [hslice] at htext
  have hunnumbered : again.root.toValue.unnumbered.relocated (Range.moved start.offset) =
      node.toValue.unnumbered := by
    rw [hmoved, ← Node.toValue_unnumbered, ← Node.toValue_unnumbered, hnumber]
  obtain ⟨range, hrange, -, -, brackets, inside⟩ := (stands_of_readDocument hread).of_mem member
  cases hplaced.symm.trans hrange
  refine ⟨_, String.ofList front, hplaced, htext, ?_, ?_, ?_, ⟨again, hagain, ?_, hunnumbered⟩,
    inside.pairwise, fun child hchild => ?_⟩
  · rwa [String.toList_ofList]
  · rwa [String.toList_ofList]
  · rwa [String.toList_ofList]
  · have built := Value.builtOf_of_mem (builtOf_of_readDocument hread) member
    rw [← Value.nested_unnumbered built, ← hunnumbered, Value.nested_relocated,
      Value.nested_unnumbered (builtOf_of_readDocument hagain)]
  · obtain ⟨inner, hinner, hstart, hstop, -⟩ := inside.stands (Value.mem_childNodes.mp hchild)
    have hapart := brackets.apart
    exact ⟨inner, hinner, hstart, by omega⟩

/-- A list that touches the word before it and the comment behind it, with parentheses that are none
in its string and in the comment. -/
theorem standsAt_of_readDocument_touching :
    ∃ document, readDocument Text.basicLatin "(a(b \")\");)\n 2)" = .ok document ∧
      ∃ node ∈ document.root.eachNode,
        document.StandsAt Text.basicLatin node ⟨2, 7⟩ "(b \")\")" := by
  let root : Node := ⟨0, "a", some ⟨0, 15⟩, [.node 0 "b" (some ⟨2, 7⟩) [.str ")"], .int 2]⟩
  have hsexp : SexpText.document.readAll "(a(b \")\");)\n 2)".toList = .ok (.list ⟨0, 15⟩ ['a']
      [.list ⟨2, 7⟩ ['b'] [.atom .string "\")\"".toList], .atom .integer ['2']]) := by
    cbv
  let document := Document.ofNode root "(a(b \")\");)\n 2)"
  have hread : readDocument Text.basicLatin "(a(b \")\");)\n 2)" = .ok document :=
    readDocument_eq_ok_iff.mpr ⟨_, root, hsexp, by rfl, rfl⟩
  let node : Node := ⟨0, "b", some ⟨2, 7⟩, [.str ")"]⟩
  have member : node ∈ document.root.eachNode := .tail _ (.head _)
  obtain ⟨loc, excerpt, stands⟩ := standsAt_of_readDocument hread node member
  cases stands.placed
  have htext : document.textOf node = some "(b \")\")" := by decide
  cases htext.symm.trans stands.text
  exact ⟨document, hread, node, member, stands⟩

end Sexp

end TreeMatch
