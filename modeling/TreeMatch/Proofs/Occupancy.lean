import TreeMatch.Proofs.Reprinting

/-! Which expressions stand where in a text, said without a parser. The reader of s-expressions
finds an expression where it stands, and only there. -/

namespace TreeMatch

open Grammar

namespace Sexp

def Ends : Sexp → Cursor → Prop
  | atom .., next => next.rest.head? ≠ some '.'
  | list .., _ => True

mutual

def Occupies : Sexp → Cursor → Cursor → Prop
  | atom kind text, cursor, next =>
    AtomKind.takeFirst cursor.rest = some (kind, text, next.rest) ∧
      next.offset = cursor.offset + text.length
  | list loc head items, cursor, next =>
    ∃ rest opened named last, cursor.rest = '(' :: rest ∧
      opened = Cursor.skip ';' ⟨cursor.offset + 1, rest⟩ ∧
      takeHead opened.rest = some (head, named.rest) ∧
      named.offset = opened.offset + head.length ∧ OccupyAll items named last ∧
      (last.skip ';').rest = ')' :: next.rest ∧ next.offset = (last.skip ';').offset + 1 ∧
      loc = Range.between cursor.offset next.offset
termination_by structural sexp => sexp

def OccupyAll : List Sexp → Cursor → Cursor → Prop
  | [], cursor, last => cursor = last
  | item :: rest, cursor, last =>
    ∃ next, Occupies item (cursor.skip ';') next ∧ Ends item next ∧ OccupyAll rest next last
termination_by structural items => items

end

variable {sexp item : Sexp} {items : List Sexp} {cursor next last : Cursor} {loc : Range}
  {head : List Char}

section Places

theorem reaches_of_takeHead {word : List Char}
    (htake : takeHead cursor.rest = some (word, next.rest))
    (hoffset : next.offset = cursor.offset + word.length) : cursor.Reaches next :=
  ⟨word, (Lexeme.run_eq_some htake).1, hoffset⟩

theorem reaches_of_takeFirst {kind : AtomKind} {text : List Char}
    (htake : AtomKind.takeFirst cursor.rest = some (kind, text, next.rest))
    (hoffset : next.offset = cursor.offset + text.length) : cursor.Reaches next :=
  ⟨text, (AtomKind.take_eq_some (AtomKind.takeFirst_eq_some htake)).1, hoffset⟩

theorem loc_of_occupies (occupies : (list loc head items).Occupies cursor next) :
    loc = Range.between cursor.offset next.offset := by
  obtain ⟨rest, opened, named, last, -, -, -, -, -, -, -, hloc⟩ := occupies
  exact hloc

theorem items_of_occupies (occupies : (list loc head items).Occupies cursor next) :
    ∃ named last, (cursor.Reaches named ∧ cursor.offset < named.offset) ∧
      OccupyAll items named last ∧ last.Reaches next := by
  obtain ⟨rest, opened, named, last, hleft, rfl, hhead, hnamed, hitems, hright, hoffset, -⟩ :=
    occupies
  have hinside := (Cursor.reaches_skip ';' _).trans (reaches_of_takeHead hhead hnamed)
  have hclosing : (last.skip ';').Reaches next := ⟨[')'], hright, hoffset⟩
  exact ⟨named, last, ⟨(Cursor.Reaches.step hleft).trans hinside, hinside.offset_le⟩, hitems,
    (Cursor.reaches_skip ';' last).trans hclosing⟩

theorem reachesAll (each : ∀ item ∈ items, ∀ {cursor next : Cursor},
      item.Occupies cursor next → cursor.Reaches next)
    (occupy : OccupyAll items cursor last) : cursor.Reaches last := by
  induction items generalizing cursor with
  | nil =>
      cases occupy
      exact .refl _
  | cons item rest induction =>
      obtain ⟨next, hfirst, -, hrest⟩ := occupy
      have later := induction (fun other member => each other (by simp [member])) hrest
      exact ((Cursor.reaches_skip ';' cursor).trans (each item (by simp) hfirst)).trans later

theorem reaches_of_occupies (occupies : sexp.Occupies cursor next) : cursor.Reaches next := by
  induction sexp using induct generalizing cursor next with
  | atom kind text => exact reaches_of_takeFirst occupies.1 occupies.2
  | list loc head items each =>
      obtain ⟨named, last, ⟨hopening, -⟩, hitems, hclosing⟩ := items_of_occupies occupies
      have hinside := reachesAll (fun item member _ _ hitem => each item member hitem) hitems
      exact (hopening.trans hinside).trans hclosing

theorem reaches_of_occupyAll (occupy : OccupyAll items cursor last) : cursor.Reaches last :=
  reachesAll (fun _ _ _ _ hitem => reaches_of_occupies hitem) occupy

theorem opens_of_occupies (occupies : sexp.Occupies cursor next) :
    ∃ c rest, cursor.rest = c :: rest ∧ Text.isBlank c = false ∧ c ≠ ';' ∧ c ≠ ')' := by
  cases sexp with
  | atom kind text =>
      obtain ⟨htext, c, word, rfl, -, opens⟩ :=
        AtomKind.take_eq_some (AtomKind.takeFirst_eq_some occupies.1)
      exact ⟨c, word ++ next.rest, htext, opens.blank, opens.comment, opens.right⟩
  | list loc head items =>
      obtain ⟨rest, -, -, -, hleft, -⟩ := occupies
      exact ⟨'(', rest, hleft, by decide, by decide, by decide⟩

theorem skip_of_occupies (occupies : sexp.Occupies cursor next) : cursor.skip ';' = cursor := by
  obtain ⟨c, rest, hrest, hblank, hmark, -⟩ := opens_of_occupies occupies
  exact Cursor.skip_of_opens hrest hblank hmark

theorem lt_of_occupies (occupies : sexp.Occupies cursor next) : cursor.offset < next.offset := by
  cases sexp with
  | atom kind text =>
      obtain ⟨-, c, word, rfl, -⟩ :=
        AtomKind.take_eq_some (AtomKind.takeFirst_eq_some occupies.1)
      rw [occupies.2, List.length_cons]
      omega
  | list loc head items =>
      obtain ⟨named, last, ⟨-, hopening⟩, hitems, hclosing⟩ := items_of_occupies occupies
      have hinside := (reaches_of_occupyAll hitems).trans hclosing
      exact Nat.lt_of_lt_of_le hopening hinside.offset_le

end Places

end Sexp

/-! The reader finds only what stands in the text. -/

namespace SexpText

open Sexp (OccupyAll)

variable {sexp : Sexp} {items : List Sexp} {cursor next last : Cursor}
  {word rest : List Char} {depth : Nat}

theorem head_eq_some_iff : (head cursor).result = some (word, next) ↔
    Sexp.takeHead cursor.rest = some (word, next.rest) ∧
      next.offset = cursor.offset + word.length := by
  rw [head, Rule.result_named, Rule.result_lexeme]
  constructor
  · intro hread
    obtain ⟨split, htake, hboth⟩ := Option.map_eq_some_iff.mp hread
    cases hboth
    exact ⟨htake, rfl⟩
  · rintro ⟨htake, hoffset⟩
    refine Option.map_eq_some_iff.mpr ⟨(word, next.rest), htake, ?_⟩
    rw [← hoffset]

theorem head_ne_point (repeats : Rule.Repeats (itemWithin depth) cursor items last)
    (hright : (last.skip ';').rest = ')' :: rest) : cursor.rest.head? ≠ some '.' := by
  intro hhead
  obtain ⟨tail, hrest⟩ := List.head?_eq_some_iff.mp hhead
  have hskip : cursor.skip ';' = cursor := Cursor.skip_of_opens hrest (by decide) (by decide)
  cases repeats with
  | nil =>
      rw [hskip, hrest] at hright
      cases hright
  | cons first later =>
      have hblocks : AtomKind.Blocks cursor.rest := hrest ▸ AtomKind.blocks_point tail
      rw [result_itemWithin, hskip, exprWithin_of_blocks hblocks] at first
      cases first

theorem occupyAll_of_repeats
    (reads : ∀ {cursor next : Cursor} {sexp : Sexp},
      (exprWithin depth cursor).result = some (sexp, next) → sexp.Occupies cursor next)
    (repeats : Rule.Repeats (itemWithin depth) cursor items last)
    (hright : (last.skip ';').rest = ')' :: rest) : OccupyAll items cursor last := by
  induction repeats with
  | nil cursor => rfl
  | @cons cursor behind last sexp others hfirst later induction =>
      rw [result_itemWithin] at hfirst
      refine ⟨behind, reads hfirst, ?_, induction hright⟩
      cases sexp with
      | atom kind text => exact head_ne_point later hright
      | list loc head items => trivial

theorem occupies_of_exprWithin (hread : (exprWithin depth cursor).result = some (sexp, next)) :
    sexp.Occupies cursor next := by
  induction depth generalizing cursor next sexp with
  | zero => cases hread
  | succ depth induction =>
      rw [result_exprWithin, Option.or_eq_some_iff] at hread
      rcases hread with hlist | ⟨-, hatom⟩
      · obtain ⟨rest, word, named, items, last, hleft, hhead, hitems, hclose, rfl⟩ :=
          list_eq_some hlist
        obtain ⟨behind, hright, rfl⟩ := Rule.result_char hclose
        obtain ⟨htake, hnamed⟩ := head_eq_some_iff.mp hhead
        exact ⟨rest, _, named, last, hleft, rfl, htake, hnamed,
          occupyAll_of_repeats induction hitems hright, hright, rfl, rfl⟩
      · rw [result_anyAtom] at hatom
        obtain ⟨⟨kind, text, behind⟩, htake, hboth⟩ := Option.map_eq_some_iff.mp hatom
        cases hboth
        exact ⟨htake, rfl⟩

end SexpText

/-! The reader finds all that stands in the text. -/

namespace Sexp

open SexpText (exprWithin itemWithin)

variable {sexp : Sexp} {items : List Sexp} {cursor next last : Cursor} {depth : Nat}

def IsRead (sexp : Sexp) : Prop :=
  ∀ {cursor next : Cursor} {depth : Nat}, sexp.Occupies cursor next → cursor.rest.length < depth →
    (exprWithin depth cursor).result = some (sexp, next)

theorem repeats_of_occupyAll (each : ∀ item ∈ items, item.IsRead)
    (occupy : OccupyAll items cursor last) (hlength : cursor.rest.length < depth) :
    Rule.Repeats (itemWithin depth) cursor items last := by
  induction items generalizing cursor with
  | nil =>
      cases occupy
      exact .nil _
  | cons item rest induction =>
      obtain ⟨hitem, hothers⟩ := List.forall_mem_cons.mp each
      obtain ⟨next, hfirst, -, hrest⟩ := occupy
      have hskip := Cursor.reaches_skip ';' cursor
      have hnext := hskip.trans (reaches_of_occupies hfirst)
      have hopened := hskip.length_add
      have hbehind := hnext.length_add
      have hopening := hskip.offset_le
      have hforward := hnext.offset_le
      refine .cons ?_ (induction hothers hrest (by omega))
      rw [SexpText.result_itemWithin]
      exact hitem hfirst (by omega)

theorem itemWithin_eq_none {rest : List Char} (hright : (last.skip ';').rest = ')' :: rest) :
    (itemWithin depth last).result = none := by
  have hend : (itemWithin depth ⟨(last.skip ';').offset, ')' :: rest⟩).result = none :=
    SexpText.itemWithin_of_right _ rest
  rw [SexpText.result_itemWithin, SexpText.skip_right, ← hright] at hend
  rw [SexpText.result_itemWithin]
  exact hend

theorem isRead_of_list (loc : Range) (head : List Char) (each : ∀ item ∈ items, item.IsRead) :
    (list loc head items).IsRead := by
  intro cursor next depth occupies hlength
  obtain ⟨rest, opened, named, last, hleft, rfl, hhead, hnamed, hitems, hright, hoffset, rfl⟩ :=
    occupies
  obtain ⟨depth, rfl⟩ : ∃ less, depth = less + 1 := ⟨depth - 1, by omega⟩
  have hinside := ((Cursor.Reaches.step hleft).trans (Cursor.reaches_skip ';' _)).trans
    (reaches_of_takeHead hhead hnamed)
  have hbehind := hinside.length_add
  have hopening := (Cursor.reaches_skip ';' ⟨cursor.offset + 1, rest⟩).offset_le
  dsimp only at hopening
  have hdeep : named.rest.length < depth := by omega
  have repeats := repeats_of_occupyAll each hitems hdeep
  have hmany := SexpText.many_of_repeats repeats (itemWithin_eq_none hright)
  have hword := SexpText.head_eq_some_iff.mpr ⟨hhead, hnamed⟩
  have hlist : (SexpText.list (exprWithin depth) cursor).result = _ :=
    SexpText.result_list hleft hword hmany
  rw [SexpText.result_exprWithin, hlist, Rule.char_of_rest hright, ← hoffset]
  rfl

theorem isRead (sexp : Sexp) : sexp.IsRead := by
  induction sexp using induct with
  | atom kind text =>
      intro cursor next depth occupies hlength
      obtain ⟨htake, hoffset⟩ := occupies
      obtain ⟨depth, rfl⟩ : ∃ less, depth = less + 1 := ⟨depth - 1, by omega⟩
      rw [SexpText.exprWithin_of_takeFirst htake, ← hoffset]
  | list loc head items each => exact isRead_of_list loc head each

/-- A text is read as an expression if that stands in it and nothing else does. -/
theorem readAll_document_iff {text : List Char} :
    SexpText.document.readAll text = .ok sexp ↔
      ∃ next, sexp.Occupies ((Cursor.ofText text).skip ';') next ∧ (next.skip ';').rest = [] := by
  constructor
  · intro hread
    obtain ⟨last, hdocument, hend⟩ := Rule.readAll_eq_ok.mp hread
    rw [result_document, SexpText.expr] at hdocument
    obtain ⟨⟨found, next⟩, hexpr, hboth⟩ := Option.map_eq_some_iff.mp hdocument
    cases hboth
    exact ⟨next, SexpText.occupies_of_exprWithin hexpr, hend⟩
  · rintro ⟨next, occupies, hend⟩
    refine Rule.readAll_eq_ok.mpr ⟨next.skip ';', ?_, hend⟩
    rw [result_document, SexpText.expr, sexp.isRead occupies (Nat.lt_succ_self _)]
    rfl

end Sexp

end TreeMatch
