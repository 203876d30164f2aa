import TreeMatch.Proofs.Completeness

/-! Putting another text behind a place: what was read in front of the place still stands there, if
no lexeme reads on into the new text. -/

namespace TreeMatch

open Grammar

namespace Grammar.Cursor

def onto (last : Cursor) (other : List Char) (cursor : Cursor) : Cursor :=
  ⟨cursor.offset, cursor.rest.take (cursor.rest.length - last.rest.length) ++ other⟩

variable {cursor last : Cursor} {other : List Char}

theorem onto_of_rest {front : List Char} (hrest : cursor.rest = front ++ last.rest) :
    last.onto other cursor = ⟨cursor.offset, front ++ other⟩ := by
  unfold onto
  rw [hrest, List.length_append, Nat.add_sub_cancel, List.take_left]

@[simp] theorem onto_self (last : Cursor) (other : List Char) :
    last.onto other last = ⟨last.offset, other⟩ :=
  onto_of_rest (List.nil_append _).symm

theorem onto_append {next : Cursor} {taken : List Char} (hrest : cursor.rest = taken ++ next.rest)
    (reaches : next.Reaches last) :
    (last.onto other cursor).rest = taken ++ (last.onto other next).rest := by
  obtain ⟨front, hfront, -⟩ := reaches
  have hboth : cursor.rest = (taken ++ front) ++ last.rest := by
    rw [hrest, hfront, List.append_assoc]
  rw [onto_of_rest hfront, onto_of_rest hboth, List.append_assoc]

theorem onto_cons {c : Char} {rest : List Char} (hrest : cursor.rest = c :: rest)
    (reaches : Reaches ⟨cursor.offset + 1, rest⟩ last) :
    (last.onto other cursor).rest = c :: (last.onto other ⟨cursor.offset + 1, rest⟩).rest :=
  @onto_append cursor last other ⟨cursor.offset + 1, rest⟩ [c] hrest reaches

theorem follows_onto (reaches : cursor.Reaches last) (hfollows : Lexeme.Follows last.rest other) :
    Lexeme.Follows cursor.rest (last.onto other cursor).rest := by
  obtain ⟨front, hfront, -⟩ := reaches
  rw [onto_of_rest hfront, hfront]
  exact hfollows.append

end Grammar.Cursor

namespace Grammar.Lexeme

variable {mark c : Char} {comment : Bool} {skipped rest text : List Char}

/-- What was skipped is skipped in front of any text, and leaves the same state behind it. -/
theorem dropBlanks_skipped (hdrop : dropBlanks mark comment (skipped ++ rest) = rest) :
    ∃ state, ∀ other,
      dropBlanks mark comment (skipped ++ other) = dropBlanks mark state other := by
  induction skipped generalizing comment with
  | nil => exact ⟨comment, fun other => rfl⟩
  | cons c skipped induction =>
      cases comment with
      | true => exact induction hdrop
      | false =>
          rw [List.cons_append, dropBlanks] at hdrop
          simp only [List.cons_append, dropBlanks]
          split at hdrop
          · rename_i hblank
            simp only [if_pos hblank]
            exact induction hdrop
          · split at hdrop
            · rename_i hblank hmark
              simp only [if_neg hblank, if_pos hmark]
              exact induction hdrop
            · have hlength := congrArg List.length hdrop
              rw [List.length_cons, List.length_append] at hlength
              omega

theorem opens_of_dropBlanks (hdrop : dropBlanks mark comment text = c :: rest) :
    Text.isBlank c = false ∧ c ≠ mark := by
  induction text generalizing comment with
  | nil => cases comment <;> cases hdrop
  | cons d text induction =>
      cases comment with
      | true => exact induction hdrop
      | false =>
          rw [dropBlanks] at hdrop
          split at hdrop
          · exact induction hdrop
          · split at hdrop
            · exact induction hdrop
            · rename_i hblank hmark
              cases hdrop
              exact ⟨by simpa using hblank, hmark⟩

theorem dropBlanks_comment_ne (c : Char) (rest : List Char) :
    dropBlanks mark true (c :: rest) ≠ c :: rest := by
  intro hdrop
  have hlength := (dropBlanks_suffix mark (c ≠ '\n') rest).length_le
  rw [show dropBlanks mark (c ≠ '\n') rest = c :: rest from hdrop, List.length_cons] at hlength
  omega

theorem dropBlanks_append (hdrop : dropBlanks mark comment (skipped ++ c :: rest) = c :: rest)
    (other : List Char) : dropBlanks mark comment (skipped ++ c :: other) = c :: other := by
  obtain ⟨state, hstate⟩ := dropBlanks_skipped hdrop
  rw [hstate] at hdrop ⊢
  cases state with
  | true => exact absurd hdrop (dropBlanks_comment_ne c rest)
  | false =>
      obtain ⟨hblank, hmark⟩ := opens_of_dropBlanks hdrop
      rw [dropBlanks, hblank, if_neg Bool.false_ne_true, if_neg hmark]

theorem dropBlanks_lineFeed (hdrop : dropBlanks mark comment (skipped ++ rest) = rest)
    (other : List Char) :
    dropBlanks mark comment (skipped ++ ' ' :: '\n' :: other) = dropBlanks mark false other := by
  obtain ⟨state, hstate⟩ := dropBlanks_skipped hdrop
  rw [hstate]
  cases state <;> rfl

theorem dropBlanks_end (hdrop : dropBlanks mark comment (skipped ++ rest) = rest) :
    dropBlanks mark comment skipped = [] := by
  obtain ⟨state, hstate⟩ := dropBlanks_skipped hdrop
  rw [← List.append_nil skipped, hstate]
  cases state <;> rfl

end Grammar.Lexeme

namespace Grammar.Cursor

variable {mark : Char} {cursor last : Cursor} {skipped rest other : List Char}

/-- Blanks and comments behind a place, told apart from what follows them. -/
theorem exists_skipped (mark : Char) (cursor : Cursor) :
    ∃ skipped, cursor.rest = skipped ++ (cursor.skip mark).rest ∧
      (cursor.skip mark).offset = cursor.offset + skipped.length ∧
      Lexeme.dropBlanks mark false (skipped ++ (cursor.skip mark).rest) =
        (cursor.skip mark).rest := by
  obtain ⟨skipped, hrest, hoffset⟩ := reaches_skip mark cursor
  exact ⟨skipped, hrest, hoffset, congrArg (Lexeme.dropBlanks mark false) hrest.symm⟩

theorem skip_of_dropBlanks {offset : Nat}
    (hdrop : Lexeme.dropBlanks mark false (skipped ++ rest) = rest) :
    skip mark ⟨offset, skipped ++ rest⟩ = ⟨offset + skipped.length, rest⟩ := by
  simp only [skip, hdrop, List.length_append, Nat.add_sub_cancel]

theorem skip_onto (reaches : (cursor.skip mark).Reaches last)
    (hbefore : (cursor.skip mark).offset < last.offset) :
    (last.onto other cursor).skip mark = last.onto other (cursor.skip mark) := by
  obtain ⟨skipped, hrest, hoffset, hdrop⟩ := exists_skipped mark cursor
  obtain ⟨front, hfront, hlast⟩ := reaches
  cases front with
  | nil => simp only [List.length_nil] at hlast; omega
  | cons c front =>
      rw [hfront] at hrest hdrop
      have hboth : cursor.rest = (skipped ++ c :: front) ++ last.rest := by
        rw [hrest, List.append_assoc]
      have hagain := Lexeme.dropBlanks_append hdrop (front ++ other)
      rw [onto_of_rest hboth, onto_of_rest hfront, List.append_assoc, hoffset]
      exact skip_of_dropBlanks hagain

end Grammar.Cursor

namespace PatternText

variable {cursor last : Cursor} {other : List Char}

theorem exists_skipped (cursor : Cursor) :
    ∃ skipped, cursor.rest = skipped ++ (skip cursor).rest ∧
      (skip cursor).offset = cursor.offset + skipped.length ∧
      Lexeme.dropBlanks '#' false (skipped ++ (skip cursor).rest) = (skip cursor).rest :=
  Cursor.exists_skipped '#' cursor

theorem skip_onto (reaches : (skip cursor).Reaches last)
    (hbefore : (skip cursor).offset < last.offset) :
    skip (last.onto other cursor) = last.onto other (skip cursor) :=
  Cursor.skip_onto reaches hbefore

end PatternText

namespace Pattern

open PatternText (skip skip_onto reaches_skip)

variable {pattern : Pattern Lexed} {patterns : List (Pattern Lexed)} {cursor next last : Cursor}
  {other : List Char}

theorem ends_of_follows_at (hends : pattern.Ends next) {again : Cursor}
    (hfollows : Lexeme.Follows next.rest again.rest) : pattern.Ends again := by
  intro hatom quantity hhead
  rcases hfollows _ hhead with hsame | hspace | hclose
  · exact hends hatom quantity hsame
  · revert hspace
    cases quantity <;> decide
  · revert hclose
    cases quantity <;> decide

theorem ends_onto (hends : pattern.Ends next) (reaches : next.Reaches last)
    (hfollows : Lexeme.Follows last.rest other) : pattern.Ends (last.onto other next) :=
  ends_of_follows_at hends (Cursor.follows_onto reaches hfollows)

theorem occupiesAll_onto (each : ∀ pattern ∈ patterns, ∀ {cursor next : Cursor},
      pattern.Occupies cursor next → next.Reaches last →
      pattern.Occupies (last.onto other cursor) (last.onto other next)) {behind : Cursor}
    (hfollows : Lexeme.Follows last.rest other)
    (occupies : OccupiesAll patterns cursor behind) (reaches : behind.Reaches last) :
    OccupiesAll patterns (last.onto other cursor) (last.onto other behind) := by
  induction patterns generalizing cursor with
  | nil =>
      cases occupies
      rfl
  | cons pattern rest induction =>
      obtain ⟨next, hfirst, hends, hrest⟩ := occupies
      have hnext := (reaches_of_occupiesAll hrest).trans reaches
      have hskip := (reaches_of_occupies hfirst).trans hnext
      have hbefore := Nat.lt_of_lt_of_le (lt_of_occupies hfirst) hnext.offset_le
      have later := induction (fun other member => each other (by simp [member])) hrest
      refine ⟨last.onto other next, ?_, ends_onto hends hnext hfollows, later⟩
      rw [skip_onto hskip hbefore]
      exact each pattern (by simp) hfirst hnext

theorem occupies_onto (hfollows : Lexeme.Follows last.rest other)
    (occupies : pattern.Occupies cursor next) (reaches : next.Reaches last) :
    pattern.Occupies (last.onto other cursor) (last.onto other next) := by
  induction pattern using induct generalizing cursor next with
  | leaf loc lexed =>
      obtain ⟨htake, hoffset, hloc⟩ := occupies
      have hbehind := Cursor.follows_onto reaches hfollows
      obtain ⟨behind, hrest, -⟩ := reaches
      have hsplit := (TokenKind.take_eq_some (TokenKind.takeFirst_eq_some htake).2).1
      have hboth : cursor.rest = (lexed.text ++ behind) ++ last.rest := by
        rw [hsplit, hrest, List.append_assoc]
      rw [Cursor.onto_of_rest hrest] at hbehind ⊢
      rw [Cursor.onto_of_rest hboth, List.append_assoc]
      exact ⟨TokenKind.takeFirst_of_follows htake hbehind, hoffset, hloc⟩
  | marked loc mark inner induction =>
      obtain ⟨rest, hrest, hinner, hends, hloc⟩ := occupies
      have hbehind := (reaches_of_occupies hinner).trans reaches
      exact ⟨_, Cursor.onto_cons hrest hbehind, induction hinner reaches,
        ends_onto hends reaches hfollows, hloc⟩
  | repeated loc inner quantity induction =>
      obtain ⟨behind, hatom, hinner, hquantity, hoffset, hloc⟩ := occupies
      have hbehind : behind.Reaches last :=
        Cursor.Reaches.trans ⟨[quantity.char], hquantity, hoffset⟩ reaches
      refine ⟨last.onto other behind, hatom, induction hinner hbehind, ?_, hoffset, hloc⟩
      have hnext : next = ⟨behind.offset + 1, next.rest⟩ := by
        rw [← hoffset]
      rw [hnext] at reaches ⊢
      exact Cursor.onto_cons hquantity reaches
  | grouped loc bracket first others firstHolds othersHold =>
      obtain ⟨rest, parted, behind, hleft, hfirst, hends, hothers, hright, hoffset, hloc⟩ :=
        occupies
      have hnext : next = ⟨(skip behind).offset + 1, next.rest⟩ := by
        rw [← hoffset]
      have hclosing : (skip behind).Reaches last :=
        Cursor.Reaches.trans ⟨[bracket.right], hright, hoffset⟩ reaches
      have hbehind := (reaches_skip behind).trans hclosing
      have hparted := (reaches_of_occupiesAll hothers).trans hbehind
      have hopening := (reaches_of_occupies hfirst).trans hparted
      have hopened := (reaches_skip _).trans hopening
      -- What is skipped stands in front of a term or a bracket, so skipping stops as before.
      have hinside := Nat.lt_of_lt_of_le (lt_of_occupies hfirst) hparted.offset_le
      have hinner : (skip behind).offset < last.offset := by
        have hstop := reaches.offset_le
        omega
      refine ⟨_, last.onto other parted, last.onto other behind, Cursor.onto_cons hleft hopened,
        ?_, ends_onto hends hparted hfollows, ?_, ?_, ?_, hloc⟩
      · change first.Occupies (skip (last.onto other ⟨cursor.offset + 1, rest⟩)) _
        rw [skip_onto hopening hinside]
        exact firstHolds hfirst hparted
      · exact occupiesAll_onto (fun other member _ _ hother => othersHold other member hother)
          hfollows hothers hbehind
      · rw [skip_onto hclosing hinner]
        rw [hnext] at reaches ⊢
        exact Cursor.onto_cons hright reaches
      · rw [skip_onto hclosing hinner]
        exact hoffset

end Pattern

end TreeMatch
