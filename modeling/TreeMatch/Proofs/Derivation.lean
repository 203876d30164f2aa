import TreeMatch.Proofs.Boundaries
import TreeMatch.Proofs.Spelling

/-! Which patterns stand where in a text, said without a parser. The parser reads a pattern where
it stands, and only there. -/

namespace TreeMatch

open Grammar

namespace Grammar

def Cursor.Reaches (cursor next : Cursor) : Prop :=
  ∃ taken, cursor.rest = taken ++ next.rest ∧ next.offset = cursor.offset + taken.length

namespace Cursor.Reaches

variable {cursor middle next : Cursor}

theorem refl (cursor : Cursor) : cursor.Reaches cursor :=
  ⟨[], rfl, rfl⟩

theorem trans (first : cursor.Reaches middle) (second : middle.Reaches next) :
    cursor.Reaches next := by
  obtain ⟨front, hfront, hmiddle⟩ := first
  obtain ⟨back, hback, hnext⟩ := second
  refine ⟨front ++ back, ?_, ?_⟩
  · rw [hfront, hback, List.append_assoc]
  · rw [hnext, hmiddle, List.length_append, Nat.add_assoc]

theorem step {c : Char} {rest : List Char} (hrest : cursor.rest = c :: rest) :
    cursor.Reaches ⟨cursor.offset + 1, rest⟩ :=
  ⟨[c], hrest, rfl⟩

theorem length_add (reaches : cursor.Reaches next) :
    cursor.offset + cursor.rest.length = next.offset + next.rest.length := by
  obtain ⟨taken, hrest, hoffset⟩ := reaches
  rw [hrest, hoffset, List.length_append]
  omega

theorem offset_le (reaches : cursor.Reaches next) : cursor.offset ≤ next.offset := by
  obtain ⟨taken, -, hoffset⟩ := reaches
  omega

end Cursor.Reaches

theorem Cursor.reaches_skip (mark : Char) (cursor : Cursor) :
    cursor.Reaches (cursor.skip mark) := by
  obtain ⟨taken, htaken⟩ := dropBlanks_suffix mark false cursor.rest
  refine ⟨taken, htaken.symm, ?_⟩
  have hlength := congrArg List.length htaken
  rw [List.length_append] at hlength
  simp only [Cursor.skip]
  omega

namespace Rule

variable {rule : Rule α} {cursor next : Cursor}

theorem char_of_rest {c : Char} {rest : List Char} (hrest : cursor.rest = c :: rest) :
    (char c cursor).result = some ((), ⟨cursor.offset + 1, rest⟩) := by
  unfold char
  rw [hrest]
  exact congrArg Outcome.result (if_pos rfl)

theorem char_eq_none {c : Char} (hhead : cursor.rest.head? ≠ some c) :
    (char c cursor).result = none := by
  unfold char
  cases hrest : cursor.rest with
  | nil => rfl
  | cons d rest =>
      have hother : d ≠ c := by
        rintro rfl
        exact hhead (by rw [hrest]; rfl)
      exact congrArg Outcome.result (if_neg hother)

theorem optional_of_some {value : α} (hsome : cursor.rest ≠ [])
    (hrule : (rule cursor).result = some (value, next)) :
    (optional rule cursor).result = some (some value, next) := by
  unfold optional
  rcases hread : rule cursor with ⟨misses, result⟩
  rw [hread] at hrule
  cases hrule
  rw [if_neg (by simpa using hsome)]

theorem optional_of_none (hrule : (rule cursor).result = none) :
    (optional rule cursor).result = some (none, cursor) := by
  unfold optional
  rcases hread : rule cursor with ⟨misses, result⟩
  rw [hread] at hrule
  cases hrule
  split <;> rfl

end Rule

end Grammar

namespace PatternText

theorem reaches_skip (cursor : Cursor) : cursor.Reaches (skip cursor) :=
  Cursor.reaches_skip '#' cursor

end PatternText

namespace Pattern

open PatternText (skip)

def isAtom : Pattern α → Bool
  | leaf .. => true
  | grouped .. => true
  | _ => false

def Ends (pattern : Pattern Lexed) (next : Cursor) : Prop :=
  pattern.isAtom = true → ∀ quantity : Quantity, next.rest.head? ≠ some quantity.char

mutual

def Occupies : Pattern Lexed → Cursor → Cursor → Prop
  | leaf loc lexed, cursor, next =>
    TokenKind.takeFirst TokenKind.leafOrder cursor.rest =
        some (lexed.kind, lexed.text, next.rest) ∧
      next.offset = cursor.offset + lexed.text.length ∧
      loc = Range.between cursor.offset next.offset
  | marked loc mark inner, cursor, next =>
    ∃ rest, cursor.rest = mark.char :: rest ∧
      Occupies inner ⟨cursor.offset + 1, rest⟩ next ∧ Ends inner next ∧
      loc = Range.between cursor.offset next.offset
  | repeated loc inner quantity, cursor, next =>
    ∃ behind, inner.isAtom = true ∧ Occupies inner cursor behind ∧
      behind.rest = quantity.char :: next.rest ∧ next.offset = behind.offset + 1 ∧
      loc = Range.between cursor.offset next.offset
  | grouped loc bracket first others, cursor, next =>
    ∃ rest parted last, cursor.rest = bracket.left :: rest ∧
      Occupies first (skip ⟨cursor.offset + 1, rest⟩) parted ∧ Ends first parted ∧
      OccupiesAll others parted last ∧ (skip last).rest = bracket.right :: next.rest ∧
      next.offset = (skip last).offset + 1 ∧ loc = Range.between cursor.offset next.offset
termination_by structural pattern => pattern

def OccupiesAll : List (Pattern Lexed) → Cursor → Cursor → Prop
  | [], cursor, last => cursor = last
  | pattern :: rest, cursor, last =>
    ∃ next, Occupies pattern (skip cursor) next ∧ Ends pattern next ∧ OccupiesAll rest next last
termination_by structural patterns => patterns

end

structure Stands (pattern : Pattern Lexed) (cursor next : Cursor) : Prop where
  occupies : pattern.Occupies cursor next
  ends : pattern.Ends next

section Places

variable {pattern inner first : Pattern Lexed} {patterns others : List (Pattern Lexed)}
  {cursor next last : Cursor}

theorem loc_of_occupies (occupies : pattern.Occupies cursor next) :
    pattern.loc = Range.between cursor.offset next.offset := by
  cases pattern with
  | leaf loc lexed => exact occupies.2.2
  | marked loc mark inner =>
      obtain ⟨rest, -, -, -, hloc⟩ := occupies
      exact hloc
  | repeated loc inner quantity =>
      obtain ⟨behind, -, -, -, -, hloc⟩ := occupies
      exact hloc
  | grouped loc bracket first others =>
      obtain ⟨rest, parted, last, -, -, -, -, -, -, hloc⟩ := occupies
      exact hloc

theorem reachesAll (each : ∀ pattern ∈ patterns, ∀ {cursor next : Cursor},
      pattern.Occupies cursor next → cursor.Reaches next)
    (occupies : OccupiesAll patterns cursor last) : cursor.Reaches last := by
  induction patterns generalizing cursor with
  | nil =>
      cases occupies
      exact .refl _
  | cons pattern rest induction =>
      obtain ⟨next, hfirst, -, hrest⟩ := occupies
      have later := induction (fun other member => each other (by simp [member])) hrest
      exact ((PatternText.reaches_skip cursor).trans (each pattern (by simp) hfirst)).trans later

theorem reaches_of_occupies (occupies : pattern.Occupies cursor next) : cursor.Reaches next := by
  induction pattern using induct generalizing cursor next with
  | leaf loc lexed =>
      obtain ⟨htake, hoffset, -⟩ := occupies
      have hsplit := TokenKind.take_eq_some (TokenKind.takeFirst_eq_some htake).2
      exact ⟨lexed.text, hsplit.1, hoffset⟩
  | marked loc mark inner induction =>
      obtain ⟨rest, hrest, hinner, -, -⟩ := occupies
      exact (Cursor.Reaches.step hrest).trans (induction hinner)
  | repeated loc inner quantity induction =>
      obtain ⟨behind, -, hinner, hquantity, hoffset, -⟩ := occupies
      have last : behind.Reaches next := ⟨[quantity.char], hquantity, hoffset⟩
      exact (induction hinner).trans last
  | grouped loc bracket first others firstHolds othersHold =>
      obtain ⟨rest, parted, last, hleft, hfirst, -, hothers, hright, hoffset, -⟩ := occupies
      have opening := (Cursor.Reaches.step hleft).trans (PatternText.reaches_skip _)
      have inside := (firstHolds hfirst).trans
        (reachesAll (fun other member _ _ hother => othersHold other member hother) hothers)
      have closing : (skip last).Reaches next := ⟨[bracket.right], hright, hoffset⟩
      exact (opening.trans inside).trans ((PatternText.reaches_skip last).trans closing)

theorem reaches_of_occupiesAll (occupies : OccupiesAll patterns cursor last) :
    cursor.Reaches last :=
  reachesAll (fun _ _ _ _ hpattern => reaches_of_occupies hpattern) occupies

theorem lt_of_occupies (occupies : pattern.Occupies cursor next) : cursor.offset < next.offset := by
  cases pattern with
  | leaf loc lexed =>
      obtain ⟨htake, hoffset, -⟩ := occupies
      obtain ⟨c, word, htext, -⟩ := TokenKind.first_of_takeFirst htake
      rw [hoffset, htext, List.length_cons]
      omega
  | marked loc mark inner =>
      obtain ⟨rest, -, hinner, -, -⟩ := occupies
      exact (reaches_of_occupies hinner).offset_le
  | repeated loc inner quantity =>
      obtain ⟨behind, -, hinner, -, hoffset, -⟩ := occupies
      have hbehind := (reaches_of_occupies hinner).offset_le
      omega
  | grouped loc bracket first others =>
      obtain ⟨rest, parted, last, -, hfirst, -, hothers, -, hoffset, -⟩ := occupies
      have hopened := (PatternText.reaches_skip ⟨cursor.offset + 1, rest⟩).offset_le
      have hparted := (reaches_of_occupies hfirst).offset_le
      have hlast := (reaches_of_occupiesAll hothers).offset_le
      have hclosing := (PatternText.reaches_skip last).offset_le
      simp only at hopened
      omega

theorem length_lt_of_occupies (occupies : pattern.Occupies cursor next) :
    next.rest.length < cursor.rest.length := by
  have hsum := (reaches_of_occupies occupies).length_add
  have hlt := lt_of_occupies occupies
  omega

structure Opening (c : Char) : Prop where
  opens : Lexeme.Opens c
  quantity : ∀ quantity : Quantity, c ≠ quantity.char
  bracket : ∀ bracket : Bracket, c ≠ bracket.right

theorem opening_mark (mark : Mark) : Opening mark.char := by
  refine ⟨TokenKind.opens_of_sign mark.char_mem_signs, ?_, ?_⟩
  · intro quantity
    cases mark <;> cases quantity <;> decide
  · intro bracket
    cases mark <;> cases bracket <;> decide

theorem opening_left (bracket : Bracket) : Opening bracket.left := by
  refine ⟨TokenKind.opens_of_sign bracket.left_mem_signs, ?_, ?_⟩
  · intro quantity
    cases bracket <;> cases quantity <;> decide
  · intro other
    cases bracket <;> cases other <;> decide

theorem opening_of_occupies (occupies : pattern.Occupies cursor next) :
    ∃ c rest, cursor.rest = c :: rest ∧ Opening c := by
  induction pattern using induct generalizing cursor next with
  | leaf loc lexed =>
      obtain ⟨htake, -, -⟩ := occupies
      obtain ⟨c, word, htext, hsign⟩ := TokenKind.first_of_takeFirst htake
      obtain ⟨hsplit, d, other, hfirst, hopens⟩ :=
        TokenKind.take_eq_some (TokenKind.takeFirst_eq_some htake).2
      obtain ⟨rfl, -⟩ := List.cons.inj (htext.symm.trans hfirst)
      refine ⟨c, word ++ next.rest, by rw [hsplit, htext]; rfl, hopens, ?_, ?_⟩
      · rintro quantity rfl
        exact hsign quantity.char_mem_signs
      · rintro bracket rfl
        exact hsign bracket.right_mem_signs
  | marked loc mark inner induction =>
      obtain ⟨rest, hrest, -, -, -⟩ := occupies
      exact ⟨mark.char, rest, hrest, opening_mark mark⟩
  | repeated loc inner quantity induction =>
      obtain ⟨behind, -, hinner, -, -, -⟩ := occupies
      exact induction hinner
  | grouped loc bracket first others firstHolds othersHold =>
      obtain ⟨rest, parted, last, hleft, -, -, -, -, -, -⟩ := occupies
      exact ⟨bracket.left, rest, hleft, opening_left bracket⟩

end Places

end Pattern

namespace PatternText

variable {term : Rule (Pattern Lexed)} {cursor next behind parted last : Cursor}
  {pattern inner first : Pattern Lexed} {others : List (Pattern Lexed)}

theorem skip_of_occupies (occupies : pattern.Occupies cursor next) : skip cursor = cursor := by
  obtain ⟨c, rest, hrest, opening⟩ := Pattern.opening_of_occupies occupies
  exact skip_of_opens hrest opening.opens

def ReadsStanding (rule : Rule (Pattern Lexed)) : Prop :=
  ∀ {cursor pattern next}, (rule cursor).result = some (pattern, next) → pattern.Stands cursor next

theorem ends_of_anyQuantity (hnone : next.rest = [] ∨ (anyQuantity next).result = none)
    (quantity : Quantity) : next.rest.head? ≠ some quantity.char := by
  intro hhead
  rcases hnone with hend | hfails
  · rw [hend] at hhead
    cases hhead
  · obtain ⟨rest, hrest⟩ := List.head?_eq_some_iff.mp hhead
    have hchar := Rule.char_of_rest hrest
    rw [anyQuantity, Rule.result_named, Rule.result_choice, List.findSome?_eq_none_iff] at hfails
    have hread : (PatternText.quantity quantity next).result = none := by
      cases quantity <;> exact hfails _ (by simp)
    rw [PatternText.quantity, Rule.result_bind, hchar] at hread
    cases hread

theorem occupies_leaf {token : Token}
    (hread : (TokenKind.leafOrder.findSome? fun kind => (PatternText.token kind cursor).result) =
      some (token, next)) : token.leaf.Occupies cursor next := by
  rw [findSome?_token] at hread
  obtain ⟨⟨kind, taken, rest⟩, htake, hboth⟩ := Option.map_eq_some_iff.mp hread
  cases hboth
  refine ⟨htake, rfl, ?_⟩
  simp only [Range.between, Nat.add_sub_cancel_left]

theorem stands_marked (reads : ReadsStanding term) (mark : Mark) :
    ReadsStanding (marked mark term) := by
  intro cursor pattern next hread
  obtain ⟨behind, inner, hchar, hterm, rfl⟩ := marked_eq_some hread
  obtain ⟨rest, hrest, rfl⟩ := Rule.result_char hchar
  have stands := reads hterm
  exact ⟨⟨rest, hrest, stands.occupies, stands.ends, rfl⟩, fun hatom => nomatch hatom⟩

theorem occupiesAll_of_repeats (reads : ReadsStanding term)
    (repeats : Rule.Repeats (do blanks; term) cursor others last) :
    Pattern.OccupiesAll others cursor last := by
  induction repeats with
  | nil cursor => rfl
  | @cons cursor next last pattern rest hfirst later induction =>
      rw [result_behind_blanks] at hfirst
      have stands := reads hfirst
      exact ⟨next, stands.occupies, stands.ends, induction⟩

theorem occupies_grouped (reads : ReadsStanding term) {bracket : Bracket}
    (hread : (grouped bracket term cursor).result = some (pattern, next)) :
    pattern.Occupies cursor next ∧ pattern.isAtom = true := by
  obtain ⟨opened, first, parted, others, last, hleft, hfirst, hothers, hright, rfl⟩ :=
    grouped_eq_some hread
  obtain ⟨rest, hrest, rfl⟩ := Rule.result_char hleft
  obtain ⟨behind, hclosed, rfl⟩ := Rule.result_char hright
  have stands := reads hfirst
  refine ⟨⟨rest, parted, last, hrest, stands.occupies, stands.ends, ?_, hclosed, rfl, rfl⟩, rfl⟩
  exact occupiesAll_of_repeats reads hothers

theorem occupies_atom (reads : ReadsStanding term)
    (hread : (atom term cursor).result = some (pattern, next)) :
    pattern.Occupies cursor next ∧ pattern.isAtom = true := by
  rw [result_atom, Option.or_eq_some_iff] at hread
  rcases hread with hgroup | ⟨-, hleaf⟩
  · obtain ⟨bracket, -, hbracket⟩ := List.exists_of_findSome?_eq_some hgroup
    exact occupies_grouped reads hbracket
  · obtain ⟨⟨token, behind⟩, hread, hboth⟩ := Option.map_eq_some_iff.mp hleaf
    cases hboth
    exact ⟨occupies_leaf hread, rfl⟩

theorem stands_repeated (reads : ReadsStanding term) : ReadsStanding (repeated term) := by
  intro cursor pattern next hread
  obtain ⟨inner, behind, hatom, ⟨rfl, rfl, hnone⟩ | ⟨quantity, hchar, rfl⟩⟩ :=
    repeated_eq_some hread
  · exact ⟨(occupies_atom reads hatom).1, fun _ => ends_of_anyQuantity hnone⟩
  · obtain ⟨hoccupies, hinner⟩ := occupies_atom reads hatom
    obtain ⟨rest, hrest, rfl⟩ := Rule.result_char hchar
    exact ⟨⟨behind, hinner, hoccupies, hrest, rfl, rfl⟩, fun hatom => nomatch hatom⟩

theorem result_termWithin (depth : Nat) (cursor : Cursor) :
    (termWithin (depth + 1) cursor).result =
      ([Mark.capture, .negation, .ascend].findSome? fun mark =>
        (marked mark (termWithin depth) cursor).result).or
      (repeated (termWithin depth) cursor).result := by
  change (Rule.named _ cursor).result = _
  rw [Rule.result_named, Rule.result_choice]
  simp only [findSome?_cons_or, List.findSome?_nil, Option.or_assoc, Option.or_none]

theorem stands_of_termWithin (depth : Nat) : ReadsStanding (termWithin depth) := by
  induction depth with
  | zero =>
      intro cursor pattern next hread
      cases hread
  | succ depth induction =>
      intro cursor pattern next hread
      rw [result_termWithin, Option.or_eq_some_iff] at hread
      rcases hread with hmarked | ⟨-, hrepeated⟩
      · obtain ⟨mark, -, hmark⟩ := List.exists_of_findSome?_eq_some hmarked
        exact stands_marked induction mark hmark
      · exact stands_repeated induction hrepeated

end PatternText

end TreeMatch
