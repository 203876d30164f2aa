import TreeMatch.Proofs.Derivation

/-! The parser reads whatever stands in a text: its alternatives never get into each other's way. -/

namespace TreeMatch

open Grammar

theorem Mark.eq_of_char {mark other : Mark} (hsame : mark.char = other.char) : mark = other := by
  revert hsame
  cases mark <;> cases other <;> decide

theorem Bracket.eq_of_left {bracket other : Bracket} (hsame : bracket.left = other.left) :
    bracket = other := by
  revert hsame
  cases bracket <;> cases other <;> decide

theorem Quantity.eq_of_char {quantity other : Quantity} (hsame : quantity.char = other.char) :
    quantity = other := by
  revert hsame
  cases quantity <;> cases other <;> decide

theorem Bracket.left_ne_mark (bracket : Bracket) (mark : Mark) : bracket.left ≠ mark.char := by
  cases bracket <;> cases mark <;> decide

namespace PatternText

variable {term : Rule (Pattern Lexed)} {cursor next behind parted last : Cursor}
  {pattern inner first : Pattern Lexed} {others : List (Pattern Lexed)} {depth : Nat}

theorem head_ne {c d : Char} {rest : List Char} (hrest : cursor.rest = c :: rest) (hother : c ≠ d) :
    cursor.rest.head? ≠ some d := by
  rw [hrest, List.head?_cons]
  exact fun hsame => hother (Option.some.inj hsame)

theorem spanned_of_some {rule : Rule α} {value : α}
    (hrule : (rule cursor).result = some (value, next)) :
    (spanned rule cursor).result =
      some ((Range.between cursor.offset next.offset, value), next) := by
  refine Rule.bind_eq_some.mpr ⟨cursor.offset, cursor, rfl, ?_⟩
  exact Rule.bind_eq_some.mpr ⟨value, next, hrule, rfl⟩

theorem spanned_eq_none {rule : Rule α} (hrule : (rule cursor).result = none) :
    (spanned rule cursor).result = none := by
  change ((rule >>= _) cursor).result = none
  rw [Rule.result_bind, hrule, Option.bind_none]

section Marks

variable {mark : Mark} {rest : List Char}

theorem marked_of_term (hrest : cursor.rest = mark.char :: rest)
    (hterm : (term ⟨cursor.offset + 1, rest⟩).result = some (inner, next)) :
    (marked mark term cursor).result =
      some (.marked (Range.between cursor.offset next.offset) mark inner, next) := by
  rw [marked, Rule.result_named]
  refine Rule.bind_eq_some.mpr ⟨_, next, spanned_of_some ?_, rfl⟩
  exact Rule.bind_eq_some.mpr ⟨(), _, Rule.char_of_rest hrest, hterm⟩

theorem marked_eq_none (hhead : cursor.rest.head? ≠ some mark.char) :
    (marked mark term cursor).result = none := by
  rw [marked, Rule.result_named, Rule.result_bind, spanned_eq_none, Option.bind_none]
  rw [Rule.result_bind, Rule.char_eq_none hhead, Option.bind_none]

theorem termWithin_of_marked (hrest : cursor.rest = mark.char :: rest)
    (hmarked : (marked mark (termWithin depth) cursor).result = some (pattern, next)) :
    (termWithin (depth + 1) cursor).result = some (pattern, next) := by
  have hothers : ∀ other, other ≠ mark →
      (marked other (termWithin depth) cursor).result = none := by
    intro other hother
    exact marked_eq_none (head_ne hrest fun hsame => hother (Mark.eq_of_char hsame).symm)
  rw [result_termWithin]
  cases mark <;> simp (disch := decide) [List.findSome?_cons, hmarked, hothers]

/-- What starts with no mark is read as an atom, perhaps with a quantity behind it. -/
theorem termWithin_of_repeated (hmark : ∀ mark : Mark, cursor.rest.head? ≠ some mark.char) :
    (termWithin (depth + 1) cursor).result = (repeated (termWithin depth) cursor).result := by
  have hnone : ∀ mark : Mark, (marked mark (termWithin depth) cursor).result = none :=
    fun mark => marked_eq_none (hmark mark)
  rw [result_termWithin]
  simp only [List.findSome?_cons, List.findSome?_nil, hnone, Option.none_or]

end Marks

section Quantities

variable {quantity : Quantity}

theorem anyQuantity_of_char (hrest : behind.rest = quantity.char :: next.rest)
    (hoffset : next.offset = behind.offset + 1) :
    (anyQuantity behind).result = some (quantity, next) := by
  have hread : (PatternText.quantity quantity behind).result = some (quantity, next) := by
    rw [PatternText.quantity, Rule.result_bind, Rule.char_of_rest hrest, ← hoffset]
    rfl
  have hothers : ∀ other, other ≠ quantity →
      (PatternText.quantity other behind).result = none := by
    intro other hother
    have hhead := head_ne hrest fun hsame => hother (Quantity.eq_of_char hsame).symm
    rw [PatternText.quantity, Rule.result_bind, Rule.char_eq_none hhead, Option.bind_none]
  rw [anyQuantity, Rule.result_named, Rule.result_choice]
  cases quantity <;> simp (disch := decide) [List.findSome?_cons, hread, hothers]

theorem anyQuantity_eq_none (hends : ∀ quantity : Quantity, next.rest.head? ≠ some quantity.char) :
    (anyQuantity next).result = none := by
  have hread : ∀ quantity : Quantity, (PatternText.quantity quantity next).result = none := by
    intro quantity
    rw [PatternText.quantity, Rule.result_bind, Rule.char_eq_none (hends quantity),
      Option.bind_none]
  rw [anyQuantity, Rule.result_named, Rule.result_choice]
  simp only [List.findSome?_cons, List.findSome?_nil, hread]

theorem repeated_of_atom (hatom : (atom term cursor).result = some (pattern, next))
    (hends : ∀ quantity : Quantity, next.rest.head? ≠ some quantity.char) :
    (repeated term cursor).result = some (pattern, next) := by
  rw [repeated, Rule.result_named]
  refine Rule.bind_eq_some.mpr ⟨(_, pattern, none), next, spanned_of_some ?_, rfl⟩
  refine Rule.bind_eq_some.mpr ⟨pattern, next, hatom, ?_⟩
  have hnone := Rule.optional_of_none (anyQuantity_eq_none hends)
  exact Rule.bind_eq_some.mpr ⟨none, next, hnone, rfl⟩

theorem repeated_of_quantity (hatom : (atom term cursor).result = some (inner, behind))
    (hrest : behind.rest = quantity.char :: next.rest) (hoffset : next.offset = behind.offset + 1) :
    (repeated term cursor).result =
      some (.repeated (Range.between cursor.offset next.offset) inner quantity, next) := by
  rw [repeated, Rule.result_named]
  refine Rule.bind_eq_some.mpr ⟨(_, inner, some quantity), next, spanned_of_some ?_, rfl⟩
  refine Rule.bind_eq_some.mpr ⟨inner, behind, hatom, ?_⟩
  have hsome : behind.rest ≠ [] := by
    rw [hrest]
    exact List.cons_ne_nil _ _
  have htimes := Rule.optional_of_some hsome (anyQuantity_of_char hrest hoffset)
  exact Rule.bind_eq_some.mpr ⟨some quantity, next, htimes, rfl⟩

end Quantities

section Atoms

variable {bracket : Bracket} {rest : List Char}

theorem grouped_of_terms (hleft : cursor.rest = bracket.left :: rest)
    (hfirst : (term (skip ⟨cursor.offset + 1, rest⟩)).result = some (first, parted))
    (hothers : (Rule.many (do blanks; term) parted).result = some (others, last))
    (hright : (skip last).rest = bracket.right :: next.rest)
    (hoffset : next.offset = (skip last).offset + 1) :
    (grouped bracket term cursor).result =
      some (.grouped (Range.between cursor.offset next.offset) bracket first others, next) := by
  rw [grouped, Rule.result_named]
  refine Rule.bind_eq_some.mpr ⟨(_, first, others), next, spanned_of_some ?_, rfl⟩
  refine Rule.bind_eq_some.mpr ⟨(), _, Rule.char_of_rest hleft, ?_⟩
  rw [result_behind_blanks]
  refine Rule.bind_eq_some.mpr ⟨first, parted, hfirst, ?_⟩
  refine Rule.bind_eq_some.mpr ⟨others, last, hothers, ?_⟩
  rw [result_behind_blanks]
  refine Rule.bind_eq_some.mpr ⟨(), _, Rule.char_of_rest hright, ?_⟩
  rw [← hoffset]
  rfl

theorem grouped_eq_none (hhead : cursor.rest.head? ≠ some bracket.left) :
    (grouped bracket term cursor).result = none := by
  rw [grouped, Rule.result_named, Rule.result_bind, spanned_eq_none, Option.bind_none]
  rw [Rule.result_bind, Rule.char_eq_none hhead, Option.bind_none]

theorem atom_of_grouped (hleft : cursor.rest = bracket.left :: rest)
    (hgroup : (grouped bracket term cursor).result = some (pattern, next)) :
    (atom term cursor).result = some (pattern, next) := by
  have hothers : ∀ other, other ≠ bracket → (grouped other term cursor).result = none := by
    intro other hother
    exact grouped_eq_none (head_ne hleft fun hsame => hother (Bracket.eq_of_left hsame).symm)
  rw [result_atom]
  cases bracket <;> simp (disch := decide) [List.findSome?_cons, hgroup, hothers]

theorem head_of_leaf {loc : Range} {lexed : Lexed}
    (occupies : (Pattern.leaf loc lexed).Occupies cursor next) :
    ∃ c rest, cursor.rest = c :: rest ∧ c ∉ TokenKind.signs := by
  obtain ⟨htake, -, -⟩ := occupies
  obtain ⟨c, word, htext, hsign⟩ := TokenKind.first_of_takeFirst htake
  have hsplit := (TokenKind.take_eq_some (TokenKind.takeFirst_eq_some htake).2).1
  exact ⟨c, word ++ next.rest, by rw [hsplit, htext]; rfl, hsign⟩

theorem atom_of_leaf {loc : Range} {lexed : Lexed}
    (occupies : (Pattern.leaf loc lexed).Occupies cursor next) :
    (atom term cursor).result = some (.leaf loc lexed, next) := by
  obtain ⟨c, rest, hrest, hsign⟩ := head_of_leaf occupies
  obtain ⟨htake, hoffset, rfl⟩ := occupies
  have hgroup : ∀ bracket : Bracket, (grouped bracket term cursor).result = none := by
    intro bracket
    apply grouped_eq_none (head_ne hrest _)
    rintro rfl
    exact hsign bracket.left_mem_signs
  have hnext : next = ⟨cursor.offset + lexed.text.length, next.rest⟩ := by
    rw [← hoffset]
  have hloc : Range.between cursor.offset next.offset = ⟨cursor.offset, lexed.text.length⟩ := by
    rw [hoffset, Range.between, Nat.add_sub_cancel_left]
  rw [result_atom, findSome?_token, htake, hloc]
  simp only [hgroup, List.findSome?_cons, List.findSome?_nil, Option.none_or, Option.map_some]
  rw [hnext]
  rfl

theorem head_of_atom (hatom : pattern.isAtom = true) (occupies : pattern.Occupies cursor next)
    (mark : Mark) : cursor.rest.head? ≠ some mark.char := by
  cases pattern with
  | leaf loc lexed =>
      obtain ⟨c, rest, hrest, hsign⟩ := head_of_leaf occupies
      apply head_ne hrest
      rintro rfl
      exact hsign mark.char_mem_signs
  | grouped loc bracket first others =>
      obtain ⟨rest, parted, last, hleft, -⟩ := occupies
      exact head_ne hleft (bracket.left_ne_mark mark)
  | marked loc mark inner => cases hatom
  | repeated loc inner quantity => cases hatom

end Atoms

structure Readable (pattern : Pattern Lexed) : Prop where
  atom : ∀ {depth cursor next}, pattern.isAtom = true → pattern.Occupies cursor next →
    cursor.rest.length ≤ depth →
    (PatternText.atom (termWithin depth) cursor).result = some (pattern, next)
  term : ∀ {depth cursor next}, pattern.Stands cursor next → cursor.rest.length < depth →
    (termWithin depth cursor).result = some (pattern, next)

theorem termWithin_of_right {bracket : Bracket} {rest : List Char}
    (hrest : cursor.rest = bracket.right :: rest) : (termWithin depth cursor).result = none := by
  cases hread : (termWithin depth cursor).result with
  | none => rfl
  | some found =>
      obtain ⟨pattern, next⟩ := found
      have stands := stands_of_termWithin depth hread
      obtain ⟨c, behind, hopening, opening⟩ := Pattern.opening_of_occupies stands.occupies
      obtain ⟨rfl, -⟩ := List.cons.inj (hrest.symm.trans hopening)
      exact absurd rfl (opening.bracket bracket)

theorem length_skip_le (cursor : Cursor) : (skip cursor).rest.length ≤ cursor.rest.length :=
  (dropBlanks_suffix '#' false cursor.rest).length_le

theorem repeats_of_occupiesAll (each : ∀ other ∈ others, Readable other)
    (occupies : Pattern.OccupiesAll others cursor last) (hlength : cursor.rest.length < depth) :
    Rule.Repeats (do blanks; termWithin depth) cursor others last := by
  induction others generalizing cursor with
  | nil =>
      cases occupies
      exact .nil _
  | cons pattern others induction =>
      obtain ⟨next, hoccupies, hends, hothers⟩ := occupies
      have hless := Pattern.length_lt_of_occupies hoccupies
      have hskip := length_skip_le cursor
      have hread := (each pattern (by simp)).term ⟨hoccupies, hends⟩ (by omega : _ < depth)
      have later := induction (fun other member => each other (by simp [member])) hothers
        (by omega)
      exact .cons ((result_behind_blanks (termWithin depth)).trans hread) later

theorem many_of_occupiesAll {bracket : Bracket} {rest : List Char}
    (each : ∀ other ∈ others, Readable other) (occupies : Pattern.OccupiesAll others cursor last)
    (hright : (skip last).rest = bracket.right :: rest) (hlength : cursor.rest.length < depth) :
    (Rule.many (do blanks; termWithin depth) cursor).result = some (others, last) := by
  have repeats := repeats_of_occupiesAll each occupies hlength
  refine repeats.many (.inr ?_) fun {before value after} hread => ?_
  · exact (result_behind_blanks (termWithin depth)).trans (termWithin_of_right hright)
  · have stands := stands_of_termWithin depth
      ((result_behind_blanks (termWithin depth)).symm.trans hread)
    have hbefore := (reaches_skip before).offset_le
    have hoffset := Pattern.lt_of_occupies stands.occupies
    have hless := Pattern.length_lt_of_occupies stands.occupies
    have hskip := length_skip_le before
    omega

theorem atom_of_terms {loc : Range} {bracket : Bracket} (hfirst : Readable first)
    (hothers : ∀ other ∈ others, Readable other)
    (occupies : (Pattern.grouped loc bracket first others).Occupies cursor next)
    (hlength : cursor.rest.length ≤ depth) :
    (atom (termWithin depth) cursor).result = some (.grouped loc bracket first others, next) := by
  obtain ⟨rest, parted, last, hleft, hoccupies, hends, hall, hright, hoffset, rfl⟩ := occupies
  have hskip := length_skip_le ⟨cursor.offset + 1, rest⟩
  have hless := Pattern.length_lt_of_occupies hoccupies
  rw [hleft, List.length_cons] at hlength
  simp only at hskip
  have hread := hfirst.term ⟨hoccupies, hends⟩ (by omega : _ < depth)
  have hmany := many_of_occupiesAll hothers hall hright (by omega : _ < depth)
  exact atom_of_grouped hleft (grouped_of_terms hleft hread hmany hright hoffset)

theorem readable_of_atom (hatom : pattern.isAtom = true)
    (hread : ∀ {depth cursor next}, pattern.Occupies cursor next → cursor.rest.length ≤ depth →
      (atom (termWithin depth) cursor).result = some (pattern, next)) : Readable pattern := by
  constructor
  · intro depth cursor next _ occupies hlength
    exact hread occupies hlength
  · intro depth cursor next stands hlength
    obtain ⟨depth, rfl⟩ : ∃ less, depth = less + 1 := ⟨depth - 1, by omega⟩
    rw [termWithin_of_repeated (head_of_atom hatom stands.occupies)]
    exact repeated_of_atom (hread stands.occupies (by omega)) (stands.ends hatom)

theorem readable (pattern : Pattern Lexed) : Readable pattern := by
  -- The terms within a term stand in a shorter text, and may use one level less.
  induction pattern using Pattern.induct with
  | leaf loc lexed => exact readable_of_atom rfl fun occupies _ => atom_of_leaf occupies
  | marked loc mark inner induction =>
      refine ⟨fun hatom => (nomatch hatom), fun {depth cursor next} stands hlength => ?_⟩
      obtain ⟨depth, rfl⟩ : ∃ less, depth = less + 1 := ⟨depth - 1, by omega⟩
      obtain ⟨rest, hrest, hinner, hends, rfl⟩ := stands.occupies
      rw [hrest, List.length_cons] at hlength
      have hterm := induction.term ⟨hinner, hends⟩ (by simpa using hlength)
      exact termWithin_of_marked hrest (marked_of_term hrest hterm)
  | repeated loc inner quantity induction =>
      refine ⟨fun hatom => (nomatch hatom), fun {depth cursor next} stands hlength => ?_⟩
      obtain ⟨depth, rfl⟩ : ∃ less, depth = less + 1 := ⟨depth - 1, by omega⟩
      obtain ⟨behind, hatom, hinner, hquantity, hoffset, rfl⟩ := stands.occupies
      rw [termWithin_of_repeated (head_of_atom hatom hinner)]
      exact repeated_of_quantity (induction.atom hatom hinner (by omega)) hquantity hoffset
  | grouped loc bracket first others firstHolds othersHold =>
      exact readable_of_atom rfl fun occupies hlength =>
        atom_of_terms firstHolds othersHold occupies hlength

theorem result_pattern_iff :
    (PatternText.pattern cursor).result = some (pattern, last) ↔
      ∃ next, pattern.Stands (skip cursor) next ∧ skip next = last := by
  rw [PatternText.pattern, result_behind_blanks]
  constructor
  · intro hread
    obtain ⟨found, next, hterm, hrest⟩ := Rule.bind_eq_some.mp hread
    rw [result_behind_blanks] at hrest
    cases hrest
    exact ⟨next, stands_of_termWithin _ hterm, rfl⟩
  · rintro ⟨next, stands, rfl⟩
    refine Rule.bind_eq_some.mpr ⟨pattern, next, ?_, ?_⟩
    · exact (readable pattern).term stands (Nat.lt_succ_self _)
    · rw [result_behind_blanks]
      rfl

/-- A pattern is read from a text if and only if it stands there, and nothing else does. -/
theorem readAll_pattern_iff {text : List Char} :
    PatternText.pattern.readAll text = .ok pattern ↔
      ∃ next, pattern.Stands (skip (Cursor.ofText text)) next ∧ (skip next).rest = [] := by
  rw [Rule.readAll_eq_ok]
  constructor
  · rintro ⟨last, hread, hend⟩
    obtain ⟨next, stands, rfl⟩ := result_pattern_iff.mp hread
    exact ⟨next, stands, hend⟩
  · rintro ⟨next, stands, hend⟩
    exact ⟨skip next, result_pattern_iff.mpr ⟨next, stands, rfl⟩, hend⟩

end PatternText

end TreeMatch
