import Mathlib.Data.List.Forall2
import TreeMatch.Proofs.Tokens

/-! Every rule reads what stands in the text as tokens: a text that can be read as a pattern is cut
into the tokens of that pattern. -/

namespace TreeMatch

variable {chart : Text.CodeChart}

open Grammar

namespace PatternText

section Rules

variable {term : Rule (Pattern Lexed)} {cursor next : Cursor} {pattern : Pattern Lexed}

theorem spanned_eq_some {rule : Rule α} {loc : Range} {value : α}
    (hread : (spanned rule cursor).result = some ((loc, value), next)) :
    (rule cursor).result = some (value, next) ∧
      loc = Range.between cursor.offset next.offset := by
  obtain ⟨start, first, hstart, hrest⟩ := Rule.bind_eq_some.mp hread
  cases hstart
  obtain ⟨found, behind, hrule, hmore⟩ := Rule.bind_eq_some.mp hrest
  obtain ⟨stop, last, hstop, hboth⟩ := Rule.bind_eq_some.mp hmore
  cases hstop
  cases hboth
  exact ⟨hrule, rfl⟩

theorem marked_eq_some {mark : Mark}
    (hread : (marked mark term cursor).result = some (pattern, next)) :
    ∃ behind inner, (Rule.char mark.char cursor).result = some ((), behind) ∧
      (term behind).result = some (inner, next) ∧
      pattern = .marked (Range.between cursor.offset next.offset) mark inner := by
  rw [marked, Rule.result_named] at hread
  obtain ⟨⟨loc, inner⟩, last, hspan, hdone⟩ := Rule.bind_eq_some.mp hread
  cases hdone
  obtain ⟨hboth, rfl⟩ := spanned_eq_some hspan
  obtain ⟨⟨⟩, behind, hchar, hterm⟩ := Rule.bind_eq_some.mp hboth
  exact ⟨behind, inner, hchar, hterm, rfl⟩

theorem result_behind_blanks (rule : Rule α) :
    ((blanks >>= fun _ => rule) cursor).result = (rule (skip cursor)).result := by
  rw [Rule.result_bind, result_blanks, Option.bind_some]

theorem grouped_eq_some {bracket : Bracket}
    (hread : (grouped bracket term cursor).result = some (pattern, next)) :
    ∃ opened first parted others last,
      (Rule.char bracket.left cursor).result = some ((), opened) ∧
      (term (skip opened)).result = some (first, parted) ∧
      Rule.Repeats (do blanks; term) parted others last ∧
      (Rule.char bracket.right (skip last)).result = some ((), next) ∧
      pattern = .grouped (Range.between cursor.offset next.offset) bracket first others := by
  rw [grouped, Rule.result_named] at hread
  obtain ⟨⟨loc, first, others⟩, last, hspan, hdone⟩ := Rule.bind_eq_some.mp hread
  cases hdone
  obtain ⟨hall, rfl⟩ := spanned_eq_some hspan
  obtain ⟨⟨⟩, opened, hleft, hinside⟩ := Rule.bind_eq_some.mp hall
  rw [result_behind_blanks] at hinside
  obtain ⟨head, parted, hfirst, hrest⟩ := Rule.bind_eq_some.mp hinside
  obtain ⟨tail, last, hmany, hclose⟩ := Rule.bind_eq_some.mp hrest
  rw [result_behind_blanks] at hclose
  obtain ⟨⟨⟩, behind, hright, hboth⟩ := Rule.bind_eq_some.mp hclose
  cases hboth
  exact ⟨opened, first, parted, others, last, hleft, hfirst, .of_many hmany, hright, rfl⟩

theorem result_leaf (kind : TokenKind) :
    (leaf kind cursor).result =
      (token kind cursor).result.map fun found => (found.1.leaf, found.2) := by
  rw [leaf, Rule.result_bind, result_token]
  cases kind.take cursor.rest <;> rfl

/-- An atom is a group of terms, or else a leaf of the first kind that can be read. -/
theorem result_atom :
    (atom term cursor).result =
      ([Bracket.sequence, .union, .intersection].findSome? fun bracket =>
        (grouped bracket term cursor).result).or
      ((TokenKind.leafOrder.findSome? fun kind => (token kind cursor).result).map
        fun found => (found.1.leaf, found.2)) := by
  rw [List.map_findSome?]
  simp only [atom, literal, Rule.result_named, Rule.result_choice, TokenKind.leafOrder,
    findSome?_cons_or, List.findSome?_nil, Option.or_assoc, Option.or_none, Function.comp_apply,
    result_leaf]

theorem anyToken_of_leaf {token : Token}
    (hread : (TokenKind.leafOrder.findSome? fun kind => (PatternText.token kind cursor).result) =
      some (token, next)) :
    (anyToken cursor).result = some (token, next) ∧ token.kind ≠ .punct := by
  rw [findSome?_token] at hread
  obtain ⟨⟨kind, split⟩, htake, hboth⟩ := Option.map_eq_some_iff.mp hread
  cases hboth
  obtain ⟨hmember, -⟩ := TokenKind.takeFirst_eq_some htake
  rw [TokenKind.takeFirst_orders, TokenKind.takeFirst] at htake
  constructor
  · rw [result_anyToken, TokenKind.takeFirst, List.findSome?_append, htake]
    rfl
  · rintro rfl
    revert hmember
    decide

theorem anyQuantity_eq_some {quantity : Quantity}
    (hread : (anyQuantity cursor).result = some (quantity, next)) :
    (Rule.char quantity.char cursor).result = some ((), next) := by
  rw [anyQuantity, Rule.result_named, Rule.result_choice] at hread
  obtain ⟨rule, member, hrule⟩ := List.exists_of_findSome?_eq_some hread
  have hquantity : ∃ other, rule = PatternText.quantity other := by
    simp only [List.mem_cons, List.not_mem_nil, or_false] at member
    rcases member with rfl | rfl | rfl <;> exact ⟨_, rfl⟩
  obtain ⟨other, rfl⟩ := hquantity
  obtain ⟨⟨⟩, behind, hchar, hdone⟩ := Rule.bind_eq_some.mp hrule
  cases hdone
  exact hchar

theorem repeated_eq_some (hread : (repeated term cursor).result = some (pattern, next)) :
    ∃ inner behind, (atom term cursor).result = some (inner, behind) ∧
      (pattern = inner ∧ next = behind ∧
          (behind.rest = [] ∨ (anyQuantity behind).result = none) ∨
        ∃ quantity, (Rule.char quantity.char behind).result = some ((), next) ∧
          pattern = .repeated (Range.between cursor.offset next.offset) inner quantity) := by
  rw [repeated, Rule.result_named] at hread
  obtain ⟨⟨loc, inner, times⟩, last, hspan, hdone⟩ := Rule.bind_eq_some.mp hread
  obtain ⟨hboth, rfl⟩ := spanned_eq_some hspan
  obtain ⟨found, behind, hatom, hmore⟩ := Rule.bind_eq_some.mp hboth
  obtain ⟨given, after, htimes, hpair⟩ := Rule.bind_eq_some.mp hmore
  cases hpair
  refine ⟨inner, behind, hatom, ?_⟩
  rcases Rule.result_optional htimes with ⟨rfl, rfl, hnone⟩ | ⟨quantity, rfl, hquantity⟩
  · cases hdone
    exact .inl ⟨rfl, rfl, hnone⟩
  · cases hdone
    exact .inr ⟨quantity, anyQuantity_eq_some hquantity, rfl⟩

end Rules

structure Spells (cursor : Cursor) (pattern : Pattern Lexed) (next : Cursor) : Prop where
  starts : skip cursor = cursor
  forward : cursor.offset ≤ next.offset
  scans : Scans cursor pattern.tokens (skip next)
  fits : ∀ leaf ∈ pattern.leaves, Pattern.LeafFits leaf

def ReadsTokens (rule : Rule (Pattern Lexed)) : Prop :=
  ∀ {cursor pattern next}, (rule cursor).result = some (pattern, next) → Spells cursor pattern next

section Spelling

variable {term : Rule (Pattern Lexed)} {cursor behind next last : Cursor}
  {pattern inner first : Pattern Lexed} {others : List (Pattern Lexed)}

theorem spells_leaf {token : Token}
    (hread : (TokenKind.leafOrder.findSome? fun kind => (PatternText.token kind cursor).result) =
      some (token, next)) : Spells cursor token.leaf next := by
  obtain ⟨hany, hkind⟩ := anyToken_of_leaf hread
  obtain ⟨hsplit, hoffset, hstart, c, word, htext, hopens⟩ := anyToken_eq_some hany
  rw [htext, List.cons_append] at hsplit
  constructor
  · exact skip_of_opens hsplit hopens
  · omega
  · exact .cons (scan_of_anyToken hany) (.nil _)
  · exact List.forall_mem_singleton.mpr ⟨rfl, hkind⟩

theorem spells_marked {mark : Mark}
    (hchar : (Rule.char mark.char cursor).result = some ((), behind))
    (spells : Spells behind inner next) :
    Spells cursor (.marked (Range.between cursor.offset next.offset) mark inner) next := by
  obtain ⟨hstarts, hoffset, hsign⟩ := char_sign mark.char_mem_signs hchar
  -- Cutting skips blanks behind the mark, but a term starts with none.
  rw [spells.starts] at hsign
  constructor
  · exact hstarts
  · have hforward := spells.forward
    omega
  · exact hsign.append spells.scans
  · rw [Pattern.leaves_marked]
    exact spells.fits

theorem spells_repeated {quantity : Quantity} (spells : Spells cursor inner behind)
    (hchar : (Rule.char quantity.char behind).result = some ((), next)) :
    Spells cursor (.repeated (Range.between cursor.offset next.offset) inner quantity) next := by
  obtain ⟨hstarts, hoffset, hsign⟩ := char_sign quantity.char_mem_signs hchar
  have hforward : cursor.offset ≤ next.offset := by
    have hinner := spells.forward
    omega
  -- The quantity was read right behind the term, so the cut skips no blanks there.
  have hscans := spells.scans
  rw [hstarts] at hscans
  constructor
  · exact spells.starts
  · exact hforward
  · rw [Pattern.tokens, Range.stop_between hforward, hoffset]
    exact hscans.append hsign
  · rw [Pattern.leaves_repeated]
    exact spells.fits

structure SpellsAll (cursor : Cursor) (patterns : List (Pattern Lexed)) (next : Cursor) :
    Prop where
  forward : cursor.offset ≤ next.offset
  scans : Scans (skip cursor) (Pattern.tokensAll patterns) (skip next)
  fits : ∀ leaf ∈ Pattern.leavesAll patterns, Pattern.LeafFits leaf

theorem spellsAll (reads : ReadsTokens term)
    (repeats : Rule.Repeats (do blanks; term) cursor others last) :
    SpellsAll cursor others last := by
  induction repeats with
  | nil cursor => exact ⟨Nat.le_refl _, .nil _, List.forall_mem_nil _⟩
  | @cons cursor next last pattern rest hfirst later induction =>
      rw [result_behind_blanks] at hfirst
      have spells := reads hfirst
      constructor
      · exact Nat.le_trans le_offset_skip (Nat.le_trans spells.forward induction.forward)
      · exact spells.scans.append induction.scans
      · rw [Pattern.leavesAll_cons]
        exact List.forall_mem_append.mpr ⟨spells.fits, induction.fits⟩

theorem spells_grouped {bracket : Bracket} {opened parted : Cursor}
    (hleft : (Rule.char bracket.left cursor).result = some ((), opened))
    (head : Spells (skip opened) first parted) (rest : SpellsAll parted others last)
    (hright : (Rule.char bracket.right (skip last)).result = some ((), next)) :
    Spells cursor (.grouped (Range.between cursor.offset next.offset) bracket first others)
      next := by
  obtain ⟨hstarts, hopened, hopening⟩ := char_sign bracket.left_mem_signs hleft
  obtain ⟨-, hclosed, hclosing⟩ := char_sign bracket.right_mem_signs hright
  have hforward : cursor.offset ≤ next.offset := by
    have hhead := head.forward
    have hrest := rest.forward
    have hbefore := @le_offset_skip opened
    have hbehind := @le_offset_skip last
    omega
  constructor
  · exact hstarts
  · exact hforward
  · rw [Pattern.tokens, Range.stop_between hforward, hclosed]
    exact hopening.append (head.scans.append (rest.scans.append hclosing))
  · rw [Pattern.leaves_grouped]
    exact List.forall_mem_append.mpr ⟨head.fits, rest.fits⟩

theorem readsTokens_marked (reads : ReadsTokens term) (mark : Mark) :
    ReadsTokens (marked mark term) := by
  intro cursor pattern next hread
  obtain ⟨behind, inner, hchar, hterm, rfl⟩ := marked_eq_some hread
  exact spells_marked hchar (reads hterm)

theorem readsTokens_grouped (reads : ReadsTokens term) (bracket : Bracket) :
    ReadsTokens (grouped bracket term) := by
  intro cursor pattern next hread
  obtain ⟨opened, first, parted, others, last, hleft, hfirst, hothers, hright, rfl⟩ :=
    grouped_eq_some hread
  exact spells_grouped hleft (reads hfirst) (spellsAll reads hothers) hright

theorem readsTokens_atom (reads : ReadsTokens term) : ReadsTokens (atom term) := by
  intro cursor pattern next hread
  rw [result_atom, Option.or_eq_some_iff] at hread
  rcases hread with hgroup | ⟨-, hleaf⟩
  · obtain ⟨bracket, -, hbracket⟩ := List.exists_of_findSome?_eq_some hgroup
    exact readsTokens_grouped reads bracket hbracket
  · obtain ⟨⟨token, behind⟩, hread, hboth⟩ := Option.map_eq_some_iff.mp hleaf
    cases hboth
    exact spells_leaf hread

theorem readsTokens_repeated (reads : ReadsTokens term) : ReadsTokens (repeated term) := by
  intro cursor pattern next hread
  obtain ⟨inner, behind, hatom, ⟨rfl, rfl, -⟩ | ⟨quantity, hchar, rfl⟩⟩ :=
    repeated_eq_some hread
  · exact readsTokens_atom reads hatom
  · exact spells_repeated (readsTokens_atom reads hatom) hchar

end Spelling

theorem readsTokens_termWithin (depth : Nat) : ReadsTokens (termWithin depth) := by
  -- Each production needs the terms within it only, and those nest less deep.
  induction depth with
  | zero =>
      intro cursor pattern next hread
      cases hread
  | succ depth induction =>
      intro cursor pattern next hread
      change (Rule.named _ cursor).result = _ at hread
      rw [Rule.result_named, Rule.result_choice] at hread
      obtain ⟨rule, member, hrule⟩ := List.exists_of_findSome?_eq_some hread
      have reads : ReadsTokens rule := by
        simp only [List.mem_cons, List.not_mem_nil, or_false] at member
        rcases member with rfl | rfl | rfl | rfl
        · exact readsTokens_marked induction .capture
        · exact readsTokens_marked induction .negation
        · exact readsTokens_marked induction .ascend
        · exact readsTokens_repeated induction
      exact reads hrule

/-- A text that is read as a pattern is cut into the tokens of that pattern. -/
theorem tokens_of_pattern {text : List Char} {lexed : Pattern Lexed}
    (hread : pattern.readAll text = .ok lexed) :
    tokens.readAll text = .ok lexed.tokens ∧ (∀ leaf ∈ lexed.leaves, Pattern.LeafFits leaf) ∧
      ∀ token ∈ lexed.tokens, token.text = (Range.mk token.start token.text.length).slice text := by
  obtain ⟨last, hpattern, hend⟩ := Rule.readAll_eq_ok.mp hread
  rw [pattern, result_behind_blanks] at hpattern
  obtain ⟨found, behind, hterm, hrest⟩ := Rule.bind_eq_some.mp hpattern
  rw [result_behind_blanks] at hrest
  cases hrest
  have spells := readsTokens_termWithin _ hterm
  have hwithin : Within text (skip (Cursor.ofText text)) := within_skip rfl
  refine ⟨Rule.readAll_eq_ok.mpr ⟨_, tokens_of_scans spells.scans hend, hend⟩, spells.fits, ?_⟩
  exact slices_of_scans spells.scans hwithin

end PatternText

structure Token.Names (text : List Char) (token : Token) (node : Term) : Prop where
  kind : node.tag = token.kind.name
  loc : node.loc? = some ⟨token.start, token.text.length⟩
  text : token.text = (Range.mk token.start token.text.length).slice text

/-- A text that can be read can be cut into tokens: the leaves of the tree in the order of `walk`,
and between them the signs of its marks, brackets and quantities. -/
theorem tokenize_of_read {text : List Char} {pattern : Pattern Leaf}
    (hread : Pattern.read chart text = .ok pattern) :
    ∃ tokens, tokenize text = .ok tokens ∧
      List.Forall₂ (Token.Names text) (tokens.filter (·.kind ≠ .punct))
        (pattern.toTerm.walk.filter fun node => node.childNodes.isEmpty) ∧
      tokens.filter (·.kind = .punct) = pattern.signs := by
  obtain ⟨lexed, hlexed, hdecoded⟩ := Pattern.lexed_of_read hread
  obtain ⟨htokens, fits, hslices⟩ := PatternText.tokens_of_pattern hlexed
  have sorts := lexed.sorts_tokens fits
  have decodes := Pattern.decodes Leaf.kind_of_decode hdecoded fits
  refine ⟨lexed.tokens, mapError_eq_ok.mpr htokens, ?_, by rw [sorts.signs, decodes.signs]⟩
  have hlabels := calc
    (lexed.tokens.filter (·.kind ≠ .punct)).map (fun token =>
        (token.kind.name, some (Range.mk token.start token.text.length)))
      = lexed.leaves.map fun leaf => (leaf.2.kind.name, some leaf.1) := by
        rw [sorts.leaves, Pattern.map_leafToken fits]
    _ = pattern.leaves.map fun leaf => (leaf.2.kind.name, some leaf.1) := decodes.kinds.symm
    _ = (pattern.toTerm.walk.filter fun node => node.childNodes.isEmpty).map
          fun node => (node.tag, node.loc?) := by
        change _ = ((pattern.termFrom 0).walk.filter _).map _
        rw [Pattern.walk_termFrom, Pattern.map_leafNodes]
        rfl
  rw [← List.forall₂_eq_eq_eq, List.forall₂_map_left_iff, List.forall₂_map_right_iff] at hlabels
  have hboth := (List.forall₂_and_left _ _).mpr ⟨fun token member =>
    hslices token (List.mem_of_mem_filter member), hlabels⟩
  refine hboth.imp ?_
  rintro token node ⟨hslice, hlabel⟩
  exact ⟨(congrArg Prod.fst hlabel).symm, (congrArg Prod.snd hlabel).symm, hslice⟩

/-- Leaves without blanks between them, one of which starts like another kind of leaf. -/
theorem tokenize_of_read_adjacent :
    ∃ pattern, Pattern.read Text.basicLatin "(nil?$_? ^nil)".toList = .ok pattern ∧
      ∃ tokens, tokenize "(nil?$_? ^nil)".toList = .ok tokens ∧
        List.Forall₂ (Token.Names "(nil?$_? ^nil)".toList) (tokens.filter (·.kind ≠ .punct))
          (pattern.toTerm.walk.filter fun node => node.childNodes.isEmpty) ∧
        tokens.filter (·.kind = .punct) = pattern.signs := by
  let pattern : Pattern Leaf := .grouped ⟨0, 14⟩ .sequence (.leaf ⟨1, 4⟩ (.predicate "nil?"))
    [.marked ⟨5, 3⟩ .capture (.repeated ⟨6, 2⟩ (.leaf ⟨6, 1⟩ (.wildcard "")) .atMostOnce),
      .marked ⟨9, 4⟩ .ascend (.leaf ⟨10, 3⟩ .nil)]
  have hread : Pattern.read Text.basicLatin "(nil?$_? ^nil)".toList = .ok pattern := by
    decide +kernel
  exact ⟨pattern, hread, tokenize_of_read hread⟩

end TreeMatch
