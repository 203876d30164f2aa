import TreeMatch.Proofs.Slicing

/-! A pattern can be told from its tokens alone, wherever they stand. -/

namespace TreeMatch

variable {chart : Text.CodeChart}

def Token.lexed (token : Token) : Lexed :=
  ⟨token.kind, token.text⟩

def Lexed.sign (c : Char) : Lexed :=
  ⟨.punct, [c]⟩

theorem Lexed.sign_inj {c d : Char} (hsame : sign c = sign d) : c = d :=
  (List.cons.inj (congrArg Lexed.text hsame)).1

namespace Pattern

mutual

def lexemes : Pattern Lexed → List Lexed
  | leaf _ lexed => [lexed]
  | marked _ mark inner => .sign mark.char :: lexemes inner
  | repeated _ inner quantity => lexemes inner ++ [.sign quantity.char]
  | grouped _ bracket first others =>
    .sign bracket.left :: (lexemes first ++ (lexemesAll others ++ [.sign bracket.right]))
termination_by structural pattern => pattern

def lexemesAll : List (Pattern Lexed) → List Lexed
  | [] => []
  | pattern :: rest => lexemes pattern ++ lexemesAll rest
termination_by structural patterns => patterns

end

def opening : Pattern Lexed → Lexed
  | leaf _ lexed => lexed
  | marked _ mark _ => .sign mark.char
  | repeated _ inner _ => opening inner
  | grouped _ bracket .. => .sign bracket.left

/-- Only leaves that are no signs and atoms with quantities can be told from their tokens. -/
def Built : Pattern Lexed → Prop
  | leaf _ lexed => lexed.kind ≠ .punct
  | repeated _ inner _ => inner.isAtom = true
  | _ => True

def WellBuilt (pattern : Pattern Lexed) : Prop :=
  ∀ part ∈ pattern.walk, part.Built

section Tokens

theorem map_lexed_tokens (pattern : Pattern Lexed) :
    pattern.tokens.map Token.lexed = pattern.lexemes := by
  have among : ∀ {patterns : List (Pattern Lexed)},
      (∀ pattern ∈ patterns, pattern.tokens.map Token.lexed = pattern.lexemes) →
      (tokensAll patterns).map Token.lexed = lexemesAll patterns := by
    intro patterns each
    induction patterns with
    | nil => rfl
    | cons pattern rest induction =>
        have later := induction fun other member => each other (by simp [member])
        rw [tokensAll, lexemesAll, List.map_append, each pattern (by simp), later]
  induction pattern using induct with
  | leaf loc lexed => rfl
  | marked loc mark inner induction =>
      rw [tokens, lexemes, List.map_cons, induction]
      rfl
  | repeated loc inner quantity induction =>
      rw [tokens, lexemes, List.map_append, induction]
      rfl
  | grouped loc bracket first others firstHolds othersHold =>
      rw [tokens, lexemes, List.map_cons, List.map_append, List.map_append, firstHolds,
        among othersHold]
      rfl

theorem lexemes_eq_cons (pattern : Pattern Lexed) :
    ∃ rest, pattern.lexemes = pattern.opening :: rest := by
  induction pattern using induct with
  | leaf loc lexed => exact ⟨[], rfl⟩
  | marked loc mark inner induction => exact ⟨_, rfl⟩
  | repeated loc inner quantity induction =>
      obtain ⟨rest, hrest⟩ := induction
      exact ⟨rest ++ [.sign quantity.char], by rw [lexemes, hrest]; rfl⟩
  | grouped loc bracket first others firstHolds othersHold => exact ⟨_, rfl⟩

end Tokens

section Built

variable {pattern inner first : Pattern Lexed} {others : List (Pattern Lexed)}
  {cursor next : Grammar.Cursor}

theorem WellBuilt.part (built : pattern.WellBuilt) (member : inner ∈ pattern.parts) :
    inner.WellBuilt :=
  fun part hpart => built part (mem_walk.mpr (.inr ⟨inner, member, hpart⟩))

theorem WellBuilt.self (built : pattern.WellBuilt) : pattern.Built :=
  built pattern (mem_walk_self pattern)

theorem wellBuilt_of_occupies (occupies : pattern.Occupies cursor next) : pattern.WellBuilt := by
  intro part member
  obtain ⟨start, stop, hpart, -, -⟩ := occursBetween_of_mem_walk occupies part member
  cases part with
  | leaf loc lexed =>
      rintro hpunct
      obtain ⟨htake, -, -⟩ := hpart
      rw [hpunct] at htake
      exact absurd (TokenKind.takeFirst_eq_some htake).1 (by decide)
  | repeated loc inner quantity =>
      obtain ⟨behind, hatom, -⟩ := hpart
      exact hatom
  | marked | grouped => trivial

theorem opening_of_isAtom (built : pattern.WellBuilt) (hatom : pattern.isAtom = true) :
    pattern.opening.kind ≠ .punct ∨ ∃ bracket : Bracket, pattern.opening = .sign bracket.left := by
  cases pattern with
  | leaf loc lexed => exact .inl built.self
  | grouped loc bracket first others => exact .inr ⟨bracket, rfl⟩
  | marked loc mark inner => cases hatom
  | repeated loc inner quantity => cases hatom

theorem opening_ne_mark (built : pattern.WellBuilt) (hatom : pattern.isAtom = true) (mark : Mark) :
    pattern.opening ≠ .sign mark.char := by
  intro hsame
  rcases opening_of_isAtom built hatom with hleaf | ⟨bracket, hbracket⟩
  · rw [hsame] at hleaf
    exact hleaf rfl
  · exact bracket.left_ne_mark mark (Lexed.sign_inj (hbracket.symm.trans hsame))

theorem opening_ne_sign (built : pattern.WellBuilt) {c : Char}
    (hmark : ∀ mark : Mark, c ≠ mark.char)
    (hbracket : ∀ bracket : Bracket, c ≠ bracket.left) : pattern.opening ≠ .sign c := by
  have hatoms : ∀ atom : Pattern Lexed, atom.WellBuilt → atom.isAtom = true →
      atom.opening ≠ .sign c := by
    intro atom built hatom hsame
    rcases opening_of_isAtom built hatom with hleaf | ⟨bracket, hleft⟩
    · rw [hsame] at hleaf
      exact hleaf rfl
    · exact hbracket bracket (Lexed.sign_inj (hsame.symm.trans hleft))
  cases pattern with
  | leaf loc lexed => exact hatoms _ built rfl
  | grouped loc bracket first others => exact hatoms _ built rfl
  | marked loc mark inner => exact fun hsame => hmark mark (Lexed.sign_inj hsame).symm
  | repeated loc inner quantity =>
      have hinner : inner.WellBuilt := built.part (List.mem_singleton_self inner)
      exact hatoms inner hinner built.self

theorem opening_ne_quantity (built : pattern.WellBuilt) (quantity : Quantity) :
    pattern.opening ≠ .sign quantity.char := by
  apply opening_ne_sign built
  · intro mark
    cases quantity <;> cases mark <;> decide
  · intro bracket
    cases quantity <;> cases bracket <;> decide

theorem opening_ne_right (built : pattern.WellBuilt) (bracket : Bracket) :
    pattern.opening ≠ .sign bracket.right := by
  apply opening_ne_sign built
  · intro mark
    cases bracket <;> cases mark <;> decide
  · intro other
    cases bracket <;> cases other <;> decide

end Built

def Parted (rest : List Lexed) : Prop :=
  ∀ quantity : Quantity, rest.head? ≠ some (.sign quantity.char)

structure Told (pattern : Pattern Lexed) : Prop where
  atom : ∀ {other : Pattern Lexed} {rest rest' : List Lexed}, pattern.isAtom = true →
    other.isAtom = true → other.WellBuilt → pattern.lexemes ++ rest = other.lexemes ++ rest' →
    pattern.unplaced = other.unplaced ∧ rest = rest'
  term : ∀ {other : Pattern Lexed} {rest rest' : List Lexed}, other.WellBuilt →
    Parted rest → Parted rest' → pattern.lexemes ++ rest = other.lexemes ++ rest' →
    pattern.unplaced = other.unplaced ∧ rest = rest'

section Unique

variable {pattern other inner first : Pattern Lexed} {patterns others : List (Pattern Lexed)}
  {rest rest' : List Lexed}

theorem parted_cons {c : Char} (hother : ∀ quantity : Quantity, c ≠ quantity.char)
    (rest : List Lexed) : Parted (.sign c :: rest) :=
  fun quantity hhead => hother quantity (Lexed.sign_inj (Option.some.inj hhead))

theorem parted_lexemesAll (built : ∀ pattern ∈ patterns, pattern.WellBuilt) (bracket : Bracket) :
    Parted (lexemesAll patterns ++ .sign bracket.right :: rest) := by
  cases patterns with
  | nil =>
      apply parted_cons
      intro quantity
      cases bracket <;> cases quantity <;> decide
  | cons pattern others =>
      intro quantity hhead
      obtain ⟨behind, hopening⟩ := lexemes_eq_cons pattern
      rw [lexemesAll, hopening] at hhead
      exact opening_ne_quantity (built pattern (.head _)) quantity (Option.some.inj hhead)

theorem opening_eq (hsame : pattern.lexemes ++ rest = other.lexemes ++ rest') :
    pattern.opening = other.opening := by
  obtain ⟨behind, hpattern⟩ := lexemes_eq_cons pattern
  obtain ⟨behind', hother⟩ := lexemes_eq_cons other
  rw [hpattern, hother] at hsame
  exact (List.cons.inj hsame).1

theorem not_parted {quantity : Quantity} (hrest : rest = .sign quantity.char :: rest') :
    ¬ Parted rest := by
  intro parted
  apply parted quantity
  rw [hrest]
  rfl

theorem told_of_atom (built : pattern.WellBuilt) (hatom : pattern.isAtom = true)
    (told : ∀ {other : Pattern Lexed} {rest rest' : List Lexed}, other.isAtom = true →
      other.WellBuilt → pattern.lexemes ++ rest = other.lexemes ++ rest' →
      pattern.unplaced = other.unplaced ∧ rest = rest') : Told pattern := by
  refine ⟨fun _ => told, fun {other rest rest'} hother parted _ hsame => ?_⟩
  cases other with
  | leaf loc lexed => exact told rfl hother hsame
  | grouped loc bracket first others => exact told rfl hother hsame
  | marked loc mark inner =>
      exact absurd (opening_eq hsame) (opening_ne_mark built hatom mark)
  | repeated loc inner quantity =>
      rw [lexemes, List.append_assoc] at hsame
      obtain ⟨-, hrest⟩ := told hother.self (hother.part (.head _)) hsame
      exact absurd parted (not_parted hrest)

theorem toldAll {bracket : Bracket} (each : ∀ pattern ∈ patterns, pattern.WellBuilt ∧ Told pattern)
    (built : ∀ other ∈ others, other.WellBuilt)
    (hsame : lexemesAll patterns ++ .sign bracket.right :: rest =
      lexemesAll others ++ .sign bracket.right :: rest') :
    relocatedAll (fun _ => ⟨0, 0⟩) patterns = relocatedAll (fun _ => ⟨0, 0⟩) others ∧
      rest = rest' := by
  induction patterns generalizing others with
  | nil =>
      cases others with
      | nil => exact ⟨rfl, (List.cons.inj hsame).2⟩
      | cons other others =>
          obtain ⟨behind, hopening⟩ := lexemes_eq_cons other
          rw [lexemesAll, lexemesAll, hopening] at hsame
          exact absurd (List.cons.inj hsame).1.symm
            (opening_ne_right (built other (.head _)) bracket)
  | cons pattern patterns induction =>
      obtain ⟨hpattern, htold⟩ := each pattern (.head _)
      cases others with
      | nil =>
          obtain ⟨behind, hopening⟩ := lexemes_eq_cons pattern
          rw [lexemesAll, lexemesAll, hopening] at hsame
          exact absurd (List.cons.inj hsame).1 (opening_ne_right hpattern bracket)
      | cons other others =>
          rw [lexemesAll, lexemesAll, List.append_assoc, List.append_assoc] at hsame
          have hrest := fun other member => built other (List.mem_cons_of_mem _ member)
          have hmore := fun other member => each other (List.mem_cons_of_mem _ member)
          obtain ⟨hfirst, hlater⟩ := htold.term (built other (.head _))
            (parted_lexemesAll (fun other member => (hmore other member).1) bracket)
            (parted_lexemesAll hrest bracket) hsame
          obtain ⟨hothers, hbehind⟩ := induction hmore hrest hlater
          refine ⟨?_, hbehind⟩
          rw [relocatedAll, relocatedAll, hothers]
          exact congrArg (· :: _) hfirst

theorem leaf_ne_sign {loc : Range} {lexed : Lexed} (built : (leaf loc lexed).WellBuilt) (c : Char) :
    lexed ≠ .sign c := by
  rintro rfl
  exact built.self rfl

theorem told_leaf {loc : Range} {lexed : Lexed} (built : (leaf loc lexed).WellBuilt) :
    Told (leaf loc lexed) := by
  refine told_of_atom built rfl fun {other rest rest'} hother hbuilt hsame => ?_
  cases other with
  | leaf loc' lexed' =>
      obtain ⟨rfl, hrest⟩ := List.cons.inj hsame
      exact ⟨rfl, hrest⟩
  | grouped loc' bracket first others =>
      exact absurd (opening_eq hsame) (leaf_ne_sign built bracket.left)
  | marked loc' mark inner => cases hother
  | repeated loc' inner quantity => cases hother

theorem told_marked {loc : Range} {mark : Mark} (told : Told inner) :
    Told (marked loc mark inner) := by
  refine ⟨fun hatom => (nomatch hatom), fun {other rest rest'} hbuilt parted parted' hsame => ?_⟩
  have hopening := opening_eq hsame
  cases other with
  | marked loc' mark' inner' =>
      cases Mark.eq_of_char (Lexed.sign_inj hopening)
      obtain ⟨hinner, hrest⟩ :=
        told.term (hbuilt.part (.head _)) parted parted' (List.cons.inj hsame).2
      exact ⟨congrArg (Pattern.marked ⟨0, 0⟩ mark) hinner, hrest⟩
  | leaf loc' lexed' => exact absurd hopening.symm (opening_ne_mark hbuilt rfl mark)
  | grouped loc' bracket first others =>
      exact absurd hopening.symm (opening_ne_mark hbuilt rfl mark)
  | repeated loc' inner' quantity =>
      exact absurd hopening.symm (opening_ne_mark (hbuilt.part (.head _)) hbuilt.self mark)

theorem told_repeated {loc : Range} {quantity : Quantity}
    (built : (repeated loc inner quantity).WellBuilt) (told : Told inner) :
    Told (repeated loc inner quantity) := by
  refine ⟨fun hatom => (nomatch hatom), fun {other rest rest'} hbuilt parted parted' hsame => ?_⟩
  rw [lexemes, List.append_assoc] at hsame
  -- An atom would leave the quantity behind, where none may follow.
  have hatoms : other.isAtom = true → ¬ Parted rest' := by
    intro hatom
    obtain ⟨-, hrest⟩ := told.atom built.self hatom hbuilt hsame
    exact not_parted hrest.symm
  cases other with
  | leaf loc' lexed' => exact absurd parted' (hatoms rfl)
  | grouped loc' bracket first others => exact absurd parted' (hatoms rfl)
  | marked loc' mark inner' =>
      exact absurd (opening_eq hsame) (opening_ne_mark (built.part (.head _)) built.self mark)
  | repeated loc' inner' quantity' =>
      rw [lexemes, List.append_assoc] at hsame
      obtain ⟨hinner, hrest⟩ :=
        told.atom built.self hbuilt.self (hbuilt.part (.head _)) hsame
      obtain ⟨hquantity, hbehind⟩ := List.cons.inj hrest
      cases Quantity.eq_of_char (Lexed.sign_inj hquantity)
      exact ⟨congrArg (Pattern.repeated ⟨0, 0⟩ · quantity) hinner, hbehind⟩

theorem told_grouped {loc : Range} {bracket : Bracket}
    (built : (grouped loc bracket first others).WellBuilt) (told : Told first)
    (toldOthers : ∀ other ∈ others, Told other) : Told (grouped loc bracket first others) := by
  refine told_of_atom built rfl fun {other rest rest'} hother hbuilt hsame => ?_
  have hopening := opening_eq hsame
  cases other with
  | leaf loc' lexed => exact absurd hopening.symm (leaf_ne_sign hbuilt bracket.left)
  | marked loc' mark inner => cases hother
  | repeated loc' inner quantity => cases hother
  | grouped loc' bracket' first' others' =>
      cases Bracket.eq_of_left (Lexed.sign_inj hopening)
      rw [lexemes, lexemes, List.cons_append, List.cons_append] at hsame
      have hterms := (List.cons.inj hsame).2
      simp only [List.append_assoc, List.singleton_append] at hterms
      have hall : ∀ other ∈ others, other.WellBuilt :=
        fun other member => built.part (List.mem_cons_of_mem first member)
      have hall' : ∀ other ∈ others', other.WellBuilt :=
        fun other member => hbuilt.part (List.mem_cons_of_mem first' member)
      obtain ⟨hfirst, hlater⟩ := told.term (hbuilt.part (.head _))
        (parted_lexemesAll hall bracket) (parted_lexemesAll hall' bracket) hterms
      have each : ∀ other ∈ others, other.WellBuilt ∧ Told other :=
        fun other member => ⟨hall other member, toldOthers other member⟩
      obtain ⟨hothers, hrest⟩ := toldAll each hall' hlater
      refine ⟨?_, hrest⟩
      change Pattern.grouped _ _ first.unplaced _ = Pattern.grouped _ _ first'.unplaced _
      rw [hfirst, hothers]

theorem told (built : pattern.WellBuilt) : Told pattern := by
  induction pattern using induct with
  | leaf loc lexed => exact told_leaf built
  | marked loc mark inner induction => exact told_marked (induction (built.part (.head _)))
  | repeated loc inner quantity induction =>
      exact told_repeated built (induction (built.part (.head _)))
  | grouped loc bracket first others firstHolds othersHold =>
      refine told_grouped built (firstHolds (built.part (.head _))) fun other member => ?_
      exact othersHold other member (built.part (List.mem_cons_of_mem first member))

theorem unplaced_of_lexemes (built : pattern.WellBuilt) (hother : other.WellBuilt)
    (hsame : pattern.lexemes = other.lexemes) : pattern.unplaced = other.unplaced := by
  have parted : Parted [] := fun _ hhead => nomatch hhead
  exact ((told built).term hother parted parted (by rw [hsame])).1

end Unique

section Layout

variable {text text' : List Char} {pattern pattern' : Pattern Leaf} {tokens tokens' : List Token}

/-- The pattern of a text as written, whose tokens are those of the text. -/
theorem wellBuilt_of_read (hread : Pattern.read chart text = .ok pattern)
    (hcut : tokenize text = .ok tokens) :
    ∃ lexed : Pattern Lexed, lexed.WellBuilt ∧ lexed.lexemes = tokens.map Token.lexed ∧
      lexed.decodeLeaves (Leaf.decode chart) = .ok pattern := by
  obtain ⟨lexed, hlexed, hdecoded⟩ := lexed_of_read hread
  obtain ⟨next, stands, -⟩ := PatternText.readAll_pattern_iff.mp hlexed
  obtain ⟨htokens, -, -⟩ := PatternText.tokens_of_pattern hlexed
  have hsame : lexed.tokens = tokens :=
    Except.ok.inj (htokens.symm.trans (mapError_eq_ok.mp hcut))
  exact ⟨lexed, wellBuilt_of_occupies stands.occupies, by rw [← hsame, map_lexed_tokens], hdecoded⟩

/-- Layout and comments never change a pattern: it depends on nothing but its tokens. -/
theorem unplaced_of_tokenize (hread : Pattern.read chart text = .ok pattern)
    (hread' : Pattern.read chart text' = .ok pattern') (hcut : tokenize text = .ok tokens)
    (hcut' : tokenize text' = .ok tokens')
    (hsame : tokens.map (fun token => (token.kind, token.text)) =
      tokens'.map fun token => (token.kind, token.text)) :
    pattern.toTerm.unplaced = pattern'.toTerm.unplaced ∧
      Term.equal pattern.toTerm pattern'.toTerm = true ∧
      pattern.toTerm.pretty = pattern'.toTerm.pretty := by
  obtain ⟨lexed, built, hlexemes, hdecoded⟩ := wellBuilt_of_read hread hcut
  obtain ⟨lexed', built', hlexemes', hdecoded'⟩ := wellBuilt_of_read hread' hcut'
  have hboth : tokens.map Token.lexed = tokens'.map Token.lexed := by
    have hpairs := congrArg (List.map fun pair => Lexed.mk pair.1 pair.2) hsame
    rwa [List.map_map, List.map_map] at hpairs
  have hlexed : lexed.unplaced = lexed'.unplaced :=
    unplaced_of_lexemes built built' (by rw [hlexemes, hlexemes', hboth])
  have hplain : lexed.unplaced.decodeLeaves (Leaf.decode chart) = .ok pattern.unplaced :=
    decodeLeaves_relocated Leaf.decode_elsewhere hdecoded
  have hplain' : lexed'.unplaced.decodeLeaves (Leaf.decode chart) = .ok pattern'.unplaced :=
    decodeLeaves_relocated Leaf.decode_elsewhere hdecoded'
  rw [← hlexed] at hplain'
  have hunplaced : pattern.unplaced = pattern'.unplaced :=
    Except.ok.inj (hplain.symm.trans hplain')
  have hterm : pattern.toTerm.unplaced = pattern'.toTerm.unplaced := calc
    pattern.toTerm.unplaced = (pattern.unplaced.termFrom 0).unplaced :=
      (unplaced_termFrom pattern _ 0 0).symm
    _ = (pattern'.unplaced.termFrom 0).unplaced := by rw [hunplaced]
    _ = pattern'.toTerm.unplaced := unplaced_termFrom pattern' _ 0 0
  exact ⟨hterm, Term.equal_of_unplaced hterm, Term.pretty_of_unplaced hterm⟩

/-- The same terms with a bracket in a comment between them. -/
theorem unplaced_of_tokenize_commented :
    ∃ pattern pattern', Pattern.read Text.basicLatin "($a*b)".toList = .ok pattern ∧
      Pattern.read Text.basicLatin "($a* #)\nb)".toList = .ok pattern' ∧
      pattern.toTerm.pretty = pattern'.toTerm.pretty := by
  let pattern : Pattern Leaf := .grouped ⟨0, 6⟩ .sequence
    (.marked ⟨1, 3⟩ .capture (.repeated ⟨2, 2⟩ (.leaf ⟨2, 1⟩ (.nodeType "a")) .any))
    [.leaf ⟨4, 1⟩ (.nodeType "b")]
  let pattern' : Pattern Leaf := .grouped ⟨0, 10⟩ .sequence
    (.marked ⟨1, 3⟩ .capture (.repeated ⟨2, 2⟩ (.leaf ⟨2, 1⟩ (.nodeType "a")) .any))
    [.leaf ⟨8, 1⟩ (.nodeType "b")]
  have hread : Pattern.read Text.basicLatin "($a*b)".toList = .ok pattern := by decide +kernel
  have hread' : Pattern.read Text.basicLatin "($a* #)\nb)".toList = .ok pattern' := by
    decide +kernel
  have hcut : tokenize "($a*b)".toList = .ok [⟨.punct, ['('], 0⟩, ⟨.punct, ['$'], 1⟩,
      ⟨.nodeType, ['a'], 2⟩, ⟨.punct, ['*'], 3⟩, ⟨.nodeType, ['b'], 4⟩, ⟨.punct, [')'], 5⟩] := by
    cbv
  have hcut' : tokenize "($a* #)\nb)".toList = .ok [⟨.punct, ['('], 0⟩, ⟨.punct, ['$'], 1⟩,
      ⟨.nodeType, ['a'], 2⟩, ⟨.punct, ['*'], 3⟩, ⟨.nodeType, ['b'], 8⟩, ⟨.punct, [')'], 9⟩] := by
    cbv
  exact ⟨pattern, pattern', hread, hread', (unplaced_of_tokenize hread hread' hcut hcut' rfl).2.2⟩

end Layout

end Pattern

end TreeMatch
