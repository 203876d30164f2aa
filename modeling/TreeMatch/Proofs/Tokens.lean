import TreeMatch.Proofs.Reading
import TreeMatch.Proofs.Scanning

/-! The tokens of a text and the pattern that is read from it: each leaf is a token, and the other
tokens are the signs that marks, brackets and quantities are written with. -/

namespace TreeMatch

variable {chart : Text.CodeChart}

open Grammar

theorem Mark.char_mem_signs (mark : Mark) : mark.char ∈ TokenKind.signs := by
  rw [TokenKind.mem_signs]
  cases mark <;> decide

theorem Bracket.left_mem_signs (bracket : Bracket) : bracket.left ∈ TokenKind.signs := by
  rw [TokenKind.mem_signs]
  cases bracket <;> decide

theorem Bracket.right_mem_signs (bracket : Bracket) : bracket.right ∈ TokenKind.signs := by
  rw [TokenKind.mem_signs]
  cases bracket <;> decide

theorem Quantity.char_mem_signs (quantity : Quantity) : quantity.char ∈ TokenKind.signs := by
  rw [TokenKind.mem_signs]
  cases quantity <;> decide

def Token.leaf (token : Token) : Pattern Lexed :=
  .leaf ⟨token.start, token.text.length⟩ ⟨token.kind, token.text⟩

namespace Pattern

open PatternText (sign)

mutual

/-- The signs of a pattern, as tokens in the order of the text. -/
def signs : Pattern α → List Token
  | leaf .. => []
  | marked loc mark inner => sign mark.char loc.start :: signs inner
  | repeated loc inner quantity => signs inner ++ [sign quantity.char (loc.stop - 1)]
  | grouped loc bracket first others =>
    sign bracket.left loc.start ::
      (signs first ++ (signsAll others ++ [sign bracket.right (loc.stop - 1)]))
termination_by structural pattern => pattern

def signsAll : List (Pattern α) → List Token
  | [] => []
  | pattern :: rest => signs pattern ++ signsAll rest
termination_by structural patterns => patterns

end

mutual

def tokens : Pattern Lexed → List Token
  | leaf loc lexed => [⟨lexed.kind, lexed.text, loc.start⟩]
  | marked loc mark inner => sign mark.char loc.start :: tokens inner
  | repeated loc inner quantity => tokens inner ++ [sign quantity.char (loc.stop - 1)]
  | grouped loc bracket first others =>
    sign bracket.left loc.start ::
      (tokens first ++ (tokensAll others ++ [sign bracket.right (loc.stop - 1)]))
termination_by structural pattern => pattern

def tokensAll : List (Pattern Lexed) → List Token
  | [] => []
  | pattern :: rest => tokens pattern ++ tokensAll rest
termination_by structural patterns => patterns

end

def leaf? : Pattern α → Option (Range × α)
  | leaf loc value => some (loc, value)
  | _ => none

def leaves (pattern : Pattern α) : List (Range × α) :=
  pattern.walk.filterMap leaf?

def leavesAll (patterns : List (Pattern α)) : List (Range × α) :=
  (walkAll patterns).filterMap leaf?

section Leaves

variable (loc : Range) (mark : Mark) (bracket : Bracket) (quantity : Quantity)
  (inner first : Pattern α) (others rest : List (Pattern α)) (value : α)

@[simp] theorem leaves_leaf : (leaf loc value).leaves = [(loc, value)] := rfl

@[simp] theorem leaves_marked : (marked loc mark inner).leaves = inner.leaves :=
  List.filterMap_cons_none rfl

@[simp] theorem leaves_repeated : (repeated loc inner quantity).leaves = inner.leaves :=
  List.filterMap_cons_none rfl

@[simp] theorem leaves_grouped :
    (grouped loc bracket first others).leaves = first.leaves ++ leavesAll others := by
  rw [leaves, walk, List.filterMap_cons_none rfl, List.filterMap_append]
  rfl

@[simp] theorem leavesAll_cons : leavesAll (first :: rest) = first.leaves ++ leavesAll rest := by
  rw [leavesAll, walkAll, List.filterMap_append]
  rfl

end Leaves

def leafToken (leaf : Range × Lexed) : Token :=
  ⟨leaf.2.kind, leaf.2.text, leaf.1.start⟩

structure LeafFits (leaf : Range × Lexed) : Prop where
  size : leaf.1.size = leaf.2.text.length
  kind : leaf.2.kind ≠ .punct

structure Sorts (tokens : List Token) (leaves : List (Range × Lexed)) (signs : List Token) :
    Prop where
  leaves : tokens.filter (·.kind ≠ .punct) = leaves.map leafToken
  signs : tokens.filter (·.kind = .punct) = signs

namespace Sorts

theorem nil : Sorts [] [] [] :=
  ⟨rfl, rfl⟩

theorem sign (c : Char) (offset : Nat) : Sorts [sign c offset] [] [sign c offset] :=
  ⟨rfl, rfl⟩

theorem leaf {leaf : Range × Lexed} (fits : LeafFits leaf) : Sorts [leafToken leaf] [leaf] [] := by
  constructor
  · apply List.filter_cons_of_pos
    exact decide_eq_true fits.kind
  · apply List.filter_cons_of_neg
    exact fun hpunct => fits.kind (of_decide_eq_true hpunct)

theorem append {tokens tokens' : List Token} {leaves leaves' : List (Range × Lexed)}
    {signs signs' : List Token} (first : Sorts tokens leaves signs)
    (second : Sorts tokens' leaves' signs') :
    Sorts (tokens ++ tokens') (leaves ++ leaves') (signs ++ signs') := by
  constructor
  · rw [List.filter_append, first.leaves, second.leaves, List.map_append]
  · rw [List.filter_append, first.signs, second.signs]

end Sorts

theorem map_leafToken {leaves : List (Range × Lexed)}
    (fits : ∀ leaf ∈ leaves, LeafFits leaf) :
    (leaves.map leafToken).map (fun token =>
        (token.kind.name, some (Range.mk token.start token.text.length))) =
      leaves.map fun leaf => (leaf.2.kind.name, some leaf.1) := by
  rw [List.map_map]
  apply List.map_congr_left
  intro leaf member
  rw [Function.comp_apply, leafToken, ← (fits leaf member).size]

theorem sorts_tokensAll {patterns : List (Pattern Lexed)}
    (each : ∀ pattern ∈ patterns, (∀ leaf ∈ pattern.leaves, LeafFits leaf) →
      Sorts pattern.tokens pattern.leaves pattern.signs)
    (fits : ∀ leaf ∈ leavesAll patterns, LeafFits leaf) :
    Sorts (tokensAll patterns) (leavesAll patterns) (signsAll patterns) := by
  induction patterns with
  | nil => exact .nil
  | cons pattern rest induction =>
      rw [leavesAll_cons] at fits ⊢
      obtain ⟨hfirst, hrest⟩ := List.forall_mem_append.mp fits
      have later := induction (fun other member => each other (by simp [member])) hrest
      exact (each pattern (by simp) hfirst).append later

theorem sorts_tokens (pattern : Pattern Lexed) (fits : ∀ leaf ∈ pattern.leaves, LeafFits leaf) :
    Sorts pattern.tokens pattern.leaves pattern.signs := by
  induction pattern using induct with
  | leaf loc value => exact .leaf (fits (loc, value) (List.mem_singleton_self _))
  | marked loc mark inner induction =>
      rw [leaves_marked] at fits ⊢
      exact (Sorts.sign _ _).append (induction fits)
  | repeated loc inner quantity induction =>
      rw [leaves_repeated] at fits ⊢
      have sorts := (induction fits).append (.sign quantity.char (loc.stop - 1))
      rwa [List.append_nil] at sorts
  | grouped loc bracket first others firstHolds othersHold =>
      rw [leaves_grouped] at fits ⊢
      obtain ⟨hfirst, hothers⟩ := List.forall_mem_append.mp fits
      have closed := (sorts_tokensAll othersHold hothers).append
        (.sign bracket.right (loc.stop - 1))
      rw [List.append_nil] at closed
      exact (Sorts.sign _ _).append ((firstHolds hfirst).append closed)

section Decoding

variable {decode : Range → Lexed → Except ε Leaf}

structure Decodes (pattern : Pattern Lexed) (found : Pattern Leaf) : Prop where
  kinds : found.leaves.map (fun leaf => (leaf.2.kind.name, some leaf.1)) =
    pattern.leaves.map fun leaf => (leaf.2.kind.name, some leaf.1)
  signs : found.signs = pattern.signs

structure DecodesAll (patterns : List (Pattern Lexed)) (found : List (Pattern Leaf)) : Prop where
  kinds : (leavesAll found).map (fun leaf => (leaf.2.kind.name, some leaf.1)) =
    (leavesAll patterns).map fun leaf => (leaf.2.kind.name, some leaf.1)
  signs : signsAll found = signsAll patterns

theorem decodesAll {patterns : List (Pattern Lexed)} {found : List (Pattern Leaf)}
    (each : ∀ pattern ∈ patterns, ∀ result, pattern.decodeLeaves decode = .ok result →
      (∀ leaf ∈ pattern.leaves, LeafFits leaf) → Decodes pattern result)
    (hfound : decodeLeavesAll decode patterns = .ok found)
    (fits : ∀ leaf ∈ leavesAll patterns, LeafFits leaf) : DecodesAll patterns found := by
  induction patterns generalizing found with
  | nil =>
      cases hfound
      exact ⟨rfl, rfl⟩
  | cons pattern rest induction =>
      obtain ⟨head, hhead, hrest⟩ := bind_ok hfound
      obtain ⟨tail, htail, hdone⟩ := bind_ok hrest
      cases hdone
      rw [leavesAll_cons] at fits
      obtain ⟨hfirst, hothers⟩ := List.forall_mem_append.mp fits
      have first := each pattern (by simp) head hhead hfirst
      have later := induction (fun other member => each other (by simp [member])) htail hothers
      constructor
      · simp only [leavesAll_cons, List.map_append, first.kinds, later.kinds]
      · simp only [signsAll, first.signs, later.signs]

theorem decodes {pattern : Pattern Lexed} {found : Pattern Leaf}
    (hkind : ∀ loc lexed value, decode loc lexed = .ok value → lexed.kind ≠ .punct →
      value.kind = lexed.kind)
    (hfound : pattern.decodeLeaves decode = .ok found)
    (fits : ∀ leaf ∈ pattern.leaves, LeafFits leaf) : Decodes pattern found := by
  induction pattern using induct generalizing found with
  | leaf loc lexed =>
      obtain ⟨value, hvalue, hdone⟩ := bind_ok hfound
      cases hdone
      have hleaf := fits (loc, lexed) (List.mem_singleton_self _)
      have hsame := hkind loc lexed value hvalue hleaf.kind
      exact ⟨by simp [hsame], rfl⟩
  | marked loc mark inner induction =>
      obtain ⟨result, hresult, hdone⟩ := bind_ok hfound
      cases hdone
      rw [leaves_marked] at fits
      have decodes := induction hresult fits
      exact ⟨decodes.kinds, congrArg (_ :: ·) decodes.signs⟩
  | repeated loc inner quantity induction =>
      obtain ⟨result, hresult, hdone⟩ := bind_ok hfound
      cases hdone
      rw [leaves_repeated] at fits
      have decodes := induction hresult fits
      exact ⟨decodes.kinds, congrArg (· ++ _) decodes.signs⟩
  | grouped loc bracket first others firstHolds othersHold =>
      obtain ⟨head, hhead, hrest⟩ := bind_ok hfound
      obtain ⟨tail, htail, hdone⟩ := bind_ok hrest
      cases hdone
      rw [leaves_grouped] at fits
      obtain ⟨hfirst, hothers⟩ := List.forall_mem_append.mp fits
      have first := firstHolds hhead hfirst
      have later := decodesAll (fun other member result => othersHold other member) htail hothers
      constructor
      · simp only [leaves_grouped, List.map_append, first.kinds, later.kinds]
      · simp only [signs, first.signs, later.signs]

end Decoding

theorem map_leafNodes (next : Nat) (parts : List (Pattern Leaf)) :
    ((partTerms next parts).filter fun node => node.childNodes.isEmpty).map
        (fun node => (node.tag, node.loc?)) =
      (parts.filterMap leaf?).map fun leaf => (leaf.2.kind.name, some leaf.1) := by
  induction parts generalizing next with
  | nil => rfl
  | cons part rest induction =>
      rw [partTerms]
      cases part with
      | leaf loc value =>
          rw [List.filter_cons_of_pos (by rw [childNodes_termFrom]; rfl)]
          exact congrArg (_ :: ·) (induction (next + 1))
      | marked loc mark inner | repeated loc inner quantity | grouped loc bracket first others =>
          rw [List.filter_cons_of_neg (by rw [childNodes_termFrom]; exact Bool.false_ne_true),
            List.filterMap_cons_none rfl, induction]

end Pattern

theorem Leaf.kind_of_decode (loc : Range) (lexed : Lexed) (value : Leaf)
    (hdecode : decode chart loc lexed = .ok value) (hkind : lexed.kind ≠ .punct) :
    value.kind = lexed.kind := by
  obtain ⟨kind, taken⟩ := lexed
  cases kind with
  | number =>
      change decodeNumber taken = _ at hdecode
      unfold decodeNumber at hdecode
      split at hdecode
      · cases hdecode
        rfl
      · split at hdecode <;> cases hdecode
        rfl
  | string =>
      change decodeString chart loc taken = _ at hdecode
      unfold decodeString at hdecode
      split at hdecode <;> cases hdecode
      rfl
  | param =>
      change decodeParam (taken.drop 1) = _ at hdecode
      unfold decodeParam at hdecode
      split at hdecode
      · split at hdecode <;> cases hdecode
        rfl
      · cases hdecode
        rfl
  | punct => exact absurd rfl hkind
  | rest | symbol | wildcard | nil | predicate | nodeType =>
      cases hdecode
      rfl

end TreeMatch
