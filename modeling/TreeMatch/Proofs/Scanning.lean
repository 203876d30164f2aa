import TreeMatch.Proofs.Lexemes

/-! What rules read, and how a text is cut into tokens. -/

namespace TreeMatch

theorem findSome?_cons_or (f : α → Option β) (first : α) (rest : List α) :
    (first :: rest).findSome? f = (f first).or (rest.findSome? f) := by
  rw [List.findSome?_cons]
  cases f first <;> rfl

namespace Grammar.Rule

section Results

variable {rule : Rule α} {cursor : Cursor}

theorem result_bind (next : α → Rule β) :
    ((rule >>= next) cursor).result =
      (rule cursor).result.bind fun found => (next found.1 found.2).result := by
  change (andThen rule next cursor).result = _
  unfold andThen
  rcases rule cursor with ⟨misses, _ | ⟨value, behind⟩⟩ <;> rfl

theorem bind_eq_some {next : α → Rule β} {found : β} {last : Cursor} :
    ((rule >>= next) cursor).result = some (found, last) ↔
      ∃ value behind, (rule cursor).result = some (value, behind) ∧
        (next value behind).result = some (found, last) := by
  rw [result_bind, Option.bind_eq_some_iff, Prod.exists]

theorem result_named : (named rule cursor).result = (rule cursor).result := by
  unfold named
  rcases hrule : rule cursor with ⟨misses, _ | ⟨value, behind⟩⟩ <;> rfl

theorem result_orElse (other : Rule α) :
    (orElse rule other cursor).result = (rule cursor).result.or (other cursor).result := by
  unfold orElse
  rcases rule cursor with ⟨misses, _ | ⟨value, behind⟩⟩ <;> rfl

theorem result_choice (others : List (Rule α)) :
    (choice rule others cursor).result =
      (rule :: others).findSome? fun alternative => (alternative cursor).result := by
  unfold choice
  induction others generalizing rule with
  | nil => rw [findSome?_cons_or, List.findSome?_nil, Option.or_none, List.foldl_nil]
  | cons other rest induction =>
      rw [List.foldl_cons, induction, findSome?_cons_or, result_orElse, Option.or_assoc,
        findSome?_cons_or, findSome?_cons_or]

theorem result_lexeme (take : List Char → Option (List Char × List Char)) :
    (lexeme take cursor).result =
      (take cursor.rest).map fun split => (split.1, ⟨cursor.offset + split.1.length, split.2⟩) := by
  unfold lexeme
  rcases take cursor.rest with _ | ⟨taken, rest⟩ <;> rfl

theorem result_char {c : Char} {next : Cursor} (hread : (char c cursor).result = some ((), next)) :
    ∃ rest, cursor.rest = c :: rest ∧ next = ⟨cursor.offset + 1, rest⟩ := by
  unfold char at hread
  split at hread
  · cases hread
  · rename_i d rest hrest
    split at hread
    · rename_i hsame
      cases hread
      exact ⟨rest, by rw [hrest, hsame], rfl⟩
    · cases hread

theorem result_optional {found : Option α} {next : Cursor}
    (hread : (optional rule cursor).result = some (found, next)) :
    found = none ∧ next = cursor ∧ (cursor.rest = [] ∨ (rule cursor).result = none) ∨
      ∃ value, found = some value ∧ (rule cursor).result = some (value, next) := by
  unfold optional at hread
  split at hread
  · rename_i hend
    cases hread
    exact .inl ⟨rfl, rfl, .inl (List.isEmpty_iff.mp hend)⟩
  · split at hread
    · rename_i hrule
      cases hread
      exact .inl ⟨rfl, rfl, .inr (congrArg Outcome.result hrule)⟩
    · rename_i hrule
      cases hread
      exact .inr ⟨_, rfl, congrArg Outcome.result hrule⟩

theorem readAll_eq_ok {text : List Char} {value : α} :
    rule.readAll text = .ok value ↔
      ∃ last, (rule (Cursor.ofText text)).result = some (value, last) ∧ last.rest = [] := by
  unfold readAll
  rcases hrule : rule (Cursor.ofText text) with ⟨misses, _ | ⟨found, last⟩⟩
  · simp
  · dsimp only
    cases hrest : last.rest with
    | nil => simp [hrest]
    | cons c rest => simp [hrest]

theorem readAll_eq_trailing {text : List Char} {offset : Nat}
    (hread : rule.readAll text = .error (.trailing offset)) :
    ∃ value last, (rule (Cursor.ofText text)).result = some (value, last) ∧ last.rest ≠ [] ∧
      last.offset = offset := by
  unfold readAll at hread
  rcases hrule : rule (Cursor.ofText text) with ⟨misses, _ | ⟨value, last⟩⟩
  · rw [hrule] at hread
    cases hread
  · rw [hrule] at hread
    dsimp only at hread
    split at hread
    · cases hread
    · rename_i hmore
      cases hread
      exact ⟨value, last, rfl, fun hend => hmore (List.isEmpty_iff.mpr hend), rfl⟩

theorem readAll_of_rest {text : List Char} {value : α} {last : Cursor}
    (hread : (rule (Cursor.ofText text)).result = some (value, last)) (hmore : last.rest ≠ []) :
    rule.readAll text = .error (.trailing last.offset) := by
  unfold readAll
  rcases hrule : rule (Cursor.ofText text) with ⟨misses, result⟩
  rw [hrule] at hread
  cases hread
  dsimp only
  rw [if_neg (by simpa using hmore)]

theorem readAll_eq_unexpected {text : List Char} {offset : Nat}
    (hread : rule.readAll text = .error (.unexpected offset)) :
    offset =
      ((Miss.furthest (rule (Cursor.ofText text)).misses).map Miss.offset).getD 0 := by
  unfold readAll at hread
  rcases hrule : rule (Cursor.ofText text) with ⟨misses, _ | ⟨value, last⟩⟩
  · rw [hrule] at hread
    cases hread
    rfl
  · rw [hrule] at hread
    dsimp only at hread
    split at hread <;> cases hread

end Results

inductive Repeats (rule : Rule α) : Cursor → List α → Cursor → Prop
  | nil (cursor : Cursor) : Repeats rule cursor [] cursor
  | cons {cursor next last : Cursor} {value : α} {values : List α}
      (first : (rule cursor).result = some (value, next))
      (later : Repeats rule next values last) : Repeats rule cursor (value :: values) last

namespace Repeats

variable {rule : Rule α} {cursor middle last : Cursor} {front back values : List α}

theorem append (first : Repeats rule cursor front middle)
    (second : Repeats rule middle back last) : Repeats rule cursor (front ++ back) last := by
  induction first with
  | nil cursor => exact second
  | cons head later induction => exact .cons head (induction second)

theorem of_manyWithin {fuel : Nat}
    (hread : (manyWithin rule fuel cursor).result = some (values, last)) :
    Repeats rule cursor values last := by
  induction fuel generalizing cursor values with
  | zero =>
      cases hread
      exact .nil _
  | succ fuel induction =>
      unfold manyWithin at hread
      split at hread
      · cases hread
        exact .nil _
      · split at hread
        · cases hread
          exact .nil _
        · rename_i misses value next hrule
          have hfirst := congrArg Outcome.result hrule
          split at hread
          · cases hread
            exact .cons hfirst (.nil _)
          · split at hread
            · rename_i more others behind hlater
              cases hread
              exact .cons hfirst (induction (congrArg Outcome.result hlater))
            · cases hread

theorem of_many (hread : (many rule cursor).result = some (values, last)) :
    Repeats rule cursor values last :=
  of_manyWithin hread

/-- Where the rule stops all has been read, if the rule never reads nothing. -/
theorem manyWithin (repeats : Repeats rule cursor values last)
    (hstops : last.rest = [] ∨ (rule last).result = none)
    (hprogress : ∀ {before value after}, (rule before).result = some (value, after) →
      after.rest.length < before.rest.length ∧ after.offset ≠ before.offset)
    {fuel : Nat} (hfuel : cursor.rest.length ≤ fuel) :
    (Rule.manyWithin rule fuel cursor).result = some (values, last) := by
  induction repeats generalizing fuel with
  | nil cursor =>
      cases fuel with
      | zero => rfl
      | succ fuel =>
          unfold Rule.manyWithin
          rcases hstops with hend | hnone
          · rw [hend]
            rfl
          · rcases hrule : rule cursor with ⟨misses, result⟩
            rw [hrule] at hnone
            cases hnone
            split <;> rfl
  | @cons cursor next last value values first later induction =>
      -- The loop goes on where the rule moves, and the fuel is what is left of the text.
      obtain ⟨hless, hmoved⟩ := hprogress first
      obtain ⟨fuel, rfl⟩ : ∃ less, fuel = less + 1 := ⟨fuel - 1, by omega⟩
      have hmore : cursor.rest.isEmpty = false := by
        cases hrest : cursor.rest with
        | nil => simp [hrest] at hless
        | cons c rest => rfl
      have hrest := induction hstops (by omega : next.rest.length ≤ fuel)
      unfold Rule.manyWithin
      rw [hmore]
      rcases hrule : rule cursor with ⟨misses, result⟩
      rw [hrule] at first
      cases first
      dsimp only
      rw [if_neg Bool.false_ne_true, if_neg hmoved]
      rcases hmany : Rule.manyWithin rule fuel next with ⟨more, result⟩
      rw [hmany] at hrest
      cases hrest
      rfl

theorem many (repeats : Repeats rule cursor values last)
    (hstops : last.rest = [] ∨ (rule last).result = none)
    (hprogress : ∀ {before value after}, (rule before).result = some (value, after) →
      after.rest.length < before.rest.length ∧ after.offset ≠ before.offset) :
    (Rule.many rule cursor).result = some (values, last) :=
  repeats.manyWithin hstops hprogress (Nat.le_refl _)

theorem exists_stop
    (hprogress : ∀ {before value after}, (rule before).result = some (value, after) →
      after.rest.length < before.rest.length ∧ after.offset ≠ before.offset)
    (cursor : Cursor) :
    ∃ values last, Repeats rule cursor values last ∧
      (last.rest = [] ∨ (rule last).result = none) := by
  cases hread : (rule cursor).result with
  | none => exact ⟨[], cursor, .nil cursor, .inr hread⟩
  | some found =>
      have hless := (hprogress hread).1
      obtain ⟨values, last, later, hstops⟩ := exists_stop hprogress found.2
      exact ⟨found.1 :: values, last, .cons hread later, hstops⟩
termination_by cursor.rest.length

end Repeats

end Grammar.Rule

namespace Grammar

def Cursor.skip (mark : Char) (cursor : Cursor) : Cursor :=
  ⟨cursor.offset + (cursor.rest.length - (Lexeme.dropBlanks mark false cursor.rest).length),
    Lexeme.dropBlanks mark false cursor.rest⟩

theorem dropBlanks_suffix (mark : Char) (comment : Bool) (text : List Char) :
    Lexeme.dropBlanks mark comment text <:+ text := by
  induction text generalizing comment with
  | nil => cases comment <;> exact List.suffix_rfl
  | cons c rest induction =>
      cases comment with
      | true => exact (induction _).trans (List.suffix_cons c rest)
      | false =>
          rw [Lexeme.dropBlanks]
          split
          · exact (induction _).trans (List.suffix_cons c rest)
          · split
            · exact (induction _).trans (List.suffix_cons c rest)
            · exact List.suffix_rfl

theorem Cursor.skip_of_opens {mark c : Char} {cursor : Cursor} {rest : List Char}
    (hrest : cursor.rest = c :: rest) (hblank : Text.isBlank c = false) (hmark : c ≠ mark) :
    cursor.skip mark = cursor := by
  obtain ⟨offset, text⟩ := cursor
  cases hrest
  have hstays : Lexeme.dropBlanks mark false (c :: rest) = c :: rest := by
    rw [Lexeme.dropBlanks, hblank, if_neg Bool.false_ne_true, if_neg hmark]
  simp only [Cursor.skip, hstays, Nat.sub_self, Nat.add_zero]

theorem Cursor.skip_space (mark : Char) (offset : Nat) (rest : List Char) :
    Cursor.skip mark ⟨offset, ' ' :: rest⟩ = Cursor.skip mark ⟨offset + 1, rest⟩ := by
  have hdrop : Lexeme.dropBlanks mark false (' ' :: rest) = Lexeme.dropBlanks mark false rest :=
    rfl
  have hlength := (dropBlanks_suffix mark false rest).length_le
  unfold Cursor.skip
  simp only [hdrop, List.length_cons, Cursor.mk.injEq, and_true]
  omega

theorem Rule.result_blanks (mark : Char) (cursor : Cursor) :
    ((do let _ ← Rule.lexeme (Lexeme.blanks mark); return () : Rule Unit) cursor).result =
      some ((), cursor.skip mark) := by
  have htaken : (cursor.rest.take
      (cursor.rest.length - (Lexeme.dropBlanks mark false cursor.rest).length)).length =
      cursor.rest.length - (Lexeme.dropBlanks mark false cursor.rest).length := by
    rw [List.length_take, Nat.min_eq_left (Nat.sub_le _ _)]
  rw [Rule.result_bind, Rule.result_lexeme, Cursor.skip, ← htaken]
  rfl

end Grammar

namespace PatternText

open Grammar

def skip (cursor : Cursor) : Cursor :=
  ⟨cursor.offset + (cursor.rest.length - (Lexeme.dropBlanks '#' false cursor.rest).length),
    Lexeme.dropBlanks '#' false cursor.rest⟩

section Tokens

variable {cursor next : Cursor}

theorem le_offset_skip : cursor.offset ≤ (skip cursor).offset :=
  Nat.le_add_right _ _

theorem result_blanks : (blanks cursor).result = some ((), skip cursor) :=
  Rule.result_blanks '#' cursor

theorem skip_of_opens {c : Char} {rest : List Char} (hrest : cursor.rest = c :: rest)
    (hopens : Lexeme.Opens c) : skip cursor = cursor :=
  Cursor.skip_of_opens hrest hopens.1 hopens.2

def tokenAt (offset : Nat) (found : TokenKind × Lexeme.Split) : Token × Cursor :=
  (⟨found.1, found.2.1, offset⟩, ⟨offset + found.2.1.length, found.2.2⟩)

theorem result_token (kind : TokenKind) :
    (token kind cursor).result =
      (kind.take cursor.rest).map fun split => tokenAt cursor.offset (kind, split) := by
  rw [token, Rule.result_named, Rule.result_bind]
  change ((Rule.lexeme kind.take >>= fun text => pure (Token.mk kind text cursor.offset))
    cursor).result = _
  rw [Rule.result_bind, Rule.result_lexeme]
  cases kind.take cursor.rest <;> rfl

theorem findSome?_token (kinds : List TokenKind) :
    (kinds.findSome? fun kind => (token kind cursor).result) =
      (TokenKind.takeFirst kinds cursor.rest).map (tokenAt cursor.offset) := by
  rw [TokenKind.takeFirst, List.map_findSome?]
  congr 1
  funext kind
  rw [result_token, Function.comp_apply, Option.map_map]
  rfl

theorem result_anyToken :
    (anyToken cursor).result =
      (TokenKind.takeFirst (TokenKind.cutOrder ++ [.punct]) cursor.rest).map
        (tokenAt cursor.offset) := by
  rw [anyToken, Rule.result_named, Rule.result_choice, ← findSome?_token]
  rfl

end Tokens

def scan : Rule Token := do
  let token ← anyToken
  blanks
  return token

theorem tokens_eq : tokens = (blanks >>= fun _ => Rule.many scan) := rfl

theorem result_scan (cursor : Cursor) :
    (scan cursor).result = (anyToken cursor).result.map fun found => (found.1, skip found.2) := by
  rw [scan, Rule.result_bind]
  cases (anyToken cursor).result with
  | none => rfl
  | some found =>
      rw [Option.bind_some, Rule.result_bind, result_blanks]
      rfl

abbrev Scans := Rule.Repeats scan

def Within (text : List Char) (cursor : Cursor) : Prop :=
  cursor.rest = text.drop cursor.offset

section Progress

variable {text : List Char} {cursor next last : Cursor} {token : Token} {tokens : List Token}

theorem within_skip (within : Within text cursor) : Within text (skip cursor) := by
  have hdrop := List.suffix_iff_eq_drop.mp (dropBlanks_suffix '#' false cursor.rest)
  exact hdrop.trans ((congrArg (List.drop _) within).trans List.drop_drop)

theorem anyToken_eq_some (hread : (anyToken cursor).result = some (token, next)) :
    cursor.rest = token.text ++ next.rest ∧ next.offset = cursor.offset + token.text.length ∧
      token.start = cursor.offset ∧ ∃ c word, token.text = c :: word ∧ Lexeme.Opens c := by
  rw [result_anyToken] at hread
  obtain ⟨⟨kind, taken, rest⟩, htake, hboth⟩ := Option.map_eq_some_iff.mp hread
  cases hboth
  obtain ⟨hsplit, hfirst⟩ := TokenKind.take_eq_some (TokenKind.takeFirst_eq_some htake).2
  exact ⟨hsplit, rfl, rfl, hfirst⟩

theorem scan_eq_some (hscan : (scan cursor).result = some (token, next)) :
    ∃ behind, (anyToken cursor).result = some (token, behind) ∧ skip behind = next := by
  rw [result_scan] at hscan
  obtain ⟨⟨found, behind⟩, hread, hboth⟩ := Option.map_eq_some_iff.mp hscan
  cases hboth
  exact ⟨behind, hread, rfl⟩

theorem scan_progress (hscan : (scan cursor).result = some (token, next)) :
    next.rest.length < cursor.rest.length ∧ next.offset ≠ cursor.offset := by
  obtain ⟨behind, hread, rfl⟩ := scan_eq_some hscan
  obtain ⟨hsplit, hoffset, -, c, word, htext, -⟩ := anyToken_eq_some hread
  have hless := (dropBlanks_suffix '#' false behind.rest).length_le
  rw [htext, List.length_cons] at hoffset
  rw [hsplit, htext]
  constructor
  · simp only [skip, List.length_append, List.length_cons]
    omega
  · simp only [skip]
    omega

theorem within_scan (within : Within text cursor)
    (hscan : (scan cursor).result = some (token, next)) :
    Within text next ∧ token.text = (Range.mk token.start token.text.length).slice text := by
  obtain ⟨behind, hread, rfl⟩ := scan_eq_some hscan
  obtain ⟨hsplit, hoffset, hstart, -⟩ := anyToken_eq_some hread
  rw [within] at hsplit
  constructor
  · apply within_skip
    rw [Within, hoffset, ← List.drop_drop, hsplit, List.drop_left]
  · rw [Range.slice, hstart, hsplit, List.take_left]

theorem slices_of_scans (scans : Scans cursor tokens last) (within : Within text cursor) :
    ∀ token ∈ tokens, token.text = (Range.mk token.start token.text.length).slice text := by
  induction scans with
  | nil => exact List.forall_mem_nil _
  | cons first later induction =>
      obtain ⟨hlater, hfirst⟩ := within_scan within first
      exact List.forall_mem_cons.mpr ⟨hfirst, induction hlater⟩

theorem tokens_of_scans (scans : Scans (skip cursor) tokens last) (hend : last.rest = []) :
    (PatternText.tokens cursor).result = some (tokens, last) := by
  rw [tokens_eq, Rule.result_bind, result_blanks]
  exact scans.many (.inl hend) scan_progress

theorem scan_of_anyToken (hread : (anyToken cursor).result = some (token, next)) :
    (scan cursor).result = some (token, skip next) := by
  rw [result_scan, hread]
  rfl

end Progress

def sign (c : Char) (offset : Nat) : Token :=
  ⟨.punct, [c], offset⟩

theorem anyToken_of_sign {c : Char} (hsign : c ∈ TokenKind.signs) (offset : Nat)
    (rest : List Char) :
    (anyToken ⟨offset, c :: rest⟩).result = some (sign c offset, ⟨offset + 1, rest⟩) := by
  rw [TokenKind.mem_signs] at hsign
  rcases hsign with rfl | rfl | rfl | rfl | rfl | rfl | rfl | rfl | rfl | rfl | rfl | rfl <;> rfl

theorem char_sign {c : Char} {cursor next : Cursor} (hsign : c ∈ TokenKind.signs)
    (hread : (Rule.char c cursor).result = some ((), next)) :
    skip cursor = cursor ∧ next.offset = cursor.offset + 1 ∧
      Scans cursor [sign c cursor.offset] (skip next) := by
  obtain ⟨rest, hrest, rfl⟩ := Rule.result_char hread
  refine ⟨skip_of_opens hrest (TokenKind.opens_of_sign hsign), rfl, ?_⟩
  obtain ⟨offset, text⟩ := cursor
  cases hrest
  exact .cons (scan_of_anyToken (anyToken_of_sign hsign offset rest)) (.nil _)

end PatternText

end TreeMatch
