import TreeMatch.Failure
import TreeMatch.Proofs.Grafting

/-! What cutting a text into tokens leaves out: white space and comments, and nothing else. -/

namespace TreeMatch

open Grammar

namespace PatternText

inductive IsGap : List Char → Prop
  | nil : IsGap []
  | blank {c : Char} {gap : List Char} (hblank : Text.isBlank c = true) (hgap : IsGap gap) :
      IsGap (c :: gap)
  | comment {line gap : List Char} (hline : '\n' ∉ line) (hgap : IsGap gap) :
      IsGap ('#' :: (line ++ '\n' :: gap))

inductive IsEnding : List Char → Prop
  | gap {gap : List Char} (hgap : IsGap gap) : IsEnding gap
  | comment {gap line : List Char} (hgap : IsGap gap) (hline : '\n' ∉ line) :
      IsEnding (gap ++ '#' :: line)

/-- The text starts with neither white space nor a comment, and is not at its end. -/
def HasContent (text : List Char) : Prop :=
  ∃ c rest, text = c :: rest ∧ Lexeme.Opens c

section Gaps

variable {gap line text rest : List Char}

theorem dropBlanks_line (hline : '\n' ∉ line) :
    Lexeme.dropBlanks '#' true (line ++ '\n' :: rest) = Lexeme.dropBlanks '#' false rest := by
  induction line with
  | nil => rfl
  | cons c line induction =>
      rw [List.mem_cons, not_or] at hline
      rw [List.cons_append, Lexeme.dropBlanks, decide_eq_true (Ne.symm hline.1)]
      exact induction hline.2

theorem dropBlanks_lastLine (hline : '\n' ∉ line) : Lexeme.dropBlanks '#' true line = [] := by
  induction line with
  | nil => rfl
  | cons c line induction =>
      rw [List.mem_cons, not_or] at hline
      rw [Lexeme.dropBlanks, decide_eq_true (Ne.symm hline.1)]
      exact induction hline.2

theorem IsGap.dropBlanks (hgap : IsGap gap) (rest : List Char) :
    Lexeme.dropBlanks '#' false (gap ++ rest) = Lexeme.dropBlanks '#' false rest := by
  induction hgap with
  | nil => rfl
  | blank hblank hgap induction =>
      rw [List.cons_append, Lexeme.dropBlanks, if_pos hblank, induction]
  | comment hline hgap induction =>
      have hmark : Text.isBlank '#' = false := by decide
      rw [List.cons_append, Lexeme.dropBlanks, hmark, if_neg Bool.false_ne_true, if_pos rfl,
        List.append_assoc, List.cons_append, dropBlanks_line hline, induction]

theorem IsEnding.dropBlanks (hending : IsEnding text) :
    Lexeme.dropBlanks '#' false text = [] := by
  cases hending with
  | gap hgap =>
      have hdrop := hgap.dropBlanks []
      rwa [List.append_nil] at hdrop
  | comment hgap hline =>
      have hmark : Text.isBlank '#' = false := by decide
      rw [hgap.dropBlanks, Lexeme.dropBlanks, hmark, if_neg Bool.false_ne_true, if_pos rfl,
        dropBlanks_lastLine hline]

theorem HasContent.dropBlanks (content : HasContent text) :
    Lexeme.dropBlanks '#' false text = text := by
  obtain ⟨c, rest, rfl, hblank, hmark⟩ := content
  rw [Lexeme.dropBlanks, hblank, if_neg Bool.false_ne_true, if_neg hmark]

theorem IsGap.append (hgap : IsGap gap) (hrest : IsGap rest) : IsGap (gap ++ rest) := by
  induction hgap with
  | nil => exact hrest
  | blank hblank hgap induction => exact .blank hblank induction
  | comment hline hgap induction =>
      rw [List.cons_append, List.append_assoc]
      exact .comment hline induction

theorem IsGap.append_ending (hgap : IsGap gap) (hending : IsEnding rest) :
    IsEnding (gap ++ rest) := by
  cases hending with
  | gap hrest => exact .gap (hgap.append hrest)
  | comment hrest hline =>
      rw [← List.append_assoc]
      exact .comment (hgap.append hrest) hline

/-- A text is an ending, or starts with a gap behind which there is content. -/
theorem exists_gap (text : List Char) :
    IsEnding text ∨ ∃ gap rest, text = gap ++ rest ∧ IsGap gap ∧ HasContent rest := by
  -- Behind a gap the rest of the text is shorter, and what holds of it holds of the whole.
  have extend {gap later : List Char} (hgap : IsGap gap)
      (hlater : IsEnding later ∨ ∃ gap rest, later = gap ++ rest ∧ IsGap gap ∧ HasContent rest) :
      IsEnding (gap ++ later) ∨
        ∃ before rest, gap ++ later = before ++ rest ∧ IsGap before ∧ HasContent rest := by
    rcases hlater with hending | ⟨other, rest, rfl, hother, content⟩
    · exact .inl (hgap.append_ending hending)
    · exact .inr ⟨gap ++ other, rest, (List.append_assoc _ _ _).symm, hgap.append hother, content⟩
  match text with
  | [] => exact .inl (.gap .nil)
  | c :: later =>
      by_cases hblank : Text.isBlank c = true
      · exact extend (.blank hblank .nil) (exists_gap later)
      · by_cases hmark : c = '#'
        · subst hmark
          by_cases hclosed : '\n' ∈ later
          · obtain ⟨line, behind, hlater, hline⟩ := List.eq_append_cons_of_mem hclosed
            have hless : behind.length < later.length := by
              rw [hlater, List.length_append, List.length_cons]
              omega
            have hcomment := extend (.comment hline .nil) (exists_gap behind)
            rw [hlater]
            simpa using hcomment
          · exact .inl (.comment .nil hclosed)
        · exact .inr ⟨[], c :: later, rfl, .nil, c, later, rfl, by simpa using hblank, hmark⟩
termination_by text.length
decreasing_by
  all_goals
    rw [List.length_cons]
    omega

end Gaps

/-- The tokens between two places: behind a gap each is what the first kind of token that applies
takes. -/
inductive Cuts : Cursor → List Token → Cursor → Prop
  | stop (cursor : Cursor) : Cuts cursor [] cursor
  | token {offset : Nat} {gap text taken rest : List Char} {kind : TokenKind}
      {tokens : List Token} {last : Cursor} (hgap : IsGap gap)
      (htake : TokenKind.takeFirst (TokenKind.cutOrder ++ [.punct]) text =
        some (kind, taken, rest))
      (later : Cuts ⟨offset + gap.length + taken.length, rest⟩ tokens last) :
      Cuts ⟨offset, gap ++ text⟩ (⟨kind, taken, offset + gap.length⟩ :: tokens) last

section Places

variable {cursor last : Cursor} {gap text : List Char} {tokens : List Token} {token : Token}

theorem skip_of_gap {offset : Nat} (hgap : IsGap gap) (content : HasContent text) :
    skip ⟨offset, gap ++ text⟩ = ⟨offset + gap.length, text⟩ := by
  refine Cursor.skip_of_dropBlanks ?_
  rw [hgap.dropBlanks, content.dropBlanks]

theorem rest_skip_of_ending (hending : IsEnding cursor.rest) : (skip cursor).rest = [] :=
  hending.dropBlanks

theorem hasContent_of_anyToken {next : Cursor}
    (hread : (anyToken cursor).result = some (token, next)) : HasContent cursor.rest := by
  obtain ⟨hsplit, -, -, c, word, htext, hopens⟩ := anyToken_eq_some hread
  exact ⟨c, word ++ next.rest, by rw [hsplit, htext, List.cons_append], hopens⟩

/-- Where content is reached once blanks are skipped, a gap stands in front of it. -/
theorem exists_gap_of_hasContent (content : HasContent (skip cursor).rest) :
    ∃ gap, IsGap gap ∧ cursor.rest = gap ++ (skip cursor).rest ∧
      (skip cursor).offset = cursor.offset + gap.length := by
  rcases exists_gap cursor.rest with hending | ⟨gap, rest, hrest, hgap, hcontent⟩
  · obtain ⟨c, rest, hnone, -⟩ := content
    rw [rest_skip_of_ending hending] at hnone
    cases hnone
  · obtain ⟨offset, text⟩ := cursor
    dsimp only at hrest
    subst hrest
    rw [skip_of_gap hgap hcontent]
    exact ⟨gap, hgap, rfl, rfl⟩

theorem Cuts.scans (cuts : Cuts cursor tokens last) : Scans (skip cursor) tokens (skip last) := by
  induction cuts with
  | stop cursor => exact .nil _
  | @token offset gap text taken rest kind tokens last hgap htake later induction =>
      have hread : (anyToken ⟨offset + gap.length, text⟩).result =
          some (⟨kind, taken, offset + gap.length⟩,
            ⟨offset + gap.length + taken.length, rest⟩) := by
        rw [result_anyToken, htake]
        rfl
      have hcontent := hasContent_of_anyToken hread
      rw [skip_of_gap hgap hcontent]
      exact .cons (scan_of_anyToken hread) induction

theorem Cuts.of_scans {behind : Cursor} (scans : Scans behind tokens last)
    (hskip : skip cursor = behind) : ∃ stop, Cuts cursor tokens stop ∧ skip stop = last := by
  induction scans generalizing cursor with
  | nil behind => exact ⟨cursor, .stop cursor, hskip⟩
  | @cons behind next last token tokens first later induction =>
      obtain ⟨place, hread, hnext⟩ := scan_eq_some first
      subst hskip
      obtain ⟨gap, hgap, hrest, hoffset⟩ := exists_gap_of_hasContent (hasContent_of_anyToken hread)
      obtain ⟨stop, cuts, hstop⟩ := induction hnext
      rw [result_anyToken] at hread
      obtain ⟨⟨kind, taken, rest⟩, htake, hboth⟩ := Option.map_eq_some_iff.mp hread
      cases hboth
      obtain ⟨offset, text⟩ := cursor
      rw [hoffset] at cuts ⊢
      dsimp only at hrest cuts ⊢
      rw [hrest]
      exact ⟨stop, .token hgap htake cuts, hstop⟩

theorem Cuts.apart (cuts : Cuts cursor tokens last) :
    (∀ token ∈ tokens, cursor.offset ≤ token.start) ∧
      tokens.Pairwise fun first second => first.start + first.text.length ≤ second.start := by
  induction cuts with
  | stop cursor => exact ⟨List.forall_mem_nil _, .nil⟩
  | token hgap htake later induction =>
      obtain ⟨hbehind, hapart⟩ := induction
      refine ⟨List.forall_mem_cons.mpr ⟨Nat.le_add_right _ _, fun token member => ?_⟩,
        .cons hbehind hapart⟩
      have hstart := hbehind token member
      dsimp only at hstart ⊢
      omega

theorem Cuts.ne_nil (cuts : Cuts cursor tokens last) : ∀ token ∈ tokens, token.text ≠ [] := by
  induction cuts with
  | stop cursor => exact List.forall_mem_nil _
  | token hgap htake later induction =>
      refine List.forall_mem_cons.mpr ⟨?_, induction⟩
      obtain ⟨-, c, word, htaken, -⟩ :=
        TokenKind.take_eq_some (TokenKind.takeFirst_eq_some htake).2
      rw [htaken]
      exact List.cons_ne_nil c word

end Places

end PatternText

open PatternText

/-- From an offset on only gaps stand in front of the tokens, and an ending behind the last one. -/
def StandInGaps (text : List Char) : Nat → List Token → Prop
  | offset, [] => IsEnding (text.drop offset)
  | offset, token :: tokens =>
    IsGap ((Range.between offset token.start).slice text) ∧
      StandInGaps text (token.start + token.text.length) tokens

/-- The tokens, put back where they start, make up the text but for gaps. -/
structure ArePartsOf (tokens : List Token) (text : List Char) : Prop where
  nonempty : ∀ token ∈ tokens, token.text ≠ []
  slices : ∀ token ∈ tokens,
    token.text = (Range.mk token.start token.text.length).slice text
  increasing : tokens.Pairwise fun first second => first.start < second.start
  apart : tokens.Pairwise fun first second => first.start + first.text.length ≤ second.start
  gaps : StandInGaps text 0 tokens

/-- Cut into tokens up to there, a text has content at an offset where no kind of token applies. -/
def IsStuckAt (text : List Char) (offset : Nat) : Prop :=
  ∃ tokens before gap rest, Cuts (Cursor.ofText text) tokens ⟨before, gap ++ rest⟩ ∧
    IsGap gap ∧ offset = before + gap.length ∧ HasContent rest ∧
    ∀ kind : TokenKind, kind.take rest = none

section Texts

variable {text : List Char} {tokens : List Token} {cursor last : Cursor}

theorem PatternText.Cuts.standInGaps (cuts : Cuts cursor tokens last)
    (within : Within text cursor) (hending : IsEnding last.rest) :
    StandInGaps text cursor.offset tokens := by
  induction cuts with
  | stop cursor =>
      rw [within] at hending
      exact hending
  | @token offset gap front taken rest kind tokens last hgap htake later induction =>
      have hsplit := (TokenKind.take_eq_some (TokenKind.takeFirst_eq_some htake).2).1
      have hrest : gap ++ front = text.drop offset := within
      refine ⟨?_, induction ?_ hending⟩
      · rw [Range.slice, Range.between]
        dsimp only
        rw [← hrest, Nat.add_sub_cancel_left, List.take_left]
        exact hgap
      · rw [Within, ← List.drop_drop, ← List.drop_drop, ← hrest, List.drop_left, hsplit,
          List.drop_left]

theorem isEnding_of_rest_skip (hend : (skip cursor).rest = []) : IsEnding cursor.rest := by
  rcases exists_gap cursor.rest with hending | ⟨gap, rest, hrest, hgap, content⟩
  · exact hending
  · have hdrop : Lexeme.dropBlanks '#' false cursor.rest = [] := hend
    rw [hrest, hgap.dropBlanks, content.dropBlanks] at hdrop
    obtain ⟨c, others, hcons, -⟩ := content
    rw [hdrop] at hcons
    cases hcons

theorem tokenize_eq_ok_iff :
    tokenize text = .ok tokens ↔
      ∃ last, Cuts (Cursor.ofText text) tokens last ∧ IsEnding last.rest := by
  rw [tokenize, mapError_eq_ok, Rule.readAll_eq_ok]
  constructor
  · rintro ⟨last, hread, hend⟩
    rw [tokens_eq, Rule.result_bind, result_blanks] at hread
    obtain ⟨stop, cuts, hstop⟩ := Cuts.of_scans (Rule.Repeats.of_many hread) rfl
    exact ⟨stop, cuts, isEnding_of_rest_skip (by rw [hstop, hend])⟩
  · rintro ⟨last, cuts, hending⟩
    have hend := rest_skip_of_ending hending
    exact ⟨skip last, tokens_of_scans cuts.scans hend, hend⟩

theorem takeFirst_eq_none_iff :
    TokenKind.takeFirst (TokenKind.cutOrder ++ [.punct]) text = none ↔
      ∀ kind : TokenKind, kind.take text = none := by
  rw [TokenKind.takeFirst, List.findSome?_eq_none_iff]
  constructor
  · intro hnone kind
    have member : kind ∈ TokenKind.cutOrder ++ [.punct] := by cases kind <;> decide
    exact Option.map_eq_none_iff.mp (hnone kind member)
  · intro hnone kind _
    rw [hnone kind, Option.map_none]

theorem result_scan_eq_none_iff :
    (scan cursor).result = none ↔ ∀ kind : TokenKind, kind.take cursor.rest = none := by
  rw [result_scan, Option.map_eq_none_iff, result_anyToken, Option.map_eq_none_iff,
    takeFirst_eq_none_iff]

theorem exists_cuts (text : List Char) :
    ∃ tokens stop, Cuts (Cursor.ofText text) tokens stop ∧
      (IsEnding stop.rest ∨ ∃ gap rest, stop.rest = gap ++ rest ∧ IsGap gap ∧ HasContent rest ∧
        ∀ kind : TokenKind, kind.take rest = none) := by
  obtain ⟨tokens, last, scans, hstops⟩ :=
    Rule.Repeats.exists_stop scan_progress (skip (Cursor.ofText text))
  obtain ⟨stop, cuts, rfl⟩ := Cuts.of_scans scans rfl
  refine ⟨tokens, stop, cuts, ?_⟩
  rcases exists_gap stop.rest with hending | ⟨gap, rest, hrest, hgap, content⟩
  · exact .inl hending
  · have hskip : (skip stop).rest = rest := by
      change Lexeme.dropBlanks '#' false stop.rest = rest
      rw [hrest, hgap.dropBlanks, content.dropBlanks]
    rw [hskip, result_scan_eq_none_iff, hskip] at hstops
    refine .inr ⟨gap, rest, hrest, hgap, content, hstops.resolve_left ?_⟩
    obtain ⟨c, others, rfl, -⟩ := content
    exact List.cons_ne_nil c others

theorem tokenize_of_isStuckAt {offset : Nat} (stuck : IsStuckAt text offset) :
    tokenize text = .error (.unreadable (.trailing offset)) := by
  obtain ⟨tokens, before, gap, rest, cuts, hgap, rfl, content, hnone⟩ := stuck
  have hstops : (scan ⟨before + gap.length, rest⟩).result = none :=
    result_scan_eq_none_iff.mpr hnone
  have scans := cuts.scans
  rw [skip_of_gap hgap content] at scans
  have hread : (PatternText.tokens (Cursor.ofText text)).result =
      some (tokens, ⟨before + gap.length, rest⟩) := by
    rw [tokens_eq, Rule.result_bind, result_blanks]
    exact scans.many (.inr hstops) scan_progress
  obtain ⟨c, others, rfl, -⟩ := content
  refine mapError_eq_error.mpr ⟨_, ?_, rfl⟩
  exact Rule.readAll_of_rest hread (List.cons_ne_nil c others)

theorem tokenize_eq_error_iff {fault : PatternFault} :
    tokenize text = .error fault ↔
      ∃ offset, IsStuckAt text offset ∧ fault = .unreadable (.trailing offset) := by
  constructor
  · intro hfault
    obtain ⟨tokens, stop, cuts, hending | ⟨gap, rest, hrest, hgap, content, hnone⟩⟩ :=
      exists_cuts text
    · rw [tokenize_eq_ok_iff.mpr ⟨stop, cuts, hending⟩] at hfault
      cases hfault
    · obtain ⟨before, behind⟩ := stop
      dsimp only at hrest
      subst hrest
      have stuck : IsStuckAt text (before + gap.length) :=
        ⟨tokens, before, gap, rest, cuts, hgap, rfl, content, hnone⟩
      rw [tokenize_of_isStuckAt stuck] at hfault
      cases hfault
      exact ⟨_, stuck, rfl⟩
  · rintro ⟨offset, stuck, rfl⟩
    exact tokenize_of_isStuckAt stuck

theorem arePartsOf_of_tokenize (hcut : tokenize text = .ok tokens) : ArePartsOf tokens text := by
  obtain ⟨last, cuts, hending⟩ := tokenize_eq_ok_iff.mp hcut
  have within : Within text (Cursor.ofText text) := rfl
  obtain ⟨-, hapart⟩ := cuts.apart
  refine ⟨cuts.ne_nil, slices_of_scans cuts.scans (within_skip within), ?_, hapart,
    cuts.standInGaps within hending⟩
  refine hapart.imp_of_mem fun {first second} member _ hstop => ?_
  have hlength := List.length_pos_of_ne_nil (cuts.ne_nil first member)
  omega

end Texts

/-- The tokens of a text make up the text but for gaps. Only a text that is stuck at an offset has
no tokens, and that offset is reported as one of trailing input. -/
theorem tokenize_partitions (text : List Char) :
    (∀ tokens, tokenize text = .ok tokens → ArePartsOf tokens text) ∧
    (∀ fault, tokenize text = .error fault ↔
      ∃ offset, IsStuckAt text offset ∧ fault = .unreadable (.trailing offset)) ∧
    ∀ fault, tokenize text = .error fault → ∃ offset report, IsStuckAt text offset ∧
      Failure.ofPatternFault text fault = .reported report ∧
        report.code = .trailingInput ∧ report.span = Span.ofOffsets text offset none "" := by
  refine ⟨fun _ => arePartsOf_of_tokenize, fun _ => tokenize_eq_error_iff, fun fault hfault => ?_⟩
  obtain ⟨offset, stuck, rfl⟩ := tokenize_eq_error_iff.mp hfault
  exact ⟨offset, _, stuck, rfl, rfl, rfl⟩

/-- A comment hides what stands in it, and no token starts with an at sign. -/
theorem tokenize_partitions_comment :
    (tokenize "(a # )\n7)".toList = .ok [⟨.punct, ['('], 0⟩, ⟨.nodeType, ['a'], 1⟩,
        ⟨.number, ['7'], 7⟩, ⟨.punct, [')'], 8⟩] ∧
      ArePartsOf [⟨.punct, ['('], 0⟩, ⟨.nodeType, ['a'], 1⟩, ⟨.number, ['7'], 7⟩,
        ⟨.punct, [')'], 8⟩] "(a # )\n7)".toList) ∧
    ∃ offset report, IsStuckAt "a @".toList offset ∧
      Failure.ofPatternFault "a @".toList (.unreadable (.trailing 2)) = .reported report ∧
        report.code = .trailingInput ∧
        report.span = Span.ofOffsets "a @".toList offset none "" := by
  have hcut : tokenize "(a # )\n7)".toList = .ok [⟨.punct, ['('], 0⟩, ⟨.nodeType, ['a'], 1⟩,
      ⟨.number, ['7'], 7⟩, ⟨.punct, [')'], 8⟩] := by cbv
  have hstuck : tokenize "a @".toList = .error (.unreadable (.trailing 2)) := rfl
  exact ⟨⟨hcut, (tokenize_partitions _).1 _ hcut⟩, (tokenize_partitions _).2.2 _ hstuck⟩

end TreeMatch
