import TreeMatch.Proofs.Grafting
import TreeMatch.Proofs.Inline

/-! Where a pattern text is found faulty: behind a pattern, or at a place up to which the text can
still become one. -/

namespace TreeMatch

variable {chart : Text.CodeChart}

open Grammar

namespace Grammar

theorem Miss.mem_of_furthest {misses : List Miss} {miss : Miss}
    (hfurthest : Miss.furthest misses = some miss) : miss ∈ misses := by
  have hfold : ∀ (misses : List Miss) (recorded : Option Miss),
      misses.foldl Miss.note recorded = some miss → recorded = some miss ∨ miss ∈ misses := by
    intro misses
    induction misses with
    | nil => exact fun recorded hsame => .inl hsame
    | cons head rest induction =>
        intro recorded hnoted
        rcases induction _ hnoted with hhead | hrest
        · cases recorded with
          | none =>
              cases hhead
              exact .inr (.head _)
          | some old =>
              unfold Miss.note at hhead
              dsimp only at hhead
              split at hhead
              · cases hhead
                exact .inr (.head _)
              · exact .inl hhead
        · exact .inr (.tail _ hrest)
  rcases hfold misses none hfurthest with hnone | member
  · cases hnone
  · exact member

def Rule.MissesIn (places : Nat → Prop) (rule : Rule α) (cursor : Cursor) : Prop :=
  ∀ miss ∈ (rule cursor).misses, places miss.offset

namespace Rule.MissesIn

variable {places : Nat → Prop} {rule : Rule α} {cursor : Cursor}

theorem none (hmisses : (rule cursor).misses = []) : MissesIn places rule cursor := by
  intro miss member
  rw [hmisses] at member
  cases member

theorem bind {next : α → Rule β} (first : MissesIn places rule cursor)
    (later : ∀ {value behind}, (rule cursor).result = some (value, behind) →
      MissesIn places (next value) behind) : MissesIn places (rule >>= next) cursor := by
  change MissesIn places (andThen rule next) cursor
  unfold MissesIn at first
  unfold MissesIn andThen
  rcases hrule : rule cursor with ⟨misses, _ | ⟨value, behind⟩⟩
  · rw [hrule] at first
    exact first
  · rw [hrule] at first
    exact List.forall_mem_append.mpr ⟨first, later (congrArg Outcome.result hrule)⟩

theorem named (inner : MissesIn places rule cursor) (here : places cursor.offset) :
    MissesIn places (Rule.named rule) cursor := by
  unfold MissesIn at inner
  unfold MissesIn Rule.named
  rcases hrule : rule cursor with ⟨misses, _ | ⟨value, behind⟩⟩
  · rw [hrule] at inner
    exact List.forall_mem_append.mpr ⟨inner, List.forall_mem_singleton.mpr here⟩
  · rw [hrule] at inner
    exact inner

theorem orElse {second : Rule α} (hfirst : MissesIn places rule cursor)
    (hsecond : MissesIn places second cursor) :
    MissesIn places (Rule.orElse rule second) cursor := by
  unfold MissesIn at hfirst
  unfold MissesIn Rule.orElse
  rcases hrule : rule cursor with ⟨misses, _ | ⟨value, behind⟩⟩
  · rw [hrule] at hfirst
    exact List.forall_mem_append.mpr ⟨hfirst, hsecond⟩
  · rw [hrule] at hfirst
    exact hfirst

theorem choice {others : List (Rule α)}
    (each : ∀ alternative ∈ rule :: others, MissesIn places alternative cursor) :
    MissesIn places (Rule.choice rule others) cursor := by
  obtain ⟨hfirst, hothers⟩ := List.forall_mem_cons.mp each
  clear each
  unfold Rule.choice
  induction others generalizing rule with
  | nil => exact hfirst
  | cons other rest induction =>
      obtain ⟨hother, hrest⟩ := List.forall_mem_cons.mp hothers
      exact induction (hfirst.orElse hother) hrest

theorem lexeme {take : List Char → Option (List Char × List Char)} (here : places cursor.offset) :
    MissesIn places (Rule.lexeme take) cursor := by
  unfold MissesIn Rule.lexeme
  rcases take cursor.rest with _ | ⟨taken, rest⟩
  · exact List.forall_mem_singleton.mpr here
  · exact List.forall_mem_nil _

theorem char {c : Char} (here : places cursor.offset) :
    MissesIn places (Rule.char c) cursor := by
  unfold MissesIn Rule.char
  split
  · exact List.forall_mem_singleton.mpr here
  · split
    · exact List.forall_mem_nil _
    · exact List.forall_mem_singleton.mpr here

theorem optional (inner : MissesIn places rule cursor) :
    MissesIn places (Rule.optional rule) cursor := by
  unfold MissesIn at inner
  unfold MissesIn Rule.optional
  split
  · exact List.forall_mem_nil _
  · rcases hrule : rule cursor with ⟨misses, _ | ⟨value, behind⟩⟩ <;> rw [hrule] at inner <;>
      exact inner

theorem many
    (each : ∀ {values last}, Repeats rule cursor values last → MissesIn places rule last) :
    MissesIn places (Rule.many rule) cursor := by
  have within : ∀ (fuel : Nat) {cursor : Cursor},
      (∀ {values last}, Repeats rule cursor values last → MissesIn places rule last) →
      MissesIn places (manyWithin rule fuel) cursor := by
    intro fuel
    induction fuel with
    | zero => exact fun _ => .none rfl
    | succ fuel induction =>
        intro cursor each
        have first := each (.nil cursor)
        unfold MissesIn at first
        unfold MissesIn manyWithin
        split
        · exact List.forall_mem_nil _
        · rcases hrule : rule cursor with ⟨misses, _ | ⟨value, next⟩⟩
          · rw [hrule] at first
            exact first
          · rw [hrule] at first
            have hnext := congrArg Outcome.result hrule
            have later := induction fun repeats => each (.cons hnext repeats)
            unfold MissesIn at later
            dsimp only
            split
            · exact first
            · rcases hmore : manyWithin rule fuel next with ⟨more, _ | ⟨values, last⟩⟩ <;>
                rw [hmore] at later <;> exact List.forall_mem_append.mpr ⟨first, later⟩
  exact within _ each

end Rule.MissesIn

end Grammar

namespace PatternText

def Accepted (text : List Char) : Prop :=
  ∃ lexed, pattern.readAll text = .ok lexed

def Viable (front : List Char) : Prop :=
  ∃ behind, Accepted (front ++ behind)

def ViableAt (text : List Char) (offset : Nat) : Prop :=
  offset ≤ text.length ∧ Viable (text.take offset)

theorem viableAt_of_split {text front rest : List Char} {offset : Nat}
    (htext : text = front ++ rest) (hoffset : offset = front.length) (viable : Viable front) :
    ViableAt text offset := by
  subst htext hoffset
  rw [ViableAt, List.take_left, List.length_append]
  exact ⟨Nat.le_add_right _ _, viable⟩

/-- A place where a term may stand: the front of a text, behind a mark, and inside brackets behind
terms. -/
inductive Awaits (text : List Char) : Cursor → Prop
  | start : Awaits text (skip (Cursor.ofText text))
  | mark {cursor : Cursor} {mark : Mark} {rest : List Char} (awaits : Awaits text cursor)
      (hrest : cursor.rest = mark.char :: rest) : Awaits text ⟨cursor.offset + 1, rest⟩
  | term {cursor last : Cursor} {bracket : Bracket} {rest : List Char}
      {patterns : List (Pattern Lexed)} (awaits : Awaits text cursor)
      (hrest : cursor.rest = bracket.left :: rest)
      (hterms : Pattern.OccupiesAll patterns ⟨cursor.offset + 1, rest⟩ last) :
      Awaits text (skip last)

/-- What stands in front of a place makes a pattern with a term put there and what closes all
brackets. The term starts like what stands there, so no lexeme in front of it reads on. -/
structure Resumes (text : List Char) (cursor : Cursor) (front closing : List Char) : Prop where
  split : text = front ++ cursor.rest
  offset : cursor.offset = front.length
  viable : Viable front
  accepted : ∀ {piece : Pattern Lexed} {next : Cursor} {other : List Char},
    other.head? = cursor.rest.head? → piece.Stands ⟨cursor.offset, other⟩ next →
    next.rest = ' ' :: closing → Accepted (front ++ other)

section Terms

variable {text front closing rest other : List Char} {cursor next last : Cursor}
  {patterns : List (Pattern Lexed)} {pattern piece : Pattern Lexed}

theorem follows_space (rest other : List Char) : Lexeme.Follows rest (' ' :: other) := by
  intro c hhead
  cases hhead
  exact .inr (.inl rfl)

theorem ends_space (hrest : next.rest = ' ' :: rest) : pattern.Ends next := by
  intro hatom quantity hhead
  rw [hrest] at hhead
  cases quantity <;> cases hhead

theorem exists_word (hrest : cursor.rest = 'a' :: ' ' :: rest) :
    ∃ (piece : Pattern Lexed) (next : Cursor), piece.Stands cursor next ∧
      next.rest = ' ' :: rest := by
  have hword : TokenKind.takeFirst TokenKind.leafOrder ['a'] = some (.nodeType, ['a'], []) := by
    decide
  have htake := TokenKind.takeFirst_of_follows hword (follows_space [] rest)
  refine ⟨.leaf _ ⟨.nodeType, ['a']⟩, ⟨cursor.offset + 1, ' ' :: rest⟩, ⟨⟨?_, rfl, rfl⟩, ?_⟩, rfl⟩
  · rw [hrest]
    exact htake
  · exact ends_space rfl

theorem occupiesAll_append (occupies : Pattern.OccupiesAll patterns cursor last)
    (stands : piece.Stands (skip last) next) :
    Pattern.OccupiesAll (patterns ++ [piece]) cursor next := by
  induction patterns generalizing cursor with
  | nil =>
      cases occupies
      exact ⟨next, stands.occupies, stands.ends, rfl⟩
  | cons pattern patterns induction =>
      obtain ⟨behind, hfirst, hends, hrest⟩ := occupies
      exact ⟨behind, hfirst, hends, induction hrest⟩

theorem exists_grouped {bracket : Bracket} (hrest : cursor.rest = bracket.left :: rest)
    (occupies : Pattern.OccupiesAll (patterns ++ [piece]) ⟨cursor.offset + 1, rest⟩ last)
    (hlast : last.rest = ' ' :: bracket.right :: ' ' :: other) :
    ∃ (whole : Pattern Lexed) (next : Cursor), whole.Stands cursor next ∧
      next.rest = ' ' :: other := by
  obtain ⟨first, others, hpatterns⟩ : ∃ first others, patterns ++ [piece] = first :: others := by
    cases patterns with
    | nil => exact ⟨_, _, rfl⟩
    | cons first others => exact ⟨_, _, rfl⟩
  rw [hpatterns] at occupies
  obtain ⟨parted, hfirst, hends, hothers⟩ := occupies
  have hclosing : (skip last).rest = bracket.right :: ' ' :: other := by
    unfold skip
    rw [hlast]
    cases bracket <;> rfl
  refine ⟨.grouped (Range.between cursor.offset ((skip last).offset + 1)) bracket first others,
    ⟨(skip last).offset + 1, ' ' :: other⟩, ⟨?_, ?_⟩, rfl⟩
  · exact ⟨rest, parted, last, hrest, hfirst, hends, hothers, hclosing, rfl, rfl⟩
  · exact ends_space rfl

theorem resumes_skip (htext : text = front ++ cursor.rest) (hoffset : cursor.offset = front.length)
    (haccepted : ∀ {piece : Pattern Lexed} {next : Cursor} {other : List Char},
      Lexeme.Follows cursor.rest other → piece.Stands (skip ⟨cursor.offset, other⟩) next →
      next.rest = ' ' :: closing → Accepted (front ++ other)) :
    ∃ front, Resumes text (skip cursor) front closing := by
  obtain ⟨skipped, hrest, hskip, hdrop⟩ := exists_skipped cursor
  refine ⟨front ++ skipped, ?_, ?_, ⟨' ' :: '\n' :: 'a' :: ' ' :: closing, ?_⟩, ?_⟩
  · rw [List.append_assoc, ← hrest]
    exact htext
  · rw [hskip, hoffset, List.length_append]
  · -- A line feed closes the comment that the blanks may end in.
    have hword : (skip ⟨cursor.offset, skipped ++ ' ' :: '\n' :: 'a' :: ' ' :: closing⟩).rest =
        'a' :: ' ' :: closing :=
      (Lexeme.dropBlanks_lineFeed hdrop _).trans rfl
    obtain ⟨piece, next, stands, hnext⟩ := exists_word hword
    have hfollows : Lexeme.Follows cursor.rest
        (skipped ++ ' ' :: '\n' :: 'a' :: ' ' :: closing) := by
      rw [hrest]
      exact (follows_space _ _).append
    rw [List.append_assoc]
    exact haccepted hfollows stands hnext
  · intro piece next other hhead stands hnext
    obtain ⟨c, tail, hother, -⟩ := Pattern.opening_of_occupies stands.occupies
    change other = c :: tail at hother
    subst hother
    obtain ⟨behind, hbehind⟩ := List.head?_eq_some_iff.mp hhead.symm
    have hfollows : Lexeme.Follows cursor.rest (skipped ++ c :: tail) := by
      rw [hrest, hbehind]
      exact (Lexeme.Follows.cons c behind tail).append
    have hplace : skip ⟨cursor.offset, skipped ++ c :: tail⟩ = ⟨(skip cursor).offset, c :: tail⟩ := by
      rw [hbehind] at hdrop
      rw [hskip]
      exact Cursor.skip_of_dropBlanks (Lexeme.dropBlanks_append hdrop tail)
    rw [← hplace] at stands
    rw [List.append_assoc]
    exact haccepted hfollows stands hnext

/-- A text that has come to a place where a term may stand can go on to become a pattern. -/
theorem Awaits.resumes (awaits : Awaits text cursor) :
    ∃ front closing, Resumes text cursor front closing := by
  induction awaits with
  | start =>
      obtain ⟨front, resumes⟩ : ∃ front, Resumes text (skip (Cursor.ofText text)) front [] := by
        refine resumes_skip (List.nil_append _).symm rfl fun {piece next other} _ stands hnext => ?_
        refine ⟨piece, readAll_pattern_iff.mpr ⟨next, stands, ?_⟩⟩
        unfold skip
        rw [hnext]
        rfl
      exact ⟨front, [], resumes⟩
  | @mark cursor mark rest awaits hrest induction =>
      obtain ⟨front, closing, outer⟩ := induction
      have haccepted : ∀ {piece : Pattern Lexed} {next : Cursor} {other : List Char},
          piece.Stands ⟨cursor.offset + 1, other⟩ next → next.rest = ' ' :: closing →
          Accepted ((front ++ [mark.char]) ++ other) := by
        intro piece next other stands hnext
        have hmarked : (Pattern.marked _ mark piece).Stands
            ⟨cursor.offset, mark.char :: other⟩ next :=
          ⟨⟨other, rfl, stands.occupies, stands.ends, rfl⟩, ends_space hnext⟩
        rw [List.append_assoc]
        exact outer.accepted (by rw [hrest]; rfl) hmarked hnext
      obtain ⟨piece, next, stands, hnext⟩ :=
        @exists_word closing ⟨cursor.offset + 1, 'a' :: ' ' :: closing⟩ rfl
      refine ⟨front ++ [mark.char], closing, ?_, ?_, ⟨_, haccepted stands hnext⟩, ?_⟩
      · rw [outer.split, hrest, List.append_assoc]
        rfl
      · rw [List.length_append, ← outer.offset]
        rfl
      · exact fun _ => haccepted
  -- The terms read so far go in front of what is still to come, in the same bracket.
  | @term cursor last bracket rest patterns awaits hrest hterms induction =>
      obtain ⟨front, closing, outer⟩ := induction
      obtain ⟨between, hbetween, hlast⟩ := Pattern.reaches_of_occupiesAll hterms
      change rest = between ++ last.rest at hbetween
      change last.offset = cursor.offset + 1 + between.length at hlast
      have hsplit : text = (front ++ bracket.left :: between) ++ last.rest := by
        rw [outer.split, hrest, hbetween, List.append_assoc]
        rfl
      have hinside : ∃ front, Resumes text (skip last) front (bracket.right :: ' ' :: closing) := by
        refine resumes_skip hsplit ?_ ?_
        · rw [hlast, outer.offset, List.length_append, List.length_cons]
          omega
        · intro piece next other hfollows stands hnext
          have hall := Pattern.occupiesAll_onto
            (fun _ _ _ _ occupies reaches => Pattern.occupies_onto hfollows occupies reaches)
            hfollows hterms (.refl last)
          rw [Cursor.onto_self, Cursor.onto_of_rest hbetween] at hall
          obtain ⟨whole, behind, hwhole, hbehind⟩ :=
            @exists_grouped _ _ ⟨cursor.offset, bracket.left :: (between ++ other)⟩ _ _ _ _ rfl
              (occupiesAll_append hall stands) hnext
          rw [List.append_assoc]
          exact outer.accepted (by rw [hrest]; rfl) hwhole hbehind
      obtain ⟨front, resumes⟩ := hinside
      exact ⟨front, _, resumes⟩

theorem Awaits.viableAt (awaits : Awaits text cursor) : ViableAt text cursor.offset := by
  obtain ⟨front, closing, resumes⟩ := awaits.resumes
  exact viableAt_of_split resumes.split resumes.offset resumes.viable

theorem Awaits.viableAt_behind (awaits : Awaits text cursor)
    (occupies : pattern.Occupies cursor next) : ViableAt text next.offset := by
  obtain ⟨front, closing, resumes⟩ := awaits.resumes
  obtain ⟨taken, hrest, hoffset⟩ := Pattern.reaches_of_occupies occupies
  have hagain := Pattern.occupies_onto (follows_space _ closing) occupies (.refl next)
  rw [Cursor.onto_self, Cursor.onto_of_rest hrest] at hagain
  have hhead : (taken ++ ' ' :: closing).head? = cursor.rest.head? := by
    have hless := Pattern.length_lt_of_occupies occupies
    rw [hrest] at hless ⊢
    cases taken with
    | nil => simp at hless
    | cons c taken => rfl
  have hsplit : text = (front ++ taken) ++ next.rest := by
    rw [resumes.split, hrest, List.append_assoc]
  refine viableAt_of_split hsplit ?_ ⟨' ' :: closing, ?_⟩
  · rw [hoffset, resumes.offset, List.length_append]
  · rw [List.append_assoc]
    exact resumes.accepted hhead ⟨hagain, ends_space rfl⟩ rfl

end Terms

section Misses

variable {text : List Char} {places : Nat → Prop} {term : Rule (Pattern Lexed)} {cursor : Cursor}

theorem missesIn_spanned {rule : Rule α} (inner : Rule.MissesIn places rule cursor) :
    Rule.MissesIn places (spanned rule) cursor := by
  refine .bind (.none rfl) fun {start behind} hstart => ?_
  cases hstart
  exact .bind inner fun _ => .none rfl

theorem missesIn_behind_blanks {rule : Rule α}
    (inner : Rule.MissesIn places rule (skip cursor)) :
    Rule.MissesIn places (blanks >>= fun _ => rule) cursor := by
  refine .bind (.none ?_) fun {value behind} hblanks => ?_
  · rfl
  · rw [result_blanks] at hblanks
    cases hblanks
    exact inner

theorem missesIn_leaf (here : places cursor.offset) (kind : TokenKind) :
    Rule.MissesIn places (leaf kind) cursor := by
  have htoken : Rule.MissesIn places (token kind) cursor := by
    refine .named (.bind (.none rfl) fun {start behind} hstart => ?_) here
    cases hstart
    exact .bind (.lexeme here) fun _ => .none rfl
  exact .bind htoken fun _ => .none rfl

theorem missesIn_marked (here : places cursor.offset) (mark : Mark)
    (inner : ∀ {rest}, cursor.rest = mark.char :: rest →
      Rule.MissesIn places term ⟨cursor.offset + 1, rest⟩) :
    Rule.MissesIn places (marked mark term) cursor := by
  refine .named (.bind (missesIn_spanned ?_) fun _ => .none rfl) here
  refine .bind (.char here) fun {value behind} hchar => ?_
  obtain ⟨rest, hrest, rfl⟩ := Rule.result_char hchar
  exact inner hrest

/-- Inside brackets a term is looked for behind the terms read so far, and so is the bracket that
closes them. -/
theorem missesIn_grouped (here : places cursor.offset) (reads : ReadsStanding term)
    {bracket : Bracket}
    (inner : ∀ {rest patterns last}, cursor.rest = bracket.left :: rest →
      Pattern.OccupiesAll patterns ⟨cursor.offset + 1, rest⟩ last →
      places (skip last).offset ∧ Rule.MissesIn places term (skip last)) :
    Rule.MissesIn places (grouped bracket term) cursor := by
  refine .named (.bind (missesIn_spanned ?_) fun _ => .none rfl) here
  refine .bind (.char here) fun {value opened} hleft => ?_
  obtain ⟨rest, hrest, rfl⟩ := Rule.result_char hleft
  have hnone : Pattern.OccupiesAll [] ⟨cursor.offset + 1, rest⟩ ⟨cursor.offset + 1, rest⟩ := rfl
  refine missesIn_behind_blanks (.bind (inner hrest hnone).2 fun {first parted} hfirst => ?_)
  have stands := reads hfirst
  have hinside : ∀ {others : List (Pattern Lexed)} {last : Cursor},
      Rule.Repeats (do blanks; term) parted others last →
      places (skip last).offset ∧ Rule.MissesIn places term (skip last) := by
    intro others last repeats
    have hall : Pattern.OccupiesAll (first :: others) ⟨cursor.offset + 1, rest⟩ last :=
      ⟨parted, stands.occupies, stands.ends, occupiesAll_of_repeats reads repeats⟩
    exact inner hrest hall
  refine .bind (.many fun repeats => missesIn_behind_blanks (hinside repeats).2) ?_
  intro others last hothers
  refine missesIn_behind_blanks (.bind (.char ?_) fun _ => .none rfl)
  exact (hinside (.of_many hothers)).1

theorem missesIn_atom (here : places cursor.offset)
    (hgroups : ∀ bracket, Rule.MissesIn places (grouped bracket term) cursor) :
    Rule.MissesIn places (atom term) cursor := by
  have hleaf := missesIn_leaf here
  have hliteral : Rule.MissesIn places literal cursor := by
    refine .named (.choice ?_) here
    simp [hleaf]
  refine .named (.choice ?_) here
  simp [hgroups, hleaf, hliteral]

theorem missesIn_anyQuantity (here : places cursor.offset) :
    Rule.MissesIn places anyQuantity cursor := by
  have hquantity : ∀ kind, Rule.MissesIn places (quantity kind) cursor :=
    fun kind => .bind (.char here) fun _ => .none rfl
  refine .named (.choice ?_) here
  simp [hquantity]

theorem missesIn_repeated (here : places cursor.offset)
    (hatom : Rule.MissesIn places (atom term) cursor)
    (hbehind : ∀ {inner behind}, (atom term cursor).result = some (inner, behind) →
      places behind.offset) : Rule.MissesIn places (repeated term) cursor := by
  refine .named (.bind (missesIn_spanned ?_) fun {value last} _ => ?_) here
  · refine .bind hatom fun {inner behind} hinner => ?_
    exact .bind (.optional (missesIn_anyQuantity (hbehind hinner))) fun _ => .none rfl
  · obtain ⟨loc, inner, times⟩ := value
    cases times <;> exact .none rfl

/-- While a term is read, something is missed only where the text is viable: where a term may
stand, and behind an atom. -/
theorem missesIn_termWithin (depth : Nat) (awaits : Awaits text cursor) :
    Rule.MissesIn (ViableAt text) (termWithin depth) cursor := by
  induction depth generalizing cursor with
  | zero => exact List.forall_mem_singleton.mpr awaits.viableAt
  | succ depth induction =>
      have here := awaits.viableAt
      have reads : ReadsStanding (termWithin depth) := stands_of_termWithin depth
      have hmarked : ∀ mark, Rule.MissesIn (ViableAt text) (marked mark (termWithin depth)) cursor :=
        fun mark => missesIn_marked here mark fun hrest => induction (.mark awaits hrest)
      have hgroups : ∀ bracket,
          Rule.MissesIn (ViableAt text) (grouped bracket (termWithin depth)) cursor := by
        intro bracket
        refine missesIn_grouped here reads fun hrest hterms => ?_
        have hnext : Awaits text _ := .term awaits hrest hterms
        exact ⟨hnext.viableAt, induction hnext⟩
      have hrepeated : Rule.MissesIn (ViableAt text) (repeated (termWithin depth)) cursor :=
        missesIn_repeated here (missesIn_atom here hgroups) fun hatom =>
          awaits.viableAt_behind (occupies_atom reads hatom).1
      change Rule.MissesIn _ (Rule.named _) cursor
      refine .named (.choice ?_) here
      simp [hmarked, hrepeated]

theorem missesIn_pattern (text : List Char) :
    Rule.MissesIn (ViableAt text) pattern (Cursor.ofText text) := by
  have hterm : Rule.MissesIn (ViableAt text) term (skip (Cursor.ofText text)) := by
    unfold Rule.MissesIn term
    exact missesIn_termWithin _ .start
  unfold pattern
  refine missesIn_behind_blanks (.bind hterm fun {value behind} _ => ?_)
  exact missesIn_behind_blanks (.none rfl)

end Misses

section Faults

variable {text : List Char} {offset : Nat}

theorem viableAt_zero (text : List Char) : ViableAt text 0 := by
  have hread : pattern.readAll ['a'] = .ok (.leaf ⟨0, 1⟩ ⟨.nodeType, ['a']⟩) := by cbv
  exact viableAt_of_split (List.nil_append text).symm rfl ⟨['a'], _, hread⟩

theorem viableAt_of_unexpected (hread : pattern.readAll text = .error (.unexpected offset)) :
    ViableAt text offset := by
  rw [Rule.readAll_eq_unexpected hread]
  cases hfurthest : Miss.furthest (pattern (Cursor.ofText text)).misses with
  | none => exact viableAt_zero text
  | some miss => exact missesIn_pattern text miss (Miss.mem_of_furthest hfurthest)

/-- What is left behind a pattern starts with no blank: those belong to the pattern. -/
theorem accepted_of_trailing (hread : pattern.readAll text = .error (.trailing offset)) :
    0 < offset ∧ offset < text.length ∧ Accepted (text.take offset) ∧
      ∃ c, text[offset]? = some c ∧ Lexeme.Opens c := by
  obtain ⟨found, last, hfound, hmore, rfl⟩ := Rule.readAll_eq_trailing hread
  obtain ⟨next, stands, rfl⟩ := result_pattern_iff.mp hfound
  obtain ⟨c, behind, hbehind⟩ := List.exists_cons_of_ne_nil hmore
  have hinside := Pattern.reaches_of_occupies stands.occupies
  obtain ⟨front, hfront, hnext⟩ := (reaches_skip (Cursor.ofText text)).trans hinside
  obtain ⟨skipped, hrest, hskip, hdrop⟩ := exists_skipped next
  have hforward := Pattern.lt_of_occupies stands.occupies
  have hoffset : (skip next).offset = (front ++ skipped).length := by
    rw [hskip, hnext, List.length_append]
    exact congrArg (· + skipped.length) (Nat.zero_add _)
  have htext : text = (front ++ skipped) ++ c :: behind := by
    rw [List.append_assoc, ← hbehind, ← hrest]
    exact hfront
  have hfollows : Lexeme.Follows next.rest skipped := by
    have hcut : Lexeme.Follows (skipped ++ (skip next).rest) (skipped ++ []) := .append (.nil _)
    rwa [← hrest, List.append_nil] at hcut
  -- The pattern stands in the text that ends with the blanks behind it.
  have hstart : skip (Cursor.ofText (front ++ skipped)) =
      next.onto skipped (skip (Cursor.ofText text)) := by
    rw [← skip_onto hinside hforward, Cursor.onto_of_rest hfront]
    rfl
  have hoccupies := Pattern.occupies_onto hfollows stands.occupies (.refl next)
  have hends := Pattern.ends_onto stands.ends (.refl next) hfollows
  rw [← hstart] at hoccupies
  rw [Cursor.onto_self] at hoccupies hends
  have haccepted : Accepted (front ++ skipped) :=
    ⟨found, readAll_pattern_iff.mpr ⟨_, ⟨hoccupies, hends⟩, Lexeme.dropBlanks_end hdrop⟩⟩
  refine ⟨?_, ?_, ?_, c, ?_, Lexeme.opens_of_dropBlanks (hdrop.trans hbehind)⟩
  · omega
  · have hlength := congrArg List.length htext
    rw [List.length_append, List.length_cons] at hlength
    omega
  · rw [hoffset, htext, List.take_left]
    exact haccepted
  · rw [hoffset, htext, List.getElem?_append_right (Nat.le_refl _), Nat.sub_self]
    rfl

end Faults

end PatternText

/-- Only the end of a text is reported as such: what is quoted starts with a quote. -/
theorem unexpectedMessage_eq_end {text : List Char} {offset : Nat} :
    unexpectedMessage text offset = "unexpected end of pattern" ↔ text.length ≤ offset := by
  rw [← List.getElem?_eq_none_iff]
  unfold unexpectedMessage
  cases text[offset]? with
  | none => simp
  | some c =>
      simp only [reduceCtorEq, iff_false]
      intro hsame
      have hchars := congrArg String.toList hsame
      rw [String.toList_append, Text.toList_quoted] at hchars
      have hquote := (List.cons.inj (List.append_cancel_left
        (show "unexpected ".toList ++ _ = "unexpected ".toList ++ "end of pattern".toList from
          hchars))).1
      rcases Text.quoteFor_cases (String.singleton c).toList with hdouble | hsingle
      · rw [hdouble] at hquote
        cases hquote
      · rw [hsingle] at hquote
        cases hquote

/-- The place of a fault in a pattern text is sound: trailing input starts behind a text that can
be read, and up to unexpected input the text can go on to become one. -/
theorem Pattern.read_unreadable {text : List Char} {fault : ReadFault}
    (hread : Pattern.read chart text = .error (.unreadable fault)) :
    ∃ report, (PatternFault.unreadable fault).diagnostic? text = some report ∧
      report.span = Span.ofOffsets text fault.offset none "" ∧
      (report.code = .trailingInput ∨ report.code = .unexpectedInput) ∧
      (report.code = .trailingInput →
        0 < fault.offset ∧ fault.offset < text.length ∧
          PatternText.Accepted (text.take fault.offset) ∧
          ∃ c, text[fault.offset]? = some c ∧ Text.isBlank c = false ∧ c ≠ '#') ∧
      (report.code = .unexpectedInput →
        fault.offset ≤ text.length ∧ PatternText.Viable (text.take fault.offset) ∧
          (report.message = "unexpected end of pattern" ↔ fault.offset = text.length)) := by
  have hfault := readAll_of_unreadable hread
  have hcodes : ErrorCode.trailingInput ≠ ErrorCode.unexpectedInput := by decide
  refine ⟨_, rfl, rfl, ?_⟩
  cases fault with
  | trailing offset =>
      obtain ⟨hpositive, hinside, haccepted, c, hc, hblank, hmark⟩ :=
        PatternText.accepted_of_trailing hfault
      exact ⟨.inl rfl, fun _ => ⟨hpositive, hinside, haccepted, c, hc, hblank, hmark⟩,
        fun hcode => absurd hcode hcodes⟩
  | unexpected offset =>
      obtain ⟨hinside, hviable⟩ := PatternText.viableAt_of_unexpected hfault
      refine ⟨.inr rfl, fun hcode => absurd hcode.symm hcodes, fun _ => ⟨hinside, hviable, ?_⟩⟩
      exact unexpectedMessage_eq_end.trans
        ⟨fun hend => Nat.le_antisymm hinside hend, fun hend => Nat.le_of_eq hend.symm⟩

/-- A bracket left open in front of a comment that runs to the end of the text. -/
theorem Pattern.read_unreadable_commented :
    Pattern.read Text.basicLatin "(a # b".toList = .error (.unreadable (.unexpected 6)) ∧
      ∃ report, (PatternFault.unreadable (.unexpected 6)).diagnostic? "(a # b".toList =
          some report ∧ report.code = .unexpectedInput ∧
        PatternText.Viable ("(a # b".toList.take 6) ∧
        report.message = "unexpected end of pattern" := by
  have hread : Pattern.read Text.basicLatin "(a # b".toList =
      .error (.unreadable (.unexpected 6)) := by
    cbv
  obtain ⟨report, hreport, -, -, -, hunexpected⟩ := Pattern.read_unreadable hread
  have hcode : report.code = .unexpectedInput := by
    cases hreport
    rfl
  obtain ⟨-, hviable, hmessage⟩ := hunexpected hcode
  exact ⟨hread, report, hreport, hcode, hviable, hmessage.mpr rfl⟩

end TreeMatch
