import Mathlib.Data.List.Basic
import Mathlib.Data.List.TakeWhile
import TreeMatch.Span
import TreeMatch.Text.Lines

/-! Texts line by line. A text without a line feed is a single line; any other is a line and its
line feed in front of a text with one line less. Positions and excerpts are compared along these
lines. -/

namespace TreeMatch

namespace Text

@[elab_as_elim]
theorem induct_lines {motive : List Char → Prop}
    (last : ∀ line, '\n' ∉ line → motive line)
    (more : ∀ line rest, '\n' ∉ line → motive rest → motive (line ++ '\n' :: rest))
    (text : List Char) : motive text := by
  induction hlength : text.length using Nat.strongRecOn generalizing text with
  | ind length induction =>
      by_cases hfeed : '\n' ∈ text
      · obtain ⟨line, rest, rfl, hline⟩ := List.eq_append_cons_of_mem hfeed
        refine more line rest hline (induction rest.length ?_ rest rfl)
        rw [← hlength, List.length_append, List.length_cons]
        omega
      · exact last text hfeed

theorem splitLineFeeds_line {line : List Char} (hline : '\n' ∉ line) :
    splitLineFeeds line = [line] := by
  induction line with
  | nil => rfl
  | cons c rest induction =>
      rw [List.mem_cons, not_or] at hline
      rw [splitLineFeeds, if_neg (Ne.symm hline.1), induction hline.2]

theorem splitLineFeeds_append {line : List Char} (hline : '\n' ∉ line) (rest : List Char) :
    splitLineFeeds (line ++ '\n' :: rest) = line :: splitLineFeeds rest := by
  induction line with
  | nil => simp [splitLineFeeds]
  | cons c tail induction =>
      rw [List.mem_cons, not_or] at hline
      rw [List.cons_append, splitLineFeeds, if_neg (Ne.symm hline.1), induction hline.2]

/-- A line without the carriage return that may end it. -/
def withoutReturn (line : List Char) : List Char :=
  if line.getLast? = some '\r' then line.dropLast else line

theorem withoutReturn_cases (line : List Char) :
    withoutReturn line = line ∨ line = withoutReturn line ++ ['\r'] := by
  unfold withoutReturn
  split
  · rename_i hlast
    exact .inr (List.dropLast_append_getLast? '\r' hlast).symm
  · exact .inl rfl

theorem getElem?_withoutReturn {chars : List Char} {index : Nat} {c : Char}
    (hc : chars[index]? = some c) (hreturn : c ≠ '\r') :
    (withoutReturn chars)[index]? = some c := by
  rcases withoutReturn_cases chars with hsame | hends
  · rw [hsame, hc]
  · rw [hends, List.getElem?_append] at hc
    split at hc
    · exact hc
    · have hlast := List.mem_singleton.mp (List.mem_of_getElem? hc)
      exact absurd hlast hreturn

/-- A line without any line boundary, the carriage return aside that may end it. -/
def IsPlainLine (line : List Char) : Prop :=
  ∀ c ∈ withoutReturn line, isLineBoundary c = false

instance (line : List Char) : Decidable (IsPlainLine line) :=
  List.decidableBAll (fun c => isLineBoundary c = false) (withoutReturn line)

theorem boundedLines_cons {c : Char} (hplain : isLineBoundary c = false) (rest : List Char) :
    boundedLines (c :: rest) =
      match boundedLines rest with
      | [] => [[c]]
      | line :: lines => (c :: line) :: lines := by
  rewrite [boundedLines, hplain, if_neg Bool.false_ne_true]
  · rfl
  · rintro tail rfl
    cases hplain

theorem boundedLines_plain {line : List Char} (hplain : ∀ c ∈ line, isLineBoundary c = false)
    (hsome : line ≠ []) : boundedLines line = [line] := by
  induction line with
  | nil => exact absurd rfl hsome
  | cons c rest induction =>
      obtain ⟨hfirst, hrest⟩ := List.forall_mem_cons.mp hplain
      rw [boundedLines_cons hfirst]
      cases rest with
      | nil => rfl
      | cons d tail => rw [induction hrest (List.cons_ne_nil d tail)]

theorem boundedLines_append {line rest : List Char} {lines : List (List Char)}
    (hplain : ∀ c ∈ line, isLineBoundary c = false) (hrest : boundedLines rest = [] :: lines) :
    boundedLines (line ++ rest) = line :: lines := by
  induction line with
  | nil => exact hrest
  | cons c tail induction =>
      obtain ⟨hfirst, htail⟩ := List.forall_mem_cons.mp hplain
      rw [List.cons_append, boundedLines_cons hfirst, induction htail]

theorem boundedLines_line {line : List Char} (hplain : IsPlainLine line) (hsome : line ≠ []) :
    boundedLines line = [withoutReturn line] := by
  rcases withoutReturn_cases line with hsame | hends
  · rw [hsame]
    exact boundedLines_plain (fun c member => hplain c (hsame.symm ▸ member)) hsome
  · have hreturn : boundedLines ['\r'] = [] :: [] := by decide
    have hlines := boundedLines_append hplain hreturn
    rwa [← hends] at hlines

theorem boundedLines_lineFeed {line : List Char} (hplain : IsPlainLine line)
    (rest : List Char) :
    boundedLines (line ++ '\n' :: rest) = withoutReturn line :: boundedLines rest := by
  have hfeed : boundedLines ('\n' :: rest) = [] :: boundedLines rest := by
    simp [boundedLines, isLineBoundary]
  rcases withoutReturn_cases line with hsame | hends
  · rw [hsame]
    exact boundedLines_append (fun c member => hplain c (hsame.symm ▸ member)) hfeed
  · have hreturn : boundedLines ('\r' :: '\n' :: rest) = [] :: boundedLines rest := by
      rw [boundedLines]
    have hlines := boundedLines_append hplain hreturn
    rwa [List.append_cons, ← hends] at hlines

/-- Up to a line that is not empty the lines of a text are those between its line feeds, if these
are plain. -/
theorem getElem?_boundedLines {text line : List Char} {index : Nat}
    (hplain : ∀ earlier ∈ (splitLineFeeds text).take (index + 1), IsPlainLine earlier)
    (hline : (splitLineFeeds text)[index]? = some line) (hsome : line ≠ []) :
    (boundedLines text)[index]? = some (withoutReturn line) := by
  induction text using induct_lines generalizing index with
  | last only honly =>
      rw [splitLineFeeds_line honly] at hline hplain
      cases index with
      | zero =>
          cases hline
          rw [boundedLines_line (hplain line (by simp)) hsome]
          rfl
      | succ index => cases hline
  | more first rest hfirst induction =>
      rw [splitLineFeeds_append hfirst] at hline hplain
      rw [List.take_succ_cons, List.forall_mem_cons] at hplain
      rw [boundedLines_lineFeed hplain.1]
      cases index with
      | zero =>
          cases hline
          rfl
      | succ index => exact induction hplain.2 hline

end Text

namespace Span

theorem lineColumn_line {line : List Char} (hline : '\n' ∉ line) (rest : List Char) {offset : Nat}
    (hoffset : offset ≤ line.length) :
    lineColumn (line ++ rest) offset = (1, offset + 1) := by
  have htake : (line ++ rest).take offset = line.take offset :=
    List.take_append_of_le_length hoffset
  have hnone : '\n' ∉ line.take offset := fun member => hline (List.mem_of_mem_take member)
  have hall : (line.take offset).reverse.takeWhile (· ≠ '\n') = (line.take offset).reverse := by
    rw [List.takeWhile_eq_self_iff]
    intro c member
    simpa using ne_of_mem_of_not_mem (List.mem_reverse.mp member) hnone
  unfold lineColumn
  dsimp only
  rw [htake, List.count_eq_zero_of_not_mem hnone, hall, List.length_reverse, List.length_take,
    Nat.min_eq_left hoffset]

theorem lineColumn_lineFeed (line rest : List Char) (offset : Nat) (hline : '\n' ∉ line) :
    lineColumn (line ++ '\n' :: rest) (line.length + 1 + offset) =
      ((lineColumn rest offset).1 + 1, (lineColumn rest offset).2) := by
  have htake : (line ++ '\n' :: rest).take (line.length + 1 + offset) =
      line ++ '\n' :: rest.take offset := by
    rw [Nat.add_assoc, List.take_length_add_append, Nat.add_comm 1, List.take_succ_cons]
  have hcolumn : ((line ++ '\n' :: rest.take offset).reverse.takeWhile (· ≠ '\n')).length =
      ((rest.take offset).reverse.takeWhile (· ≠ '\n')).length := by
    rw [List.reverse_append, List.reverse_cons, List.append_assoc, List.takeWhile_append]
    split
    · rename_i hwhole
      rw [hwhole]
      simp
    · rfl
  unfold lineColumn
  dsimp only
  rw [htake, hcolumn, List.count_append, List.count_eq_zero_of_not_mem hline, List.count_cons_self,
    Nat.zero_add]

/-- The line and the column of an offset lead to the character at the offset: the line among those
between the line feeds, and the column within it. -/
theorem getElem?_lineColumn {text : List Char} {offset : Nat} {c : Char}
    (hc : text[offset]? = some c) (hfeed : c ≠ '\n') :
    ∃ found, (Text.splitLineFeeds text)[(lineColumn text offset).1 - 1]? = some found ∧
      found[(lineColumn text offset).2 - 1]? = some c := by
  induction text using Text.induct_lines generalizing offset with
  | last only honly =>
      obtain ⟨hoffset, -⟩ := List.getElem?_eq_some_iff.mp hc
      have hplace := lineColumn_line honly [] (Nat.le_of_lt hoffset)
      rw [List.append_nil] at hplace
      rw [Text.splitLineFeeds_line honly, hplace]
      exact ⟨only, rfl, hc⟩
  | more first rest hfirst induction =>
      rw [Text.splitLineFeeds_append hfirst]
      rcases Nat.lt_trichotomy offset first.length with hinside | rfl | hbehind
      · rw [lineColumn_line hfirst _ (Nat.le_of_lt hinside)]
        exact ⟨first, rfl, (List.getElem?_append_left hinside).symm.trans hc⟩
      · rw [List.getElem?_append_right (Nat.le_refl _), Nat.sub_self] at hc
        cases hc
        exact absurd rfl hfeed
      · obtain ⟨later, rfl⟩ : ∃ later, offset = first.length + 1 + later :=
          ⟨offset - (first.length + 1), by omega⟩
        rw [List.getElem?_append_right (by omega),
          show first.length + 1 + later - first.length = later + 1 by omega,
          List.getElem?_cons_succ] at hc
        obtain ⟨found, hfound, hcolumn⟩ := induction hc
        rw [lineColumn_lineFeed first rest later hfirst]
        refine ⟨found, ?_, hcolumn⟩
        have hpositive : 1 ≤ (lineColumn rest later).1 := Nat.le_add_left 1 _
        rw [show (lineColumn rest later).1 + 1 - 1 = (lineColumn rest later).1 - 1 + 1 by omega,
          List.getElem?_cons_succ]
        exact hfound

end Span

end TreeMatch
