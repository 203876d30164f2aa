import Mathlib.Data.Prod.Lex
import TreeMatch.Diagnostic
import TreeMatch.Proofs.Lines

/-! From lines and columns back to offsets. An offset is its column within its line and the lines
before that, so a position belongs to one offset only, and positions stand in the order of their
offsets. -/

namespace TreeMatch

namespace Text

/-- The lines of a text that a line feed ends, each together with its line feed. -/
def terminatedLines (text : List Char) : List (List Char) :=
  (splitLineFeeds text).dropLast.map (· ++ ['\n'])

theorem terminatedLines_line {line : List Char} (hline : '\n' ∉ line) :
    terminatedLines line = [] := by
  simp [terminatedLines, splitLineFeeds_line hline]

theorem terminatedLines_append {line : List Char} (hline : '\n' ∉ line) (rest : List Char) :
    terminatedLines (line ++ '\n' :: rest) = (line ++ ['\n']) :: terminatedLines rest := by
  simp [terminatedLines, splitLineFeeds_append hline, List.dropLast_cons_of_ne_nil]

theorem length_terminatedLines (text : List Char) :
    (terminatedLines text).length = text.count '\n' := by
  induction text using induct_lines with
  | last line hline =>
      rw [terminatedLines_line hline, List.count_eq_zero_of_not_mem hline, List.length_nil]
  | more line rest hline induction =>
      rw [terminatedLines_append hline, List.length_cons, induction, List.count_append,
        List.count_eq_zero_of_not_mem hline, List.count_cons_self, Nat.zero_add]

end Text

namespace Span

def startPosition (span : Span) : Int ×ₗ Int :=
  toLex (span.line, span.column)

def endPosition (span : Span) : Int ×ₗ Int :=
  toLex (span.endLine, span.endColumn)

/-- The line and the column of an offset, to be compared by the line first. -/
def positionAt (text : List Char) (offset : Nat) : Int ×ₗ Int :=
  toLex (((lineColumn text offset).1 : Int), ((lineColumn text offset).2 : Int))

/-- The offset that a line and a column name: as many characters as the lines before hold, and those
before the column. -/
def offsetAt (text : List Char) (line column : Int) : Int :=
  ((Text.terminatedLines text).take (line - 1).toNat).flatten.length + (column - 1)

theorem offsetAt_one (text : List Char) (column : Int) : offsetAt text 1 column = column - 1 := by
  simp [offsetAt]

theorem offsetAt_lineFeed {line : List Char} (hline : '\n' ∉ line) (rest : List Char) {number : Nat}
    (hnumber : 1 ≤ number) (column : Int) :
    offsetAt (line ++ '\n' :: rest) (number + 1) column =
      line.length + 1 + offsetAt rest number column := by
  obtain ⟨before, rfl⟩ : ∃ before, number = before + 1 := ⟨number - 1, by omega⟩
  have hlater : (((before + 1 : Nat) : Int) + 1 - 1).toNat = before + 1 := by omega
  have hbefore : (((before + 1 : Nat) : Int) - 1).toNat = before := by omega
  rw [offsetAt, offsetAt, hlater, hbefore, Text.terminatedLines_append hline, List.take_succ_cons,
    List.flatten_cons, List.length_append, List.length_append, List.length_singleton]
  push_cast
  omega

theorem one_le_lineColumn (text : List Char) (offset : Nat) :
    1 ≤ (lineColumn text offset).1 ∧ 1 ≤ (lineColumn text offset).2 :=
  ⟨Nat.le_add_left 1 _, Nat.le_add_left 1 _⟩

theorem offsetAt_lineColumn {text : List Char} {offset : Nat} (hoffset : offset ≤ text.length) :
    offsetAt text (lineColumn text offset).1 (lineColumn text offset).2 = offset := by
  induction text using Text.induct_lines generalizing offset with
  | last only honly =>
      have hposition := lineColumn_line honly [] hoffset
      rw [List.append_nil] at hposition
      simp [hposition, offsetAt_one]
  | more first rest hfirst induction =>
      -- Up to the first line feed, itself included, the line is the first one.
      by_cases hinside : offset ≤ first.length
      · simp [lineColumn_line hfirst _ hinside, offsetAt_one]
      · obtain ⟨later, rfl⟩ : ∃ later, offset = first.length + 1 + later :=
          ⟨offset - (first.length + 1), by omega⟩
        have hlater : later ≤ rest.length := by
          simp only [List.length_append, List.length_cons] at hoffset
          omega
        rw [lineColumn_lineFeed first rest later hfirst]
        push_cast
        rw [offsetAt_lineFeed hfirst rest (one_le_lineColumn rest later).1, induction hlater]

/-- Each line feed between two offsets takes the second one line further. -/
theorem lineColumn_add (text : List Char) {start stop : Nat} (hle : start ≤ stop) :
    (lineColumn text stop).1 =
      (lineColumn text start).1 + ((text.take stop).drop start).count '\n' := by
  have hsplit := List.take_append_drop start (text.take stop)
  rw [List.take_take, Nat.min_eq_left hle] at hsplit
  have hcount := congrArg (List.count '\n') hsplit
  rw [List.count_append] at hcount
  simp only [lineColumn]
  omega

theorem column_sub {text : List Char} {start stop : Nat} (hstart : start ≤ text.length)
    (hstop : stop ≤ text.length) (hline : (lineColumn text stop).1 = (lineColumn text start).1) :
    ((lineColumn text stop).2 : Int) - (lineColumn text start).2 = stop - start := by
  have hfrom := offsetAt_lineColumn hstart
  have hto := offsetAt_lineColumn hstop
  rw [hline] at hto
  unfold offsetAt at hfrom hto
  omega

theorem positionAt_lt {text : List Char} {start stop : Nat} (hlt : start < stop)
    (hstop : stop ≤ text.length) : positionAt text start < positionAt text stop := by
  have hstart : start ≤ text.length := hlt.le.trans hstop
  have hlines := lineColumn_add text hlt.le
  rw [positionAt, positionAt, Prod.Lex.toLex_lt_toLex]
  -- Lines never go back; where the line stays, the column goes on with the offset.
  by_cases hline : (lineColumn text stop).1 = (lineColumn text start).1
  · have hcolumns := column_sub hstart hstop hline
    exact .inr ⟨congrArg Nat.cast hline.symm, by omega⟩
  · exact .inl (by omega)

theorem make_eq (file : String) (line column : Int) {endLine endColumn : Int}
    (hline : endLine ≠ 0) (hcolumn : endColumn ≠ 0) :
    make file line column endLine endColumn = ⟨file, line, column, endLine, endColumn⟩ := by
  rw [make, if_neg hline, if_neg hcolumn]

/-- Between two offsets in order lies the span of their positions, also where it is empty. -/
theorem ofOffsets_eq {text : List Char} {start stop : Nat} (hle : start ≤ stop)
    (hstop : stop ≤ text.length) (file : String) :
    ofOffsets text start (some stop) file =
      ⟨file, (lineColumn text start).1, (lineColumn text start).2,
        (lineColumn text stop).1, (lineColumn text stop).2⟩ := by
  have hstart : clamp text start = start := Nat.min_eq_left (hle.trans hstop)
  have hend : clamp text stop = stop := Nat.min_eq_left hstop
  unfold ofOffsets
  dsimp only
  rw [hstart, hend]
  split
  · have hsame : stop = start := by omega
    rw [hsame]
    rfl
  · obtain ⟨hline, hcolumn⟩ := one_le_lineColumn text stop
    exact make_eq file _ _ (by omega) (by omega)

structure Delimits (text : List Char) (start stop : Nat) (span : Span) : Prop where
  countsFromOne : 1 ≤ span.line ∧ 1 ≤ span.column ∧ 1 ≤ span.endLine ∧ 1 ≤ span.endColumn
  startPosition_eq : span.startPosition = positionAt text start
  endPosition_eq : span.endPosition = positionAt text stop
  /-- As many lines as the positions have before them end in a line feed. -/
  hasLines : span.line - 1 ≤ (Text.terminatedLines text).length ∧
    span.endLine - 1 ≤ (Text.terminatedLines text).length
  start_recovered : offsetAt text span.line span.column = start
  stop_recovered : offsetAt text span.endLine span.endColumn = stop
  inOrder : span.startPosition ≤ span.endPosition
  sameLine_iff : span.endLine = span.line ↔ '\n' ∉ (text.take stop).drop start
  width : span.endLine = span.line → span.endColumn - span.column = stop - start
  /-- An empty span is shown by a caret nevertheless. -/
  carets : span.endLine = span.line → Diagnostic.caretCount span = max 1 (stop - start)

theorem line_le (text : List Char) (offset : Nat) :
    (lineColumn text offset).1 - 1 ≤ (Text.terminatedLines text).length := by
  rw [Text.length_terminatedLines]
  exact (List.take_sublist offset text).count_le '\n'

theorem delimits_ofOffsets {text : List Char} {start stop : Nat} (hle : start ≤ stop)
    (hstop : stop ≤ text.length) (file : String) :
    Delimits text start stop (ofOffsets text start (some stop) file) := by
  have hstart : start ≤ text.length := hle.trans hstop
  have hlines := lineColumn_add text hle
  have hwidth (hline : ((lineColumn text stop).1 : Int) = (lineColumn text start).1) :=
    column_sub hstart hstop (Int.ofNat.inj hline)
  rw [ofOffsets_eq hle hstop file]
  constructor
  case countsFromOne =>
    have hfirst := one_le_lineColumn text start
    have hlast := one_le_lineColumn text stop
    dsimp only
    omega
  case startPosition_eq => rfl
  case endPosition_eq => rfl
  case hasLines =>
    have hfirst := line_le text start
    have hlast := line_le text stop
    dsimp only
    omega
  case start_recovered => exact offsetAt_lineColumn hstart
  case stop_recovered => exact offsetAt_lineColumn hstop
  case inOrder =>
    rcases hle.eq_or_lt with rfl | hlt
    · exact le_rfl
    · exact (positionAt_lt hlt hstop).le
  case sameLine_iff =>
    rw [← List.count_eq_zero]
    dsimp only
    omega
  case width => exact hwidth
  case carets =>
    intro hline
    rw [Diagnostic.caretCount, if_pos hline, hwidth hline]
    omega

/-- Positions determine offsets and keep their order, and a span between two offsets has the
positions of both. -/
theorem positions_determine_offsets (text : List Char) (file : String) :
    (∀ start stop : Nat, start < stop → stop ≤ text.length →
      positionAt text start < positionAt text stop) ∧
    ∀ start stop : Nat, start ≤ stop → stop ≤ text.length →
      Delimits text start stop (ofOffsets text start (some stop) file) :=
  ⟨fun _ _ hlt hstop => positionAt_lt hlt hstop, fun _ _ hle hstop =>
    delimits_ofOffsets hle hstop file⟩

/-- A span from a line feed to the end of a text that ends in one, where a larger offset has the
smaller column. -/
theorem positions_determine_offsets_lineFeeds :
    let text := "a\n\nb\n".toList
    let span := ofOffsets text 1 (some 5) "p"
    (1 ≤ 5 ∧ 5 ≤ text.length) ∧ span = ⟨"p", 1, 2, 4, 1⟩ ∧ Delimits text 1 5 span ∧
      offsetAt text 1 2 = 1 ∧ offsetAt text 4 1 = 5 ∧ positionAt text 1 < positionAt text 5 := by
  intro text span
  have hend : 5 ≤ text.length := by decide
  obtain ⟨hordered, hspans⟩ := positions_determine_offsets text "p"
  have hspan : Delimits text 1 5 span := hspans 1 5 (by decide) hend
  have hlt : positionAt text 1 < positionAt text 5 := hordered 1 5 (by decide) hend
  exact ⟨⟨by decide, hend⟩, by decide, hspan, hspan.start_recovered, hspan.stop_recovered, hlt⟩

end Span

end TreeMatch
