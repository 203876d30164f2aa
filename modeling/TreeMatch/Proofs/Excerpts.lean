import TreeMatch.Diagnostic
import TreeMatch.Proofs.Lines

/-! Where a diagnostic points: its excerpt is the line that its position counts, and the caret
stands under the character at the offset, as long as only line feeds end the lines of the text. -/

namespace TreeMatch

namespace Span

/-- Whatever its end, a span starts in the line and at the column of its first offset. -/
theorem line_ofOffsets (text : List Char) (start : Nat) (stop : Option Int) (file : String)
    (hstart : start ≤ text.length) :
    (ofOffsets text start stop file).line = (lineColumn text start).1 ∧
      (ofOffsets text start stop file).column = (lineColumn text start).2 := by
  have hclamp : clamp text (start : Int) = start := Nat.min_eq_left hstart
  unfold ofOffsets
  rw [hclamp]
  dsimp only
  split
  · split <;> exact ⟨rfl, rfl⟩
  · exact ⟨rfl, rfl⟩

end Span

namespace Diagnostic

theorem excerptOf_eq {source : String} {line : Nat} {chars : List Char}
    (hline : (Text.boundedLines source.toList)[line - 1]? = some chars) (hpositive : 0 < line) :
    excerptOf source line = String.ofList chars := by
  have hsource : source ≠ "" := by
    rintro rfl
    cases hline
  rw [excerptOf, if_pos ⟨hsource, by omega⟩, Int.toNat_natCast, hline]

theorem caretLine_eq (span : Span) : ∃ more,
    caretLine span =
      String.ofList (List.replicate (4 + (span.column - 1).toNat) ' ' ++ '^' :: more) := by
  have hcount : ∃ more, caretCount span = more + 1 := by
    refine ⟨caretCount span - 1, ?_⟩
    have hone : 1 ≤ caretCount span := by
      unfold caretCount
      split
      · exact Nat.le_max_left 1 _
      · exact Nat.le_refl 1
    omega
  obtain ⟨more, hmore⟩ := hcount
  refine ⟨List.replicate more '^', ?_⟩
  rw [caretLine, List.replicate_append_replicate, hmore, List.replicate_succ (n := more)]

theorem report_eq {d : Diagnostic} (hexcerpt : d.excerpt ≠ "") (hcolumn : 0 < d.span.column) :
    ∃ first last, d.report =
      "\n".intercalate (first :: ("    " ++ d.excerpt) :: caretLine d.span :: last) := by
  refine ⟨d.span.text ++ ": error: " ++ d.message ++ " [" ++ d.code.text ++ "]",
    if d.hint = "" then [] else ["hint: " ++ d.hint], ?_⟩
  rw [report, if_neg hexcerpt, if_pos hcolumn]
  rfl

/-- The excerpt of a diagnostic is the line that its position counts, and its carets start under the
character at the offset, if no line up to that one holds another line boundary. -/
theorem excerpt_points {text : String} {offset : Nat} {c : Char}
    (hc : text.toList[offset]? = some c) (hfeed : c ≠ '\n') (hreturn : c ≠ '\r')
    (hplain : ∀ line ∈ (Text.splitLineFeeds text.toList).take
      (Span.lineColumn text.toList offset).1, Text.IsPlainLine line)
    (stop : Option Int) (file : String) (subject : Subject) (message : String)
    (code : Option ErrorCode) (hint : String) :
    let span := Span.ofOffsets text.toList offset stop file
    let made := make subject message code (some span) text hint
    ∃ line, (Text.splitLineFeeds text.toList)[(span.line - 1).toNat]? = some line ∧
      made.excerpt = String.ofList (Text.withoutReturn line) ∧
      made.excerpt.toList[(span.column - 1).toNat]? = some c ∧
      ∃ first last carets, made.report = "\n".intercalate (first :: ("    " ++ made.excerpt) ::
        String.ofList (List.replicate (4 + (span.column - 1).toNat) ' ' ++ '^' :: carets) ::
          last) := by
  intro span made
  obtain ⟨hoffset, -⟩ := List.getElem?_eq_some_iff.mp hc
  obtain ⟨hspanLine, hspanColumn⟩ :=
    Span.line_ofOffsets text.toList offset stop file (Nat.le_of_lt hoffset)
  obtain ⟨line, hline, hcolumn⟩ := Span.getElem?_lineColumn hc hfeed
  have hkept := Text.getElem?_withoutReturn hcolumn hreturn
  have hsome : line ≠ [] := by
    rintro rfl
    cases hcolumn
  have hlinePositive : 0 < (Span.lineColumn text.toList offset).1 := Nat.succ_pos _
  have hcolumnPositive : 0 < (Span.lineColumn text.toList offset).2 := Nat.succ_pos _
  have hbounded : (Text.boundedLines text.toList)[(Span.lineColumn text.toList offset).1 - 1]? =
      some (Text.withoutReturn line) := by
    refine Text.getElem?_boundedLines ?_ hline hsome
    rwa [Nat.sub_add_cancel hlinePositive]
  have hexcerpt : made.excerpt = String.ofList (Text.withoutReturn line) := by
    change excerptOf text span.line = _
    rw [hspanLine]
    exact excerptOf_eq hbounded hlinePositive
  -- A report without an excerpt shows no carets, but the line holds the character.
  have hshown : made.excerpt ≠ "" := by
    rw [hexcerpt]
    intro hempty
    rw [String.ofList_eq_empty_iff] at hempty
    rw [hempty] at hkept
    cases hkept
  have hset : 0 < made.span.column := by
    change 0 < span.column
    rw [hspanColumn]
    exact Int.natCast_pos.mpr hcolumnPositive
  obtain ⟨first, last, hreport⟩ := report_eq hshown hset
  obtain ⟨carets, hcarets⟩ := caretLine_eq span
  refine ⟨line, ?_, hexcerpt, ?_, first, last, carets, ?_⟩
  · rw [hspanLine, show ((Span.lineColumn text.toList offset).1 - 1 : Int).toNat =
      (Span.lineColumn text.toList offset).1 - 1 by omega]
    exact hline
  · rw [hexcerpt, hspanColumn, String.toList_ofList,
      show ((Span.lineColumn text.toList offset).2 - 1 : Int).toNat =
        (Span.lineColumn text.toList offset).2 - 1 by omega]
    exact hkept
  · rw [← hcarets]
    exact hreport

/-- The second line of a text whose lines end in a carriage return and a line feed. -/
theorem excerpt_points_return :
    let span := Span.ofOffsets "(a\r\n bogus?)".toList 5 (some 11) ""
    let made := make .pattern "unknown" none (some span) "(a\r\n bogus?)" ""
    made.excerpt = " bogus?)" ∧
      made.report = "2:2: error: unknown [TPAT-2001]\n     bogus?)\n     ^^^^^^" := by
  intro span made
  obtain ⟨line, hline, hexcerpt, -⟩ := @excerpt_points "(a\r\n bogus?)" 5 'b' (by decide)
    (by decide) (by decide) (by decide) (some 11) "" .pattern "unknown" none ""
  have hsame : line = " bogus?)".toList := Option.some.inj (hline.symm.trans (by decide))
  refine ⟨hexcerpt.trans ?_, ?_⟩
  · rw [hsame]
    decide
  · decide

/-- A form feed ends a line of the excerpts but not one that the position counts: the excerpt stops
short of the offset. -/
theorem excerpt_astray :
    let span := Span.ofOffsets "a\x0c,".toList 2 none ""
    let made := make (.patternText []) "unexpected ','" none (some span) "a\x0c," ""
    (Text.splitLineFeeds "a\x0c,".toList)[(span.line - 1).toNat]? = some "a\x0c,".toList ∧
      made.excerpt = "a" ∧ made.excerpt.toList[(span.column - 1).toNat]? = none := by
  decide

end Diagnostic

end TreeMatch
