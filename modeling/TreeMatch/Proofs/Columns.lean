import TreeMatch.Proofs.Listing
import TreeMatch.Proofs.Nesting

/-! Lines and byte columns: how a text is cut into physical lines, and to which character a byte
column of a line belongs. -/

namespace TreeMatch

namespace Text

def lineEnds : List (List Char) :=
  [['\n'], ['\r', '\n'], ['\r']]

def IsUnbroken (line : List Char) : Prop :=
  ∀ c ∈ line, c ≠ '\n' ∧ c ≠ '\r'

/-- A line with the end that it has, and no other one before. -/
def IsEnded (line : List Char) : Prop :=
  ∃ body ending, line = body ++ ending ∧ IsUnbroken body ∧ ending ∈ lineEnds

theorem length_pos_of_mem_lineEnds {ending : List Char} (member : ending ∈ lineEnds) :
    0 < ending.length := by
  revert ending
  decide

theorem eq_of_getLast?_ended {body ending : List Char} (member : ending ∈ lineEnds)
    (hreturn : (body ++ ending).getLast? = some '\r') : ending = ['\r'] := by
  simp only [lineEnds, List.mem_cons, List.not_mem_nil, or_false] at member
  rcases member with rfl | rfl | rfl
  · simp at hreturn
  · simp at hreturn
  · rfl

theorem physicalLines_ended {body ending rest : List Char} (hbody : IsUnbroken body)
    (hending : ending ∈ lineEnds) (hrest : ending = ['\r'] → rest.head? ≠ some '\n') :
    physicalLines (body ++ ending ++ rest) = (body ++ ending) :: physicalLines rest := by
  rw [List.append_assoc]
  refine physicalLines_append hbody ?_
  simp only [lineEnds, List.mem_cons, List.not_mem_nil, or_false] at hending
  rcases hending with rfl | rfl | rfl
  · exact physicalLines_lineFeed rest
  · simp [physicalLines]
  · exact physicalLines_return (hrest rfl)

theorem physicalLines_unbroken {line : List Char} (hline : IsUnbroken line) (hsome : line ≠ []) :
    physicalLines line = [line] := by
  obtain ⟨body, last, rfl⟩ := (List.eq_nil_or_concat' line).resolve_left hsome
  have hbody : IsUnbroken body := fun c member => hline c (List.mem_append_left _ member)
  obtain ⟨hfeed, hreturn⟩ := hline last (List.mem_append_right _ (List.mem_singleton_self last))
  exact physicalLines_append hbody (by simp [physicalLines, hfeed, hreturn])

/-- A text is empty, a line without an end, or a line with its end in front of another text. -/
@[elab_as_elim]
theorem induct_physicalLines {motive : List Char → Prop} (nil : motive [])
    (last : ∀ line, IsUnbroken line → line ≠ [] → motive line)
    (more : ∀ body ending rest, IsUnbroken body → ending ∈ lineEnds →
      (ending = ['\r'] → rest.head? ≠ some '\n') → motive rest → motive (body ++ ending ++ rest))
    (text : List Char) : motive text := by
  induction hlength : text.length using Nat.strongRecOn generalizing text with
  | ind length induction =>
      let isPlain (c : Char) : Bool := c != '\n' && c != '\r'
      have hbody : IsUnbroken (text.takeWhile isPlain) := by
        intro c member
        simpa [isPlain] using List.mem_takeWhile_imp member
      have hsplit : text.takeWhile isPlain ++ text.dropWhile isPlain = text :=
        List.takeWhile_append_dropWhile
      have hnext : ∀ ending rest, ending ∈ lineEnds → text.dropWhile isPlain = ending ++ rest →
          (ending = ['\r'] → rest.head? ≠ some '\n') → motive text := by
        intro ending rest hending hbehind hrest
        rw [hbehind, ← List.append_assoc] at hsplit
        rw [← hsplit]
        refine more _ ending rest hbody hending hrest (induction rest.length ?_ rest rfl)
        have hpositive : 0 < ending.length := length_pos_of_mem_lineEnds hending
        rw [← hlength, ← hsplit, List.length_append, List.length_append]
        omega
      cases hbehind : text.dropWhile isPlain with
      | nil =>
          rw [hbehind, List.append_nil] at hsplit
          by_cases hempty : text = []
          · rw [hempty]
            exact nil
          · exact last text (hsplit ▸ hbody) hempty
      | cons c rest =>
          have hbreak : c = '\n' ∨ c = '\r' := by
            have hfirst := List.head?_dropWhile_not isPlain text
            rw [hbehind] at hfirst
            simpa [isPlain, Classical.or_iff_not_imp_left] using hfirst
          rcases hbreak with rfl | rfl
          · exact hnext ['\n'] rest (by decide) hbehind (nomatch ·)
          · -- A carriage return and the line feed behind it are one end.
            by_cases hfeed : rest.head? = some '\n'
            · obtain ⟨more, rfl⟩ := List.head?_eq_some_iff.mp hfeed
              exact hnext ['\r', '\n'] more (by decide) hbehind (nomatch ·)
            · exact hnext ['\r'] rest (by decide) hbehind fun _ => hfeed

/-- The lines make up the text, and each has the only line end in it at its own end; the last one
may have none. A line feed is not parted from the carriage return before it. -/
structure AreLines (text : List Char) (lines : List (List Char)) : Prop where
  whole : lines.flatten = text
  ended : ∀ line ∈ lines.dropLast, IsEnded line
  last : ∀ line ∈ lines.getLast?, IsEnded line ∨ IsUnbroken line ∧ line ≠ []
  unparted : lines.IsChain fun line next => ¬ (line.getLast? = some '\r' ∧ next.head? = some '\n')

theorem head?_of_mem_physicalLines {text line : List Char}
    (member : line ∈ (physicalLines text).head?) : line.head? = text.head? := by
  induction text using induct_physicalLines with
  | nil => cases member
  | last text hline hsome =>
      rw [physicalLines_unbroken hline hsome] at member
      cases member
      rfl
  | more body ending rest hbody hending hrest _ =>
      rw [physicalLines_ended hbody hending hrest] at member
      cases member
      have hsome := length_pos_of_mem_lineEnds hending
      cases body <;> cases ending <;> first | rfl | cases hsome

theorem areLines_physicalLines (text : List Char) : AreLines text (physicalLines text) := by
  induction text using induct_physicalLines with
  | nil => exact ⟨rfl, nofun, nofun, .nil⟩
  | last text hline hsome =>
      rw [physicalLines_unbroken hline hsome]
      refine ⟨List.append_nil text, nofun, ?_, .singleton text⟩
      rintro line ⟨⟩
      exact .inr ⟨hline, hsome⟩
  | more body ending rest hbody hending hrest induction =>
      have hended : IsEnded (body ++ ending) := ⟨body, ending, rfl, hbody, hending⟩
      refine ⟨flatten_physicalLines _, ?_, ?_, ?_⟩
      all_goals rw [physicalLines_ended hbody hending hrest]
      · intro line member
        by_cases hnone : physicalLines rest = []
        · rw [hnone] at member
          cases member
        · rw [List.dropLast_cons_of_ne_nil hnone] at member
          rcases List.mem_cons.mp member with rfl | hlater
          · exact hended
          · exact induction.ended line hlater
      · intro line member
        rw [List.getLast?_cons] at member
        cases hlast : (physicalLines rest).getLast? with
        | none =>
            rw [hlast] at member
            cases member
            exact .inl hended
        | some final =>
            rw [hlast] at member
            cases member
            exact induction.last _ hlast
      · refine induction.unparted.cons ?_
        rintro next member ⟨hreturn, hfeed⟩
        exact hrest (eq_of_getLast?_ended hending hreturn) (head?_of_mem_physicalLines member ▸ hfeed)

end Text

namespace LineIndex

open Text

theorem byteCount_eq (chars : List Char) :
    byteCount chars = (String.ofList chars).utf8ByteSize := by
  induction chars with
  | nil => rfl
  | cons c rest induction =>
      rw [byteCount, List.foldr_cons, ← byteCount, induction, String.utf8ByteSize_ofList,
        String.utf8ByteSize_ofList, String.utf8Len_cons, Nat.add_comm]

theorem byteCount_append (front rest : List Char) :
    byteCount (front ++ rest) = byteCount front + byteCount rest := by
  rw [byteCount_eq, String.ofList_append, String.utf8ByteSize_append, ← byteCount_eq,
    ← byteCount_eq]

theorem le_charsWithin_iff {count bytes : Nat} {chars : List Char} :
    count ≤ charsWithin bytes chars ↔
      count ≤ chars.length ∧ byteCount (chars.take count) ≤ bytes := by
  induction chars generalizing count bytes with
  | nil => simp [charsWithin, byteCount]
  | cons c rest induction =>
      cases count with
      | zero => simp [byteCount]
      | succ count =>
          have hcount : byteCount ((c :: rest).take (count + 1)) =
              c.utf8Size + byteCount (rest.take count) := rfl
          rw [charsWithin, hcount, List.length_cons]
          split
          · rw [Nat.add_le_add_iff_right, induction]
            omega
          · omega

/-- The bytes up to a character, and any that fall within it, hold the characters before it. -/
theorem charsWithin_eq {chars : List Char} {count bytes : Nat} {c : Char}
    (hchar : chars[count]? = some c) (hbytes : byteCount (chars.take count) ≤ bytes)
    (hwithin : bytes < byteCount (chars.take count) + c.utf8Size) :
    charsWithin bytes chars = count := by
  have hcount : count < chars.length := (List.getElem?_eq_some_iff.mp hchar).1
  have hlower : count ≤ charsWithin bytes chars :=
    le_charsWithin_iff.mpr ⟨Nat.le_of_lt hcount, hbytes⟩
  have hnext : byteCount (chars.take (count + 1)) =
      byteCount (chars.take count) + c.utf8Size := by
    rw [List.take_add_one, hchar, byteCount_append]
    rfl
  have hupper : ¬ count + 1 ≤ charsWithin bytes chars := by
    rw [le_charsWithin_iff, hnext]
    omega
  omega

theorem charsWithin_byteCount {chars : List Char} {count : Nat} (hcount : count ≤ chars.length) :
    charsWithin (byteCount (chars.take count)) chars = count := by
  rcases Nat.lt_or_eq_of_le hcount with hlt | rfl
  · have hsize := Char.utf8Size_pos chars[count]
    exact charsWithin_eq (List.getElem?_eq_getElem hlt) (Nat.le_refl _) (by omega)
  · exact Nat.le_antisymm (charsWithin_le _ _) (le_charsWithin_iff.mpr ⟨hcount, Nat.le_refl _⟩)

def bytesBetween (text : List Char) (start stop : Nat) : Nat :=
  (String.ofList ((Range.between start stop).slice text)).utf8ByteSize

/-- A line of an index, counted from zero, with its start and its characters. -/
def HasLine (index : LineIndex) (line start : Nat) (chars : List Char) : Prop :=
  index.lines[line]? = some (start, chars)

/-- What an index says of the lines of a text and of the offsets of its byte columns. -/
structure IsExact (text : List Char) (index : LineIndex) : Prop where
  lines : Text.AreLines text (index.lines.map Prod.snd)
  starts : ∀ line start chars, index.HasLine line start chars →
    start = ((index.lines.map Prod.snd).take line).flatten.length
  covered : ∀ offset < text.length, ∃ line start chars,
    index.HasLine line start chars ∧ start ≤ offset ∧ offset < start + chars.length
  exact : ∀ line start chars offset, index.HasLine line start chars →
    start ≤ offset → offset ≤ start + chars.length →
      index.offset (line + 1) (bytesBetween text start offset) = offset
  inside : ∀ line start chars offset c (column : Nat), index.HasLine line start chars →
    start ≤ offset → offset < start + chars.length → text[offset]? = some c →
      bytesBetween text start offset ≤ column →
        column < bytesBetween text start offset + c.utf8Size →
          index.offset (line + 1) column = offset
  bounded : ∀ line column, index.offset line column ≤ text.length
  monotone : ∀ line column line' column', 1 ≤ line → 0 ≤ column → 0 ≤ column' →
    Position.NotBehind line column line' column' →
      index.offset line column ≤ index.offset line' column'

theorem map_snd_withStarts (start : Nat) (lines : List (List Char)) :
    (withStarts start lines).map Prod.snd = lines := by
  induction lines generalizing start with
  | nil => rfl
  | cons line rest induction => rw [withStarts, List.map_cons, induction]

section

variable {text chars : List Char} {line start : Nat}

theorem hasLine_iff : (ofText text).HasLine line start chars ↔
    (Text.physicalLines text)[line]? = some chars ∧
      start = ((Text.physicalLines text).take line).flatten.length := by
  rw [HasLine, ofText, getElem?_withStarts, Option.map_eq_some_iff]
  simp [eq_comm]

theorem HasLine.drop_eq (hline : (ofText text).HasLine line start chars) :
    ∃ rest, text.drop start = chars ++ rest := by
  obtain ⟨hchars, rfl⟩ := hasLine_iff.mp hline
  obtain ⟨hlt, hget⟩ := List.getElem?_eq_some_iff.mp hchars
  refine ⟨((Text.physicalLines text).drop (line + 1)).flatten, ?_⟩
  have hsplit : ((Text.physicalLines text).take line).flatten ++
      ((Text.physicalLines text).drop line).flatten = text := by
    rw [← List.flatten_append, List.take_append_drop, Text.flatten_physicalLines]
  rw [List.drop_eq_getElem_cons hlt, hget, List.flatten_cons] at hsplit
  have hdrop := congrArg (List.drop ((Text.physicalLines text).take line).flatten.length) hsplit
  rw [List.drop_left] at hdrop
  exact hdrop.symm

theorem HasLine.bytesBetween_eq (hline : (ofText text).HasLine line start chars) {count : Nat}
    (hcount : count ≤ chars.length) :
    bytesBetween text start (start + count) = byteCount (chars.take count) := by
  obtain ⟨rest, hrest⟩ := hline.drop_eq
  rw [bytesBetween, ← byteCount_eq, Range.slice, Range.between, hrest, Nat.add_sub_cancel_left,
    List.take_append_of_le_length hcount]

theorem HasLine.getElem?_eq (hline : (ofText text).HasLine line start chars) {count : Nat}
    (hcount : count < chars.length) : text[start + count]? = chars[count]? := by
  obtain ⟨rest, hrest⟩ := hline.drop_eq
  rw [← List.getElem?_drop, hrest, List.getElem?_append_left hcount]

theorem HasLine.offset_eq (hline : (ofText text).HasLine line start chars) (column : Nat) :
    (ofText text).offset (line + 1) column = start + charsWithin column chars := by
  have hnumber : ((line : Int) + 1).toNat - 1 = line := by omega
  have hcolumn : columnBytes column chars = column := by
    rw [columnBytes, if_neg (by omega), Int.toNat_natCast]
  rw [offset, if_neg (by omega), hnumber, show (ofText text).lines[line]? = _ from hline]
  exact congrArg (start + charsWithin · chars) hcolumn

end

theorem exists_line_of_lt {lines : List (List Char)} {offset : Nat}
    (hoffset : offset < lines.flatten.length) :
    ∃ line chars, lines[line]? = some chars ∧ (lines.take line).flatten.length ≤ offset ∧
      offset < (lines.take line).flatten.length + chars.length := by
  induction lines generalizing offset with
  | nil => cases hoffset
  | cons first rest induction =>
      rw [List.flatten_cons, List.length_append] at hoffset
      rcases Nat.lt_or_ge offset first.length with hfirst | hlater
      · exact ⟨0, first, rfl, Nat.zero_le _, by simpa using hfirst⟩
      · have hrest : offset - first.length < rest.flatten.length := by omega
        obtain ⟨line, chars, hchars, hstart, hstop⟩ := induction hrest
        refine ⟨line + 1, chars, hchars, ?_⟩
        rw [List.take_succ_cons, List.flatten_cons, List.length_append]
        omega

/-- The byte columns of the lines of a text lead to the characters that they count. -/
theorem isExact_ofText (text : List Char) : IsExact text (ofText text) := by
  have hlines : (ofText text).lines.map Prod.snd = Text.physicalLines text :=
    map_snd_withStarts 0 _
  refine ⟨?_, ?_, ?_, ?_, ?_, offset_le text, ?_⟩
  · rw [hlines]
    exact Text.areLines_physicalLines text
  · intro line start chars hline
    rw [hlines]
    exact (hasLine_iff.mp hline).2
  · intro offset hoffset
    rw [← Text.flatten_physicalLines text] at hoffset
    obtain ⟨line, chars, hchars, hstart, hstop⟩ := exists_line_of_lt hoffset
    exact ⟨line, _, chars, hasLine_iff.mpr ⟨hchars, rfl⟩, hstart, hstop⟩
  · intro line start chars offset hline hstart hstop
    obtain ⟨count, rfl⟩ := Nat.exists_eq_add_of_le hstart
    have hcount : count ≤ chars.length := by omega
    rw [hline.bytesBetween_eq hcount, hline.offset_eq, charsWithin_byteCount hcount]
  · intro line start chars offset c column hline hstart hstop hchar hbytes hwithin
    obtain ⟨count, rfl⟩ := Nat.exists_eq_add_of_le hstart
    have hcount : count < chars.length := by omega
    rw [hline.bytesBetween_eq (Nat.le_of_lt hcount)] at hbytes hwithin
    rw [hline.getElem?_eq hcount] at hchar
    rw [hline.offset_eq, charsWithin_eq hchar hbytes hwithin]
  · intro line column line' column' hfirst hcolumn hcolumn' hle
    exact offset_mono text hfirst hcolumn hcolumn' hle

/-- The letter has two bytes, and both lead to it; a column past the line leads to its end. -/
example : [((1 : Int), (0 : Int)), (1, 1), (1, 2), (1, 3), (1, 9), (2, 0), (3, 0)].map
    (fun place => (ofText "é\r\nx".toList).offset place.1 place.2) = [0, 0, 1, 2, 3, 3, 4] := by
  decide

end LineIndex

end TreeMatch
