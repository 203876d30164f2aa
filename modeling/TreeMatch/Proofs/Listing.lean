import TreeMatch.Proofs.Inline
import TreeMatch.Proofs.Lines
import TreeMatch.Proofs.Naming

/-! The script of a matcher line by line: what the pattern's text adds to it stands in comments, as
long as no carriage return breaks a line of the text in two. -/

namespace TreeMatch

variable {chart : Text.CodeChart}

namespace Text

section PhysicalLines

variable {c : Char} {line front rest : List Char} {lines : List (List Char)}

theorem physicalLines_lineFeed (rest : List Char) :
    physicalLines ('\n' :: rest) = ['\n'] :: physicalLines rest := by
  simp [physicalLines]

theorem physicalLines_return (hrest : rest.head? ≠ some '\n') :
    physicalLines ('\r' :: rest) = ['\r'] :: physicalLines rest := by
  rw [physicalLines]
  · simp
  · rintro more - rfl
    exact hrest rfl

theorem physicalLines_cons (hfeed : c ≠ '\n') (hreturn : c ≠ '\r')
    (hrest : physicalLines rest = line :: lines) :
    physicalLines (c :: rest) = (c :: line) :: lines := by
  rw [physicalLines, hrest, if_neg (not_or.mpr ⟨hfeed, hreturn⟩)]
  rintro more rfl
  exact absurd rfl hreturn

/-- Characters in front of the first line feed or carriage return belong to the first line. -/
theorem physicalLines_append (hline : ∀ c ∈ line, c ≠ '\n' ∧ c ≠ '\r')
    (hrest : physicalLines rest = front :: lines) :
    physicalLines (line ++ rest) = (line ++ front) :: lines := by
  induction line with
  | nil => exact hrest
  | cons c tail induction =>
      obtain ⟨hfirst, htail⟩ := List.forall_mem_cons.mp hline
      exact physicalLines_cons hfirst.1 hfirst.2 (induction htail)

theorem exists_physicalLines {text : List Char} (hsome : text ≠ []) :
    ∃ line lines, physicalLines text = line :: lines := by
  cases hnone : physicalLines text with
  | nil =>
      have hflat := flatten_physicalLines text
      rw [hnone] at hflat
      exact absurd hflat.symm hsome
  | cons line lines => exact ⟨line, lines, rfl⟩

theorem physicalLines_split (front rest : List Char) :
    physicalLines (front ++ '\n' :: rest) =
      physicalLines (front ++ ['\n']) ++ physicalLines rest := by
  induction hlength : front.length using Nat.strongRecOn generalizing front with
  | ind length induction =>
      cases front with
      | nil => exact physicalLines_lineFeed rest
      | cons c tail =>
          rw [List.length_cons] at hlength
          have hlater := induction tail.length (by omega) tail rfl
          by_cases hfeed : c = '\n'
          · subst hfeed
            rw [List.cons_append, List.cons_append, physicalLines_lineFeed, physicalLines_lineFeed,
              hlater, List.cons_append]
          by_cases hreturn : c = '\r'
          · subst hreturn
            by_cases hnext : tail.head? = some '\n'
            · -- The line feed behind the carriage return ends the same line.
              obtain ⟨more, rfl⟩ := List.head?_eq_some_iff.mp hnext
              rw [List.length_cons] at hlength
              have hbehind := induction more.length (by omega) more rfl
              simp only [List.cons_append, physicalLines, hbehind]
            · cases tail with
              | nil => simp [physicalLines]
              | cons next more =>
                  have hwhole : (next :: more ++ '\n' :: rest).head? ≠ some '\n' := hnext
                  have hfirst : (next :: more ++ ['\n']).head? ≠ some '\n' := hnext
                  have hlines := physicalLines_return hfirst
                  have hends := physicalLines_return hwhole
                  rw [hlater] at hends
                  exact hends.trans (congrArg (· ++ physicalLines rest) hlines.symm)
          · have hsome : tail ++ ['\n'] ≠ [] := List.concat_ne_nil '\n' tail
            obtain ⟨line, lines, hlines⟩ := exists_physicalLines hsome
            rw [hlines, List.cons_append] at hlater
            rw [List.cons_append, List.cons_append, physicalLines_cons hfeed hreturn hlater,
              physicalLines_cons hfeed hreturn hlines, List.cons_append]

theorem physicalLines_flatMap (texts : List String) :
    physicalLines (texts.flatMap fun text => (text ++ "\n").toList) =
      texts.flatMap fun text => physicalLines (text ++ "\n").toList := by
  induction texts with
  | nil => rfl
  | cons text rest induction =>
      rw [List.flatMap_cons, List.flatMap_cons, ← induction, String.toList_append]
      change physicalLines (text.toList ++ ['\n'] ++ _) = _
      rw [List.append_assoc]
      exact physicalLines_split _ _

theorem physicalLines_inline {text : String} (hinline : IsOneLine text) :
    physicalLines (text ++ "\n").toList = [(text ++ "\n").toList] := by
  rw [String.toList_append]
  exact physicalLines_append (fun c member => (hinline c member).2) (physicalLines_lineFeed [])

/-- A carriage return at the very end of a line ends it together with the line feed. -/
theorem physicalLines_single (hfeed : '\n' ∉ line) (hreturn : '\r' ∉ line.dropLast) :
    physicalLines (line ++ ['\n']) = [line ++ ['\n']] := by
  rcases List.eq_nil_or_concat' line with rfl | ⟨init, last, rfl⟩
  · exact physicalLines_lineFeed []
  · rw [List.dropLast_concat] at hreturn
    have hinit : ∀ c ∈ init, c ≠ '\n' ∧ c ≠ '\r' := by
      intro c member
      refine ⟨?_, ne_of_mem_of_not_mem member hreturn⟩
      exact ne_of_mem_of_not_mem (List.mem_append_left _ member) hfeed
    have hlast : last ≠ '\n' := ne_of_mem_of_not_mem (List.mem_concat_self) hfeed
    have hend : physicalLines [last, '\n'] = [[last, '\n']] := by
      by_cases hsame : last = '\r'
      · rw [hsame]
        decide
      · exact physicalLines_cons hlast hsame (physicalLines_lineFeed [])
    have hlines := physicalLines_append hinit hend
    rwa [List.append_cons] at hlines

theorem not_mem_of_mem_splitLineFeeds {text part : List Char}
    (member : part ∈ splitLineFeeds text) : '\n' ∉ part := by
  induction text using induct_lines with
  | last line hline =>
      rw [splitLineFeeds_line hline, List.mem_singleton] at member
      rwa [member]
  | more line rest hline induction =>
      rw [splitLineFeeds_append hline] at member
      rcases List.mem_cons.mp member with rfl | hrest
      · exact hline
      · exact induction hrest

theorem splitLineFeeds_front {front : List Char} (hfront : '\n' ∉ front) (text : List Char) :
    ∃ first rest, splitLineFeeds text = first :: rest ∧
      splitLineFeeds (front ++ text) = (front ++ first) :: rest := by
  have hsplit : ∀ {line : List Char}, '\n' ∉ line → '\n' ∉ front ++ line :=
    fun hline member => (List.mem_append.mp member).elim hfront hline
  induction text using induct_lines with
  | last line hline =>
      exact ⟨line, [], splitLineFeeds_line hline, splitLineFeeds_line (hsplit hline)⟩
  | more line rest hline induction =>
      refine ⟨line, splitLineFeeds rest, splitLineFeeds_append hline rest, ?_⟩
      rw [← List.append_assoc]
      exact splitLineFeeds_append (hsplit hline) rest

theorem not_mem_dropLast_append {front : List Char} {c : Char} (hfront : c ∉ front)
    (hline : c ∉ line.dropLast) : c ∉ (front ++ line).dropLast := by
  cases line with
  | nil =>
      rw [List.append_nil]
      exact fun member => hfront (List.mem_of_mem_dropLast member)
  | cons d rest =>
      rw [List.dropLast_append_of_ne_nil (List.cons_ne_nil d rest)]
      exact fun member => (List.mem_append.mp member).elim hfront hline

end PhysicalLines

end Text

namespace Script

def IsVisible (code : String) : Prop :=
  code.toList.all Text.isTrimmed = false

instance (code : String) : Decidable (IsVisible code) :=
  inferInstanceAs (Decidable (_ = _))

theorem IsVisible.append {front : String} (hvisible : IsVisible front) (back : String) :
    IsVisible (front ++ back) := by
  rw [IsVisible, String.toList_append, List.all_append]
  exact Bool.and_eq_false_imp.mpr fun htrimmed => absurd htrimmed (by rw [hvisible]; decide)

namespace Writer

def ofLines (lines : List String) (level : Nat) : Writer :=
  ⟨String.join (lines.map fun line => line ++ "\n"), "    ", level⟩

def margin (level : Nat) : String :=
  String.join (List.replicate level "    ")

variable (written : List String) (level : Nat)

theorem line_ofLines {code : String} (hvisible : IsVisible code) :
    (ofLines written level).line code =
      ofLines (written ++ [margin level ++ code]) level := by
  have hjoin : ∀ last, String.join ((written ++ [last]).map fun line => line ++ "\n") =
      (ofLines written level).written ++ last ++ "\n" := by
    intro last
    rw [List.map_append, String.join_append, List.map_singleton, String.join_cons,
      String.join_nil, String.append_empty, ← String.append_assoc]
    rfl
  unfold line
  rw [hvisible, if_neg Bool.false_ne_true]
  conv => rhs; rw [ofLines, hjoin]
  rfl

theorem openBlock_ofLines {header : String} (hvisible : IsVisible header) :
    (ofLines written level).openBlock header =
      ofLines (written ++ [margin level ++ header]) (level + 1) := by
  rw [openBlock, line_ofLines written level hvisible]
  rfl

theorem lines_ofLines {codes : List String} (hvisible : ∀ code ∈ codes, IsVisible code) :
    (ofLines written level).lines codes =
      ofLines (written ++ codes.map fun code => margin level ++ code) level := by
  induction codes generalizing written with
  | nil => rw [List.map_nil, List.append_nil]; rfl
  | cons code rest induction =>
      obtain ⟨hfirst, hrest⟩ := List.forall_mem_cons.mp hvisible
      rw [lines, List.foldl_cons, line_ofLines written level hfirst, ← lines, induction _ hrest,
        List.append_assoc]
      rfl

end Writer

theorem isOneLine_functionName (requested : String) :
    Text.IsOneLine (functionName requested) := by
  intro c member
  have hword := (functionName_free requested).1.word c member
  exact isInline_of_test (by decide) (by decide) (by decide) hword

end Script

namespace Leaf

def HasInlineName : Leaf → Prop
  | named name => Text.IsOneLine name
  | _ => True

theorem isInline_param {text taken rest : List Char}
    (htake : TokenKind.param.take text = some (taken, rest)) : ∀ c ∈ taken.drop 1, IsInline c := by
  have hdigit : ∀ {c : Char}, Text.isDigit c = true → IsInline c :=
    fun hdigit => isInline_of_test (by decide) (by decide) (by decide) hdigit
  simp only [TokenKind.take] at htake
  split at htake
  · split at htake
    · rename_i split hrun
      obtain ⟨name, hname, rfl⟩ := Grammar.Lexeme.cons_eq_some htake
      cases hname
      exact isInline_run hrun hdigit hdigit
    · obtain ⟨name, hname, rfl⟩ := Grammar.Lexeme.cons_eq_some htake
      exact isInline_run hname isInline_wordStart isInline_word
  · cases htake

theorem hasInlineName_decode (loc : Range) (lexed : Lexed) (value : Leaf)
    (hdecode : decode chart loc lexed = .ok value) (htaken : PatternText.IsTaken lexed) :
    value.HasInlineName := by
  cases value with
  | named name =>
      obtain ⟨kind, taken⟩ := lexed
      obtain ⟨text, rest, htake⟩ := htaken
      have hkind : kind ≠ .punct := by
        rintro rfl
        cases hdecode
      cases show TokenKind.param = kind from kind_of_decode loc _ _ hdecode hkind
      change decodeParam (taken.drop 1) = _ at hdecode
      unfold decodeParam at hdecode
      split at hdecode
      · split at hdecode <;> cases hdecode
      · cases hdecode
        rw [HasInlineName, Text.IsOneLine, String.toList_ofList]
        exact isInline_param htake
  | _ => trivial

end Leaf

namespace Matcher

/-- The comment that shows the pattern, a line for each of its text. -/
def comments (matcher : Matcher) : List String :=
  (Text.splitLineFeeds ("pattern: " ++ matcher.label).toList).map fun part =>
    "    # " ++ String.ofList part

def listing (matcher : Matcher) : List String :=
  ["def " ++ matcher.functionName ++ "(" ++ matcher.signature ++ "):",
    "    \"\"\"Generated node-pattern matcher.\"\"\""] ++ matcher.comments ++
  ["    captures = [None] * " ++ toString matcher.slots, "    if not " ++ matcher.test.text ++ ":",
    "        return None", "    return _result(captures)"]

theorem script_eq (matcher : Matcher) :
    matcher.script = String.join (matcher.listing.map fun line => line ++ "\n") := by
  have hcomments : ∀ code ∈ (Text.splitLineFeeds ("pattern: " ++ matcher.label).toList).map
      (fun part => "# " ++ String.ofList part), Script.IsVisible code := by
    intro code member
    obtain ⟨part, -, rfl⟩ := List.mem_map.mp member
    exact Script.IsVisible.append (by decide) _
  have hheader : Script.IsVisible
      ("def " ++ matcher.functionName ++ "(" ++ matcher.signature ++ "):") :=
    (((Script.IsVisible.append (by decide) _).append _).append _).append _
  have hslots : Script.IsVisible ("captures = [None] * " ++ toString matcher.slots) :=
    Script.IsVisible.append (by decide) _
  have htest : Script.IsVisible ("if not " ++ matcher.test.text ++ ":") :=
    (Script.IsVisible.append (by decide) _).append _
  have hdocstring : ∀ writer : Script.Writer, writer.docstring "Generated node-pattern matcher." =
      writer.line "\"\"\"Generated node-pattern matcher.\"\"\"" := by
    intro writer
    have hsingle : Text.splitLineFeeds (Text.trim "Generated node-pattern matcher.".toList) =
        ["Generated node-pattern matcher.".toList] := by decide
    rw [Script.Writer.docstring, hsingle]
    rfl
  have hstart : Script.Writer.start "    " = .ofLines [] 0 := rfl
  have hdedent : ∀ written level, (Script.Writer.ofLines written (level + 1)).dedent =
      .ofLines written level := fun _ _ => rfl
  have hdocumented : Script.IsVisible "\"\"\"Generated node-pattern matcher.\"\"\"" := by decide
  have hnothing : Script.IsVisible "return None" := by decide
  have hresult : Script.IsVisible "return _result(captures)" := by decide
  rw [script, hstart, Script.Writer.openBlock_ofLines _ _ hheader, hdocstring,
    Script.Writer.line_ofLines _ _ hdocumented, Script.Writer.comment,
    Script.Writer.lines_ofLines _ _ hcomments,
    Script.Writer.line_ofLines _ _ hslots, Script.Writer.openBlock_ofLines _ _ htest,
    Script.Writer.line_ofLines _ _ hnothing, hdedent,
    Script.Writer.line_ofLines _ _ hresult, hdedent]
  have houter : Script.Writer.margin 0 = "" := rfl
  have hinner : Script.Writer.margin (0 + 1) = "    " := rfl
  have hblock : Script.Writer.margin (0 + 1 + 1) = "        " := rfl
  have hcaptures : "    " ++ ("captures = [None] * " ++ toString matcher.slots) =
      "    captures = [None] * " ++ toString matcher.slots := by
    rw [← String.append_assoc]
    rfl
  have hguard : "    " ++ ("if not " ++ matcher.test.text ++ ":") =
      "    if not " ++ matcher.test.text ++ ":" := by
    rw [String.append_assoc, ← String.append_assoc, ← String.append_assoc]
    rfl
  have hparts : (Text.splitLineFeeds ("pattern: " ++ matcher.label).toList).map
      ((fun code => "    " ++ code) ∘ fun part => "# " ++ String.ofList part) =
        matcher.comments := by
    refine List.map_congr_left fun part _ => ?_
    change "    " ++ ("# " ++ String.ofList part) = _
    rw [← String.append_assoc]
    rfl
  -- Both sides are the same lines once the margins are joined to them.
  rw [houter, hinner, hblock, hcaptures, hguard, List.map_map, hparts, String.empty_append]
  simp only [List.nil_append, List.append_assoc, List.cons_append]
  rfl

/-- The physical lines of a script are its lines, but that carriage returns may break the comment
further. -/
theorem physicalLines_script (matcher : Matcher) :
    Text.physicalLines matcher.script.toList =
      matcher.listing.flatMap fun line => Text.physicalLines (line ++ "\n").toList := by
  rw [script_eq, String.toList_join, List.flatMap_map, Text.physicalLines_flatMap]

section Lines

variable {text name : String} {recording : Bool} {pattern : Pattern Leaf}

theorem isOneLine_parameters (hread : Pattern.read chart text.toList = .ok pattern) :
    ∀ parameter ∈ (ofPattern text pattern recording name).parameters, Text.IsOneLine parameter := by
  intro parameter member
  rcases mem_parameters_ofPattern.mp member with rfl | ⟨index, -, -, rfl⟩ | hnamed | ⟨-, rfl⟩
  · decide
  · exact Text.IsOneLine.append (by decide) (Text.isOneLine_integer index)
  · obtain ⟨lexed, hlexed, hdecoded⟩ := Pattern.lexed_of_read hread
    have hleaves := Grammar.Rule.readAll_yields PatternText.yields_pattern hlexed
    obtain ⟨loc, hleaf⟩ := Pattern.mem_names.mp hnamed
    exact Pattern.eachLeaf_decodeLeaves Leaf.hasInlineName_decode lexed pattern hdecoded hleaves
      loc _ hleaf
  · decide

theorem isOneLine_signature {matcher : Matcher}
    (hparameters : ∀ parameter ∈ matcher.parameters, Text.IsOneLine parameter) :
    Text.IsOneLine matcher.signature := by
  unfold signature
  apply Text.isOneLine_intercalate (by decide)
  unfold parameters at hparameters
  obtain ⟨hpositional, hkeywords⟩ := List.forall_mem_append.mp hparameters
  refine List.forall_mem_append.mpr ⟨hpositional, ?_⟩
  split
  · exact List.forall_mem_nil _
  · exact List.forall_mem_cons.mpr ⟨by decide, hkeywords⟩

theorem of_ofTerm {matcher : Matcher}
    (hmade : ofTerm .node text pattern.toTerm recording name = .ok matcher) :
    pattern.rejection? .outside = none ∧ matcher = ofPattern text pattern recording name := by
  rw [ofTerm_toTerm] at hmade
  cases hrejection : pattern.rejection? .outside with
  | some rejection =>
      rw [hrejection] at hmade
      cases hmade
  | none =>
      rw [hrejection] at hmade
      cases hmade
      exact ⟨rfl, rfl⟩

/-- The lines of the comment are not broken further if no line of the pattern's text is. -/
theorem physicalLines_comments {matcher : Matcher}
    (hreturn : ∀ line ∈ Text.splitLineFeeds matcher.label.toList, '\r' ∉ line.dropLast) :
    ∀ line ∈ matcher.comments,
      Text.physicalLines (line ++ "\n").toList = [(line ++ "\n").toList] := by
  intro line member
  obtain ⟨part, hpart, rfl⟩ := List.mem_map.mp member
  have hinside : '\r' ∉ part.dropLast := by
    obtain ⟨first, rest, hsplit, hlabel⟩ := Text.splitLineFeeds_front
      (show '\n' ∉ "pattern: ".toList by decide) matcher.label.toList
    rw [hsplit, List.forall_mem_cons] at hreturn
    rw [String.toList_append, hlabel] at hpart
    rcases List.mem_cons.mp hpart with rfl | hrest
    · exact Text.not_mem_dropLast_append (by decide) hreturn.1
    · exact hreturn.2 part hrest
  have hfeed := Text.not_mem_of_mem_splitLineFeeds hpart
  have hchars : (String.ofList part).toList = part := String.toList_ofList
  rw [String.toList_append, String.toList_append, hchars]
  refine Text.physicalLines_single ?_ (Text.not_mem_dropLast_append (by decide) hinside)
  exact fun member => (List.mem_append.mp member).elim (by decide) hfeed

theorem physicalLines_listing {matcher : Matcher} (hname : Text.IsOneLine matcher.functionName)
    (hsignature : Text.IsOneLine matcher.signature) (htest : Text.IsOneLine matcher.test.text)
    (hreturn : ∀ line ∈ Text.splitLineFeeds matcher.label.toList, '\r' ∉ line.dropLast) :
    ∀ line ∈ matcher.listing,
      Text.physicalLines (line ++ "\n").toList = [(line ++ "\n").toList] := by
  have hheader : Text.IsOneLine
      ("def " ++ matcher.functionName ++ "(" ++ matcher.signature ++ "):") :=
    ((((show Text.IsOneLine "def " by decide).append hname).append
      (show Text.IsOneLine "(" by decide)).append hsignature).append (by decide)
  have hdocumented : Text.IsOneLine "    \"\"\"Generated node-pattern matcher.\"\"\"" := by
    decide
  have hslots : Text.IsOneLine ("    captures = [None] * " ++ toString matcher.slots) :=
    Text.IsOneLine.append (by decide) (Text.isOneLine_number matcher.slots)
  have hguard : Text.IsOneLine ("    if not " ++ matcher.test.text ++ ":") :=
    (Text.IsOneLine.append (by decide) htest).append (by decide)
  refine List.forall_mem_append.mpr ⟨List.forall_mem_append.mpr ⟨?_, ?_⟩, ?_⟩
  · exact List.forall_mem_cons.mpr ⟨Text.physicalLines_inline hheader,
      List.forall_mem_singleton.mpr (Text.physicalLines_inline hdocumented)⟩
  · exact physicalLines_comments hreturn
  · simp only [List.forall_mem_cons]
    exact ⟨Text.physicalLines_inline hslots, Text.physicalLines_inline hguard,
      Text.physicalLines_inline (by decide), Text.physicalLines_inline (by decide),
      List.forall_mem_nil _⟩

/-- The script of a pattern consists of the lines of a listing, of which only comments show the text
of the pattern, if in no line of that text a carriage return stands before the end. -/
theorem script_lines {matcher : Matcher} (hread : Pattern.read chart text.toList = .ok pattern)
    (hmade : ofTerm .node text pattern.toTerm recording name = .ok matcher)
    (hreturn : ∀ line ∈ Text.splitLineFeeds text.toList, '\r' ∉ line.dropLast) :
    matcher.comments ≠ [] ∧
      Text.physicalLines matcher.script.toList =
        matcher.listing.map fun line => (line ++ "\n").toList := by
  refine ⟨fun hnone => Text.splitLineFeeds_ne_nil _ (List.map_eq_nil_iff.mp hnone), ?_⟩
  obtain ⟨hnone, rfl⟩ := of_ofTerm hmade
  have htext : text ≠ "" := by
    rintro rfl
    exact Pattern.read_nil pattern hread
  have hparameters : ∀ parameter ∈ (ofPattern text pattern recording name).parameters,
      Text.IsOneLine parameter := isOneLine_parameters hread
  have hwellFormed := Pattern.wellFormed_of_unrejected (Pattern.endsInQuery_of_read hread) hnone
  have hscoped : (ofPattern text pattern recording name).test.Scoped
      (fun value => Text.IsOneLine value.exact)
      (ofPattern text pattern recording name).parameters :=
    scoped_ofPattern hwellFormed Text.isOneLine_quoted Text.isOneLine_integer
      fun _ x _ => Text.isOneLine_float x
  have hname : Text.IsOneLine (ofPattern text pattern recording name).functionName := by
    rw [functionName_ofPattern]
    exact Script.isOneLine_functionName name
  have hlabel := label_ofPattern text pattern recording name htext
  rw [← hlabel] at hreturn
  have heach := physicalLines_listing hname (isOneLine_signature hparameters)
    (hscoped.isOneLine hparameters) hreturn
  rw [physicalLines_script, List.flatMap_congr heach, ← List.map_eq_flatMap]

end Lines

/-- A comment in the text of the pattern, and a line that ends in a carriage return and a line
feed. -/
theorem script_lines_commented :
    ∃ matcher, compile Text.basicLatin .node (.text "a # x\r\n") false "m" = .ok matcher ∧
      Text.physicalLines matcher.script.toList =
        ["def m(node):", "    \"\"\"Generated node-pattern matcher.\"\"\"",
          "    # pattern: a # x\r", "    # ", "    captures = [None] * 0",
          "    if not (_is_node(node) and node.type == 'a'):",
          "        return None", "    return _result(captures)"].map
          fun line => (line ++ "\n").toList := by
  let pattern : Pattern Leaf := .leaf ⟨0, 1⟩ (.nodeType "a")
  have hread : Pattern.read Text.basicLatin "a # x\r\n".toList = .ok pattern := by decide +kernel
  have hcompile := compile_text_eq_ok hread rfl (by cbv) rfl (by cbv) false "m"
  have hmade : ofTerm .node "a # x\r\n" pattern.toTerm false "m" =
      .ok (ofPattern "a # x\r\n" pattern false "m") := by
    rw [ofTerm_toTerm]
    rfl
  obtain ⟨-, hlines⟩ := script_lines hread hmade (by decide)
  refine ⟨_, hcompile, hlines.trans (congrArg (List.map _) ?_)⟩
  decide +kernel

/-- A carriage return ends a line that shows the pattern, and what stands behind it is a line of its
own without any blanks in front. -/
theorem script_lines_broken :
    ∃ matcher, compile Text.basicLatin .node (.text "a # x\r# y") false "m" = .ok matcher ∧
      Text.physicalLines matcher.script.toList =
        ["def m(node):\n", "    \"\"\"Generated node-pattern matcher.\"\"\"\n",
          "    # pattern: a # x\r", "# y\n", "    captures = [None] * 0\n",
          "    if not (_is_node(node) and node.type == 'a'):\n",
          "        return None\n", "    return _result(captures)\n"].map String.toList := by
  let pattern : Pattern Leaf := .leaf ⟨0, 1⟩ (.nodeType "a")
  have hread : Pattern.read Text.basicLatin "a # x\r# y".toList = .ok pattern := by decide +kernel
  have hcompile := compile_text_eq_ok hread rfl (by cbv) rfl (by cbv) false "m"
  have hlisting : (ofPattern "a # x\r# y" pattern false "m").listing =
      ["def m(node):", "    \"\"\"Generated node-pattern matcher.\"\"\"",
        "    # pattern: a # x\r# y", "    captures = [None] * 0",
        "    if not (_is_node(node) and node.type == 'a'):",
        "        return None", "    return _result(captures)"] := by decide +kernel
  refine ⟨_, hcompile, ?_⟩
  rw [physicalLines_script, hlisting]
  decide +kernel

end Matcher

end TreeMatch
