import TreeMatch.Matcher
import TreeMatch.Proofs.Expressions
import TreeMatch.Source

/-! Texts that cannot be read: which failures they give, and which of these are reports. -/

namespace TreeMatch

variable {chart : Text.CodeChart}

namespace Failure

def IsReport (subject : Subject) (failure : Failure) : Prop :=
  ∃ report, failure = reported report ∧ report.subject = subject

variable {subject : Subject}

theorem isReport_make (message : String) (code : Option ErrorCode) (span : Option Span)
    (source hint : String) :
    (reported (Diagnostic.make subject message code span source hint)).IsReport subject :=
  ⟨_, rfl, rfl⟩

theorem not_isReport_badAtom (fault : AtomFault) : ¬ (badAtom fault).IsReport subject := by
  rintro ⟨report, hreport, -⟩
  cases hreport

/-- The only fault of a pattern text that is not reported is an integer that is too long. -/
theorem isReport_ofPatternFault {text : List Char} {fault : PatternFault}
    (hshort : fault ≠ .leaf .longInteger) :
    (ofPatternFault text fault).IsReport (.patternText []) := by
  cases fault with
  | unreadable fault => exact isReport_make _ _ _ _ _
  | leaf fault =>
      cases fault with
      | badString loc literal cause => exact isReport_make _ _ _ _ _
      | longInteger => exact absurd rfl hshort

/-- The only faults of an s-expression that are not reported are those of its atoms. -/
theorem isReport_ofSexpFault {text : String} {fault : Sexp.Fault} :
    (ofSexpFault text fault).IsReport .sourceText ↔ ∀ cause, fault ≠ .atom cause := by
  cases fault with
  | atom cause => exact iff_of_false (not_isReport_badAtom cause) fun hnone => hnone cause rfl
  | unreadable fault => exact iff_of_true (isReport_make _ _ _ _ _) fun cause => nofun
  | notList => exact iff_of_true (isReport_make _ _ _ _ _) fun cause => nofun

end Failure

/-! Patterns: the fault of a reading is the fault of a leaf. -/

namespace Pattern

variable {decode : Range → α → Except ε β} {fault : ε}

theorem exists_of_decodeLeavesAll_error {patterns : List (Pattern α)}
    (hfault : decodeLeavesAll decode patterns = .error fault) :
    ∃ pattern ∈ patterns, pattern.decodeLeaves decode = .error fault := by
  induction patterns with
  | nil => cases hfault
  | cons pattern rest induction =>
      rcases bind_error hfault with hfirst | ⟨first, -, hlater⟩
      · exact ⟨pattern, List.mem_cons_self, hfirst⟩
      · rcases bind_error hlater with hothers | ⟨others, -, hdone⟩
        · obtain ⟨other, member, hother⟩ := induction hothers
          exact ⟨other, List.mem_cons_of_mem pattern member, hother⟩
        · cases hdone

theorem exists_of_decodeLeaves_error {pattern : Pattern α}
    (hfault : pattern.decodeLeaves decode = .error fault) :
    ∃ loc value, leaf loc value ∈ pattern.walk ∧ decode loc value = .error fault := by
  induction pattern using induct with
  | leaf loc value =>
      rcases bind_error hfault with hleaf | ⟨found, -, hdone⟩
      · exact ⟨loc, value, mem_walk_self _, hleaf⟩
      · cases hdone
  | marked loc mark inner induction | repeated loc inner quantity induction =>
      rcases bind_error hfault with hinner | ⟨found, -, hdone⟩
      · obtain ⟨place, value, member, hvalue⟩ := induction hinner
        exact ⟨place, value, List.mem_cons_of_mem _ member, hvalue⟩
      · cases hdone
  | grouped loc bracket first others firstHolds othersHold =>
      rcases bind_error hfault with hfirst | ⟨found, -, hlater⟩
      · obtain ⟨place, value, member, hvalue⟩ := firstHolds hfirst
        exact ⟨place, value, List.mem_cons_of_mem _ (List.mem_append_left _ member), hvalue⟩
      · rcases bind_error hlater with hothers | ⟨rest, -, hdone⟩
        · obtain ⟨other, member, hother⟩ := exists_of_decodeLeavesAll_error hothers
          obtain ⟨place, value, within, hvalue⟩ := othersHold other member hother
          have among := mem_walkAll.mpr ⟨other, member, within⟩
          exact ⟨place, value, List.mem_cons_of_mem _ (List.mem_append_right _ among), hvalue⟩
        · cases hdone

end Pattern

/-- A leaf that is written as an integer has no more digits than can be read. -/
def Lexed.IsShort (lexed : Lexed) : Prop :=
  lexed.kind = .number ∧ lexed.text.contains '.' = false ∨
      lexed.kind = .param ∧ (lexed.text.drop 1).all Text.isDigit = true →
    (lexed.text.filter Text.isDigit).length ≤ maxIntegerDigits

theorem Leaf.decode_ne_longInteger {loc : Range} {lexed : Lexed} (short : lexed.IsShort) :
    decode chart loc lexed ≠ .error .longInteger := by
  obtain ⟨kind, text⟩ := lexed
  intro hlong
  cases kind with
  | number =>
      change decodeNumber text = _ at hlong
      unfold decodeNumber at hlong
      split at hlong
      · cases hlong
      · rename_i hpoint
        have hdigits := short (.inl ⟨rfl, Bool.not_eq_true _ ▸ hpoint⟩)
        rw [if_neg (Nat.not_lt.mpr hdigits)] at hlong
        cases hlong
  | param =>
      change decodeParam (text.drop 1) = _ at hlong
      unfold decodeParam at hlong
      split at hlong
      · rename_i hdigits
        have hname : (text.drop 1).length ≤ (text.filter Text.isDigit).length := by
          rw [← List.filter_eq_self.mpr (List.all_eq_true.mp hdigits)]
          exact ((List.drop_sublist 1 text).filter Text.isDigit).length_le
        have hlength := Nat.le_trans hname (short (.inr ⟨rfl, hdigits⟩))
        rw [if_neg (Nat.not_lt.mpr hlength)] at hlong
        cases hlong
      · cases hlong
  | string =>
      change decodeString chart loc text = _ at hlong
      unfold decodeString at hlong
      split at hlong <;> cases hlong
  | rest | symbol | wildcard | nil | predicate | nodeType | punct => cases hlong

theorem Pattern.read_ne_longInteger {text : List Char}
    (hshort : ∀ lexed, PatternText.pattern.readAll text = .ok lexed →
      lexed.EachLeaf Lexed.IsShort) :
    Pattern.read chart text ≠ .error (.leaf .longInteger) := by
  intro hread
  rcases bind_error hread with hlexed | ⟨lexed, hlexed, hlater⟩
  · obtain ⟨cause, -, hcause⟩ := mapError_eq_error.mp hlexed
    cases hcause
  · obtain ⟨cause, hleaves, hcause⟩ := mapError_eq_error.mp hlater
    cases hcause
    obtain ⟨loc, value, member, hlong⟩ := exists_of_decodeLeaves_error hleaves
    have hleaf := hshort lexed (mapError_eq_ok.mp hlexed) loc value member
    exact Leaf.decode_ne_longInteger hleaf hlong

/-! S-expressions: the fault of a reading is the fault of an atom. -/

namespace Sexp

inductive Holds (kind : AtomKind) (text : List Char) : Sexp → Prop
  | atom : Holds kind text (.atom kind text)
  | item {loc : Range} {head : List Char} {items : List Sexp} {item : Sexp}
      (member : item ∈ items) (holds : Holds kind text item) :
      Holds kind text (.list loc head items)

theorem exists_of_toValues_error {items : List Sexp} {fault : AtomFault}
    (hfault : toValues chart items = .error fault) :
    ∃ item ∈ items, item.toValue chart = .error fault := by
  induction items with
  | nil => cases hfault
  | cons item rest induction =>
      rcases bind_error hfault with hfirst | ⟨first, -, hlater⟩
      · exact ⟨item, List.mem_cons_self, hfirst⟩
      · rcases bind_error hlater with hothers | ⟨others, -, hdone⟩
        · obtain ⟨other, member, hother⟩ := induction hothers
          exact ⟨other, List.mem_cons_of_mem item member, hother⟩
        · cases hdone

theorem exists_of_toValue_error {sexp : Sexp} {fault : AtomFault}
    (hfault : sexp.toValue chart = .error fault) :
    ∃ kind text, sexp.Holds kind text ∧ kind.decode chart text = .error fault := by
  induction sexp using induct with
  | atom kind text => exact ⟨kind, text, .atom, hfault⟩
  | list loc head items induction =>
      rcases bind_error hfault with hitems | ⟨values, -, hdone⟩
      · obtain ⟨item, member, hitem⟩ := exists_of_toValues_error hitems
        obtain ⟨kind, text, holds, htext⟩ := induction item member hitem
        exact ⟨kind, text, .item member holds, htext⟩
      · cases hdone

theorem exists_of_toValues {items : List Sexp} {values : List Value}
    (hvalues : toValues chart items = .ok values) :
    ∀ item ∈ items, ∃ value, item.toValue chart = .ok value := by
  induction items generalizing values with
  | nil => exact List.forall_mem_nil _
  | cons item rest induction =>
      obtain ⟨first, hfirst, hlater⟩ := bind_ok hvalues
      obtain ⟨others, hothers, -⟩ := bind_ok hlater
      exact List.forall_mem_cons.mpr ⟨⟨first, hfirst⟩, induction hothers⟩

theorem exists_of_toValue {sexp : Sexp} {value : Value} (hvalue : sexp.toValue chart = .ok value)
    {kind : AtomKind} {text : List Char} (holds : sexp.Holds kind text) :
    ∃ value, kind.decode chart text = .ok value := by
  induction holds generalizing value with
  | atom => exact ⟨value, hvalue⟩
  | item member holds induction =>
      obtain ⟨values, hvalues, -⟩ := bind_ok hvalue
      obtain ⟨inner, hinner⟩ := exists_of_toValues hvalues _ member
      exact induction hinner

end Sexp

/-- An atom has no value if it is an integer that is too long or a string literal that stands for
nothing. -/
theorem AtomKind.decode_error {kind : AtomKind} {text : List Char} {fault : AtomFault}
    (hfault : kind.decode chart text = .error fault) :
    kind = .integer ∧ maxDigits < (text.filter Text.isDigit).length ∨
      kind = .string ∧ ∃ cause, fault = .badString cause ∧
        Text.decodeLiteral chart (text.drop 1).dropLast = .error cause := by
  cases kind with
  | nil | «true» | «false» | symbol | float => cases hfault
  | integer =>
      change decodeInteger text = _ at hfault
      unfold decodeInteger at hfault
      split at hfault
      · rename_i hlong
        exact .inl ⟨rfl, hlong⟩
      · cases hfault
  | string =>
      simp only [decode] at hfault
      split at hfault
      · cases hfault
      · rename_i cause hcause
        cases hfault
        exact .inr ⟨rfl, cause, rfl, hcause⟩

namespace Sexp

/-- The integers of the expression have no more digits than can be read. -/
def IsShort (sexp : Sexp) : Prop :=
  ∀ digits, sexp.Holds .integer digits →
    (digits.filter Text.isDigit).length ≤ AtomKind.maxDigits

/-- A string literal of the expression that stands for nothing, and why. -/
def Spoils (chart : Text.CodeChart) (literal : List Char) (cause : Text.LiteralFault)
    (sexp : Sexp) : Prop :=
  sexp.Holds .string literal ∧ Text.decodeLiteral chart (literal.drop 1).dropLast = .error cause

theorem spoils_of_toValue_error {sexp : Sexp} (short : sexp.IsShort) {fault : AtomFault}
    (hfault : sexp.toValue chart = .error fault) :
    ∃ literal cause, sexp.Spoils chart literal cause ∧ fault = .badString cause := by
  obtain ⟨kind, text, holds, htext⟩ := exists_of_toValue_error hfault
  rcases AtomKind.decode_error htext with ⟨rfl, hlong⟩ | ⟨rfl, cause, hcause, hliteral⟩
  · exact absurd (short text holds) (Nat.not_le.mpr hlong)
  · exact ⟨text, cause, ⟨holds, hliteral⟩, hcause⟩

theorem toValue_of_spoils {sexp : Sexp} {literal : List Char} {cause : Text.LiteralFault}
    (spoils : sexp.Spoils chart literal cause) : ∃ fault, sexp.toValue chart = .error fault := by
  cases hvalue : sexp.toValue chart with
  | error fault => exact ⟨fault, rfl⟩
  | ok value =>
      obtain ⟨found, hfound⟩ := exists_of_toValue hvalue spoils.1
      simp only [AtomKind.decode, spoils.2] at hfound
      cases hfound

theorem readDocument_eq_error_atom {text : String} {fault : AtomFault} :
    readDocument chart text = .error (.atom fault) ↔
      ∃ sexp, SexpText.document.readAll text.toList = .ok sexp ∧
        sexp.toValue chart = .error fault := by
  constructor
  · intro hread
    rcases bind_error hread with hsexp | ⟨sexp, hsexp, hlater⟩
    · obtain ⟨cause, -, hcause⟩ := mapError_eq_error.mp hsexp
      cases hcause
    · rcases bind_error hlater with hvalue | ⟨value, -, hdone⟩
      · obtain ⟨cause, hvalue, hcause⟩ := mapError_eq_error.mp hvalue
        cases hcause
        exact ⟨sexp, mapError_eq_ok.mp hsexp, hvalue⟩
      · split at hdone <;> cases hdone
  · rintro ⟨sexp, hsexp, hvalue⟩
    rw [readDocument, mapError_eq_ok.mpr hsexp, ok_bind,
      mapError_eq_error.mpr ⟨fault, hvalue, rfl⟩]
    rfl

end Sexp

theorem PatternInput.isReport_toTerm {text : String}
    (hshort : ∀ lexed, PatternText.pattern.readAll text.toList = .ok lexed →
      lexed.EachLeaf Lexed.IsShort)
    {failure : Failure} (hterm : (PatternInput.text text).toTerm chart = .error failure) :
    failure.IsReport (.patternText []) := by
  have hlong : Pattern.read chart text.toList ≠ _ := Pattern.read_ne_longInteger hshort
  unfold toTerm at hterm
  dsimp only at hterm
  cases hread : Pattern.read chart text.toList with
  | ok pattern =>
      rw [hread] at hterm
      cases hterm
  | error fault =>
      rw [hread] at hterm hlong
      cases hterm
      refine Failure.isReport_ofPatternFault ?_
      rintro rfl
      exact hlong rfl

namespace Document

theorem read_eq_badAtom {parser : Program.Parser} {text : String} {fault : AtomFault}
    (hread : Sexp.readDocument chart text = .error (.atom fault)) :
    read chart parser .sexp text = .error (.badAtom fault) :=
  mapError_eq_error.mpr ⟨_, hread, rfl⟩

section

variable {parser : Program.Parser} {text : String}
  (hshort : ∀ sexp, SexpText.document.readAll text.toList = .ok sexp → sexp.IsShort)
include hshort

theorem spoils_of_readDocument {fault : AtomFault}
    (hread : Sexp.readDocument chart text = .error (.atom fault)) :
    ∃ sexp literal cause, SexpText.document.readAll text.toList = .ok sexp ∧
      sexp.Spoils chart literal cause ∧ fault = .badString cause := by
  obtain ⟨sexp, hsexp, hvalue⟩ := Sexp.readDocument_eq_error_atom.mp hread
  obtain ⟨literal, cause, spoils, hcause⟩ :=
    Sexp.spoils_of_toValue_error (hshort sexp hsexp) hvalue
  exact ⟨sexp, literal, cause, hsexp, spoils, hcause⟩

theorem isReport_read {failure : Failure}
    (hfailure : read chart parser .sexp text = .error failure) :
    failure.IsReport .sourceText ∨ ∃ cause, failure = .badAtom (.badString cause) := by
  obtain ⟨fault, hread, rfl⟩ := mapError_eq_error.mp hfailure
  by_cases hatom : ∃ cause, fault = .atom cause
  · obtain ⟨fault, rfl⟩ := hatom
    obtain ⟨-, -, cause, -, -, rfl⟩ := spoils_of_readDocument hshort hread
    exact .inr ⟨cause, rfl⟩
  · exact .inl (Failure.isReport_ofSexpFault.mpr fun cause hcause => hatom ⟨cause, hcause⟩)

theorem read_badString_iff :
    (∃ cause, read chart parser .sexp text = .error (.badAtom (.badString cause))) ↔
      ∃ sexp literal cause, SexpText.document.readAll text.toList = .ok sexp ∧
        sexp.Spoils chart literal cause := by
  constructor
  · rintro ⟨cause, hfailure⟩
    obtain ⟨fault, hread, hfault⟩ := mapError_eq_error.mp hfailure
    cases fault with
    | atom fault =>
        obtain ⟨sexp, literal, cause, hsexp, spoils, -⟩ := spoils_of_readDocument hshort hread
        exact ⟨sexp, literal, cause, hsexp, spoils⟩
    | unreadable fault | notList => cases hfault
  · rintro ⟨sexp, literal, cause, hsexp, spoils⟩
    obtain ⟨fault, hvalue⟩ := Sexp.toValue_of_spoils spoils
    have hread := Sexp.readDocument_eq_error_atom.mpr ⟨sexp, hsexp, hvalue⟩
    obtain ⟨-, -, cause, -, -, rfl⟩ := spoils_of_readDocument hshort hread
    exact ⟨cause, read_eq_badAtom hread⟩

end

end Document

/-- Whatever cannot be cut into tokens or read as a pattern is reported as such, if its integers
are short. So is what cannot be read as an s-expression, unless it holds a string literal that
stands for nothing: that alone fails in another way. -/
theorem text_reported (chart : Text.CodeChart) (parser : Program.Parser) (text : String) :
    (∀ fault, tokenize text.toList = .error fault →
      (Failure.ofPatternFault text.toList fault).IsReport (.patternText [])) ∧
    ((∀ lexed, PatternText.pattern.readAll text.toList = .ok lexed →
        lexed.EachLeaf Lexed.IsShort) →
      ∀ failure, (PatternInput.text text).toTerm chart = .error failure →
        failure.IsReport (.patternText [])) ∧
    ((∀ sexp, SexpText.document.readAll text.toList = .ok sexp → sexp.IsShort) →
      (∀ failure, Document.read chart parser .sexp text = .error failure →
        failure.IsReport .sourceText ∨ ∃ cause, failure = .badAtom (.badString cause)) ∧
      ((∃ cause, Document.read chart parser .sexp text = .error (.badAtom (.badString cause))) ↔
        ∃ sexp literal cause, SexpText.document.readAll text.toList = .ok sexp ∧
          sexp.Spoils chart literal cause)) := by
  refine ⟨?_, fun hshort failure hterm => PatternInput.isReport_toTerm hshort hterm,
    fun hshort => ⟨fun failure => Document.isReport_read hshort,
      Document.read_badString_iff hshort⟩⟩
  intro fault htokens
  obtain ⟨cause, -, rfl⟩ := mapError_eq_error.mp htokens
  exact Failure.isReport_ofPatternFault nofun

instance : DecidablePred Lexed.IsShort := fun lexed => by
  unfold Lexed.IsShort
  infer_instance

/-- One literal spoils a pattern and an s-expression, and only the pattern is reported. -/
theorem text_reported_escape :
    (∃ report, (PatternInput.text "(a 7 \"\\x\")").toTerm Text.basicLatin =
        .error (.reported report) ∧ report.subject = .patternText []) ∧
    ∃ cause, Document.read Text.basicLatin (fun _ => .ok .absent) .sexp "(a 7 \"\\x\")" =
      .error (.badAtom (.badString cause)) := by
  have hpattern : PatternText.pattern.readAll "(a 7 \"\\x\")".toList = .ok
      (.grouped ⟨0, 10⟩ .sequence (.leaf ⟨1, 1⟩ ⟨.nodeType, "a".toList⟩)
        [.leaf ⟨3, 1⟩ ⟨.number, "7".toList⟩, .leaf ⟨5, 4⟩ ⟨.string, "\"\\x\"".toList⟩]) := by
    cbv
  have hsexp : SexpText.document.readAll "(a 7 \"\\x\")".toList = .ok
      (.list ⟨0, 10⟩ "a".toList
        [.atom .integer "7".toList, .atom .string "\"\\x\"".toList]) := by
    cbv
  obtain ⟨-, hterm, hread⟩ := text_reported Text.basicLatin (fun _ => .ok .absent) "(a 7 \"\\x\")"
  constructor
  · have hshort : ∀ lexed, PatternText.pattern.readAll "(a 7 \"\\x\")".toList = .ok lexed →
        lexed.EachLeaf Lexed.IsShort := by
      intro lexed hlexed
      rw [hpattern] at hlexed
      cases hlexed
      simp only [Pattern.eachLeaf_grouped, Pattern.eachLeaf_leaf, List.forall_mem_cons]
      exact ⟨by decide, by decide, by decide, List.forall_mem_nil _⟩
    obtain ⟨failure, hfails⟩ : ∃ failure,
        (PatternInput.text "(a 7 \"\\x\")").toTerm Text.basicLatin = .error failure := by
      unfold PatternInput.toTerm Pattern.read
      simp only [hpattern]
      exact ⟨_, rfl⟩
    obtain ⟨report, rfl, hsubject⟩ := hterm hshort failure hfails
    exact ⟨report, hfails, hsubject⟩
  · refine (hread ?_).2.mpr ⟨_, "\"\\x\"".toList, .badEscape, hsexp, ?_, by decide⟩
    · intro sexp hlisted
      rw [hsexp] at hlisted
      cases hlisted
      intro digits holds
      cases holds with
      | item member holds =>
          rcases List.mem_pair.mp member with rfl | rfl
          · cases holds
            decide
          · cases holds
    · exact .item (List.mem_cons_of_mem _ List.mem_cons_self) .atom

/-- An s-expression without any number fails, and not with a report. -/
theorem Sexp.read_unreported :
    ∃ failure, Document.read Text.basicLatin (fun _ => .ok .absent) .sexp "(a \"\\x\")" =
        .error failure ∧
      ∀ subject, ¬ failure.IsReport subject := by
  have hsexp : SexpText.document.readAll "(a \"\\x\")".toList = .ok
      (.list ⟨0, 8⟩ "a".toList [.atom .string "\"\\x\"".toList]) := by
    cbv
  have hread : Sexp.readDocument Text.basicLatin "(a \"\\x\")" =
      .error (.atom (.badString .badEscape)) :=
    readDocument_eq_error_atom.mpr ⟨_, hsexp, rfl⟩
  exact ⟨_, Document.read_eq_badAtom hread, fun subject => Failure.not_isReport_badAtom _⟩

end TreeMatch
