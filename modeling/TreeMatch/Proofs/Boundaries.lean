import Mathlib.Data.List.TakeWhile
import TreeMatch.Proofs.Lexemes

/-! Where lexemes end: what stands behind one matters by its first character only, and the first
character of a token tells its kind, words apart. -/

namespace TreeMatch

namespace Grammar.Lexeme

open Text

/-- A text that may stand in for another behind a lexeme: it is at its end, or it goes on with the
same character, or with one that no lexeme reads on with. -/
def Follows (rest other : List Char) : Prop :=
  ∀ c, other.head? = some c → rest.head? = some c ∨ c = ' ' ∨ c = ')'

theorem Follows.nil (rest : List Char) : Follows rest [] :=
  fun _ hhead => nomatch hhead

theorem Follows.cons (c : Char) (rest other : List Char) : Follows (c :: rest) (c :: other) :=
  fun _ hhead => .inl hhead

theorem Follows.append {front rest other : List Char} (hfollows : Follows rest other) :
    Follows (front ++ rest) (front ++ other) := by
  cases front with
  | nil => exact hfollows
  | cons c front => exact .cons c _ _

/-- A test that fails on the old text and on what no lexeme reads fails on the new one. -/
theorem Follows.stops {rest other : List Char} (hfollows : Follows rest other)
    {test : Char → Bool} (hspace : test ' ' = false) (hclose : test ')' = false)
    (hstops : ∀ c, rest.head? = some c → test c = false) :
    ∀ c, other.head? = some c → test c = false := by
  intro c hhead
  rcases hfollows c hhead with hsame | rfl | rfl
  · exact hstops c hsame
  · exact hspace
  · exact hclose

def Local (take : List Char → Option Split) : Prop :=
  ∀ {text taken rest other : List Char}, take text = some (taken, rest) → Follows rest other →
    take (taken ++ other) = some (taken, other)

section Classes

variable {first follow test : Char → Bool} {text taken rest other word : List Char} {c : Char}

theorem span_of_stops (hword : ∀ c ∈ word, follow c = true)
    (hstops : ∀ c, rest.head? = some c → follow c = false) :
    (word ++ rest).span follow = (word, rest) := by
  rw [List.span_eq_takeWhile_dropWhile, List.takeWhile_append_of_pos hword,
    List.dropWhile_append_of_pos hword]
  cases rest with
  | nil => simp
  | cons c rest => simp [hstops c rfl]

theorem run_of_stops (hfirst : first c = true) (hword : ∀ d ∈ word, follow d = true)
    (hstops : ∀ d, rest.head? = some d → follow d = false) :
    run first follow (c :: word ++ rest) = some (c :: word, rest) := by
  rw [List.cons_append, run, if_pos hfirst, span_of_stops hword hstops]

/-- A run takes all characters that pass its test, up to one that does not. -/
theorem run_eq_some_iff :
    run first follow text = some (taken, rest) ↔
      ∃ c word, taken = c :: word ∧ text = taken ++ rest ∧ first c = true ∧
        (∀ d ∈ word, follow d = true) ∧ ∀ d, rest.head? = some d → follow d = false := by
  constructor
  · intro htake
    obtain ⟨htext, c, word, rfl, hfirst⟩ := run_eq_some htake
    rw [htext, List.cons_append, run, if_pos hfirst, List.span_eq_takeWhile_dropWhile] at htake
    have hboth := Prod.mk.inj (Option.some.inj htake)
    have hword := (List.cons.inj hboth.1).2
    refine ⟨c, word, rfl, htext, hfirst, ?_, ?_⟩
    · rw [← hword]
      exact fun d member => List.mem_takeWhile_imp member
    · rw [← hboth.2]
      intro d hhead
      have hnot := List.head?_dropWhile_not follow (word ++ rest)
      rw [hhead] at hnot
      simpa using hnot
  · rintro ⟨c, word, rfl, rfl, hfirst, hword, hstops⟩
    exact run_of_stops hfirst hword hstops

theorem run_eq_none (hfirst : first c = false) : run first follow (c :: rest) = none := by
  rw [run, hfirst, if_neg Bool.false_ne_true]

theorem local_run (hspace : follow ' ' = false) (hclose : follow ')' = false) :
    Local (run first follow) := by
  intro text taken rest other htake hfollows
  obtain ⟨c, word, rfl, -, hfirst, hword, hstops⟩ := run_eq_some_iff.mp htake
  exact run_of_stops hfirst hword (hfollows.stops hspace hclose hstops)

theorem literal_append (expected rest : List Char) :
    literal expected (expected ++ rest) = some (expected, rest) := by
  rw [literal, if_pos (List.isPrefixOf_iff_prefix.mpr (List.prefix_append _ _)), List.drop_left]

theorem local_literal (expected : List Char) : Local (literal expected) := by
  intro text taken rest other htake hfollows
  obtain ⟨rfl, -⟩ := literal_eq_some htake
  exact literal_append taken other

theorem local_single : Local (single test) := by
  intro text taken rest other htake hfollows
  obtain ⟨-, c, rfl, htest⟩ := single_eq_some htake
  rw [List.singleton_append, single, if_pos htest]

theorem notBefore_eq_some_iff {split : Option Split} :
    notBefore test split = some (taken, rest) ↔
      split = some (taken, rest) ∧ ∀ c, rest.head? = some c → test c = false := by
  rcases split with - | ⟨front, - | ⟨c, behind⟩⟩
  · simp [notBefore]
  · simp only [notBefore]
    constructor
    · intro hboth
      cases hboth
      simp
    · exact fun hboth => hboth.1
  · simp only [notBefore]
    split
    · rename_i htest
      constructor
      · exact fun hboth => nomatch hboth
      · rintro ⟨hboth, hstops⟩
        cases hboth
        rw [hstops c rfl] at htest
        cases htest
    · rename_i htest
      constructor
      · intro hboth
        cases hboth
        simpa using htest
      · exact fun hboth => hboth.1

theorem local_notBefore {take : List Char → Option Split} (htake : Local take)
    (hspace : test ' ' = false) (hclose : test ')' = false) :
    Local fun text => notBefore test (take text) := by
  intro text taken rest other hsplit hfollows
  obtain ⟨hsome, hstops⟩ := notBefore_eq_some_iff.mp hsplit
  exact notBefore_eq_some_iff.mpr ⟨htake hsome hfollows, hfollows.stops hspace hclose hstops⟩

theorem local_followedBy {take : List Char → Option Split} (htake : Local take) (c : Char) :
    Local fun text => followedBy c (take text) := by
  intro text taken rest other hsplit hfollows
  obtain ⟨front, hfront, rfl⟩ := followedBy_eq_some hsplit
  dsimp only
  rw [List.append_assoc, List.singleton_append, htake hfront (.cons c rest other), followedBy,
    if_pos rfl]

theorem local_keyword (word : String) : Local (keyword word) :=
  local_notBefore (local_literal word.toList) (by decide) (by decide)

end Classes

section Symbols

variable {text taken rest other word : List Char} {c : Char}

theorem isNameMark_space : isNameMark ' ' = false := by decide

theorem isNameMark_close : isNameMark ')' = false := by decide

theorem symbolName_marked (hword : run isWordStart isWord text = some (word, c :: rest))
    (hmark : isNameMark c = true) : symbolName text = some (word ++ [c], rest) := by
  unfold symbolName
  rw [hword]
  exact if_pos hmark

theorem symbolName_plain (hword : run isWordStart isWord text = some (word, rest))
    (hmark : ∀ c, rest.head? = some c → isNameMark c = false) :
    symbolName text = some (word, rest) := by
  unfold symbolName
  rw [hword]
  cases rest with
  | nil => rfl
  | cons c rest =>
      dsimp only
      rw [hmark c rfl, if_neg Bool.false_ne_true]

theorem symbolName_operator (hword : run isWordStart isWord text = none)
    (hoperator : run isOperator isOperator text = some (taken, rest)) :
    symbolName text = some (taken, rest) := by
  unfold symbolName
  rw [hword, hoperator]

theorem symbolName_element (hplain : ∀ c, rest.head? = some c → c ≠ '=') :
    symbolName ('[' :: ']' :: rest) = some (['[', ']'], rest) := by
  cases rest with
  | nil => rfl
  | cons c rest =>
      have hword : run isWordStart isWord ('[' :: ']' :: c :: rest) = none := rfl
      have hoperator : run isOperator isOperator ('[' :: ']' :: c :: rest) = none := rfl
      have hother : c ≠ '=' := hplain c rfl
      simp only [symbolName, hword, hoperator]
      split
      case h_1 hsome => cases hsome
      case h_2 hassign =>
        cases hassign
        exact absurd rfl hother
      case h_3 helement =>
        cases helement
        rfl
      case h_4 helement => exact absurd rfl (helement (c :: rest))

inductive NameForm (text : List Char) : List Char → List Char → Prop
  | marked {word rest : List Char} {c : Char}
      (hword : run isWordStart isWord text = some (word, c :: rest))
      (hmark : isNameMark c = true) : NameForm text (word ++ [c]) rest
  | plain {word rest : List Char} (hword : run isWordStart isWord text = some (word, rest))
      (hmark : ∀ c, rest.head? = some c → isNameMark c = false) : NameForm text word rest
  | operator {taken rest : List Char} (hword : run isWordStart isWord text = none)
      (hoperator : run isOperator isOperator text = some (taken, rest)) : NameForm text taken rest
  | assignment {rest : List Char} (htext : text = '[' :: ']' :: '=' :: rest) :
      NameForm text ['[', ']', '='] rest
  | element {rest : List Char} (htext : text = '[' :: ']' :: rest)
      (hplain : ∀ c, rest.head? = some c → c ≠ '=') : NameForm text ['[', ']'] rest

theorem nameForm_of_symbolName (htake : symbolName text = some (taken, rest)) :
    NameForm text taken rest := by
  unfold symbolName at htake
  split at htake
  · rename_i word c behind hword
    split at htake
    · rename_i hmark
      cases htake
      exact .marked hword hmark
    · rename_i hmark
      cases htake
      refine .plain hword fun d hhead => ?_
      cases hhead
      simpa using hmark
  · rename_i word hword
    cases htake
    exact .plain hword fun d hhead => nomatch hhead
  · rename_i hword
    split at htake
    · rename_i hoperator
      cases htake
      exact .operator hword hoperator
    · cases htake
      exact .assignment rfl
    · rename_i behind hplain hoperator
      cases htake
      refine .element rfl fun d hhead hassign => ?_
      cases rest with
      | nil => cases hhead
      | cons e rest =>
          cases hhead
          exact hplain rest (by rw [hassign])
    · cases htake

theorem local_symbolName : Local symbolName := by
  intro text taken rest other htake hfollows
  cases nameForm_of_symbolName htake with
  | @marked _ _ c hword hmark =>
      have hagain := local_run (by decide) (by decide) hword (.cons c rest other)
      rw [List.append_assoc]
      exact symbolName_marked hagain hmark
  | plain hword hmark =>
      apply symbolName_plain (local_run (by decide) (by decide) hword hfollows)
      exact hfollows.stops isNameMark_space isNameMark_close hmark
  | operator hword hoperator =>
      have hagain := local_run (by decide) (by decide) hoperator hfollows
      obtain ⟨rfl, c, word, rfl, -⟩ := run_eq_some hoperator
      refine symbolName_operator ?_ hagain
      have hfirst : isWordStart c = false := by
        cases hstart : isWordStart c with
        | false => rfl
        | true =>
            rw [List.cons_append, run, if_pos hstart] at hword
            cases hword
      exact run_eq_none hfirst
  | assignment htext => rfl
  | element htext hplain =>
      apply symbolName_element
      intro c hhead
      rcases hfollows c hhead with hsame | rfl | rfl
      · exact hplain c hsame
      · decide
      · decide

theorem local_symbol : Local symbol := by
  intro text taken rest other htake hfollows
  unfold symbol at htake
  split at htake
  · obtain ⟨name, hname, rfl⟩ := cons_eq_some htake
    rw [List.cons_append, symbol, local_symbolName hname hfollows]
    rfl
  · cases htake

end Symbols

section Numbers

variable {text taken rest other : List Char}

theorem local_integer : Local integer := by
  intro text taken rest other htake hfollows
  unfold integer at htake
  split at htake
  · obtain ⟨digits, hdigits, rfl⟩ := cons_eq_some htake
    rw [List.cons_append, integer, local_run (by decide) (by decide) hdigits hfollows]
    rfl
  · have hagain := local_run (by decide) (by decide) htake hfollows
    obtain ⟨-, c, digits, rfl, hdigit⟩ := run_eq_some htake
    have hplain : c ≠ '-' := by
      rintro rfl
      exact absurd hdigit (by decide)
    rw [List.cons_append, integer]
    · exact hagain
    · rintro behind ⟨⟩
      exact hplain rfl

theorem local_fraction : Local fraction := by
  intro text taken rest other htake hfollows
  unfold fraction at htake
  split at htake
  · obtain ⟨digits, hdigits, rfl⟩ := cons_eq_some htake
    rw [List.cons_append, fraction, local_run (by decide) (by decide) hdigits hfollows]
    rfl
  · cases htake

theorem decimal_eq_some_iff :
    decimal text = some (taken, rest) ↔
      ∃ whole behind part, integer text = some (whole, behind) ∧
        fraction behind = some (part, rest) ∧ taken = whole ++ part := by
  constructor
  · intro htake
    obtain ⟨⟨whole, behind⟩, hwhole, hmore⟩ := Option.bind_eq_some_iff.mp htake
    obtain ⟨⟨part, last⟩, hpart, hboth⟩ := Option.bind_eq_some_iff.mp hmore
    cases hboth
    exact ⟨whole, behind, part, hwhole, hpart, rfl⟩
  · rintro ⟨whole, behind, part, hwhole, hpart, rfl⟩
    simp [decimal, hwhole, hpart]

theorem fraction_eq_none (hplain : ∀ c, rest.head? = some c → c ≠ '.') : fraction rest = none := by
  unfold fraction
  split
  · exact absurd rfl (hplain '.' rfl)
  · rfl

theorem local_decimal : Local decimal := by
  intro text taken rest other htake hfollows
  obtain ⟨whole, behind, part, hwhole, hpart, rfl⟩ := decimal_eq_some_iff.mp htake
  refine decimal_eq_some_iff.mpr
    ⟨whole, part ++ other, part, ?_, local_fraction hpart hfollows, rfl⟩
  rw [List.append_assoc]
  apply local_integer hwhole
  rw [fraction_eq_some hpart]
  exact hfollows.append

theorem local_number :
    Local fun text => notBefore (fun c => Text.isWord c || c == '.') (number text) := by
  intro text taken rest other htake hfollows
  obtain ⟨hnumber, hstops⟩ := notBefore_eq_some_iff.mp htake
  refine notBefore_eq_some_iff.mpr ⟨?_, hfollows.stops (by decide) (by decide) hstops⟩
  unfold number at hnumber ⊢
  split at hnumber
  · rename_i hdecimal
    cases hnumber
    rw [local_decimal hdecimal hfollows]
  · -- Without a point behind the digits there is no fraction in the new text either.
    have hwhole := local_integer hnumber hfollows
    have hpoint : ∀ c, other.head? = some c → (fun c => c == '.') c = false := by
      apply hfollows.stops (by decide) (by decide)
      intro c hhead
      exact (Bool.or_eq_false_iff.mp (hstops c hhead)).2
    have hnone : decimal (taken ++ other) = none := by
      simp only [decimal, hwhole, Option.bind_eq_bind, Option.bind_some]
      rw [fraction_eq_none fun c hhead => by simpa using hpoint c hhead]
      rfl
    rw [hnone]
    exact hwhole

end Numbers

section Strings

variable {text taken rest other : List Char}

theorem local_stringTail (htake : stringTail text = some (taken, rest)) (other : List Char) :
    stringTail (taken ++ other) = some (taken, other) := by
  induction text using stringTail.induct generalizing taken with
  | case1 => cases htake
  | case2 behind =>
      cases htake
      rfl
  | case3 behind =>
      rw [stringTail, if_pos rfl] at htake
      cases htake
  | case4 c behind hplain induction =>
      rw [stringTail, if_neg hplain] at htake
      obtain ⟨hidden, hhidden, rfl⟩ := cons_eq_some htake
      obtain ⟨later, hlater, rfl⟩ := cons_eq_some hhidden
      rw [List.cons_append, List.cons_append, stringTail, if_neg hplain, induction hlater]
      rfl
  | case5 behind hquote hlast =>
      rw [stringTail, if_pos rfl] at htake
      · cases htake
      · exact hquote
      · exact hlast
  | case6 c behind hquote hhidden hplain induction =>
      rw [stringTail, if_neg hplain] at htake
      · obtain ⟨later, hlater, rfl⟩ := cons_eq_some htake
        rw [List.cons_append, stringTail, if_neg hplain, induction hlater]
        · rfl
        · exact hquote
        · rintro d more rfl
          exact absurd rfl hplain
      · exact hquote
      · exact hhidden

theorem local_string : Local string := by
  intro text taken rest other htake hfollows
  unfold string at htake
  split at htake
  · obtain ⟨tail, htail, rfl⟩ := cons_eq_some htake
    rw [List.cons_append, string, local_stringTail htail other]
    rfl
  · cases htake

end Strings

end Grammar.Lexeme

namespace TokenKind

open Grammar Lexeme

variable {kind other : TokenKind} {text taken rest : List Char}

theorem local_take (kind : TokenKind) : Lexeme.Local kind.take := by
  cases kind with
  | rest => exact local_literal _
  | symbol => exact local_symbol
  | number => exact local_number
  | string => exact local_string
  | wildcard => exact local_run (by decide) (by decide)
  | nil => exact local_keyword "nil"
  | predicate => exact local_followedBy (local_run (by decide) (by decide)) '?'
  | nodeType =>
      exact local_notBefore (local_run (by decide) (by decide)) (by decide) (by decide)
  | punct => exact local_single
  | param =>
      intro text taken rest other htake hfollows
      unfold TokenKind.take at htake
      dsimp only at htake
      split at htake
      · split at htake
        · rename_i split hdigits
          obtain ⟨name, hname, rfl⟩ := cons_eq_some htake
          cases hname
          have hagain := local_run (by decide) (by decide) hdigits hfollows
          rw [List.cons_append, TokenKind.take, hagain]
          rfl
        · rename_i hnone
          obtain ⟨name, hname, rfl⟩ := cons_eq_some htake
          have hagain := local_run (by decide) (by decide) hname hfollows
          obtain ⟨rfl, c, word, rfl, -⟩ := run_eq_some hname
          have hfirst : Text.isDigit c = false := by
            cases hdigit : Text.isDigit c with
            | false => rfl
            | true =>
                rw [List.cons_append, run, if_pos hdigit] at hnone
                cases hnone
          have hword : run Text.isDigit Text.isDigit (c :: word ++ other) = none :=
            run_eq_none hfirst
          rw [List.cons_append, TokenKind.take, hword, hagain]
          rfl
      · cases htake

/-- The kinds that a token may have by its first character: words are one family, and every other
kind is a family of its own. -/
def family : TokenKind → TokenKind
  | .nil | .predicate => .nodeType
  | kind => kind

def familyOf (c : Char) : TokenKind :=
  if Text.isAsciiLetter c then .nodeType
  else if c = '-' ∨ Text.isDigit c then .number
  else if c = '.' then .rest
  else if c = ':' then .symbol
  else if c = '"' then .string
  else if c = '%' then .param
  else if c = '_' then .wildcard
  else .punct

theorem isAsciiLetter_of_digit {c : Char} (hdigit : Text.isDigit c = true) :
    Text.isAsciiLetter c = false := by
  unfold Text.isDigit Text.digitValue? at hdigit
  cases hletter : Text.isAsciiLetter c with
  | false => rfl
  | true =>
      simp only [Text.isAsciiLetter, Text.isAsciiLower, Bool.or_eq_true, Bool.and_eq_true,
        decide_eq_true_eq, Char.le_def, UInt32.le_iff_toNat_le] at hletter
      have hbounds : (97 ≤ c.toNat ∧ c.toNat ≤ 122) ∨ (65 ≤ c.toNat ∧ c.toNat ≤ 90) := hletter
      have hplain : Text.isAsciiDigit c = false := by
        simp only [Text.isAsciiDigit, Bool.and_eq_false_iff, decide_eq_false_iff_not, Char.le_def,
          UInt32.le_iff_toNat_le]
        right
        change ¬ c.toNat ≤ 57
        omega
      rw [if_pos (by omega), hplain] at hdigit
      cases hdigit

theorem familyOf_letter {c : Char} (hletter : Text.isAsciiLetter c = true) :
    familyOf c = nodeType := by
  rw [familyOf, if_pos hletter]

theorem familyOf_number {c : Char} (hfirst : c = '-' ∨ Text.isDigit c = true) :
    familyOf c = number := by
  have hletter : Text.isAsciiLetter c = false := by
    rcases hfirst with rfl | hdigit
    · decide
    · exact isAsciiLetter_of_digit hdigit
  rw [familyOf, hletter, if_neg Bool.false_ne_true, if_pos hfirst]

theorem familyOf_sign {c : Char} (hsign : c ∈ signs) : familyOf c = punct := by
  rw [mem_signs] at hsign
  rcases hsign with rfl | rfl | rfl | rfl | rfl | rfl | rfl | rfl | rfl | rfl | rfl | rfl <;> rfl

theorem familyOf_of_take (htake : kind.take text = some (taken, rest)) :
    ∃ c word, taken = c :: word ∧ familyOf c = kind.family := by
  cases kind with
  | rest =>
      obtain ⟨rfl, -⟩ := literal_eq_some htake
      exact ⟨'.', _, rfl, rfl⟩
  | symbol =>
      obtain ⟨-, name, rfl⟩ := symbol_eq_some htake
      exact ⟨':', name, rfl, rfl⟩
  | number =>
      obtain ⟨-, c, digits, rfl, hfirst⟩ := number_eq_some (notBefore_eq_some htake)
      exact ⟨c, digits, rfl, familyOf_number hfirst⟩
  | string =>
      obtain ⟨-, tail, rfl⟩ := string_eq_some htake
      exact ⟨'"', tail, rfl, rfl⟩
  | param =>
      unfold TokenKind.take at htake
      dsimp only at htake
      split at htake
      · split at htake
        · obtain ⟨name, -, rfl⟩ := cons_eq_some htake
          exact ⟨'%', name, rfl, rfl⟩
        · obtain ⟨name, -, rfl⟩ := cons_eq_some htake
          exact ⟨'%', name, rfl, rfl⟩
      · cases htake
  | wildcard =>
      obtain ⟨-, c, word, rfl, hfirst⟩ := run_eq_some htake
      cases eq_of_beq hfirst
      exact ⟨'_', word, rfl, rfl⟩
  | nil =>
      obtain ⟨rfl, -⟩ := literal_eq_some (notBefore_eq_some htake)
      exact ⟨'n', _, rfl, rfl⟩
  | predicate =>
      obtain ⟨front, hfront, rfl⟩ := followedBy_eq_some htake
      obtain ⟨-, c, word, rfl, hletter⟩ := run_eq_some hfront
      exact ⟨c, word ++ ['?'], rfl, familyOf_letter hletter⟩
  | nodeType =>
      obtain ⟨-, c, word, rfl, hlower⟩ := run_eq_some (notBefore_eq_some htake)
      refine ⟨c, word, rfl, familyOf_letter ?_⟩
      rw [Text.isAsciiLetter, hlower, Bool.true_or]
  | punct =>
      obtain ⟨-, c, rfl, hsign⟩ := single_eq_some htake
      exact ⟨c, [], rfl, familyOf_sign (List.contains_iff_mem.mp hsign)⟩

theorem take_eq_none (htake : kind.take text = some (taken, rest))
    (hfamily : other.family ≠ kind.family) : other.take text = none := by
  obtain ⟨c, word, rfl, hc⟩ := familyOf_of_take htake
  cases hother : other.take text with
  | none => rfl
  | some split =>
      obtain ⟨d, found, hfound, hd⟩ := familyOf_of_take hother
      have hfirst := (take_eq_some htake).1.symm.trans (take_eq_some hother).1
      rw [hfound, List.cons_append, List.cons_append] at hfirst
      rw [← hd, ← (List.cons.inj hfirst).1] at hfamily
      exact absurd hc hfamily

theorem take_nil_eq_some_iff :
    nil.take text = some (taken, rest) ↔
      taken = "nil".toList ∧ text = taken ++ rest ∧
        ∀ c, rest.head? = some c → isWordOrQuery c = false := by
  change notBefore _ _ = _ ↔ _
  rw [notBefore_eq_some_iff]
  constructor
  · rintro ⟨hword, hstops⟩
    obtain ⟨rfl, htext⟩ := literal_eq_some hword
    exact ⟨rfl, htext, hstops⟩
  · rintro ⟨rfl, rfl, hstops⟩
    exact ⟨literal_append _ _, hstops⟩

theorem take_nodeType_of_nil (htake : nil.take text = some (taken, rest)) :
    nodeType.take text = some (taken, rest) := by
  obtain ⟨rfl, rfl, hstops⟩ := take_nil_eq_some_iff.mp htake
  have hword : ∀ c ∈ ['i', 'l'], Text.isWord c = true :=
    List.all_eq_true.mp (by decide)
  refine notBefore_eq_some_iff.mpr ⟨run_of_stops (by decide) hword ?_, hstops⟩
  intro c hhead
  exact (Bool.or_eq_false_iff.mp (hstops c hhead)).1

theorem take_nodeType_eq_some (htake : nodeType.take text = some (taken, rest)) :
    ∃ c word, taken = c :: word ∧ text = taken ++ rest ∧ Text.isAsciiLower c = true ∧
      (∀ d ∈ word, Text.isWord d = true) ∧ ∀ d, rest.head? = some d → isWordOrQuery d = false := by
  obtain ⟨hrun, hstops⟩ := notBefore_eq_some_iff.mp htake
  obtain ⟨c, word, htaken, htext, hfirst, hword, -⟩ := run_eq_some_iff.mp hrun
  exact ⟨c, word, htaken, htext, hfirst, hword, hstops⟩

theorem take_predicate_of_nodeType (htake : nodeType.take text = some (taken, rest)) :
    predicate.take text = none := by
  obtain ⟨c, word, rfl, rfl, hfirst, hword, hstops⟩ := take_nodeType_eq_some htake
  have hletter : Text.isAsciiLetter c = true := by
    rw [Text.isAsciiLetter, hfirst, Bool.true_or]
  have hrun : run Text.isAsciiLetter Text.isWord (c :: word ++ rest) = some (c :: word, rest) :=
    run_of_stops hletter hword fun d hhead => (Bool.or_eq_false_iff.mp (hstops d hhead)).1
  change followedBy '?' (run _ _ _) = none
  rw [hrun]
  cases rest with
  | nil => rfl
  | cons d rest =>
      have hquery : d ≠ '?' := by
        rintro rfl
        exact absurd (hstops '?' rfl) (by decide)
      exact if_neg hquery

theorem take_predicate_of_nil (htake : nil.take text = some (taken, rest)) :
    predicate.take text = none :=
  take_predicate_of_nodeType (take_nodeType_of_nil htake)

theorem take_nil_of_nodeType (htake : nodeType.take text = some (taken, rest))
    (hother : taken ≠ "nil".toList) : nil.take text = none := by
  cases hnil : nil.take text with
  | none => rfl
  | some split =>
      have hsame := (take_nodeType_of_nil hnil).symm.trans htake
      cases hsame
      exact absurd (take_nil_eq_some_iff.mp hnil).1 hother

/-- A kind of leaf that can be taken is the one that is taken, but for the word that stands for
nothing. -/
theorem takeFirst_of_take (hkind : kind ∈ leafOrder) (htake : kind.take text = some (taken, rest))
    (hother : kind = .nodeType → taken ≠ "nil".toList) :
    takeFirst leafOrder text = some (kind, taken, rest) := by
  have hapart : ∀ other : TokenKind, other.family ≠ kind.family → other.take text = none :=
    fun other hfamily => take_eq_none htake hfamily
  cases kind with
  | punct => exact absurd hkind (by decide)
  | predicate =>
      have hnil : nil.take text = none := by
        cases hnil : nil.take text with
        | none => rfl
        | some split =>
            rw [take_predicate_of_nil hnil] at htake
            cases htake
      simp (disch := decide) [takeFirst, leafOrder, List.findSome?_cons, htake, hnil, hapart]
  | nodeType =>
      have hnil := take_nil_of_nodeType htake (hother rfl)
      have hpredicate := take_predicate_of_nodeType htake
      simp (disch := decide) [takeFirst, leafOrder, List.findSome?_cons, htake, hnil, hpredicate,
        hapart]
  | _ => simp (disch := decide) [takeFirst, leafOrder, List.findSome?_cons, htake, hapart]

theorem ne_nil_of_takeFirst (htake : takeFirst leafOrder text = some (.nodeType, taken, rest)) :
    taken ≠ "nil".toList := by
  rintro rfl
  have hword := (takeFirst_eq_some htake).2
  obtain ⟨c, word, -, htext, -, -, hstops⟩ := take_nodeType_eq_some hword
  have hnil : nil.take text = some ("nil".toList, rest) :=
    take_nil_eq_some_iff.mpr ⟨rfl, htext, hstops⟩
  have hapart : ∀ other : TokenKind, other.family ≠ nil.family → other.take text = none :=
    fun other hfamily => take_eq_none hnil hfamily
  simp (disch := decide) [takeFirst, leafOrder, List.findSome?_cons, hnil, hapart] at htake

theorem first_of_takeFirst (htake : takeFirst leafOrder text = some (kind, taken, rest)) :
    ∃ c word, taken = c :: word ∧ c ∉ signs := by
  obtain ⟨hkind, hsplit⟩ := takeFirst_eq_some htake
  obtain ⟨c, word, htaken, hfamily⟩ := familyOf_of_take hsplit
  refine ⟨c, word, htaken, fun hsign => ?_⟩
  rw [familyOf_sign hsign] at hfamily
  revert hkind hfamily
  cases kind <;> decide

/-- Which leaf is taken depends on what stands behind it by the first character only. -/
theorem takeFirst_of_follows {other : List Char}
    (htake : takeFirst leafOrder text = some (kind, taken, rest)) (hfollows : Follows rest other) :
    takeFirst leafOrder (taken ++ other) = some (kind, taken, other) := by
  obtain ⟨hkind, hsplit⟩ := takeFirst_eq_some htake
  refine takeFirst_of_take hkind (local_take kind hsplit hfollows) ?_
  rintro rfl
  exact ne_nil_of_takeFirst htake

end TokenKind

end TreeMatch
