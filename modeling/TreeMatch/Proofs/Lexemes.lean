import Mathlib.Data.List.TakeDrop
import TreeMatch.Pattern.Reader

/-! What lexical classes take: a front of the text, which for a token starts with no blank and with
no comment. -/

namespace TreeMatch

namespace Grammar.Lexeme

variable {text taken rest : List Char}

theorem literal_eq_some {expected : List Char}
    (htake : literal expected text = some (taken, rest)) :
    taken = expected ∧ text = taken ++ rest := by
  unfold literal at htake
  split at htake
  · rename_i hfront
    cases htake
    obtain ⟨behind, rfl⟩ := List.isPrefixOf_iff_prefix.mp hfront
    exact ⟨rfl, by rw [List.drop_left]⟩
  · cases htake

theorem run_eq_some {first follow : Char → Bool}
    (htake : run first follow text = some (taken, rest)) :
    text = taken ++ rest ∧ ∃ c word, taken = c :: word ∧ first c = true := by
  cases text with
  | nil => cases htake
  | cons c behind =>
      rw [run] at htake
      split at htake
      · rename_i hfirst
        rw [List.span_eq_takeWhile_dropWhile] at htake
        cases htake
        rw [List.cons_append, List.takeWhile_append_dropWhile]
        exact ⟨rfl, c, _, rfl, hfirst⟩
      · cases htake

theorem single_eq_some {test : Char → Bool} (htake : single test text = some (taken, rest)) :
    text = taken ++ rest ∧ ∃ c, taken = [c] ∧ test c = true := by
  cases text with
  | nil => cases htake
  | cons c behind =>
      rw [single] at htake
      split at htake
      · cases htake
        exact ⟨rfl, c, rfl, ‹_›⟩
      · cases htake

theorem notBefore_eq_some {test : Char → Bool} {split : Option Split} {result : Split}
    (htake : notBefore test split = some result) : split = some result := by
  unfold notBefore at htake
  split at htake
  · split at htake
    · cases htake
    · exact htake
  · exact htake

theorem followedBy_eq_some {c : Char} {split : Option Split}
    (htake : followedBy c split = some (taken, rest)) :
    ∃ front, split = some (front, c :: rest) ∧ taken = front ++ [c] := by
  unfold followedBy at htake
  split at htake
  · split at htake
    · rename_i hsame
      cases htake
      exact ⟨_, by rw [hsame], by rw [hsame]⟩
    · cases htake
  · cases htake

theorem cons_eq_some {c : Char} {split : Option Split} (htake : cons c split = some (taken, rest)) :
    ∃ behind, split = some (behind, rest) ∧ taken = c :: behind := by
  obtain ⟨⟨behind, last⟩, hsplit, hboth⟩ := Option.map_eq_some_iff.mp htake
  cases hboth
  exact ⟨behind, hsplit, rfl⟩

theorem symbolName_eq_some (htake : symbolName text = some (taken, rest)) :
    text = taken ++ rest := by
  unfold symbolName at htake
  split at htake
  · rename_i word c behind hword
    obtain ⟨rfl, -⟩ := run_eq_some hword
    split at htake <;> cases htake
    · rw [List.append_assoc, List.singleton_append]
    · rfl
  · rename_i word hword
    obtain ⟨rfl, -⟩ := run_eq_some hword
    cases htake
    rfl
  · split at htake
    · rename_i hoperator
      cases htake
      exact (run_eq_some hoperator).1
    · cases htake
      rfl
    · cases htake
      rfl
    · cases htake

theorem symbol_eq_some (htake : symbol text = some (taken, rest)) :
    text = taken ++ rest ∧ ∃ name, taken = ':' :: name := by
  unfold symbol at htake
  split at htake
  · obtain ⟨name, hname, rfl⟩ := cons_eq_some htake
    rw [symbolName_eq_some hname]
    exact ⟨rfl, name, rfl⟩
  · cases htake

theorem integer_eq_some (htake : integer text = some (taken, rest)) :
    text = taken ++ rest ∧ ∃ c digits, taken = c :: digits ∧ (c = '-' ∨ Text.isDigit c = true) := by
  unfold integer at htake
  split at htake
  · obtain ⟨digits, hdigits, rfl⟩ := cons_eq_some htake
    rw [(run_eq_some hdigits).1]
    exact ⟨rfl, '-', digits, rfl, .inl rfl⟩
  · obtain ⟨hsplit, c, digits, htaken, hdigit⟩ := run_eq_some htake
    exact ⟨hsplit, c, digits, htaken, .inr hdigit⟩

theorem fraction_eq_some (htake : fraction text = some (taken, rest)) : text = taken ++ rest := by
  unfold fraction at htake
  split at htake
  · obtain ⟨digits, hdigits, rfl⟩ := cons_eq_some htake
    rw [(run_eq_some hdigits).1]
    rfl
  · cases htake

theorem number_eq_some (htake : number text = some (taken, rest)) :
    text = taken ++ rest ∧ ∃ c digits, taken = c :: digits ∧ (c = '-' ∨ Text.isDigit c = true) := by
  unfold number at htake
  split at htake
  · rename_i hdecimal
    cases htake
    obtain ⟨⟨whole, behind⟩, hwhole, hmore⟩ := Option.bind_eq_some_iff.mp hdecimal
    obtain ⟨⟨part, last⟩, hpart, hboth⟩ := Option.bind_eq_some_iff.mp hmore
    cases hboth
    obtain ⟨rfl, c, digits, rfl, hfirst⟩ := integer_eq_some hwhole
    rw [fraction_eq_some hpart, ← List.append_assoc]
    exact ⟨rfl, c, digits ++ part, rfl, hfirst⟩
  · exact integer_eq_some htake

theorem stringTail_eq_some (htake : stringTail text = some (taken, rest)) :
    text = taken ++ rest := by
  induction text using stringTail.induct generalizing taken with
  | case1 => cases htake
  | case2 behind =>
      cases htake
      rfl
  | case3 behind =>
      rw [stringTail, if_pos rfl] at htake
      cases htake
  | case4 c behind hplain induction =>
      rw [stringTail, if_neg hplain] at htake
      obtain ⟨hidden, hhidden, rfl⟩ := cons_eq_some htake
      obtain ⟨later, hlater, rfl⟩ := cons_eq_some hhidden
      rw [induction hlater]
      rfl
  | case5 behind hquote hlast =>
      rw [stringTail, if_pos rfl] at htake
      · cases htake
      · exact hquote
      · exact hlast
  | case6 c behind hquote hhidden hplain induction =>
      rw [stringTail, if_neg hplain] at htake
      · obtain ⟨later, hlater, rfl⟩ := cons_eq_some htake
        rw [induction hlater]
        rfl
      · exact hquote
      · exact hhidden

theorem string_eq_some (htake : string text = some (taken, rest)) :
    text = taken ++ rest ∧ ∃ tail, taken = '"' :: tail := by
  unfold string at htake
  split at htake
  · obtain ⟨tail, htail, rfl⟩ := cons_eq_some htake
    rw [stringTail_eq_some htail]
    exact ⟨rfl, tail, rfl⟩
  · cases htake

def Opens (c : Char) : Prop :=
  Text.isBlank c = false ∧ c ≠ '#'

theorem opens_of_bounds {c : Char} (hvisible : 0x23 < c.toNat) (hascii : c.toNat < 0x80) :
    Opens c := by
  constructor
  · simp [Text.isBlank]
    omega
  · rintro rfl
    exact absurd hvisible (by decide)

theorem opens_of_letter {c : Char} (hletter : Text.isAsciiLetter c = true) : Opens c := by
  simp only [Text.isAsciiLetter, Text.isAsciiLower, Bool.or_eq_true, Bool.and_eq_true,
    decide_eq_true_eq, Char.le_def, UInt32.le_iff_toNat_le] at hletter
  have hbounds : 65 ≤ c.toNat ∧ c.toNat ≤ 122 := by
    change (97 ≤ c.toNat ∧ c.toNat ≤ 122) ∨ (65 ≤ c.toNat ∧ c.toNat ≤ 90) at hletter
    omega
  exact opens_of_bounds (by omega) (by omega)

theorem zeroDigits_apart : ∀ start ∈ Text.zeroDigits, 0xA0 < start ∧
    (start + 9 < 0x1680 ∨ 0x1680 < start) ∧ (start + 9 < 0x2000 ∨ 0x3000 < start) := by
  decide

theorem opens_of_digit {c : Char} (hdigit : Text.isDigit c = true) : Opens c := by
  unfold Text.isDigit Text.digitValue? at hdigit
  split at hdigit
  · split at hdigit
    · rename_i hascii hplain
      simp only [Text.isAsciiDigit, Bool.and_eq_true, decide_eq_true_eq, Char.le_def,
        UInt32.le_iff_toNat_le] at hplain
      change 48 ≤ c.toNat ∧ c.toNat ≤ 57 at hplain
      exact opens_of_bounds (by omega) (by omega)
    · cases hdigit
  · rw [Option.isSome_map, List.find?_isSome] at hdigit
    obtain ⟨start, member, hseries⟩ := hdigit
    rw [Bool.and_eq_true, decide_eq_true_eq, decide_eq_true_eq] at hseries
    obtain ⟨hlatin, hogham, hspaces⟩ := zeroDigits_apart start member
    constructor
    · simp [Text.isBlank]
      omega
    · rintro rfl
      have hless : start ≤ 0x23 := hseries.1
      omega

end Grammar.Lexeme

namespace TokenKind

open Grammar

def signs : List Char :=
  "()[]\x7b\x7d$!^*+?".toList

theorem mem_signs {c : Char} : c ∈ signs ↔
    c = '(' ∨ c = ')' ∨ c = '[' ∨ c = ']' ∨ c = '\x7b' ∨ c = '\x7d' ∨ c = '$' ∨ c = '!' ∨
      c = '^' ∨ c = '*' ∨ c = '+' ∨ c = '?' := by
  unfold signs
  simp

theorem opens_of_sign {c : Char} (hsign : c ∈ signs) : Lexeme.Opens c := by
  rw [mem_signs] at hsign
  rcases hsign with rfl | rfl | rfl | rfl | rfl | rfl | rfl | rfl | rfl | rfl | rfl | rfl <;>
    exact ⟨by decide, by decide⟩

theorem take_eq_some {kind : TokenKind} {text taken rest : List Char}
    (htake : kind.take text = some (taken, rest)) :
    text = taken ++ rest ∧ ∃ c word, taken = c :: word ∧ Lexeme.Opens c := by
  cases kind with
  | rest =>
      obtain ⟨rfl, hsplit⟩ := Lexeme.literal_eq_some htake
      exact ⟨hsplit, '.', ['.', '.'], rfl, by decide, by decide⟩
  | symbol =>
      obtain ⟨hsplit, name, rfl⟩ := Lexeme.symbol_eq_some htake
      exact ⟨hsplit, ':', name, rfl, by decide, by decide⟩
  | number =>
      obtain ⟨hsplit, c, digits, rfl, hfirst⟩ :=
        Lexeme.number_eq_some (Lexeme.notBefore_eq_some htake)
      refine ⟨hsplit, c, digits, rfl, ?_⟩
      rcases hfirst with rfl | hdigit
      · exact ⟨by decide, by decide⟩
      · exact Lexeme.opens_of_digit hdigit
  | string =>
      obtain ⟨hsplit, tail, rfl⟩ := Lexeme.string_eq_some htake
      exact ⟨hsplit, '"', tail, rfl, by decide, by decide⟩
  | param =>
      unfold TokenKind.take at htake
      dsimp only at htake
      split at htake
      · split at htake
        · rename_i hdigits
          obtain ⟨name, hname, rfl⟩ := Lexeme.cons_eq_some htake
          rw [← hdigits] at hname
          rw [(Lexeme.run_eq_some hname).1]
          exact ⟨rfl, '%', name, rfl, by decide, by decide⟩
        · obtain ⟨name, hname, rfl⟩ := Lexeme.cons_eq_some htake
          rw [(Lexeme.run_eq_some hname).1]
          exact ⟨rfl, '%', name, rfl, by decide, by decide⟩
      · cases htake
  | wildcard =>
      obtain ⟨hsplit, c, word, rfl, hfirst⟩ := Lexeme.run_eq_some htake
      cases eq_of_beq hfirst
      exact ⟨hsplit, '_', word, rfl, by decide, by decide⟩
  | nil =>
      obtain ⟨rfl, hsplit⟩ := Lexeme.literal_eq_some (Lexeme.notBefore_eq_some htake)
      exact ⟨hsplit, 'n', ['i', 'l'], rfl, by decide, by decide⟩
  | predicate =>
      obtain ⟨front, hfront, rfl⟩ := Lexeme.followedBy_eq_some htake
      obtain ⟨rfl, c, word, rfl, hletter⟩ := Lexeme.run_eq_some hfront
      refine ⟨by rw [List.append_assoc, List.singleton_append], c, word ++ ['?'], rfl, ?_⟩
      exact Lexeme.opens_of_letter hletter
  | nodeType =>
      obtain ⟨hsplit, c, word, rfl, hlower⟩ :=
        Lexeme.run_eq_some (Lexeme.notBefore_eq_some htake)
      refine ⟨hsplit, c, word, rfl, Lexeme.opens_of_letter ?_⟩
      rw [Text.isAsciiLetter, hlower, Bool.true_or]
  | punct =>
      obtain ⟨hsplit, c, rfl, hsign⟩ := Lexeme.single_eq_some htake
      exact ⟨hsplit, c, [], rfl, opens_of_sign (List.contains_iff_mem.mp hsign)⟩

section Orders

variable {text : List Char} {split : Lexeme.Split}

theorem apart_of_wildcard (htake : wildcard.take text = some split) :
    symbol.take text = none ∧ number.take text = none ∧ string.take text = none ∧
      param.take text = none := by
  obtain ⟨rfl, c, word, hword, hfirst⟩ := Lexeme.run_eq_some htake
  cases eq_of_beq hfirst
  rw [hword]
  exact ⟨rfl, rfl, rfl, rfl⟩

theorem apart_of_nil (htake : nil.take text = some split) : param.take text = none := by
  obtain ⟨htaken, rfl⟩ := Lexeme.literal_eq_some (Lexeme.notBefore_eq_some htake)
  rw [htaken]
  rfl

/-- What the first of several kinds takes that the text allows. -/
def takeFirst (kinds : List TokenKind) (text : List Char) : Option (TokenKind × Lexeme.Split) :=
  kinds.findSome? fun kind => (kind.take text).map fun split => (kind, split)

theorem takeFirst_eq_some {kinds : List TokenKind} {kind : TokenKind}
    (htake : takeFirst kinds text = some (kind, split)) :
    kind ∈ kinds ∧ kind.take text = some split := by
  obtain ⟨other, member, hother⟩ := List.exists_of_findSome?_eq_some htake
  obtain ⟨result, hresult, hboth⟩ := Option.map_eq_some_iff.mp hother
  cases hboth
  exact ⟨member, hresult⟩

/-- The kinds of leaves in the order in which an atom tries them, and in which a text that is only
cut into tokens does. -/
def leafOrder : List TokenKind :=
  [.rest, .wildcard, .symbol, .number, .string, .nil, .param, .predicate, .nodeType]

def cutOrder : List TokenKind :=
  [.rest, .symbol, .number, .string, .param, .wildcard, .nil, .predicate, .nodeType]

theorem takeFirst_orders (text : List Char) :
    takeFirst leafOrder text = takeFirst cutOrder text := by
  -- The orders differ in the places of two kinds, and no text allows these and one they pass.
  cases hwildcard : wildcard.take text with
  | some split =>
      obtain ⟨hsymbol, hnumber, hstring, hparam⟩ := apart_of_wildcard hwildcard
      simp [takeFirst, leafOrder, cutOrder, List.findSome?_cons, hwildcard, hsymbol, hnumber,
        hstring, hparam]
  | none =>
      cases hnil : nil.take text with
      | some split =>
          have hparam := apart_of_nil hnil
          simp [takeFirst, leafOrder, cutOrder, List.findSome?_cons, hwildcard, hnil, hparam]
      | none => simp [takeFirst, leafOrder, cutOrder, List.findSome?_cons, hwildcard, hnil]

end Orders

end TokenKind

end TreeMatch
