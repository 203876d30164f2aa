import Mathlib.Algebra.Group.Nat.Defs
import TreeMatch.Proofs.Boundaries
import TreeMatch.Text.Literal
import TreeMatch.Value.Printer

/-! What is printed can be read again: strings with their escapes, integers, and the layout of a
node. -/

namespace TreeMatch

open Grammar

namespace Text

section Escapes

variable (chart : CodeChart) {c : Char} {tail taken rest : List Char}

theorem hexDigits_control : ∀ code < 0x20,
    hexDigits 4 code = ['0', '0', Nat.digitChar (code / 16), Nat.digitChar (code % 16)] := by
  decide

theorem hexValue?_digitChar : ∀ digit < 16, hexValue? (Nat.digitChar digit) = some digit := by
  decide

theorem hexRun_control {code : Nat} (hcode : code < 0x20) (rest : List Char) :
    hexRun 4 0 (hexDigits 4 code ++ rest) = some (code, rest) := by
  have hzero : hexValue? '0' = some 0 := rfl
  have hhigh := hexValue?_digitChar (code / 16) (by omega)
  have hlow := hexValue?_digitChar (code % 16) (by omega)
  simp [hexDigits_control code hcode, hexRun, hzero, hhigh, hlow]
  omega

structure Escapes (c : Char) (more : List Char) : Prop where
  decodes : ∀ chart tail, decodeEscape chart (more ++ tail) = .ok ([c], tail)
  hides : ∃ hidden behind, more = hidden :: behind ∧ hidden ≠ '\n' ∧
    ∀ d ∈ behind, d ≠ '"' ∧ d ≠ '\\'
  visible : ∀ d ∈ more, 0x20 ≤ d.toNat

theorem escapes_letter {letter : Char}
    (hdecodes : ∀ chart tail, decodeEscape chart (letter :: tail) = .ok ([c], tail))
    (hvisible : 0x20 ≤ letter.toNat) : Escapes c [letter] := by
  refine ⟨hdecodes, ⟨letter, [], rfl, ?_, List.forall_mem_nil _⟩, ?_⟩
  · rintro rfl
    exact absurd hvisible (by decide)
  · exact List.forall_mem_singleton.mpr hvisible

theorem digitChar_plain : ∀ digit < 16,
    Nat.digitChar digit ≠ '"' ∧ Nat.digitChar digit ≠ '\\' ∧
      0x20 ≤ (Nat.digitChar digit).toNat := by
  decide

theorem escapes_control (hcontrol : c.toNat < 0x20) : Escapes c ('u' :: hexDigits 4 c.toNat) := by
  have hdigits : ∀ d ∈ hexDigits 4 c.toNat, d ≠ '"' ∧ d ≠ '\\' ∧ 0x20 ≤ d.toNat := by
    have hhigh := digitChar_plain (c.toNat / 16) (by omega)
    have hlow := digitChar_plain (c.toNat % 16) (by omega)
    rw [hexDigits_control c.toNat hcontrol]
    simp only [List.forall_mem_cons]
    exact ⟨by decide, by decide, hhigh, hlow, List.forall_mem_nil _⟩
  refine ⟨fun chart tail => ?_, ⟨'u', hexDigits 4 c.toNat, rfl, by decide, fun d member => ?_⟩, ?_⟩
  · have hcode : charOfCode c.toNat = c := by
      rw [charOfCode, if_neg (by omega), Char.ofNat_toNat]
    have hsimple : simpleEscape? 'u' = none := rfl
    have hwidth : codeWidth? 'u' = some 4 := rfl
    rw [List.cons_append, decodeEscape, if_neg (by decide), if_neg (by decide),
      if_neg (by decide), hsimple, hwidth]
    · dsimp only
      rw [hexRun_control hcontrol]
      dsimp only
      rw [if_pos (by omega), hcode]
    · rintro rest ⟨⟩
  · exact ⟨(hdigits d member).1, (hdigits d member).2.1⟩
  · exact List.forall_mem_cons.mpr ⟨by decide, fun d member => (hdigits d member).2.2⟩

theorem escapedChar_cases (c : Char) :
    escapedChar c = [c] ∧ c ≠ '"' ∧ c ≠ '\\' ∧ 0x20 ≤ c.toNat ∨
      ∃ more, escapedChar c = '\\' :: more ∧ Escapes c more := by
  unfold escapedChar
  split
  · rename_i hquoted
    right
    refine ⟨[c], rfl, ?_⟩
    rcases hquoted with rfl | rfl
    · exact escapes_letter (fun chart tail => rfl) (by decide)
    · exact escapes_letter (fun chart tail => rfl) (by decide)
  split
  · rename_i hsame
    subst hsame
    exact .inr ⟨_, rfl, escapes_letter (fun chart tail => rfl) (by decide)⟩
  split
  · rename_i hsame
    subst hsame
    exact .inr ⟨_, rfl, escapes_letter (fun chart tail => rfl) (by decide)⟩
  split
  · rename_i hsame
    subst hsame
    exact .inr ⟨_, rfl, escapes_letter (fun chart tail => rfl) (by decide)⟩
  split
  · rename_i hsame
    subst hsame
    exact .inr ⟨_, rfl, escapes_letter (fun chart tail => rfl) (by decide)⟩
  split
  · rename_i hsame
    subst hsame
    exact .inr ⟨_, rfl, escapes_letter (fun chart tail => rfl) (by decide)⟩
  split
  · rename_i hcontrol
    exact .inr ⟨_, rfl, escapes_control hcontrol⟩
  · rename_i hquoted _ _ _ _ _ hvisible
    rw [not_or] at hquoted
    exact .inl ⟨rfl, hquoted.1, hquoted.2, Nat.le_of_not_lt hvisible⟩

theorem visible_escapedChar (c : Char) : ∀ d ∈ escapedChar c, 0x20 ≤ d.toNat := by
  rcases escapedChar_cases c with ⟨hplain, -, -, hvisible⟩ | ⟨more, hmore, escapes⟩
  · rw [hplain]
    exact List.forall_mem_singleton.mpr hvisible
  · rw [hmore]
    exact List.forall_mem_cons.mpr ⟨by decide, escapes.visible⟩

theorem stringTail_plain {word : List Char} (hword : ∀ d ∈ word, d ≠ '"' ∧ d ≠ '\\')
    (hread : Lexeme.stringTail tail = some (taken, rest)) :
    Lexeme.stringTail (word ++ tail) = some (word ++ taken, rest) := by
  induction word with
  | nil => exact hread
  | cons d word induction =>
      obtain ⟨hfirst, hmore⟩ := List.forall_mem_cons.mp hword
      rw [List.cons_append, Lexeme.stringTail, if_neg hfirst.2, induction hmore]
      · rfl
      · exact hfirst.1
      · rintro hidden behind rfl
        exact absurd rfl hfirst.2

theorem stringTail_escapedChar (c : Char) (hread : Lexeme.stringTail tail = some (taken, rest)) :
    Lexeme.stringTail (escapedChar c ++ tail) = some (escapedChar c ++ taken, rest) := by
  rcases escapedChar_cases c with ⟨hplain, hquote, hslash, -⟩ | ⟨more, hmore, escapes⟩
  · rw [hplain]
    exact stringTail_plain (List.forall_mem_singleton.mpr ⟨hquote, hslash⟩) hread
  · obtain ⟨hidden, behind, rfl, hline, hbehind⟩ := escapes.hides
    rw [hmore, List.cons_append, List.cons_append, Lexeme.stringTail, if_neg hline,
      stringTail_plain hbehind hread]
    rfl

theorem stringTail_escaped (chars : List Char) :
    Lexeme.stringTail (chars.flatMap escapedChar ++ ['"']) =
      some (chars.flatMap escapedChar ++ ['"'], []) := by
  induction chars with
  | nil => rfl
  | cons c rest induction =>
      rw [List.flatMap_cons, List.append_assoc]
      exact stringTail_escapedChar c induction

theorem decodeWithin_escaped {chars : List Char} {fuel : Nat}
    (hfuel : (chars.flatMap escapedChar).length ≤ fuel) :
    decodeWithin chart fuel (chars.flatMap escapedChar) = .ok chars := by
  induction chars generalizing fuel with
  | nil => cases fuel <;> rfl
  | cons c rest induction =>
      rw [List.flatMap_cons, List.length_append] at hfuel
      rw [List.flatMap_cons]
      rcases escapedChar_cases c with ⟨hplain, -, hslash, hvisible⟩ | ⟨more, hmore, escapes⟩
      · rw [hplain, List.length_singleton] at hfuel
        obtain ⟨fuel, rfl⟩ : ∃ less, fuel = less + 1 := ⟨fuel - 1, by omega⟩
        have hline : ¬ (c = '\n' ∨ c = '\r') := by
          rintro (rfl | rfl)
          · exact absurd hvisible (by decide)
          · exact absurd hvisible (by decide)
        rw [hplain, List.singleton_append, decodeWithin, if_neg hline, if_neg hslash,
          induction (by omega)]
        rfl
      · rw [hmore, List.length_cons] at hfuel
        obtain ⟨fuel, rfl⟩ : ∃ less, fuel = less + 1 := ⟨fuel - 1, by omega⟩
        rw [hmore, List.cons_append, decodeWithin, if_neg (by decide), if_pos rfl,
          escapes.decodes]
        change (decodeWithin chart fuel (rest.flatMap escapedChar) >>= fun more =>
          Except.ok ([c] ++ more)) = _
        rw [induction (by omega)]
        rfl

end Escapes

theorem toList_escaped (s : String) :
    (escaped s).toList = '"' :: (s.toList.flatMap escapedChar ++ ['"']) :=
  String.toList_ofList

theorem string_escaped (s : String) :
    Lexeme.string (escaped s).toList = some ((escaped s).toList, []) := by
  rw [toList_escaped, Lexeme.string, stringTail_escaped]
  rfl

theorem visible_escaped (s : String) : ∀ c ∈ (escaped s).toList, 0x20 ≤ c.toNat := by
  have hbody : ∀ c ∈ s.toList.flatMap escapedChar, 0x20 ≤ c.toNat := by
    intro c member
    obtain ⟨d, -, hd⟩ := List.mem_flatMap.mp member
    exact visible_escapedChar d c hd
  rw [toList_escaped]
  refine List.forall_mem_cons.mpr ⟨by decide, List.forall_mem_append.mpr ⟨hbody, ?_⟩⟩
  exact List.forall_mem_singleton.mpr (by decide)

theorem decodeLiteral_escaped (chart : CodeChart) (s : String) :
    decodeLiteral chart ((escaped s).toList.drop 1).dropLast = .ok s := by
  have hbody : ((escaped s).toList.drop 1).dropLast = s.toList.flatMap escapedChar := by
    rw [toList_escaped, List.drop_one, List.tail_cons, List.dropLast_concat]
  have hnull : (s.toList.flatMap escapedChar).contains '\x00' = false := by
    rw [List.contains_eq_mem, decide_eq_false_iff_not]
    intro member
    have hvisible := visible_escaped s '\x00' (by
      rw [toList_escaped]
      exact List.mem_cons_of_mem _ (List.mem_append_left _ member))
    exact absurd hvisible (by decide)
  rw [hbody, decodeLiteral, hnull, if_neg Bool.false_ne_true,
    decodeWithin_escaped chart (Nat.le_refl _)]
  exact congrArg Except.ok String.ofList_toList

end Text

namespace Number

open Text (isDigit digitValue?)

theorem digitValue?_of_isDigit {c : Char} (hdigit : c.isDigit = true) :
    digitValue? c = some (c.toNat - '0'.toNat) := by
  have hbounds : 48 ≤ c.toNat ∧ c.toNat ≤ 57 := by
    simpa [Char.isDigit, UInt32.le_iff_toNat_le] using hdigit
  have hascii : Text.isAsciiDigit c = true := by
    simp only [Text.isAsciiDigit, Bool.and_eq_true, decide_eq_true_eq, Char.le_def,
      UInt32.le_iff_toNat_le]
    exact hbounds
  rw [digitValue?, if_pos (by omega), if_pos hascii]

def IsDigits (text : List Char) : Prop :=
  ∀ c ∈ text, isDigit c = true

def signed (negative : Bool) (numeral : List Char) : List Char :=
  if negative then '-' :: numeral else numeral

theorem isDigit_of_isDigit {c : Char} (hdigit : c.isDigit = true) : isDigit c = true := by
  rw [isDigit, digitValue?_of_isDigit hdigit]
  rfl

theorem isDigits_toDigits {number : Nat} : IsDigits (Nat.toDigits 10 number) := fun _ member =>
  isDigit_of_isDigit (Nat.isDigit_of_mem_toDigits (by decide) (by decide) member)

theorem ne_of_isDigit {c d : Char} (hdigit : isDigit c = true) (hother : isDigit d = false) :
    c ≠ d := by
  rintro rfl
  rw [hdigit] at hother
  cases hother

section Signed

variable {digits taken text rest : List Char} {c : Char}

theorem mem_signed {negative : Bool} (member : c ∈ signed negative digits) :
    c = '-' ∨ c ∈ digits := by
  cases negative with
  | true => exact List.mem_cons.mp member
  | false => exact .inr member

theorem signed_append (negative : Bool) (front back : List Char) :
    signed negative (front ++ back) = signed negative front ++ back := by
  cases negative <;> rfl

theorem filter_isDigit_signed (negative : Bool) (hdigits : IsDigits digits) :
    (signed negative digits).filter isDigit = digits := by
  have hall : digits.filter isDigit = digits := List.filter_eq_self.mpr hdigits
  cases negative with
  | true => exact (List.filter_cons_of_neg (by decide)).trans hall
  | false => exact hall

theorem splitSign_signed (negative : Bool)
    (hplain : ∀ c, text.head? = some c → c ≠ '-' ∧ c ≠ '+') :
    splitSign (signed negative text) = (negative, text) := by
  cases negative with
  | true => rfl
  | false =>
      change splitSign text = _
      unfold splitSign
      split
      · exact absurd rfl (hplain '-' rfl).1
      · exact absurd rfl (hplain '+' rfl).2
      · rfl

theorem IsDigits.head_plain (hdigits : IsDigits digits) :
    ∀ c, digits.head? = some c → c ≠ '-' ∧ c ≠ '+' := by
  intro c hhead
  have hdigit := hdigits c (List.mem_of_mem_head? hhead)
  exact ⟨ne_of_isDigit hdigit (by decide), ne_of_isDigit hdigit (by decide)⟩

theorem intOfNumeral_signed (negative : Bool) (hdigits : IsDigits digits) :
    intOfNumeral (signed negative digits) =
      if negative then -(digitsValue 0 digits : Int) else digitsValue 0 digits := by
  rw [intOfNumeral, splitSign_signed negative hdigits.head_plain]

theorem run_digits (hsome : digits ≠ []) (hdigits : IsDigits digits)
    (hstops : ∀ c, rest.head? = some c → isDigit c = false) :
    Lexeme.run isDigit isDigit (digits ++ rest) = some (digits, rest) := by
  obtain ⟨c, word, rfl⟩ := List.exists_cons_of_ne_nil hsome
  obtain ⟨hfirst, hword⟩ := List.forall_mem_cons.mp hdigits
  exact Lexeme.run_of_stops hfirst hword hstops

theorem isDigits_of_run (htake : Lexeme.run isDigit isDigit text = some (taken, rest)) :
    taken ≠ [] ∧ IsDigits taken := by
  obtain ⟨c, word, rfl, -, hfirst, hword, -⟩ := Lexeme.run_eq_some_iff.mp htake
  exact ⟨List.cons_ne_nil c word, List.forall_mem_cons.mpr ⟨hfirst, hword⟩⟩

theorem integer_signed (negative : Bool) (hsome : digits ≠ []) (hdigits : IsDigits digits)
    (hstops : ∀ c, rest.head? = some c → isDigit c = false) :
    Lexeme.integer (signed negative digits ++ rest) = some (signed negative digits, rest) := by
  have hrun := run_digits hsome hdigits hstops
  cases negative with
  | true =>
      change Lexeme.cons '-' (Lexeme.run isDigit isDigit (digits ++ rest)) = _
      rw [hrun]
      rfl
  | false =>
      change Lexeme.integer (digits ++ rest) = some (digits, rest)
      rw [Lexeme.integer]
      · exact hrun
      · intro behind hminus
        obtain ⟨c, word, rfl⟩ := List.exists_cons_of_ne_nil hsome
        exact ne_of_isDigit (hdigits c (.head _)) (by decide) (List.cons.inj hminus).1

theorem signed_of_integer (htake : Lexeme.integer text = some (taken, rest)) :
    ∃ negative digits, taken = signed negative digits ∧ digits ≠ [] ∧ IsDigits digits := by
  unfold Lexeme.integer at htake
  split at htake
  · obtain ⟨digits, hdigits, rfl⟩ := Lexeme.cons_eq_some htake
    exact ⟨true, digits, rfl, isDigits_of_run hdigits⟩
  · exact ⟨false, taken, rfl, isDigits_of_run htake⟩

end Signed

theorem digitsValue_toDigits (number : Nat) : digitsValue 0 (Nat.toDigits 10 number) = number := by
  have hvalue : ∀ {digits : List Char}, (∀ c ∈ digits, c.isDigit = true) → ∀ value,
      digitsValue value digits = Nat.ofDigitChars 10 digits value := by
    intro digits hdigits
    induction digits with
    | nil => exact fun _ => rfl
    | cons c rest induction =>
        intro value
        obtain ⟨hfirst, hrest⟩ := List.forall_mem_cons.mp hdigits
        rw [Nat.ofDigitChars_cons, ← induction hrest]
        change digitsValue (10 * value + (digitValue? c).getD 0) rest = _
        rw [digitValue?_of_isDigit hfirst]
        rfl
  rw [hvalue fun c member => Nat.isDigit_of_mem_toDigits (by decide) (by decide) member,
    Nat.ofDigitChars_ten_toDigits]

/-- The number of digits that an integer is written with. -/
def digitCount (i : Int) : Nat :=
  (Nat.toDigits 10 i.natAbs).length

section Integers

variable (i : Int)

theorem toList_toString :
    (toString i).toList = signed (decide (i < 0)) (Nat.toDigits 10 i.natAbs) := by
  cases i with
  | ofNat number => exact Nat.toList_repr
  | negSucc number =>
      rw [decide_eq_true (Int.negSucc_lt_zero number)]
      change ("-" ++ Nat.repr (number + 1)).toList = _
      rw [String.toList_append, Nat.toList_repr]
      rfl

theorem integer_toString : Lexeme.integer (toString i).toList = some ((toString i).toList, []) := by
  have hsome : Nat.toDigits 10 i.natAbs ≠ [] := Nat.toDigits_ne_nil
  have htake : Lexeme.integer (signed _ _ ++ []) = _ :=
    integer_signed (decide (i < 0)) hsome isDigits_toDigits fun c hhead => nomatch hhead
  rw [toList_toString]
  rwa [List.append_nil] at htake

theorem number_toString : Lexeme.number (toString i).toList = some ((toString i).toList, []) := by
  have hnone : Lexeme.decimal (toString i).toList = none := by
    rw [Lexeme.decimal, integer_toString]
    rfl
  rw [Lexeme.number, hnone]
  exact integer_toString i

theorem intOfNumeral_toString : intOfNumeral (toString i).toList = i := by
  rw [toList_toString, intOfNumeral_signed _ isDigits_toDigits, digitsValue_toDigits]
  by_cases hnegative : i < 0
  · rw [if_pos (decide_eq_true hnegative)]
    omega
  · rw [if_neg fun hsame => hnegative (of_decide_eq_true hsame)]
    omega

theorem filter_isDigit_toString :
    (toString i).toList.filter isDigit = Nat.toDigits 10 i.natAbs := by
  rw [toList_toString, filter_isDigit_signed _ isDigits_toDigits]

theorem mem_toString {c : Char} (member : c ∈ (toString i).toList) :
    c = '-' ∨ c.isDigit = true := by
  rw [toList_toString] at member
  exact (mem_signed member).imp_right (Nat.isDigit_of_mem_toDigits (by decide) (by decide))

end Integers

theorem digitValue?_lt {c : Char} {value : Nat} (hvalue : digitValue? c = some value) :
    value < 10 := by
  unfold digitValue? at hvalue
  split at hvalue
  · split at hvalue
    · rename_i hascii
      simp only [Text.isAsciiDigit, Bool.and_eq_true, decide_eq_true_eq, Char.le_def,
        UInt32.le_iff_toNat_le] at hascii
      have hbounds : 48 ≤ c.toNat ∧ c.toNat ≤ 57 := hascii
      cases hvalue
      change c.toNat - 48 < 10
      omega
    · cases hvalue
  · obtain ⟨start, hstart, rfl⟩ := Option.map_eq_some_iff.mp hvalue
    have hseries := List.find?_some hstart
    rw [Bool.and_eq_true, decide_eq_true_eq, decide_eq_true_eq] at hseries
    omega

theorem digitsValue_lt (digits : List Char) (value : Nat) :
    digitsValue value digits < 10 ^ digits.length * (value + 1) := by
  induction digits generalizing value with
  | nil =>
      change value < 1 * (value + 1)
      omega
  | cons c rest induction =>
      have hdigit : (digitValue? c).getD 0 < 10 := by
        cases hvalue : digitValue? c with
        | none => exact Nat.zero_lt_succ _
        | some digit => exact digitValue?_lt hvalue
      calc digitsValue value (c :: rest)
          = digitsValue (10 * value + (digitValue? c).getD 0) rest := rfl
        _ < 10 ^ rest.length * (10 * value + (digitValue? c).getD 0 + 1) := induction _
        _ ≤ 10 ^ rest.length * (10 * (value + 1)) := Nat.mul_le_mul_left _ (by omega)
        _ = 10 ^ (c :: rest).length * (value + 1) := by
          rw [List.length_cons, Nat.pow_succ, Nat.mul_assoc]

end Number

namespace Value

inductive BuiltOf (types : String → Prop) (atoms : Value → Prop) : Value → Prop
  | atom {value : Value} (hatom : atoms value) : BuiltOf types atoms value
  | node {id : Nat} {type : String} {loc : Option Range} {children : List Value}
      (htype : types type) (each : ∀ child ∈ children, BuiltOf types atoms child) :
      BuiltOf types atoms (.node id type loc children)

/-- The name of a symbol that can be written behind a colon. -/
def IsSpelled (name : String) : Prop :=
  Lexeme.symbol (':' :: name.toList) = some (':' :: name.toList, [])

def childrenText (children : List Value) : List Char :=
  children.flatMap fun child => ' ' :: child.pretty.toList

theorem childrenText_cons (child : Value) (children : List Value) :
    childrenText (child :: children) = ' ' :: (child.pretty.toList ++ childrenText children) :=
  List.flatMap_cons

theorem childrenText_append (child : Value) (others : List Value) (rest : List Char) :
    childrenText (child :: others) ++ rest =
      ' ' :: (child.pretty.toList ++ (childrenText others ++ rest)) := by
  rw [childrenText_cons, List.cons_append, List.append_assoc]

/-- A node as written: its type, and what is written for its children with a blank in front of
each. -/
theorem toList_nodeText (type : String) (children : List String) :
    (nodeText type children).toList =
      '(' :: (type.toList ++ (children.flatMap (fun child => ' ' :: child.toList) ++ [')'])) := by
  have hall : [' '].intercalate ((type :: children).map String.toList) =
      type.toList ++ children.flatMap fun child => ' ' :: child.toList := by
    induction children generalizing type with
    | nil =>
        rw [List.map_singleton, List.intercalate_singleton]
        exact (List.append_nil _).symm
    | cons child rest induction =>
        rw [List.map_cons, List.map_cons, List.intercalate_cons_cons, ← List.map_cons, induction,
          List.flatMap_cons, List.append_assoc]
        rfl
  rw [nodeText, String.toList_append, String.toList_append, String.toList_intercalate]
  change '(' :: ([' '].intercalate _ ++ [')']) = _
  rw [hall, List.append_assoc]

theorem toList_pretty_node (id : Nat) (type : String) (loc : Option Range) (children : List Value) :
    (node id type loc children).pretty.toList =
      '(' :: (type.toList ++ (childrenText children ++ [')'])) := by
  have hall : (prettyAll children).flatMap (fun child => ' ' :: child.toList) =
      childrenText children := by
    induction children with
    | nil => rfl
    | cons child rest induction =>
        rw [prettyAll, List.flatMap_cons, induction, childrenText_cons]
        rfl
  rw [pretty, toList_nodeText, hall]

theorem toList_pretty_node_append (id : Nat) (type : String) (loc : Option Range)
    (children : List Value) (rest : List Char) :
    (node id type loc children).pretty.toList ++ rest =
      '(' :: (type.toList ++ (childrenText children ++ ')' :: rest)) := by
  simp [toList_pretty_node]

theorem follows_childrenText (children : List Value) (rest : List Char) :
    Lexeme.Follows [] (childrenText children ++ ')' :: rest) := by
  intro c hhead
  cases children with
  | nil =>
      cases hhead
      exact .inr (.inr rfl)
  | cons child others =>
      cases hhead
      exact .inr (.inl rfl)

end Value

end TreeMatch
