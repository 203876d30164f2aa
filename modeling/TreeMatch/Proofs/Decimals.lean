import TreeMatch.Proofs.Rounding

/-! Whatever is written for a floating point number stands for that number, with an exponent or as
a word as well: numbers that differ are written differently. -/

namespace TreeMatch.Number

open Text (isDigit)

structure NumeralParts where
  whole : List Char
  fraction : Option (List Char)
  power : Option (List Char)

namespace NumeralParts

def text (numeral : NumeralParts) : List Char :=
  numeral.whole ++ (numeral.fraction.elim [] ('.' :: ·) ++ numeral.power.elim [] ('e' :: ·))

def digits (numeral : NumeralParts) : List Char :=
  numeral.whole ++ numeral.fraction.getD []

def scale (numeral : NumeralParts) : Int :=
  intOfNumeral (numeral.power.getD []) - (numeral.fraction.getD []).length

structure IsProper (numeral : NumeralParts) : Prop where
  whole_ne : numeral.whole ≠ []
  whole : IsDigits numeral.whole
  fraction : IsDigits (numeral.fraction.getD [])

end NumeralParts

theorem forall_mem_of_all {P : α → Prop} [DecidablePred P] {values : List α}
    (hall : (values.all fun value => decide (P value)) = true) : ∀ value ∈ values, P value :=
  fun value member => of_decide_eq_true (List.all_eq_true.mp hall value member)

def IsNumberChar (c : Char) : Prop :=
  c.isDigit = true ∨ c ∈ ['-', '+', '.', 'e', 'i', 'n', 'f']

instance : DecidablePred IsNumberChar := fun c =>
  inferInstanceAs (Decidable (c.isDigit = true ∨ c ∈ ['-', '+', '.', 'e', 'i', 'n', 'f']))

theorem IsNumberChar.plain {c : Char} (hchar : IsNumberChar c) :
    Text.isTrimmed c = false ∧ c.toLower = c := by
  rcases hchar with hdigit | member
  · have hbounds : 48 ≤ c.toNat ∧ c.toNat ≤ 57 := by
      simpa [Char.isDigit, UInt32.le_iff_toNat_le] using hdigit
    have hupper : ¬ (c.val ≥ 'A'.val ∧ c.val ≤ 'Z'.val) := by
      rw [ge_iff_le, UInt32.le_iff_toNat_le, UInt32.le_iff_toNat_le]
      change ¬ (65 ≤ c.toNat ∧ c.toNat ≤ 90)
      omega
    refine ⟨?_, dif_neg hupper⟩
    simp [Text.isTrimmed, Text.isBlank]
    omega
  · have hmarks : ∀ mark ∈ ['-', '+', '.', 'e', 'i', 'n', 'f'],
        Text.isTrimmed mark = false ∧ mark.toLower = mark :=
      forall_mem_of_all (by decide)
    exact hmarks c member

section Reading

variable {text : List Char} {numeral : NumeralParts}

theorem trim_of_plain (hplain : ∀ c ∈ text, Text.isTrimmed c = false) : Text.trim text = text := by
  have hfront {other : List Char} (hother : ∀ c ∈ other, Text.isTrimmed c = false) :
      other.dropWhile Text.isTrimmed = other := by
    cases other with
    | nil => rfl
    | cons c rest =>
        rw [List.dropWhile_cons, hother c List.mem_cons_self, if_neg Bool.false_ne_true]
  rw [Text.trim, hfront hplain, hfront fun c member => hplain c (List.mem_reverse.mp member),
    List.reverse_reverse]

theorem NumeralParts.IsProper.head_text (proper : numeral.IsProper) :
    ∃ c, numeral.text.head? = some c ∧ isDigit c = true := by
  obtain ⟨c, rest, hwhole⟩ := List.exists_cons_of_ne_nil proper.whole_ne
  exact ⟨c, by rw [text, hwhole]; rfl, proper.whole c (by rw [hwhole]; exact List.mem_cons_self)⟩

theorem map_toLower_trim (negative : Bool) (hchars : ∀ c ∈ text, IsNumberChar c) :
    (Text.trim (signed negative text)).map Char.toLower = signed negative text := by
  have hsigned : ∀ c ∈ signed negative text, IsNumberChar c := by
    intro c member
    rcases mem_signed member with rfl | hmem
    · exact .inr List.mem_cons_self
    · exact hchars c hmem
  rw [trim_of_plain fun c member => (hsigned c member).plain.1]
  have hsame := List.map_congr_left (g := id) fun c member => (hsigned c member).plain.2
  rw [hsame, List.map_id]

theorem NumeralParts.IsProper.span_text (proper : numeral.IsProper) :
    numeral.text.span (· ≠ 'e') =
        (numeral.whole ++ numeral.fraction.elim [] ('.' :: ·),
          numeral.power.elim [] ('e' :: ·)) ∧
      (numeral.whole ++ numeral.fraction.elim [] ('.' :: ·)).span (· ≠ '.') =
        (numeral.whole, numeral.fraction.elim [] ('.' :: ·)) := by
  obtain ⟨whole, fraction, power⟩ := numeral
  have hdigit {c d : Char} {word : List Char} (hword : IsDigits word) (member : c ∈ word)
      (hother : isDigit d = false) : decide (c ≠ d) = true :=
    decide_eq_true (ne_of_isDigit (hword c member) hother)
  constructor
  · rw [text, ← List.append_assoc]
    refine Grammar.Lexeme.span_of_stops (fun c member => ?_) (fun c hhead => ?_)
    · rcases List.mem_append.mp member with hmem | hmem
      · exact hdigit proper.whole hmem (by decide)
      · cases fraction with
        | none => cases hmem
        | some part =>
            rcases List.mem_cons.mp hmem with rfl | hpart
            · decide
            · exact hdigit proper.fraction hpart (by decide)
    · cases power with
      | none => cases hhead
      | some digits =>
          cases hhead
          decide
  · refine Grammar.Lexeme.span_of_stops (fun c member => ?_) (fun c hhead => ?_)
    · exact hdigit proper.whole member (by decide)
    · cases fraction with
      | none => cases hhead
      | some part =>
          cases hhead
          decide

theorem floatOfText_numeral (label : Nat) (negative : Bool) (proper : numeral.IsProper)
    (hchars : ∀ c ∈ numeral.text, IsNumberChar c) :
    floatOfText label (String.ofList (signed negative numeral.text)) =
      .ofDecimal negative (digitsValue 0 numeral.digits) numeral.scale := by
  obtain ⟨c, hhead, hdigit⟩ := proper.head_text
  obtain ⟨hmantissa, hwhole⟩ := proper.span_text
  have hword {word : List Char} {d : Char} (hfirst : word.head? = some d)
      (hother : isDigit d = false) : numeral.text ≠ word := by
    rintro rfl
    exact ne_of_isDigit hdigit hother (Option.some.inj (hhead.symm.trans hfirst))
  have hplain : ∀ d, numeral.text.head? = some d → d ≠ '-' ∧ d ≠ '+' := by
    intro d hfirst
    cases hhead.symm.trans hfirst
    exact ⟨ne_of_isDigit hdigit (by decide), ne_of_isDigit hdigit (by decide)⟩
  have hinfinite : ¬ (numeral.text = "inf".toList ∨ numeral.text = "infinity".toList) :=
    not_or.mpr ⟨hword rfl (by decide), hword rfl (by decide)⟩
  have hundefined : numeral.text ≠ "nan".toList := hword rfl (by decide)
  rw [floatOfText, String.toList_ofList, map_toLower_trim negative hchars,
    splitSign_signed negative hplain]
  dsimp only
  rw [if_neg hinfinite, if_neg hundefined, hmantissa]
  dsimp only
  rw [hwhole]
  dsimp only
  -- Underscores between digits are dropped when a number is read; a numeral has none.
  have hfilter : numeral.whole.filter isDigit = numeral.whole :=
    List.filter_eq_self.mpr proper.whole
  have hpart : (numeral.fraction.elim [] ('.' :: ·)).filter isDigit =
      numeral.fraction.getD [] := by
    have hdigits := proper.fraction
    cases hfraction : numeral.fraction with
    | none => rfl
    | some part =>
        rw [hfraction] at hdigits
        exact (List.filter_cons_of_neg (by decide)).trans (List.filter_eq_self.mpr hdigits)
  have hpower : (numeral.power.elim [] ('e' :: ·)).drop 1 = numeral.power.getD [] := by
    cases numeral.power <;> rfl
  rw [hfilter, hpart, hpower, NumeralParts.digits, NumeralParts.scale, Binary64.digitsValue_append]

end Reading

namespace Binary64

section Layout

variable {digits : List Char} {point : Int}

def powerText (power : Int) : List Char :=
  (if power < 0 then '-' else '+') ::
    if (Nat.toDigits 10 power.natAbs).length < 2 then '0' :: Nat.toDigits 10 power.natAbs
    else Nat.toDigits 10 power.natAbs

theorem intOfNumeral_powerText (power : Int) : intOfNumeral (powerText power) = power := by
  have hvalue : digitsValue 0 (if (Nat.toDigits 10 power.natAbs).length < 2 then
      '0' :: Nat.toDigits 10 power.natAbs else Nat.toDigits 10 power.natAbs) = power.natAbs := by
    split
    · exact digitsValue_toDigits power.natAbs
    · exact digitsValue_toDigits power.natAbs
  unfold powerText
  generalize (if (Nat.toDigits 10 power.natAbs).length < 2 then
    '0' :: Nat.toDigits 10 power.natAbs else Nat.toDigits 10 power.natAbs) = padded at *
  split
  · change -(digitsValue 0 padded : Int) = power
    omega
  · change (digitsValue 0 padded : Int) = power
    omega

theorem mem_powerText {power : Int} {c : Char} (member : c ∈ powerText power) :
    IsNumberChar c := by
  have hdigits : ∀ d ∈ Nat.toDigits 10 power.natAbs, IsNumberChar d := fun d hmem =>
    .inl (Nat.isDigit_of_mem_toDigits (by decide) (by decide) hmem)
  rcases List.mem_cons.mp member with rfl | hmem
  · split
    · exact .inr (by decide)
    · exact .inr (by decide)
  · split at hmem
    · rcases List.mem_cons.mp hmem with rfl | hdigit
      · exact .inl (by decide)
      · exact hdigits c hdigit
    · exact hdigits c hmem

theorem layout_far (hpoint : ¬ (-4 < point ∧ point ≤ 16)) :
    layout digits point = digits.take 1 ++ ((if digits.length ≤ 1 then [] else
      '.' :: digits.drop 1) ++ 'e' :: powerText (point - 1)) := by
  unfold layout
  dsimp only
  rw [if_neg hpoint, List.append_assoc]
  rfl

/-- Digits are laid out as a numeral for the number that they are to denote. -/
theorem exists_numeral (hsome : digits ≠ []) (hdigits : IsDigits digits) (point : Int) :
    ∃ numeral : NumeralParts, layout digits point = numeral.text ∧ numeral.IsProper ∧
      (digitsValue 0 numeral.digits * 10 ^ numeral.scale : ℚ) =
        digitsValue 0 digits * 10 ^ (point - digits.length) := by
  by_cases hpoint : -4 < point ∧ point ≤ 16
  · obtain ⟨whole, part, hlayout, hwhole, hwholeDigits, hpart, hvalue⟩ :=
      exists_layout hdigits hpoint
    refine ⟨⟨whole, some part, none⟩, ?_, ⟨hwhole, hwholeDigits, hpart⟩, ?_⟩
    · rw [hlayout, NumeralParts.text]
      simp
    · rw [← hvalue, NumeralParts.scale]
      simp [NumeralParts.digits, intOfNumeral, splitSign, digitsValue]
  · have hlength := List.length_pos_of_ne_nil hsome
    let fraction := if digits.length ≤ 1 then none else some (digits.drop 1)
    have hfraction : fraction.getD [] = digits.drop 1 := by
      unfold fraction
      split
      · rename_i hone
        rw [List.drop_of_length_le hone]
        rfl
      · rfl
    refine ⟨⟨digits.take 1, fraction, some (powerText (point - 1))⟩, ?_, ⟨?_, ?_, ?_⟩, ?_⟩
    · rw [layout_far hpoint, NumeralParts.text]
      unfold fraction
      split <;> rfl
    · refine List.ne_nil_of_length_pos ?_
      rw [List.length_take]
      omega
    · exact fun c member => hdigits c (List.mem_of_mem_take member)
    · rw [hfraction]
      exact fun c member => hdigits c (List.mem_of_mem_drop member)
    · have hscale : point - 1 - (digits.drop 1).length = point - digits.length := by
        rw [List.length_drop]
        omega
      rw [NumeralParts.digits, NumeralParts.scale, hfraction, Option.getD_some,
        intOfNumeral_powerText, hscale, List.take_append_drop]

theorem mem_layout (hdigits : ∀ d ∈ digits, d.isDigit = true) {c : Char}
    (member : c ∈ layout digits point) : IsNumberChar c := by
  have hzeros {count : Nat} (hmem : c ∈ List.replicate count '0') : IsNumberChar c :=
    .inl (List.eq_of_mem_replicate hmem ▸ by decide)
  have htake {count : Nat} (hmem : c ∈ digits.take count) : IsNumberChar c :=
    .inl (hdigits c (List.mem_of_mem_take hmem))
  have hdrop {count : Nat} (hmem : c ∈ digits.drop count) : IsNumberChar c :=
    .inl (hdigits c (List.mem_of_mem_drop hmem))
  by_cases hpoint : -4 < point ∧ point ≤ 16
  · unfold layout at member
    dsimp only at member
    rw [if_pos hpoint] at member
    split at member
    · rcases List.mem_append.mp member with hmem | hmem
      · rcases List.mem_cons.mp hmem with rfl | hmem
        · exact .inl (by decide)
        rcases List.mem_cons.mp hmem with rfl | hmem
        · exact .inr (by decide)
        · exact hzeros hmem
      · exact .inl (hdigits c hmem)
    split at member
    · rcases List.mem_append.mp member with hmem | hmem
      · exact (List.mem_append.mp hmem).elim (fun hmem => .inl (hdigits c hmem)) hzeros
      · rcases List.mem_pair.mp hmem with rfl | rfl
        · exact .inr (by decide)
        · exact .inl (by decide)
    · rcases List.mem_append.mp member with hmem | hmem
      · exact htake hmem
      · rcases List.mem_cons.mp hmem with rfl | hmem
        · exact .inr (by decide)
        · exact hdrop hmem
  · rw [layout_far hpoint] at member
    rcases List.mem_append.mp member with hmem | hmem
    · exact htake hmem
    rcases List.mem_append.mp hmem with hmem | hmem
    · split at hmem
      · cases hmem
      · rcases List.mem_cons.mp hmem with rfl | hmem
        · exact .inr (by decide)
        · exact hdrop hmem
    · rcases List.mem_cons.mp hmem with rfl | hmem
      · exact .inr (by decide)
      · exact mem_powerText hmem

end Layout

section Texts

variable {x y : Binary64}

def IsDefined (x : Binary64) : Prop :=
  ∀ label, x ≠ nan label

theorem isNumberChar_text (defined : x.IsDefined) (canonical : x.IsCanonical) :
    ∀ c ∈ x.text.toList, IsNumberChar c := by
  cases x with
  | nan label => exact absurd rfl (defined label)
  | infinite negative => cases negative <;> exact forall_mem_of_all (by decide)
  | finite negative mantissa exponent =>
      by_cases hzero : mantissa = 0
      · subst hzero
        have hword : (finite negative 0 exponent).text = if negative then "-0.0" else "0.0" := by
          cases negative <;> rfl
        rw [hword]
        cases negative <;> exact forall_mem_of_all (by decide)
      · obtain ⟨digits, point, hwritten, -, hascii, -⟩ := exists_digits canonical hzero
        rw [hwritten]
        intro c member
        rcases mem_signed member with rfl | hmem
        · exact .inr List.mem_cons_self
        · exact mem_layout hascii hmem

theorem floatOfText_text (defined : x.IsDefined) (canonical : x.IsCanonical) (label : Nat) :
    floatOfText label x.text = x := by
  cases x with
  | nan label => exact absurd rfl (defined label)
  | infinite negative => cases negative <;> rfl
  | finite negative mantissa exponent =>
      by_cases hzero : mantissa = 0
      · subst hzero
        obtain ⟨-, -, -, hleast⟩ := canonical
        rw [hleast.resolve_right (by decide)]
        cases negative <;> rfl
      · obtain ⟨digits, point, hwritten, hsome, hascii, covers⟩ := exists_digits canonical hzero
        have hdigits : IsDigits digits := fun c member => isDigit_of_isDigit (hascii c member)
        obtain ⟨numeral, hlayout, proper, hvalue⟩ := exists_numeral hsome hdigits point
        have hchars : ∀ c ∈ numeral.text, IsNumberChar c := by
          rw [← hlayout]
          exact fun c => mem_layout hascii
        have htext : (finite negative mantissa exponent).text =
            String.ofList (signed negative numeral.text) := by
          rw [← hlayout, ← hwritten, String.ofList_toList]
        rw [htext, floatOfText_numeral label negative proper hchars]
        refine ofDecimal_of_covers canonical hzero ?_
        rw [hvalue]
        exact covers

theorem text_injective (defined : x.IsDefined) (canonical : x.IsCanonical)
    (hdefined : y.IsDefined) (hcanonical : y.IsCanonical) (hsame : x.text = y.text) : x = y := by
  rw [← floatOfText_text defined canonical 0, hsame, floatOfText_text hdefined hcanonical]

end Texts

end Binary64

end TreeMatch.Number
