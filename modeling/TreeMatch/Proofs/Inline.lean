import TreeMatch.Proofs.Portrait
import TreeMatch.Proofs.Scoping

/-! What a script writes within one line: quoted texts, numbers, and the tests put together from
them. -/

namespace TreeMatch

namespace Text

/-! Quoted texts: a character stands for itself, or others stand for it behind a backslash. -/

theorem mem_toDigits {number : Nat} {c : Char} (member : c ∈ Nat.toDigits 16 number) :
    ∃ digit < 16, c = Nat.digitChar digit := by
  induction number using Nat.strongRecOn with
  | ind number induction =>
      by_cases hsmall : number < 16
      · rw [Nat.toDigits_of_lt_base hsmall] at member
        exact ⟨number, hsmall, List.mem_singleton.mp member⟩
      · rw [Nat.toDigits_of_base_le (by decide) (by omega), List.mem_append] at member
        rcases member with hfront | hlast
        · exact induction (number / 16) (Nat.div_lt_self (by omega) (by decide)) hfront
        · exact ⟨number % 16, Nat.mod_lt _ (by decide), List.mem_singleton.mp hlast⟩

theorem mem_hexDigits {width value : Nat} {c : Char} (member : c ∈ hexDigits width value) :
    ∃ digit < 16, c = Nat.digitChar digit := by
  rcases List.mem_append.mp member with hzero | hdigit
  · exact ⟨0, by decide, (List.mem_replicate.mp hzero).2⟩
  · exact mem_toDigits hdigit

def IsHidden (chars : List Char) : Prop :=
  ∃ hidden code, chars = '\\' :: hidden :: code ∧ isPrintable hidden = true ∧
    ∀ c ∈ code, ∃ digit < 16, c = Nat.digitChar digit

theorem isHidden_single {hidden : Char} (hprintable : isPrintable hidden = true) :
    IsHidden ['\\', hidden] :=
  ⟨hidden, [], rfl, hprintable, List.forall_mem_nil _⟩

theorem isHidden_codeEscape (c : Char) : IsHidden (codeEscape c) := by
  unfold codeEscape
  dsimp only
  split
  · exact ⟨'x', _, rfl, by decide, fun d member => mem_hexDigits member⟩
  split
  · exact ⟨'u', _, rfl, by decide, fun d member => mem_hexDigits member⟩
  · exact ⟨'U', _, rfl, by decide, fun d member => mem_hexDigits member⟩

theorem quotedChar_cases {quote : Char} (hquote : isPrintable quote = true) (c : Char) :
    quotedChar quote c = [c] ∧ c ≠ quote ∧ c ≠ '\\' ∧ isPrintable c = true ∨
      IsHidden (quotedChar quote c) := by
  unfold quotedChar
  split
  · rename_i hspecial
    rcases hspecial with rfl | rfl
    · exact .inr (isHidden_single hquote)
    · exact .inr (isHidden_single (by decide))
  split
  · exact .inr (isHidden_single (by decide))
  split
  · exact .inr (isHidden_single (by decide))
  split
  · exact .inr (isHidden_single (by decide))
  split
  · rename_i hplain _ _ _ hprintable
    rw [not_or] at hplain
    exact .inl ⟨rfl, hplain.1, hplain.2, hprintable⟩
  · exact .inr (isHidden_codeEscape c)

theorem quoteFor_cases (text : List Char) : quoteFor text = '"' ∨ quoteFor text = '\'' := by
  unfold quoteFor
  split
  · exact .inl rfl
  · exact .inr rfl

theorem isPrintable_quoteFor (text : List Char) : isPrintable (quoteFor text) = true := by
  rcases quoteFor_cases text with hquote | hquote <;> rw [hquote] <;> decide

theorem toList_quoted (text : String) :
    (quoted text).toList = quoteFor text.toList ::
      (text.toList.flatMap (quotedChar (quoteFor text.toList)) ++ [quoteFor text.toList]) :=
  String.toList_ofList

end Text

namespace Number

open Binary64

/-! Floating point numbers: a digit, further digits with perhaps a point and an exponent among them,
and perhaps the sign and the digits of a power. -/

inductive Numeral : List Char → Prop
  | plain {digit : Char} {more : List Char} (hdigit : digit.isDigit = true)
      (hmore : ∀ c ∈ more, c.isDigit = true ∨ c = '.' ∨ c = 'e') : Numeral (digit :: more)
  | powered {digit sign : Char} {more power : List Char} (hdigit : digit.isDigit = true)
      (hmore : ∀ c ∈ more, c.isDigit = true ∨ c = '.' ∨ c = 'e') (hsign : sign = '-' ∨ sign = '+')
      (hpower : ∀ c ∈ power, c.isDigit = true) : Numeral (digit :: (more ++ sign :: power))

theorem isDigit_toDigits {number : Nat} {c : Char} (member : c ∈ Nat.toDigits 10 number) :
    c.isDigit = true :=
  Nat.isDigit_of_mem_toDigits (by decide) (by decide) member

theorem nearest?_digits {r : Rounding} {power : Int} {d : Decimal}
    (hnearest : r.nearest? power = some d) : d.digits ≠ 0 := by
  have hcheck : ∀ first second : Decimal,
      (if first.digits ≠ 0 && r.contains first then some first
        else if second.digits ≠ 0 && r.contains second then some second else none) = some d →
      d.digits ≠ 0 := by
    intro first second hfound
    split at hfound
    · rename_i hfirst
      cases hfound
      rw [Bool.and_eq_true, decide_eq_true_eq] at hfirst
      exact hfirst.1
    · split at hfound
      · rename_i hsecond
        cases hfound
        rw [Bool.and_eq_true, decide_eq_true_eq] at hsecond
        exact hsecond.1
      · cases hfound
  exact hcheck _ _ hnearest

theorem search_digits (r : Rounding) (fuel : Nat) (power : Int) :
    (r.search fuel power).digits ≠ 0 := by
  induction fuel generalizing power with
  | zero => exact Nat.pos_iff_ne_zero.mp (Nat.le_max_left 1 _)
  | succ fuel induction =>
      unfold Rounding.search
      split
      · exact nearest?_digits ‹_›
      · exact induction (power - 1)

theorem digitsValue_zeros {digits : List Char} (hzeros : ∀ c ∈ digits, c = '0') :
    digitsValue 0 digits = 0 := by
  induction digits with
  | nil => rfl
  | cons c rest induction =>
      obtain ⟨rfl, hrest⟩ := List.forall_mem_cons.mp hzeros
      exact induction hrest

theorem stripZeros_ne_nil {number : Nat} (hpositive : number ≠ 0) :
    stripZeros (Nat.toDigits 10 number) ≠ [] := by
  intro hnone
  rw [stripZeros, List.reverse_eq_nil_iff, List.dropWhile_eq_nil_iff] at hnone
  apply hpositive
  rw [← digitsValue_toDigits number]
  apply digitsValue_zeros
  intro c member
  exact eq_of_beq (hnone c (List.mem_reverse.mpr member))

theorem numeral_layout {digits : List Char} (hsome : digits ≠ [])
    (hdigits : ∀ c ∈ digits, c.isDigit = true) (point : Int) : Numeral (layout digits point) := by
  obtain ⟨first, others, rfl⟩ := List.exists_cons_of_ne_nil hsome
  obtain ⟨hfirst, hothers⟩ := List.forall_mem_cons.mp hdigits
  have hzero : ∀ count, ∀ c ∈ List.replicate count '0', c.isDigit = true ∨ c = '.' ∨ c = 'e' := by
    intro count c member
    rw [(List.mem_replicate.mp member).2]
    exact .inl rfl
  have hmore : ∀ part : List Char, part ⊆ others →
      ∀ c ∈ part, c.isDigit = true ∨ c = '.' ∨ c = 'e' :=
    fun part hpart c member => .inl (hothers c (hpart member))
  unfold layout
  dsimp only
  split
  · split
    · refine .plain rfl (List.forall_mem_cons.mpr ⟨.inr (.inl rfl), ?_⟩)
      refine List.forall_mem_append.mpr ⟨hzero _, List.forall_mem_cons.mpr ⟨.inl hfirst, ?_⟩⟩
      exact hmore others (List.Subset.refl _)
    · split
      · refine .plain hfirst (List.forall_mem_append.mpr ⟨?_, ?_⟩)
        · exact List.forall_mem_append.mpr ⟨hmore others (List.Subset.refl _), hzero _⟩
        · simp
      · obtain ⟨count, hcount⟩ : ∃ count, point.toNat = count + 1 := ⟨point.toNat - 1, by omega⟩
        rw [hcount, List.take_succ_cons, List.drop_succ_cons]
        refine .plain hfirst (List.forall_mem_append.mpr ⟨hmore _ (List.take_subset _ _), ?_⟩)
        exact List.forall_mem_cons.mpr ⟨.inr (.inl rfl), hmore _ (List.drop_subset _ _)⟩
  · -- Behind the first digit stand the others, if there are any, and the exponent.
    have hfraction : ∀ c ∈ (if (first :: others).length ≤ 1 then [] else
        '.' :: (first :: others).drop 1) ++ ['e'], c.isDigit = true ∨ c = '.' ∨ c = 'e' := by
      refine List.forall_mem_append.mpr ⟨?_, List.forall_mem_singleton.mpr (.inr (.inr rfl))⟩
      split
      · exact List.forall_mem_nil _
      · exact List.forall_mem_cons.mpr ⟨.inr (.inl rfl), hmore others (List.Subset.refl _)⟩
    have hsign : (if point - 1 < 0 then '-' else '+') = '-' ∨
        (if point - 1 < 0 then '-' else '+') = '+' := by
      split
      · exact .inl rfl
      · exact .inr rfl
    have hpower : ∀ c ∈ (if (Nat.toDigits 10 (point - 1).natAbs).length < 2 then
        '0' :: Nat.toDigits 10 (point - 1).natAbs else Nat.toDigits 10 (point - 1).natAbs),
        c.isDigit = true := by
      split
      · exact List.forall_mem_cons.mpr ⟨rfl, fun c member => isDigit_toDigits member⟩
      · exact fun c member => isDigit_toDigits member
    have hnumeral := Numeral.powered hfirst hfraction hsign hpower
    rw [List.append_assoc] at hnumeral
    exact hnumeral

/-- The text of a finite number is a numeral, behind a minus sign or none. -/
theorem numeral_text (negative : Bool) (mantissa : Nat) (exponent : Int) :
    ∃ numeral, (Binary64.finite negative mantissa exponent).text.toList = signed negative numeral ∧
      Numeral numeral := by
  have hdigits : ∀ number, ∀ c ∈ stripZeros (Nat.toDigits 10 number), c.isDigit = true := by
    intro number c member
    rw [stripZeros, List.mem_reverse] at member
    exact isDigit_toDigits (List.mem_reverse.mp ((List.dropWhile_suffix _).mem member))
  rw [text, String.toList_ofList]
  refine ⟨_, rfl, ?_⟩
  split
  · exact .plain rfl (by simp)
  · exact numeral_layout (stripZeros_ne_nil (search_digits _ 20 _)) (hdigits _) _

end Number

instance (c : Char) : Decidable (IsInline c) :=
  inferInstanceAs (Decidable (c ≠ '\x00' ∧ c ≠ '\n' ∧ c ≠ '\r'))

namespace Text

def IsOneLine (text : String) : Prop :=
  ∀ c ∈ text.toList, IsInline c

instance (text : String) : Decidable (IsOneLine text) :=
  List.decidableBAll IsInline text.toList

theorem IsOneLine.append {front back : String} (hfront : IsOneLine front) (hback : IsOneLine back) :
    IsOneLine (front ++ back) := by
  rw [IsOneLine, String.toList_append]
  exact List.forall_mem_append.mpr ⟨hfront, hback⟩

theorem IsOneLine.enclose {front text back : String} (hfront : IsOneLine front)
    (htext : IsOneLine text) (hback : IsOneLine back) : IsOneLine (front ++ text ++ back) :=
  (hfront.append htext).append hback

theorem isOneLine_intercalate {separator : String} {texts : List String}
    (hseparator : IsOneLine separator) (each : ∀ text ∈ texts, IsOneLine text) :
    IsOneLine (separator.intercalate texts) := by
  induction texts with
  | nil => exact List.forall_mem_nil _
  | cons text rest induction =>
      obtain ⟨hfirst, hrest⟩ := List.forall_mem_cons.mp each
      cases rest with
      | nil =>
          rw [String.intercalate_singleton]
          exact hfirst
      | cons next rest =>
          rw [String.intercalate_cons_cons]
          exact (hfirst.append hseparator).append (induction hrest)

theorem isInline_digit {c : Char} (hdigit : c.isDigit = true) : IsInline c :=
  isInline_of_test (by decide) (by decide) (by decide) hdigit

theorem isOneLine_integer (i : Int) : IsOneLine (toString i) := by
  intro c member
  rcases Number.mem_toString i member with rfl | hdigit
  · decide
  · exact isInline_digit hdigit

theorem isOneLine_number (number : Nat) : IsOneLine (toString number) :=
  isOneLine_integer number

theorem isOneLine_quoted (text : String) : IsOneLine (quoted text) := by
  have hprintable : ∀ {c : Char}, isPrintable c = true → IsInline c :=
    fun hvisible => isInline_of_test (by decide) (by decide) (by decide) hvisible
  have hquote := isPrintable_quoteFor text.toList
  rw [IsOneLine, toList_quoted, List.forall_mem_cons, List.forall_mem_append]
  refine ⟨hprintable hquote, ?_, List.forall_mem_singleton.mpr (hprintable hquote)⟩
  intro d member
  obtain ⟨c, -, hd⟩ := List.mem_flatMap.mp member
  rcases quotedChar_cases hquote c with ⟨hplain, -, -, hvisible⟩ | ⟨hidden, code, hhidden, hvisible,
    hcode⟩
  · rw [hplain, List.mem_singleton] at hd
    rw [hd]
    exact hprintable hvisible
  · rw [hhidden] at hd
    rcases List.mem_cons.mp hd with rfl | hd
    · decide
    · rcases List.mem_cons.mp hd with rfl | hd
      · exact hprintable hvisible
      · obtain ⟨digit, hdigit, rfl⟩ := hcode d hd
        exact isInline_of_visible (digitChar_plain digit hdigit).2.2

theorem isOneLine_float (x : Number.Binary64) : IsOneLine x.text := by
  cases x with
  | infinite negative => cases negative <;> decide
  | nan label =>
      change IsOneLine "nan"
      decide
  | finite negative mantissa exponent =>
      obtain ⟨numeral, htext, hnumeral⟩ := Number.numeral_text negative mantissa exponent
      have hmark : ∀ c, c.isDigit = true ∨ c = '.' ∨ c = 'e' → IsInline c := by
        rintro c (hdigit | rfl | rfl)
        · exact isInline_digit hdigit
        · decide
        · decide
      have hinline : ∀ c ∈ numeral, IsInline c := by
        cases hnumeral with
        | plain hdigit hmore =>
            exact List.forall_mem_cons.mpr
              ⟨isInline_digit hdigit, fun c member => hmark c (hmore c member)⟩
        | powered hdigit hmore hsign hpower =>
            refine List.forall_mem_cons.mpr ⟨isInline_digit hdigit, ?_⟩
            refine List.forall_mem_append.mpr ⟨fun c member => hmark c (hmore c member), ?_⟩
            refine List.forall_mem_cons.mpr ⟨?_, fun c member => isInline_digit (hpower c member)⟩
            rcases hsign with rfl | rfl <;> decide
      rw [IsOneLine, htext]
      intro c member
      rcases Number.mem_signed member with rfl | hc
      · decide
      · exact hinline c hc

end Text

open Text (IsOneLine)

theorem Place.isOneLine {place : Place} (horigin : IsOneLine place.origin) :
    IsOneLine place.text := by
  induction place with
  | root => exact horigin
  | element name => exact horigin
  | child place index induction =>
      have hchildren := (induction horigin).append (show IsOneLine ".children[" by decide)
      exact hchildren.enclose (Text.isOneLine_integer index) (by decide)
  | parent place induction => exact (induction horigin).append (by decide)
  | slice place start dropped induction =>
      have hstop : IsOneLine (sliceEnd dropped) := by
        unfold sliceEnd
        split
        · decide
        · exact IsOneLine.append (by decide) (Text.isOneLine_integer dropped)
      have hchildren := (induction horigin).append (show IsOneLine ".children[" by decide)
      have hstart := hchildren.enclose (Text.isOneLine_integer start) (show IsOneLine ":" by decide)
      exact hstart.enclose hstop (by decide)

theorem Kind.isOneLine (kind : Kind) {value : String} (hvalue : IsOneLine value) :
    IsOneLine (kind.condition value) := by
  cases kind with
  | absent | true | false => exact hvalue.append (by decide)
  | symbol | integer | float | string | node =>
      exact IsOneLine.enclose (by decide) hvalue (by decide)

theorem Count.isOneLine (count : Count) {number : String} (hnumber : IsOneLine number) :
    IsOneLine (count.condition number) := by
  cases count with
  | exactly count | atLeast count =>
      exact hnumber.enclose (by decide) (Text.isOneLine_number count)
  | between least most =>
      have hleast := (Text.isOneLine_number least).append (show IsOneLine " <= " by decide)
      exact (hleast.append hnumber).enclose (by decide) (Text.isOneLine_number most)

theorem Tally.isOneLine_elementName (tally : Tally) : IsOneLine tally.elementName :=
  IsOneLine.append (by decide) (Text.isOneLine_number _)

namespace Test

theorem textAll_eq_map (tests : List Test) : textAll tests = tests.map text := by
  induction tests with
  | nil => rfl
  | cons test rest induction => rw [textAll, induction, List.map_cons]

/-- A test whose names and constants are written within one line is written within one line. -/
theorem Scoped.isOneLine {scope : List String} {test : Test}
    (within : test.Scoped (fun value => IsOneLine value.exact) scope)
    (hscope : ∀ name ∈ scope, IsOneLine name) : IsOneLine test.text := by
  have hcomma : IsOneLine ", " := by decide
  have hsame : IsOneLine "_eq(" := by decide
  induction within with
  | always | never => decide
  | allOf each induction | anyOf each induction =>
      have htexts := fun test member => induction test member hscope
      refine IsOneLine.enclose (by decide) (Text.isOneLine_intercalate (by decide) ?_) (by decide)
      rw [textAll_eq_map]
      exact List.forall_mem_map.mpr htexts
  | not within induction =>
      exact IsOneLine.enclose (by decide) (induction hscope) (by decide)
  | isNode hplace =>
      exact IsOneLine.enclose (by decide) (Place.isOneLine (hscope _ hplace)) (by decide)
  | hasType hplace htype =>
      exact (Place.isOneLine (hscope _ hplace)).enclose (by decide) htype
  | hasCount count hplace =>
      have hvalue := Place.isOneLine (hscope _ hplace)
      exact count.isOneLine (IsOneLine.enclose (by decide) hvalue (by decide))
  | equals hplace hexpected =>
      have hvalue := Place.isOneLine (hscope _ hplace)
      exact (IsOneLine.enclose hsame hvalue hcomma).enclose hexpected (by decide)
  | equalsSymbol hplace hname =>
      have hvalue := Place.isOneLine (hscope _ hplace)
      have hsymbol : IsOneLine ", Sym(" := by decide
      exact (IsOneLine.enclose hsame hvalue hsymbol).enclose hname (by decide)
  | isKind kind hplace =>
      have hvalue := Place.isOneLine (hscope _ hplace)
      exact IsOneLine.enclose (by decide) (kind.isOneLine hvalue) (by decide)
  | accepts hplace hparameter =>
      have hmatches : IsOneLine "_param_match(" := by decide
      have hvalue := hmatches.enclose (Place.isOneLine (hscope _ hplace)) hcomma
      exact hvalue.enclose (hscope _ hparameter) (by decide)
  | @capture scope place slot hplace =>
      have hplaceLine := Place.isOneLine (hscope _ hplace)
      have hrecorded : IsOneLine (recorded place) := by
        unfold recorded
        split
        · exact IsOneLine.enclose (by decide) hplaceLine (by decide)
        · exact hplaceLine
      have hstores : IsOneLine "_capture(captures, " := by decide
      have hslot := hstores.enclose (Text.isOneLine_number slot) hcomma
      exact hslot.enclose hrecorded (by decide)
  | enter id hplace htrace =>
      have henters : IsOneLine "trace.enter(" := by decide
      have hid := henters.enclose (Text.isOneLine_number id) hcomma
      exact hid.enclose (Place.isOneLine (hscope _ hplace)) (by decide)
  | succeed id hplace htrace =>
      have hsucceeds : IsOneLine "trace.success(" := by decide
      have hid := hsucceeds.enclose (Text.isOneLine_number id) hcomma
      exact hid.enclose (Place.isOneLine (hscope _ hplace)) (by decide)
  | every tally hitems within induction =>
      have hname := tally.isOneLine_elementName
      have hbody := induction (List.forall_mem_cons.mpr ⟨hname, hscope⟩)
      have hall : IsOneLine "all(" := by decide
      have hfor : IsOneLine " for " := by decide
      have hin : IsOneLine " in " := by decide
      have helement := (hall.enclose hbody hfor).enclose hname hin
      exact helement.enclose (Place.isOneLine (hscope _ hitems)) (by decide)

end Test

end TreeMatch
