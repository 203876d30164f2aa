import TreeMatch.Proofs.Inline
import TreeMatch.Proofs.Naming

/-! The identifiers in the text of a test: found by reading it a character at a time, they are the
names that the test mentions, each within the scope of its mention. -/

namespace TreeMatch

namespace Script

inductive Mode
  | idle
  /-- A number, or the name of an attribute behind its point. -/
  | skipped
  /-- A word, by its characters so far, the last one first. -/
  | word (chars : List Char)
  | quoted (quote : Char)
  /-- A quoted text, right behind a backslash. -/
  | escaped (quote : Char)
  deriving DecidableEq, Repr

namespace Mode

def start (c : Char) : Mode :=
  if Text.isIdentifierStart c then .word [c]
  else if c = '.' ∨ c.isDigit then .skipped
  else if c = '"' ∨ c = '\'' then .quoted c
  else .idle

def ended : Mode → List String
  | word chars =>
    if isKeyword (String.ofList chars.reverse) then [] else [String.ofList chars.reverse]
  | _ => []

def isQuoted : Mode → Bool
  | quoted _ => true
  | escaped _ => true
  | _ => false

def step : Mode → Char → Mode × List String
  | idle, c => (start c, [])
  | skipped, c => if Text.isIdentifierContinue c then (skipped, []) else (start c, [])
  | word chars, c =>
    if Text.isIdentifierContinue c then (word (c :: chars), []) else (start c, (word chars).ended)
  | quoted quote, c =>
    if c = '\\' then (escaped quote, []) else if c = quote then (idle, []) else (quoted quote, [])
  | escaped quote, _ => (quoted quote, [])

/-- Reads on to the end of a text, and finds the identifiers that end before it. -/
def run (mode : Mode) : List Char → Mode × List String
  | [] => (mode, [])
  | c :: rest =>
    let (next, found) := mode.step c
    let (last, more) := run next rest
    (last, found ++ more)

theorem run_append (mode : Mode) (front back : List Char) :
    mode.run (front ++ back) =
      (((mode.run front).1.run back).1, (mode.run front).2 ++ ((mode.run front).1.run back).2) := by
  induction front generalizing mode with
  | nil => rfl
  | cons c rest induction =>
      simp only [List.cons_append, run, induction, List.append_assoc]

/-- Outside quotes, what cannot continue an identifier ends one and starts something. -/
theorem step_break {mode : Mode} (hquoted : mode.isQuoted = false) {c : Char}
    (hbreak : Text.isIdentifierContinue c = false) : mode.step c = (start c, mode.ended) := by
  cases mode with
  | idle => rfl
  | skipped => rw [step, hbreak, if_neg Bool.false_ne_true]; rfl
  | word chars => rw [step, hbreak, if_neg Bool.false_ne_true]
  | quoted quote => cases hquoted
  | escaped quote => cases hquoted

end Mode

/-- The identifiers of an expression, apart from keywords and the names of attributes. -/
def identifiers (text : String) : List String :=
  (Mode.idle.run text.toList).2 ++ (Mode.idle.run text.toList).1.ended

structure Reads (text : String) (names : List String) : Prop where
  unquoted : (Mode.idle.run text.toList).1.isQuoted = false
  reads : identifiers text = names

def Closes (text : String) (names : List String) : Prop :=
  Mode.idle.run text.toList = (.idle, names)

def Breaks (text : String) : Prop :=
  (text.toList.head?.any fun c => !Text.isIdentifierContinue c) = true

instance (text : String) (names : List String) : Decidable (Closes text names) :=
  inferInstanceAs (Decidable (Mode.idle.run text.toList = (.idle, names)))

instance (text : String) : Decidable (Breaks text) :=
  inferInstanceAs (Decidable ((text.toList.head?.any _) = true))

theorem Breaks.exists_cons {text : String} (hbreak : Breaks text) :
    ∃ c rest, text.toList = c :: rest ∧ Text.isIdentifierContinue c = false := by
  unfold Breaks at hbreak
  cases hchars : text.toList with
  | nil =>
      rw [hchars] at hbreak
      cases hbreak
  | cons c rest =>
      rw [hchars, List.head?_cons, Option.any_some, Bool.not_eq_true'] at hbreak
      exact ⟨c, rest, rfl, hbreak⟩

section Reading

variable {front back text : String} {names more : List String}

theorem Closes.reads (closes : Closes text names) : Reads text names := by
  refine ⟨?_, ?_⟩
  · rw [closes]
    rfl
  · rw [identifiers, closes]
    exact List.append_nil names

theorem Closes.append (closes : Closes front names) (hback : Reads back more) :
    Reads (front ++ back) (names ++ more) := by
  have hrun := Mode.run_append .idle front.toList back.toList
  rw [closes, ← String.toList_append] at hrun
  refine ⟨?_, ?_⟩
  · rw [hrun]
    exact hback.unquoted
  · rw [identifiers, hrun, List.append_assoc]
    exact congrArg (names ++ ·) hback.reads

theorem Reads.run_append (hfront : Reads front names) (hbreak : Breaks back) :
    Mode.idle.run (front ++ back).toList =
      ((Mode.idle.run back.toList).1, names ++ (Mode.idle.run back.toList).2) := by
  obtain ⟨c, rest, hchars, hc⟩ := hbreak.exists_cons
  have hidle : Mode.idle.run back.toList = (Mode.start c).run rest := by
    rw [hchars]
    rfl
  have hnext : (Mode.idle.run front.toList).1.run back.toList =
      (((Mode.start c).run rest).1,
        (Mode.idle.run front.toList).1.ended ++ ((Mode.start c).run rest).2) := by
    rw [hchars, Mode.run, Mode.step_break hfront.unquoted hc]
  rw [String.toList_append, Mode.run_append, hnext, hidle, ← List.append_assoc, ← hfront.reads]
  rfl

theorem Reads.append (hfront : Reads front names) (hback : Reads back more)
    (hbreak : Breaks back) : Reads (front ++ back) (names ++ more) := by
  have hrun := hfront.run_append hbreak
  refine ⟨?_, ?_⟩
  · rw [hrun]
    exact hback.unquoted
  · rw [identifiers, hrun, List.append_assoc]
    exact congrArg (names ++ ·) hback.reads

theorem Reads.close (hfront : Reads front names) (closes : Closes back more)
    (hbreak : Breaks back) : Closes (front ++ back) (names ++ more) := by
  rw [Closes, hfront.run_append hbreak, closes]

theorem Closes.enclose {others : List String} (hfront : Closes front names)
    (hinner : Reads text more) (hback : Closes back others) (hbreak : Breaks back) :
    Closes (front ++ text ++ back) (names ++ more ++ others) :=
  (hfront.append hinner).close hback hbreak

end Reading

section Words

theorem Mode.run_cons (mode : Mode) (c : Char) (rest : List Char) :
    mode.run (c :: rest) =
      (((mode.step c).1.run rest).1, (mode.step c).2 ++ ((mode.step c).1.run rest).2) :=
  rfl

theorem run_word (chars word : List Char)
    (hword : ∀ c ∈ word, Text.isIdentifierContinue c = true) :
    (Mode.word chars).run word = (.word (word.reverse ++ chars), []) := by
  induction word generalizing chars with
  | nil => rfl
  | cons c rest induction =>
      obtain ⟨hfirst, hrest⟩ := List.forall_mem_cons.mp hword
      have hstep : (Mode.word chars).step c = (.word (c :: chars), []) := if_pos hfirst
      rw [Mode.run_cons, hstep, induction _ hrest, List.reverse_cons, List.append_assoc]
      rfl

theorem reads_identifier {name : String} (hname : Text.isIdentifier name = true)
    (hkeyword : isKeyword name = false) : Reads name [name] := by
  unfold Text.isIdentifier at hname
  cases hchars : name.toList with
  | nil =>
      rw [hchars] at hname
      cases hname
  | cons first rest =>
      rw [hchars, Bool.and_eq_true, List.all_eq_true] at hname
      have hrun : Mode.idle.run name.toList = (.word name.toList.reverse, []) := by
        have hstep : Mode.idle.step first = (.word [first], []) :=
          congrArg (·, []) (if_pos hname.1)
        rw [hchars, Mode.run_cons, hstep, run_word _ _ hname.2, List.reverse_cons]
        rfl
      refine ⟨?_, ?_⟩
      · rw [hrun]
        rfl
      · rw [identifiers, hrun, Mode.ended, List.reverse_reverse, String.ofList_toList, hkeyword]
        rfl

end Words

section Literals

theorem digit_bounds {c : Char} (hdigit : c.isDigit = true) : 48 ≤ c.toNat ∧ c.toNat ≤ 57 := by
  simpa [Char.isDigit, UInt32.le_iff_toNat_le] using hdigit

theorem isIdentifierContinue_digit {c : Char} (hdigit : c.isDigit = true) :
    Text.isIdentifierContinue c = true := by
  have hbounds := digit_bounds hdigit
  have hascii : Text.isAsciiDigit c = true := hdigit
  rw [Text.isIdentifierContinue, if_pos (by omega), Text.isWord, if_pos (by omega), hascii,
    Bool.or_true, Bool.true_or]

theorem isIdentifierStart_digit {c : Char} (hdigit : c.isDigit = true) :
    Text.isIdentifierStart c = false := by
  have hbounds := digit_bounds hdigit
  rw [Text.isIdentifierStart, if_pos (by omega), Bool.or_eq_false_iff]
  refine ⟨?_, ?_⟩
  · have hlower : ¬ 'a' ≤ c := by
      rw [Char.le_def, UInt32.le_iff_toNat_le]
      change ¬ 97 ≤ c.toNat
      omega
    have hupper : ¬ 'A' ≤ c := by
      rw [Char.le_def, UInt32.le_iff_toNat_le]
      change ¬ 65 ≤ c.toNat
      omega
    rw [Text.isAsciiLetter, Text.isAsciiLower, decide_eq_false hlower, decide_eq_false hupper]
    rfl
  · rw [beq_eq_false_iff_ne]
    rintro rfl
    exact absurd hbounds.2 (by decide)

theorem step_digit {c : Char} (hdigit : c.isDigit = true) :
    Mode.idle.step c = (.skipped, []) := by
  have hstart : Text.isIdentifierStart c = false := isIdentifierStart_digit hdigit
  rw [Mode.step, Mode.start, hstart, if_neg Bool.false_ne_true, if_pos (.inr hdigit)]

theorem run_skipped {chars : List Char}
    (hchars : ∀ c ∈ chars, c.isDigit = true ∨ c = '.' ∨ c = 'e') :
    Mode.skipped.run chars = (.skipped, []) := by
  induction chars with
  | nil => rfl
  | cons c rest induction =>
      obtain ⟨hfirst, hrest⟩ := List.forall_mem_cons.mp hchars
      have hstep : Mode.skipped.step c = (.skipped, []) := by
        rcases hfirst with hdigit | rfl | rfl
        · exact if_pos (isIdentifierContinue_digit hdigit)
        · decide
        · decide
      rw [Mode.run_cons, hstep, induction hrest]
      rfl

theorem run_digits {digit : Char} {more : List Char} (hdigit : digit.isDigit = true)
    (hmore : ∀ c ∈ more, c.isDigit = true ∨ c = '.' ∨ c = 'e') :
    Mode.idle.run (digit :: more) = (.skipped, []) := by
  rw [Mode.run_cons, step_digit hdigit, run_skipped hmore]
  rfl

theorem run_numeral {numeral : List Char} (hnumeral : Number.Numeral numeral) :
    ∃ mode, mode.isQuoted = false ∧ Mode.ended mode = [] ∧
      Mode.idle.run numeral = (mode, []) := by
  cases hnumeral with
  | plain hdigit hmore => exact ⟨.skipped, rfl, rfl, run_digits hdigit hmore⟩
  | @powered digit sign more power hdigit hmore hsign hpower =>
      have hstep : Mode.skipped.step sign = (.idle, []) := by
        rcases hsign with rfl | rfl <;> decide
      have hfront := run_digits hdigit hmore
      rw [← List.cons_append, Mode.run_append, hfront, Mode.run_cons, hstep]
      cases power with
      | nil => exact ⟨.idle, rfl, rfl, rfl⟩
      | cons first rest =>
          obtain ⟨hfirst, hrest⟩ := List.forall_mem_cons.mp hpower
          rw [run_digits hfirst fun c member => .inl (hrest c member)]
          exact ⟨.skipped, rfl, rfl, rfl⟩

theorem reads_signed {text : String} {negative : Bool} {numeral : List Char}
    (htext : text.toList = Number.signed negative numeral) (hnumeral : Number.Numeral numeral) :
    Reads text [] := by
  obtain ⟨mode, hquoted, hended, hrun⟩ := run_numeral hnumeral
  have hsigned : Mode.idle.run text.toList = (mode, []) := by
    rw [htext, Number.signed]
    split
    · have hminus : Mode.idle.step '-' = (.idle, []) := by decide
      rw [Mode.run_cons, hminus, hrun]
      rfl
    · exact hrun
  refine ⟨?_, ?_⟩
  · rw [hsigned]
    exact hquoted
  · rw [identifiers, hsigned, hended]
    rfl

theorem numeral_toDigits (number : Nat) : Number.Numeral (Nat.toDigits 10 number) := by
  have hdigits : ∀ c ∈ Nat.toDigits 10 number, c.isDigit = true :=
    fun c member => Number.isDigit_toDigits member
  have hsome : Nat.toDigits 10 number ≠ [] := Nat.toDigits_ne_nil
  obtain ⟨first, rest, hcons⟩ := List.exists_cons_of_ne_nil hsome
  rw [hcons] at hdigits ⊢
  obtain ⟨hfirst, hrest⟩ := List.forall_mem_cons.mp hdigits
  exact .plain hfirst fun c member => .inl (hrest c member)

theorem reads_integer (i : Int) : Reads (toString i) [] :=
  reads_signed (Number.toList_toString i) (numeral_toDigits i.natAbs)

theorem reads_float {x : Number.Binary64} (hfinite : x.isFinite = true) : Reads x.text [] := by
  cases x with
  | infinite negative => cases hfinite
  | nan label => cases hfinite
  | finite negative mantissa exponent =>
      obtain ⟨numeral, htext, hnumeral⟩ := Number.numeral_text negative mantissa exponent
      exact reads_signed htext hnumeral

theorem run_quoted {quote : Char} {chars : List Char}
    (hchars : ∀ c ∈ chars, c ≠ '\\' ∧ c ≠ quote) :
    (Mode.quoted quote).run chars = (.quoted quote, []) := by
  induction chars with
  | nil => rfl
  | cons c rest induction =>
      obtain ⟨⟨hbackslash, hquote⟩, hrest⟩ := List.forall_mem_cons.mp hchars
      have hstep : (Mode.quoted quote).step c = (.quoted quote, []) := by
        rw [Mode.step, if_neg hbackslash, if_neg hquote]
      rw [Mode.run_cons, hstep, induction hrest]
      rfl

theorem digitChar_unquoted : ∀ digit < 16, Nat.digitChar digit ≠ '\\' ∧
    Nat.digitChar digit ≠ '"' ∧ Nat.digitChar digit ≠ '\'' := by
  decide

theorem run_quotedChar {quote : Char} (hquote : quote = '"' ∨ quote = '\'') (c : Char) :
    (Mode.quoted quote).run (Text.quotedChar quote c) = (.quoted quote, []) := by
  have hprintable : Text.isPrintable quote = true := by
    rcases hquote with rfl | rfl <;> decide
  rcases Text.quotedChar_cases hprintable c with ⟨hplain, hother, hbackslash, -⟩ |
    ⟨hidden, code, hhidden, -, hcode⟩
  · rw [hplain]
    exact run_quoted (List.forall_mem_singleton.mpr ⟨hbackslash, hother⟩)
  · have hescape : (Mode.quoted quote).step '\\' = (.escaped quote, []) := by
      rw [Mode.step, if_pos rfl]
    have hreturn : (Mode.escaped quote).step hidden = (.quoted quote, []) := rfl
    have hrest : (Mode.quoted quote).run code = (.quoted quote, []) := by
      apply run_quoted
      intro d member
      obtain ⟨digit, hdigit, rfl⟩ := hcode d member
      obtain ⟨hbackslash, hdouble, hsingle⟩ := digitChar_unquoted digit hdigit
      refine ⟨hbackslash, ?_⟩
      rcases hquote with rfl | rfl
      · exact hdouble
      · exact hsingle
    rw [hhidden, Mode.run_cons, hescape, Mode.run_cons, hreturn, hrest]
    rfl

theorem closes_quoted (text : String) : Closes (Text.quoted text) [] := by
  have hquote := Text.quoteFor_cases text.toList
  rw [Closes, Text.toList_quoted]
  generalize Text.quoteFor text.toList = quote at hquote
  have hopen : Mode.idle.step quote = (.quoted quote, []) := by
    rcases hquote with rfl | rfl <;> decide
  have hclose : (Mode.quoted quote).run [quote] = (.idle, []) := by
    rcases hquote with rfl | rfl <;> decide
  have hbody : (Mode.quoted quote).run (text.toList.flatMap (Text.quotedChar quote)) =
      (.quoted quote, []) := by
    induction text.toList with
    | nil => rfl
    | cons c rest induction =>
        rw [List.flatMap_cons, Mode.run_append, run_quotedChar hquote, induction]
        rfl
  rw [Mode.run_cons, hopen, Mode.run_append, hbody, hclose]
  rfl

end Literals

theorem reads_intercalate {α : Type} {separator : String} (closes : Closes separator [])
    (hbreak : Breaks separator) {text : α → String} {names : α → List String} {parts : List α}
    (each : ∀ part ∈ parts, Reads (text part) (names part)) :
    Reads (separator.intercalate (parts.map text)) (parts.flatMap names) := by
  induction parts with
  | nil => exact Closes.reads rfl
  | cons part rest induction =>
      obtain ⟨hfirst, hrest⟩ := List.forall_mem_cons.mp each
      cases rest with
      | nil =>
          rw [List.map_singleton, String.intercalate_singleton, List.flatMap_singleton]
          exact hfirst
      | cons next rest =>
          have hlater := induction hrest
          rw [List.map_cons] at hlater
          rw [List.map_cons, List.map_cons, String.intercalate_cons_cons, List.flatMap_cons]
          have hfront := (hfirst.close closes hbreak).append hlater
          rwa [List.append_nil] at hfront

structure IsName (name : String) : Prop where
  identifier : Text.isIdentifier name = true
  keyword : isKeyword name = false

theorem IsName.reads {name : String} (isName : IsName name) : Reads name [name] :=
  reads_identifier isName.identifier isName.keyword

def givenNames : List String :=
  keywords ++ reservedNames ++ helperNames ++ builtinNames

def IsUnnumbered (name : String) : Prop :=
  name.toList.getLast?.any Char.isDigit = false

theorem isUnnumbered_ofList {chars : List Char} (hend : chars.getLast?.any Char.isDigit = false) :
    IsUnnumbered (String.ofList chars) := by
  rwa [IsUnnumbered, String.toList_ofList]

theorem isUnnumbered_given : ∀ name ∈ givenNames, IsUnnumbered name := by
  unfold givenNames keywords reservedNames helperNames builtinNames
  simp only [List.forall_mem_append]
  and_intros
  all_goals
    repeat refine List.forall_mem_cons.mpr ⟨isUnnumbered_ofList rfl, ?_⟩
    exact List.forall_mem_nil _

theorem numbered_end (stem : String) (number : Nat) :
    (stem ++ toString number).toList.getLast?.any Char.isDigit = true := by
  have hdigits : (toString number).toList = Nat.toDigits 10 number := Nat.toList_repr
  have hsome : Nat.toDigits 10 number ≠ [] := Nat.toDigits_ne_nil
  rw [String.toList_append, hdigits, List.getLast?_append_of_ne_nil _ hsome,
    List.getLast?_eq_some_getLast hsome, Option.any_some]
  exact Number.isDigit_toDigits (List.getLast_mem hsome)

theorem numbered_notGiven (stem : String) (number : Nat) :
    stem ++ toString number ∉ givenNames := by
  intro member
  have hend := numbered_end stem number
  rw [isUnnumbered_given _ member] at hend
  cases hend

theorem isName_numbered {stem : String} (hstem : Text.isIdentifier stem = true) (number : Nat) :
    IsName (stem ++ toString number) := by
  refine ⟨?_, ?_⟩
  · unfold Text.isIdentifier at hstem ⊢
    rw [String.toList_append]
    cases hchars : stem.toList with
    | nil =>
        rw [hchars] at hstem
        cases hstem
    | cons first rest =>
        rw [hchars, Bool.and_eq_true, List.all_eq_true] at hstem
        have hdigits : (toString number).toList = Nat.toDigits 10 number := Nat.toList_repr
        rw [List.cons_append, Bool.and_eq_true, List.all_eq_true, hdigits]
        refine ⟨hstem.1, List.forall_mem_append.mpr ⟨hstem.2, fun c member => ?_⟩⟩
        exact isIdentifierContinue_digit (Number.isDigit_toDigits member)
  · rw [isKeyword, List.contains_eq_mem, decide_eq_false_iff_not]
    intro member
    apply numbered_notGiven stem number
    simp only [givenNames, List.mem_append]
    exact .inl (.inl (.inl member))

end Script

open Script (Reads Closes Breaks)

theorem Place.reads {place : Place} (horigin : Script.IsName place.origin) :
    Reads place.text [place.origin] := by
  have hclose : Closes "]" [] := by decide +kernel
  induction place with
  | root => exact horigin.reads
  | element name => exact horigin.reads
  | child place index induction =>
      have hchildren : Closes (place.text ++ ".children[") [place.origin] :=
        (induction horigin).close (by decide +kernel) (by decide +kernel)
      exact (hchildren.append (Script.reads_integer index)).append hclose.reads (by decide +kernel)
  | parent place induction =>
      have hparent : Reads ".parent" [] := ⟨by decide +kernel, by decide +kernel⟩
      exact (induction horigin).append hparent (by decide +kernel)
  | slice place start dropped induction =>
      have hchildren : Closes (place.text ++ ".children[") [place.origin] :=
        (induction horigin).close (by decide +kernel) (by decide +kernel)
      have hstart := hchildren.append (Script.reads_integer start)
      have hcolon : Closes (place.text ++ ".children[" ++ toString start ++ ":") [place.origin] :=
        hstart.close (by decide +kernel) (by decide +kernel)
      have hstop : Reads (sliceEnd dropped) [] := by
        unfold sliceEnd
        split
        · exact Closes.reads rfl
        · have hminus : Closes "-" [] := by decide +kernel
          exact hminus.append (Script.reads_integer dropped)
      exact (hcolon.append hstop).append hclose.reads (by decide +kernel)

/-- The names that a condition mentions, among them the one that its value starts with. -/
def Kind.names (origin : String) : Kind → List String
  | .absent => [origin]
  | .true => [origin]
  | .false => [origin]
  | .symbol => ["isinstance", origin, "Sym"]
  | .integer => ["type", origin, "int"]
  | .float => ["type", origin, "float"]
  | .string => ["isinstance", origin, "str"]
  | .node => ["_is_node", origin]

theorem Kind.reads (kind : Kind) {place : Place} (horigin : Script.IsName place.origin) :
    Reads (kind.condition place.text) (kind.names place.origin) := by
  have hplace := Place.reads horigin
  have hinstance : Closes "isinstance(" ["isinstance"] := by decide +kernel
  have htype : Closes "type(" ["type"] := by decide +kernel
  cases kind with
  | absent | true | false =>
      exact hplace.append ⟨by decide +kernel, by decide +kernel⟩ (by decide +kernel)
  | symbol =>
      have hback : Closes ", Sym)" ["Sym"] := by decide +kernel
      exact (hinstance.enclose hplace hback (by decide +kernel)).reads
  | integer =>
      have hback : Reads ") is int" ["int"] := ⟨by decide +kernel, by decide +kernel⟩
      exact (htype.append hplace).append hback (by decide +kernel)
  | float =>
      have hback : Reads ") is float" ["float"] := ⟨by decide +kernel, by decide +kernel⟩
      exact (htype.append hplace).append hback (by decide +kernel)
  | string =>
      have hback : Closes ", str)" ["str"] := by decide +kernel
      exact (hinstance.enclose hplace hback (by decide +kernel)).reads
  | node =>
      have hfront : Closes "_is_node(" ["_is_node"] := by decide +kernel
      have hback : Closes ")" [] := by decide +kernel
      exact (hfront.enclose hplace hback (by decide +kernel)).reads

theorem Count.reads (count : Count) {number : String} {names : List String}
    (hnumber : Reads number names) : Reads (count.condition number) names := by
  have hmost : Closes " <= " [] := by decide +kernel
  have hbehind : ∀ {back : String}, Closes back [] → Breaks back → ∀ bound : Nat,
      Reads (number ++ back ++ toString bound) names := by
    intro back hback hbreak bound
    have hall := (hnumber.close hback hbreak).append (Script.reads_integer bound)
    rwa [List.append_nil, List.append_nil] at hall
  cases count with
  | exactly count => exact hbehind (by decide +kernel) (by decide +kernel) count
  | atLeast count => exact hbehind (by decide +kernel) (by decide +kernel) count
  | between least most =>
      have hleast : Closes (toString least ++ " <= ") [] :=
        (Script.reads_integer least).close hmost (by decide +kernel)
      have hall := ((hleast.append hnumber).close hmost (by decide +kernel)).append
        (Script.reads_integer most)
      rwa [List.nil_append, List.append_nil, List.append_nil] at hall

namespace Test

/-- The names that a test mentions itself, apart from those that its parts do. -/
def names : Test → List String
  | isNode place => ["_is_node", place.origin]
  | hasType place _ => [place.origin]
  | hasCount place _ => ["len", place.origin]
  | equals place _ => ["_eq", place.origin]
  | equalsSymbol place _ => ["_eq", place.origin, "Sym"]
  | isKind place kind => kind.names place.origin
  | accepts place parameter => ["_param_match", place.origin, parameter]
  | capture _ place =>
    "_capture" :: "captures" :: if place.isSlice then ["list", place.origin] else [place.origin]
  | enter _ place => [Matcher.traceName, place.origin]
  | succeed _ place => [Matcher.traceName, place.origin]
  | _ => []

mutual

/-- The names that a test mentions, each with those that are bound where it does. A repetition binds
the name of its elements, but not for the place that they come from. -/
def mentions (scope : List String) : Test → List (List String × String)
  | allOf tests => mentionsAll scope tests
  | anyOf tests => mentionsAll scope tests
  | not test => mentions scope test
  | every name items body =>
    (scope, "all") :: mentions (name :: scope) body ++
      [(name :: scope, name), (scope, items.origin)]
  | test => test.names.map (scope, ·)
termination_by structural test => test

def mentionsAll (scope : List String) : List Test → List (List String × String)
  | [] => []
  | test :: rest => mentions scope test ++ mentionsAll scope rest
termination_by structural tests => tests

end

theorem mentionsAll_eq_flatMap (scope : List String) (tests : List Test) :
    mentionsAll scope tests = tests.flatMap (mentions scope) := by
  induction tests with
  | nil => rfl
  | cons test rest induction => rw [mentionsAll, induction, List.flatMap_cons]

theorem text_allOf (tests : List Test) :
    (allOf tests).text = "(" ++ " and ".intercalate (tests.map text) ++ ")" := by
  rw [← textAll_eq_map]
  rfl

theorem text_anyOf (tests : List Test) :
    (anyOf tests).text = "(" ++ " or ".intercalate (tests.map text) ++ ")" := by
  rw [← textAll_eq_map]
  rfl

theorem map_mentioned (scope names : List String) :
    (names.map (scope, ·)).map Prod.snd = names := by
  rw [List.map_map]
  exact List.map_id names

theorem reads_recorded {place : Place} (horigin : Script.IsName place.origin) :
    Reads (recorded place)
      (if place.isSlice then ["list", place.origin] else [place.origin]) := by
  have hlist : Closes "list(" ["list"] := by decide +kernel
  have hclose : Closes ")" [] := by decide +kernel
  have hbreak : Breaks ")" := by decide +kernel
  rw [recorded]
  split
  · exact (hlist.enclose (Place.reads horigin) hclose hbreak).reads
  · exact Place.reads horigin

/-- The identifiers in the text of a test are the names that it mentions. -/
theorem Scoped.reads {scope : List String} {test : Test}
    (within : test.Scoped (fun value => Reads value.exact []) scope)
    (hscope : ∀ name ∈ scope, Script.IsName name) :
    Reads test.text ((test.mentions scope).map Prod.snd) := by
  have hopen : Closes "(" [] := by decide +kernel
  have hclose : Closes ")" [] := by decide +kernel
  have hbehind : Breaks ")" := by decide +kernel
  have hcomma : Closes ", " [] := by decide +kernel
  have hbetween : Breaks ", " := by decide +kernel
  have hsame : Closes "_eq(" ["_eq"] := by decide +kernel
  induction within with
  | always | never =>
      rw [mentions, map_mentioned]
      · exact ⟨by decide +kernel, by decide +kernel⟩
      all_goals nofun
  | @allOf scope tests each induction =>
      have hand : Closes " and " [] := by decide +kernel
      have htexts := Script.reads_intercalate hand (by decide +kernel)
        fun test member => induction test member hscope
      have hall := (hopen.enclose htexts hclose hbehind).reads
      rw [text_allOf, mentions, mentionsAll_eq_flatMap, List.map_flatMap]
      rwa [List.nil_append, List.append_nil] at hall
  | @anyOf scope tests each induction =>
      have hor : Closes " or " [] := by decide +kernel
      have htexts := Script.reads_intercalate hor (by decide +kernel)
        fun test member => induction test member hscope
      have hall := (hopen.enclose htexts hclose hbehind).reads
      rw [text_anyOf, mentions, mentionsAll_eq_flatMap, List.map_flatMap]
      rwa [List.nil_append, List.append_nil] at hall
  | not within induction =>
      have hnot : Closes "(not " [] := by decide +kernel
      have hall := (hnot.enclose (induction hscope) hclose hbehind).reads
      rwa [List.nil_append, List.append_nil] at hall
  | isNode hplace =>
      have hfront : Closes "_is_node(" ["_is_node"] := by decide +kernel
      exact (hfront.enclose (Place.reads (hscope _ hplace)) hclose hbehind).reads
  | hasType hplace htype =>
      have hequal : Closes ".type == " [] := by decide +kernel
      have hfront := (Place.reads (hscope _ hplace)).close hequal (by decide +kernel)
      exact hfront.append htype
  | hasCount count hplace =>
      have hfront : Closes "len(" ["len"] := by decide +kernel
      have hback : Closes ".children)" [] := by decide +kernel
      have hnumber := hfront.enclose (Place.reads (hscope _ hplace)) hback (by decide +kernel)
      exact count.reads hnumber.reads
  | equals hplace hexpected =>
      have hfront := hsame.enclose (Place.reads (hscope _ hplace)) hcomma hbetween
      exact (hfront.enclose hexpected hclose hbehind).reads
  | equalsSymbol hplace hname =>
      have hsymbol : Closes ", Sym(" ["Sym"] := by decide +kernel
      have hback : Closes "))" [] := by decide +kernel
      have hfront := hsame.enclose (Place.reads (hscope _ hplace)) hsymbol (by decide +kernel)
      exact (hfront.enclose hname hback (by decide +kernel)).reads
  | isKind kind hplace =>
      have hall := (hopen.enclose (kind.reads (hscope _ hplace)) hclose hbehind).reads
      rw [mentions, map_mentioned]
      · rwa [List.nil_append, List.append_nil] at hall
      all_goals nofun
  | accepts hplace hparameter =>
      have hfront : Closes "_param_match(" ["_param_match"] := by decide +kernel
      have hvalue := hfront.enclose (Place.reads (hscope _ hplace)) hcomma hbetween
      exact (hvalue.enclose (hscope _ hparameter).reads hclose hbehind).reads
  | capture slot hplace =>
      have hfront : Closes "_capture(captures, " ["_capture", "captures"] := by decide +kernel
      have hslot := hfront.enclose (Script.reads_integer slot) hcomma hbetween
      have hall := (hslot.enclose (reads_recorded (hscope _ hplace)) hclose hbehind).reads
      rw [mentions, map_mentioned]
      · rwa [List.append_nil, List.append_nil, List.append_nil] at hall
      all_goals nofun
  | enter id hplace htrace =>
      have hfront : Closes "trace.enter(" ["trace"] := by decide +kernel
      have hid := hfront.enclose (Script.reads_integer id) hcomma hbetween
      exact (hid.enclose (Place.reads (hscope _ hplace)) hclose hbehind).reads
  | succeed id hplace htrace =>
      have hfront : Closes "trace.success(" ["trace"] := by decide +kernel
      have hid := hfront.enclose (Script.reads_integer id) hcomma hbetween
      exact (hid.enclose (Place.reads (hscope _ hplace)) hclose hbehind).reads
  | @every scope items body tally hitems within induction =>
      have hname : Script.IsName tally.elementName :=
        Script.isName_numbered (by decide +kernel) (tally.loop + 1)
      have hfront : Closes "all(" ["all"] := by decide +kernel
      have hfor : Closes " for " [] := by decide +kernel
      have hin : Closes " in " [] := by decide +kernel
      -- The body alone is read in the scope that has the name of the element besides.
      have hbody := induction (List.forall_mem_cons.mpr ⟨hname, hscope⟩)
      have helement := hfront.enclose hbody hfor (by decide +kernel)
      have hitem := helement.enclose hname.reads hin (by decide +kernel)
      have hall := (hitem.enclose (Place.reads (hscope _ hitems)) hclose hbehind).reads
      rw [mentions, List.map_append, List.map_cons]
      rw [List.append_nil, List.append_nil, List.append_nil, List.append_assoc] at hall
      exact hall

end Test

end TreeMatch
