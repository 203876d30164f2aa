import TreeMatch.Proofs.Expressions

/-! Printing a document that was read, and reading it again. The printed tree is read back as it
was, unless it holds numbers; and a number that is written with an exponent or as a word cannot be
read. -/

namespace TreeMatch

variable {chart : Text.CodeChart}

open Grammar

namespace Number

open Lexeme

inductive NumeralForm : List Char → Prop
  | positional {whole part : List Char} (hsome : whole ≠ [])
      (hwhole : IsDigits whole) (hpart : IsDigits part) :
      NumeralForm (whole ++ '.' :: part)
  | scientific {whole : List Char} (hwhole : IsDigits whole)
      (power : List Char) : NumeralForm (whole ++ 'e' :: power)
  | pointed {whole part : List Char} (hsome : whole ≠ [])
      (hwhole : IsDigits whole) (hmore : part ≠ [])
      (hpart : IsDigits part) (power : List Char) :
      NumeralForm (whole ++ '.' :: (part ++ 'e' :: power))

section Numerals

variable {whole part rest text taken : List Char}

theorem stops_cons {c : Char} (hother : Text.isDigit c = false) (rest : List Char) :
    ∀ d, (c :: rest).head? = some d → Text.isDigit d = false := by
  rintro d ⟨⟩
  exact hother

theorem decimal_signed (negative : Bool) (hsome : whole ≠ []) (hwhole : IsDigits whole)
    (hmore : part ≠ []) (hpart : IsDigits part)
    (hstops : ∀ c, rest.head? = some c → Text.isDigit c = false) :
    decimal (signed negative (whole ++ '.' :: part) ++ rest) =
      some (signed negative (whole ++ '.' :: part), rest) := by
  rw [signed_append, List.append_assoc]
  refine decimal_eq_some_iff.mpr
    ⟨signed negative whole, '.' :: part ++ rest, '.' :: part, ?_, ?_, rfl⟩
  · exact integer_signed negative hsome hwhole (stops_cons (by decide) _)
  · change cons '.' (run Text.isDigit Text.isDigit (part ++ rest)) = _
    rw [run_digits hmore hpart hstops]
    rfl

theorem mem_decimal (htake : decimal text = some (taken, rest)) :
    ∀ c ∈ taken, c = '-' ∨ c = '.' ∨ Text.isDigit c = true := by
  obtain ⟨whole, behind, part, hwhole, hpart, rfl⟩ := decimal_eq_some_iff.mp htake
  obtain ⟨negative, digits, rfl, -, hdigits⟩ := signed_of_integer hwhole
  refine List.forall_mem_append.mpr ⟨fun c member => ?_, ?_⟩
  · exact (mem_signed member).imp_right fun hmem => .inr (hdigits c hmem)
  · unfold fraction at hpart
    split at hpart
    · obtain ⟨digits, hrun, rfl⟩ := cons_eq_some hpart
      obtain ⟨-, hdigits⟩ := isDigits_of_run hrun
      exact List.forall_mem_cons.mpr ⟨.inr (.inl rfl), fun c hmem => .inr (.inr (hdigits c hmem))⟩
    · cases hpart

end Numerals

namespace Binary64

theorem isDigits_zeros (count : Nat) : IsDigits (List.replicate count '0') := by
  intro c member
  rw [List.eq_of_mem_replicate member]
  rfl

theorem numeralForm_layout {digits : List Char} (hdigits : IsDigits digits) (point : Int) :
    NumeralForm (layout digits point) := by
  have htake : ∀ count : Nat, IsDigits (digits.take count) :=
    fun count c member => hdigits c (List.mem_of_mem_take member)
  have hdrop : ∀ count : Nat, IsDigits (digits.drop count) :=
    fun count c member => hdigits c (List.mem_of_mem_drop member)
  unfold layout
  dsimp only
  -- The point stands in front of the digits, behind them or among them; else an exponent is
  -- written, behind one digit or more.
  split
  · split
    · exact .positional (List.cons_ne_nil _ _) (isDigits_zeros 1)
        (List.forall_mem_append.mpr ⟨isDigits_zeros _, hdigits⟩)
    split
    · refine .positional (List.ne_nil_of_length_pos ?_)
        (List.forall_mem_append.mpr ⟨hdigits, isDigits_zeros _⟩) (isDigits_zeros 1)
      rw [List.length_append, List.length_replicate]
      omega
    · refine .positional (List.ne_nil_of_length_pos ?_) (htake _) (hdrop _)
      rw [List.length_take]
      omega
  · split
    · rw [List.append_nil]
      exact .scientific (htake 1) _
    · rw [List.append_assoc]
      refine .pointed (List.ne_nil_of_length_pos ?_) (htake 1) (List.ne_nil_of_length_pos ?_)
        (hdrop 1) _
      · rw [List.length_take]
        omega
      · rw [List.length_drop]
        omega

theorem numeralForm_text (negative : Bool) (mantissa : Nat) (exponent : Int) :
    ∃ numeral, (finite negative mantissa exponent).text.toList = signed negative numeral ∧
      NumeralForm numeral := by
  have hstripped : ∀ number : Nat, IsDigits (stripZeros (Nat.toDigits 10 number)) := by
    intro number c member
    rw [stripZeros, List.mem_reverse] at member
    have hmem := List.mem_reverse.mp (List.dropWhile_suffix _ |>.mem member)
    exact isDigits_toDigits c hmem
  rw [text, String.toList_ofList]
  refine ⟨_, rfl, ?_⟩
  split
  · exact .positional (List.cons_ne_nil '0' []) (isDigits_zeros 1) (isDigits_zeros 1)
  · exact numeralForm_layout (hstripped _) _

/-- The number is written with a point and without an exponent. -/
def IsPositional (x : Binary64) : Prop :=
  decimal x.text.toList = some (x.text.toList, [])

def IsExact (x : Binary64) : Prop :=
  floatOfNumeral x.text.toList = x

theorem not_isPositional {x : Binary64}
    (hwritten : 'e' ∈ x.text.toList ∨ x.text = "inf" ∨ x.text = "-inf") : ¬ x.IsPositional := by
  intro hpositional
  rcases hwritten with hexponent | hword | hword
  · have hmem := mem_decimal hpositional 'e' hexponent
    revert hmem
    decide
  · rw [IsPositional, hword] at hpositional
    cases hpositional
  · rw [IsPositional, hword] at hpositional
    cases hpositional

end Binary64

end Number

namespace AtomKind

open Lexeme

structure Blocks (text : List Char) : Prop where
  opens : ∃ c rest, text = c :: rest ∧ Opens c
  fails : takeFirst text = none

/-- A word that is not read to its end: reading stops in front of it, or behind a number that it
starts with. -/
def Breaks (word : List Char) : Prop :=
  ∀ rest : List Char, Follows [] rest → Blocks (word ++ rest) ∨
    ∃ kind taken behind, takeFirst (word ++ rest) = some (kind, taken, behind) ∧ Blocks behind

theorem blocks_point (rest : List Char) : Blocks ('.' :: rest) :=
  ⟨⟨'.', rest, rfl, by decide, by decide, by decide, by decide⟩, rfl⟩

theorem blocks_exponent (rest : List Char) : Blocks ('e' :: rest) :=
  ⟨⟨'e', rest, rfl, by decide, by decide, by decide, by decide⟩, rfl⟩

theorem blocks_negativeExponent (rest : List Char) : Blocks ('-' :: 'e' :: rest) :=
  ⟨⟨'-', 'e' :: rest, rfl, by decide, by decide, by decide, by decide⟩, rfl⟩

theorem blocks_infinite (rest : List Char) : Blocks ('i' :: rest) :=
  ⟨⟨'i', rest, rfl, by decide, by decide, by decide, by decide⟩, rfl⟩

theorem blocks_negativeInfinite (rest : List Char) : Blocks ('-' :: 'i' :: rest) :=
  ⟨⟨'-', 'i' :: rest, rfl, by decide, by decide, by decide, by decide⟩, rfl⟩

theorem blocks_undefined (rest : List Char) : Blocks ('n' :: 'a' :: rest) :=
  ⟨⟨'n', 'a' :: rest, rfl, by decide, by decide, by decide, by decide⟩, rfl⟩

section Numerals

open Number (signed IsDigits NumeralForm)

variable {whole rest : List Char}

theorem takeFirst_integer (negative : Bool) (hsome : whole ≠ []) (hwhole : IsDigits whole)
    (hstops : ∀ c, rest.head? = some c → Text.isDigit c = Bool.false)
    (hnone : fraction rest = none) :
    takeFirst (signed negative whole ++ rest) = some (.integer, signed negative whole, rest) := by
  have hinteger := Number.integer_signed negative hsome hwhole hstops
  refine takeFirst_of_take hinteger fun _ => ?_
  simp only [decimal, hinteger, Option.bind_eq_bind, Option.bind_some, hnone]
  rfl

theorem fraction_of_follows (hfollows : Follows [] rest) : fraction ('.' :: rest) = none := by
  cases rest with
  | nil => rfl
  | cons c rest =>
      have hdigit : Text.isDigit c = Bool.false :=
        hfollows.stops (by decide) (by decide) (fun c hhead => nomatch hhead) c rfl
      change cons '.' (run Text.isDigit Text.isDigit (c :: rest)) = none
      rw [run_eq_none hdigit]
      rfl

theorem decimal_or_breaks {numeral : List Char} (form : NumeralForm numeral) (negative : Bool) :
    decimal (signed negative numeral) = some (signed negative numeral, []) ∨
      Breaks (signed negative numeral) := by
  cases form with
  | @positional whole part hsome hwhole hpart =>
      by_cases hmore : part = []
      · subst hmore
        refine .inr fun rest hfollows => .inr ?_
        have htake := takeFirst_integer negative hsome hwhole
          (Number.stops_cons (by decide) rest) (fraction_of_follows hfollows)
        rw [Number.signed_append, List.append_assoc]
        exact ⟨_, _, _, htake, blocks_point rest⟩
      · have htake : decimal (signed negative (whole ++ '.' :: part) ++ []) = _ :=
          Number.decimal_signed negative hsome hwhole hmore hpart (fun c hhead => nomatch hhead)
        rw [List.append_nil] at htake
        exact .inl htake
  | @scientific whole hwhole power =>
      refine .inr fun rest _ => ?_
      rw [Number.signed_append, List.append_assoc]
      -- The form does not promise digits: without any, reading stops at the exponent itself.
      by_cases hsome : whole = []
      · subst hsome
        cases negative with
        | true => exact .inl (blocks_negativeExponent _)
        | false => exact .inl (blocks_exponent _)
      · have hstops : ∀ c, ('e' :: (power ++ rest)).head? = some c → Text.isDigit c = Bool.false :=
          Number.stops_cons (by decide) _
        have htake := takeFirst_integer negative hsome hwhole hstops rfl
        exact .inr ⟨_, _, _, htake, blocks_exponent _⟩
  | @pointed whole part hsome hwhole hmore hpart power =>
      refine .inr fun rest _ => .inr ?_
      have hstops : ∀ c, ('e' :: (power ++ rest)).head? = some c → Text.isDigit c = Bool.false :=
        Number.stops_cons (by decide) _
      have htake : AtomKind.float.take _ = _ :=
        Number.decimal_signed negative hsome hwhole hmore hpart hstops
      have htext : signed negative (whole ++ '.' :: (part ++ 'e' :: power)) ++ rest =
          signed negative (whole ++ '.' :: part) ++ 'e' :: (power ++ rest) := by
        simp [Number.signed_append]
      rw [htext]
      exact ⟨_, _, _, takeFirst_of_take htake nofun, blocks_exponent _⟩

theorem breaks_of_blocks {word : List Char} (hblocks : ∀ rest, Blocks (word ++ rest)) :
    Breaks word :=
  fun rest _ => .inl (hblocks rest)

/-- A number that is not written with a point and without an exponent is not read to its end. -/
theorem breaks_text {x : Number.Binary64} (hpositional : ¬ x.IsPositional) :
    Breaks x.text.toList := by
  cases x with
  | finite negative mantissa exponent =>
      obtain ⟨numeral, htext, form⟩ :=
        Number.Binary64.numeralForm_text negative mantissa exponent
      rw [Number.Binary64.IsPositional, htext] at hpositional
      rw [htext]
      exact (decimal_or_breaks form negative).resolve_left hpositional
  | infinite negative =>
      cases negative with
      | true => exact breaks_of_blocks fun rest => blocks_negativeInfinite ('n' :: 'f' :: rest)
      | false => exact breaks_of_blocks fun rest => blocks_infinite ('n' :: 'f' :: rest)
  | nan label =>
      have htext : (Number.Binary64.nan label).text.toList = ['n', 'a', 'n'] := by
        rw [Number.Binary64.text]
        rfl
      rw [htext]
      exact breaks_of_blocks fun rest => blocks_undefined ('n' :: rest)

end Numerals

end AtomKind

namespace SexpText

open AtomKind (Blocks)

variable {cursor next : Cursor} {text rest : List Char} {depth : Nat} {sexp : Sexp}

theorem exprWithin_of_opens {c : Char} (htext : cursor.rest = c :: rest)
    (opens : AtomKind.Opens c) :
    (exprWithin (depth + 1) cursor).result = (anyAtom cursor).result := by
  have hnone : (list (exprWithin depth) cursor).result = none := by
    apply list_eq_none
    rw [htext]
    exact fun hsame => opens.left (Option.some.inj hsame)
  rw [result_exprWithin, hnone, Option.none_or]

theorem exprWithin_of_takeFirst {kind : AtomKind} {taken : List Char}
    (htake : AtomKind.takeFirst cursor.rest = some (kind, taken, rest)) :
    (exprWithin (depth + 1) cursor).result =
      some (.atom kind taken, ⟨cursor.offset + taken.length, rest⟩) := by
  obtain ⟨htext, c, word, rfl, -, opens⟩ :=
    AtomKind.take_eq_some (AtomKind.takeFirst_eq_some htake)
  rw [exprWithin_of_opens htext opens, result_anyAtom, htake]
  rfl

theorem exprWithin_of_blocks (blocks : Blocks cursor.rest) :
    (exprWithin depth cursor).result = none := by
  obtain ⟨c, rest, htext, opens⟩ := blocks.opens
  cases depth with
  | zero => rfl
  | succ depth =>
      rw [exprWithin_of_opens htext opens, result_anyAtom, blocks.fails]
      rfl

/-- Reading items one after the other leads to a place where no item can be read and no list
ends. -/
def Stalls (depth : Nat) (cursor : Cursor) : Prop :=
  ∃ items last, Rule.Repeats (itemWithin depth) cursor items last ∧
    (itemWithin depth last).result = none ∧ (last.skip ';').rest.head? ≠ some ')'

theorem Stalls.cons (hread : (itemWithin depth cursor).result = some (sexp, next))
    (stalls : Stalls depth next) : Stalls depth cursor := by
  obtain ⟨items, last, repeats, hlast⟩ := stalls
  exact ⟨sexp :: items, last, .cons hread repeats, hlast⟩

theorem stalls_of_none {c : Char} (hrest : (cursor.skip ';').rest = c :: rest) (hright : c ≠ ')')
    (hnone : (exprWithin depth (cursor.skip ';')).result = none) : Stalls depth cursor := by
  refine ⟨[], cursor, .nil cursor, (result_itemWithin _ _).trans hnone, ?_⟩
  rw [hrest]
  exact fun hsame => hright (Option.some.inj hsame)

theorem stalls_of_blocks (blocks : Blocks cursor.rest) : Stalls depth cursor := by
  obtain ⟨c, rest, htext, opens⟩ := blocks.opens
  have hskip := Cursor.skip_of_opens htext opens.blank opens.comment
  refine stalls_of_none (by rw [hskip, htext]) opens.right ?_
  rw [hskip]
  exact exprWithin_of_blocks blocks

theorem skip_right (start : Nat) (rest : List Char) :
    Cursor.skip ';' ⟨start, ')' :: rest⟩ = ⟨start, ')' :: rest⟩ :=
  Cursor.skip_of_opens rfl (by decide) (by decide)

theorem itemWithin_of_right (start : Nat) (rest : List Char) :
    (itemWithin depth ⟨start, ')' :: rest⟩).result = none := by
  rw [result_itemWithin, skip_right]
  cases depth with
  | zero => rfl
  | succ depth =>
      have hnone : (list (exprWithin depth) ⟨start, ')' :: rest⟩).result = none :=
        list_eq_none fun hhead => absurd (Option.some.inj hhead) (by decide)
      rw [result_exprWithin, hnone, Option.none_or, result_anyAtom]
      rfl

theorem list_of_stalls {named : Cursor} {word : List Char} (hleft : cursor.rest = '(' :: rest)
    (hhead : (head (Cursor.skip ';' ⟨cursor.offset + 1, rest⟩)).result = some (word, named))
    (stalls : Stalls depth named) : (list (exprWithin depth) cursor).result = none := by
  obtain ⟨items, last, repeats, hnone, hright⟩ := stalls
  rw [result_list hleft hhead (many_of_repeats repeats hnone), Rule.char_eq_none hright]
  rfl

end SexpText

namespace Value

open SexpText

mutual

/-- The floating point numbers among the atoms of a tree. -/
def floats : Value → List Number.Binary64
  | float x => [x]
  | node _ _ _ children => floatsAll children
  | _ => []
termination_by structural value => value

def floatsAll : List Value → List Number.Binary64
  | [] => []
  | child :: rest => floats child ++ floatsAll rest
termination_by structural values => values

end

theorem mem_floatsAll {x : Number.Binary64} {children : List Value} :
    x ∈ floatsAll children ↔ ∃ child ∈ children, x ∈ child.floats := by
  induction children with
  | nil => simp [floatsAll]
  | cons child rest induction => simp [floatsAll, induction]

def IsDenoted (value : Value) (sexp : Sexp) : Prop :=
  ∀ chart, ∃ again, sexp.toValue chart = .ok again ∧ again.nested = value.nested

/-- What is written for the value is read as an expression, which stands for the value if the
numbers with a point in it are read as they are. -/
def IsReadBack (value : Value) : Prop :=
  ∀ (depth start : Nat) (rest : List Char), Lexeme.Follows [] rest →
    (value.pretty.toList ++ rest).length < depth →
    ∃ sexp, (exprWithin depth ⟨start, value.pretty.toList ++ rest⟩).result =
        some (sexp, ⟨start + value.pretty.toList.length, rest⟩) ∧
      ((∀ x ∈ value.floats, x.IsExact) → value.IsDenoted sexp)

def IsStuck (value : Value) : Prop :=
  ∀ (depth start : Nat) (rest : List Char), Lexeme.Follows [] rest →
    (value.pretty.toList ++ rest).length < depth →
    Stalls depth ⟨start, ' ' :: (value.pretty.toList ++ rest)⟩

theorem isReadBack_word (value : Value) {kind : AtomKind} {word : List Char}
    (hword : value.pretty.toList = word) (htake : kind.take word = some (word, []))
    (hdecode : (∀ x ∈ value.floats, x.IsExact) → ∀ chart, kind.decode chart word = .ok value) :
    value.IsReadBack := by
  intro depth start rest hfollows hlength
  obtain ⟨depth, rfl⟩ : ∃ less, depth = less + 1 := ⟨depth - 1, by omega⟩
  rw [hword]
  refine ⟨.atom kind word, exprWithin_of_takeFirst (AtomKind.takeFirst_word htake hfollows),
    fun hexact chart => ⟨value, hdecode hexact chart, rfl⟩⟩

/-- Every atom is read back as itself, unless it is a number that is not read as it is. -/
theorem isReadBack_atom {value : Value} (hatom : value.IsSexpAtom)
    (hpositional : ∀ x ∈ value.floats, x.IsPositional) : value.IsReadBack := by
  cases value with
  | absent =>
      have htake : AtomKind.nil.take "nil".toList = some ("nil".toList, []) := by decide
      exact isReadBack_word .absent rfl htake fun _ _ => rfl
  | bool b =>
      cases b with
      | true =>
          have htake : AtomKind.true.take "true".toList = some ("true".toList, []) := by decide
          exact isReadBack_word (bool true) rfl htake fun _ _ => rfl
      | false =>
          have htake : AtomKind.false.take "false".toList = some ("false".toList, []) := by decide
          exact isReadBack_word (bool false) rfl htake fun _ _ => rfl
  | int i =>
      have htake : AtomKind.integer.take _ = _ := Number.integer_toString i
      refine isReadBack_word (int i) rfl htake fun _ _ => ?_
      -- An integer that can be written has no more digits than can be read.
      have hcount : ((toString i).toList.filter Text.isDigit).length ≤ AtomKind.maxDigits := by
        rw [Number.filter_isDigit_toString]
        exact hatom
      change AtomKind.decodeInteger (toString i).toList = _
      rw [AtomKind.decodeInteger, if_neg (Nat.not_lt.mpr hcount), Number.intOfNumeral_toString]
  | float x =>
      have htake : AtomKind.float.take _ = _ := hpositional x (List.mem_singleton_self x)
      refine isReadBack_word (float x) rfl htake fun hexact _ => ?_
      have hvalue : Number.floatOfNumeral x.text.toList = x :=
        hexact x (List.mem_singleton_self x)
      change Except.ok (float (Number.floatOfNumeral x.text.toList)) = _
      rw [hvalue]
  | str s =>
      have htake : AtomKind.string.take (Text.escaped s).toList =
          some ((Text.escaped s).toList, []) := Text.string_escaped s
      refine isReadBack_word (str s) rfl htake fun _ _ => ?_
      simp only [pretty, AtomKind.decode, Text.decodeLiteral_escaped]
  | sym name =>
      have hpretty : (sym name).pretty.toList = ':' :: name.toList := by
        rw [pretty, String.toList_append]
        rfl
      have htake : AtomKind.symbol.take (':' :: name.toList) = _ := hatom
      refine isReadBack_word (sym name) hpretty htake fun _ _ => ?_
      rw [AtomKind.decode, List.drop_one, List.tail_cons, String.ofList_toList]
  | _ => cases hatom

theorem stalls_space {depth start : Nat} {text : List Char}
    (stalls : Stalls depth ⟨start + 1, text⟩) : Stalls depth ⟨start, ' ' :: text⟩ := by
  obtain ⟨items, last, repeats, hnone, hright⟩ := stalls
  -- Blanks are skipped by the items, so the blank is the first item's or the end's.
  cases repeats with
  | nil =>
      refine ⟨[], _, .nil _, ?_, ?_⟩
      · rw [result_itemWithin, Cursor.skip_space, ← result_itemWithin, hnone]
      · rw [Cursor.skip_space]
        exact hright
  | cons first later =>
      rw [result_itemWithin, ← Cursor.skip_space, ← result_itemWithin] at first
      exact ⟨_, last, .cons first later, hnone, hright⟩

theorem isStuck_float {x : Number.Binary64} (hpositional : ¬ x.IsPositional) :
    (float x).IsStuck := by
  intro depth start rest hfollows hlength
  obtain ⟨depth, rfl⟩ : ∃ less, depth = less + 1 := ⟨depth - 1, by omega⟩
  apply stalls_space
  rcases AtomKind.breaks_text hpositional rest hfollows with
    hblocks | ⟨kind, taken, behind, htake, hblocks⟩
  · exact stalls_of_blocks hblocks
  · have hread : (exprWithin (depth + 1) ⟨start + 1, x.text.toList ++ rest⟩).result =
        some (.atom kind taken, ⟨start + 1 + taken.length, behind⟩) :=
      exprWithin_of_takeFirst htake
    have hitem := (result_itemWithin _ _).trans
      ((congrArg (fun cursor => (exprWithin (depth + 1) cursor).result)
        (skip_of_exprWithin hread)).trans hread)
    exact .cons hitem (stalls_of_blocks hblocks)

section Children

variable {children : List Value} {depth : Nat} {rest : List Char}

theorem itemWithin_of_expr {start : Nat} {sexp : Sexp} {next : Cursor}
    (hread : (exprWithin depth ⟨start + 1, rest⟩).result = some (sexp, next)) :
    (itemWithin depth ⟨start, ' ' :: rest⟩).result = some (sexp, next) := by
  rw [result_itemWithin, Cursor.skip_space, skip_of_exprWithin hread, hread]

theorem repeats_of_children (each : ∀ child ∈ children, child.IsReadBack) (start : Nat)
    (hlength : (childrenText children ++ ')' :: rest).length < depth) :
    ∃ items, Rule.Repeats (itemWithin depth) ⟨start, childrenText children ++ ')' :: rest⟩
        items ⟨start + (childrenText children).length, ')' :: rest⟩ ∧
      ((∀ x ∈ floatsAll children, x.IsExact) → ∀ chart,
        ∃ again, Sexp.toValues chart items = .ok again ∧ nestedAll again = nestedAll children) := by
  induction children generalizing start with
  | nil => exact ⟨[], .nil _, fun _ _ => ⟨[], rfl, rfl⟩⟩
  | cons child others induction =>
      obtain ⟨hchild, hothers⟩ := List.forall_mem_cons.mp each
      have hstop : start + (childrenText (child :: others)).length =
          start + 1 + child.pretty.toList.length + (childrenText others).length := by
        rw [childrenText_cons, List.length_cons, List.length_append]
        omega
      rw [childrenText_append, List.length_cons, List.length_append] at hlength
      obtain ⟨sexp, hread, hdenoted⟩ := hchild depth (start + 1) _
        (follows_childrenText others rest) (by rw [List.length_append]; omega)
      obtain ⟨items, repeats, hall⟩ := induction hothers _ (by omega)
      rw [childrenText_append, hstop]
      refine ⟨sexp :: items, .cons (itemWithin_of_expr hread) repeats, fun hexact chart => ?_⟩
      obtain ⟨hfirst, hrest⟩ := List.forall_mem_append.mp hexact
      obtain ⟨again, hvalue, hnested⟩ := hdenoted hfirst chart
      obtain ⟨more, hvalues, hsame⟩ := hall hrest chart
      refine ⟨again :: more, ?_, by rw [nestedAll, nestedAll, hnested, hsame]⟩
      rw [Sexp.toValues, hvalue, hvalues]
      rfl

/-- Reading children comes to an end at the first that is not read to its end. -/
theorem stalls_of_children (each : ∀ child ∈ children, child.IsReadBack ∨ child.IsStuck)
    (hstuck : ∃ child ∈ children, child.IsStuck) (start : Nat)
    (hlength : (childrenText children ++ ')' :: rest).length < depth) :
    Stalls depth ⟨start, childrenText children ++ ')' :: rest⟩ := by
  induction children generalizing start with
  | nil =>
      obtain ⟨child, member, -⟩ := hstuck
      cases member
  | cons child others induction =>
      obtain ⟨hchild, hothers⟩ := List.forall_mem_cons.mp each
      have hfollows := follows_childrenText others rest
      rw [childrenText_append, List.length_cons, List.length_append] at hlength
      have hshorter :
          (child.pretty.toList ++ (childrenText others ++ ')' :: rest)).length < depth := by
        rw [List.length_append]
        omega
      rw [childrenText_append]
      -- A child that is not stuck is read back, and the stuck one stands behind it.
      by_cases hfirst : child.IsStuck
      · exact hfirst depth start _ hfollows hshorter
      · have hlater : ∃ other ∈ others, other.IsStuck := by
          obtain ⟨other, member, hother⟩ := hstuck
          rcases List.mem_cons.mp member with rfl | hmem
          · exact absurd hother hfirst
          · exact ⟨other, hmem, hother⟩
        obtain ⟨sexp, hread, -⟩ :=
          hchild.resolve_right hfirst depth (start + 1) _ hfollows hshorter
        exact .cons (itemWithin_of_expr hread) (induction hothers hlater _ (by omega))

end Children

section Nodes

variable {id : Nat} {type : String} {loc : Option Range} {children : List Value}
  {depth : Nat} {rest : List Char}

theorem head_of_isHead (htype : IsHead type) (hfollows : Lexeme.Follows [] rest) (start : Nat) :
    (head (Cursor.skip ';' ⟨start, type.toList ++ rest⟩)).result =
      some (type.toList, ⟨start + type.toList.length, rest⟩) := by
  have hlocal : Lexeme.Local Sexp.takeHead := Lexeme.local_run (by decide) (by decide)
  have htake := hlocal htype hfollows
  obtain ⟨htext, c, word, hword, hfirst⟩ := Lexeme.run_eq_some htake
  have hblank : Text.isBlank c = false := by
    rcases Bool.or_eq_true_iff.mp hfirst with hletter | hline
    · exact (Lexeme.opens_of_letter hletter).1
    · rw [eq_of_beq hline]
      decide
  have hmark : c ≠ ';' := by
    rintro rfl
    exact absurd hfirst (by decide)
  have hopening : type.toList ++ rest = c :: (word ++ rest) := by
    rw [hword]
    rfl
  have hskip : Cursor.skip ';' ⟨start, type.toList ++ rest⟩ = ⟨start, type.toList ++ rest⟩ :=
    Cursor.skip_of_opens hopening hblank hmark
  rw [hskip, head, Rule.result_named, Rule.result_lexeme]
  change (Sexp.takeHead (type.toList ++ rest)).map _ = _
  rw [htake]
  rfl

theorem isReadBack_node (htype : IsHead type) (each : ∀ child ∈ children, child.IsReadBack) :
    (node id type loc children).IsReadBack := by
  intro depth start rest hfollows hlength
  obtain ⟨depth, rfl⟩ : ∃ less, depth = less + 1 := ⟨depth - 1, by omega⟩
  let parted := start + 1 + type.toList.length
  let closed := parted + (childrenText children).length
  have hstop : start + (node id type loc children).pretty.toList.length = closed + 1 := by
    rw [toList_pretty_node]
    simp only [List.length_cons, List.length_append, List.length_nil, parted, closed]
    omega
  rw [toList_pretty_node_append] at hlength ⊢
  rw [List.length_cons, List.length_append] at hlength
  obtain ⟨items, repeats, hall⟩ := repeats_of_children each parted
    (by omega : (childrenText children ++ ')' :: rest).length < depth)
  have hhead := head_of_isHead htype (follows_childrenText children rest) (start + 1)
  have hlist : (SexpText.list (exprWithin depth) ⟨start, _⟩).result = _ :=
    result_list rfl hhead (many_of_repeats repeats (itemWithin_of_right closed rest))
  rw [skip_right, Rule.char_of_rest rfl, Option.map_some] at hlist
  rw [result_exprWithin, hlist, Option.some_or, hstop]
  refine ⟨_, rfl, fun hexact chart => ?_⟩
  obtain ⟨again, hvalues, hnested⟩ := hall hexact chart
  let loc := some (Range.between start (closed + 1))
  refine ⟨.node 0 (String.ofList type.toList) loc again, ?_, ?_⟩
  · rw [Sexp.toValue, hvalues]
    rfl
  · rw [nested, nested, hnested, String.ofList_toList]

theorem exprWithin_of_stuck (htype : IsHead type)
    (each : ∀ child ∈ children, child.IsReadBack ∨ child.IsStuck)
    (hstuck : ∃ child ∈ children, child.IsStuck) (start : Nat)
    (hlength : ((node id type loc children).pretty.toList ++ rest).length < depth) :
    (exprWithin depth ⟨start, (node id type loc children).pretty.toList ++ rest⟩).result =
      none := by
  obtain ⟨depth, rfl⟩ : ∃ less, depth = less + 1 := ⟨depth - 1, by omega⟩
  rw [toList_pretty_node_append] at hlength ⊢
  rw [List.length_cons, List.length_append] at hlength
  have stalls := stalls_of_children each hstuck (start + 1 + type.toList.length)
    (by omega : (childrenText children ++ ')' :: rest).length < depth)
  have hhead := head_of_isHead htype (follows_childrenText children rest) (start + 1)
  let cursor : Cursor := ⟨start, '(' :: (type.toList ++ (childrenText children ++ ')' :: rest))⟩
  have hlist : (SexpText.list (exprWithin depth) cursor).result = none :=
    list_of_stalls rfl hhead stalls
  -- No atom takes the place of the list: none starts with a parenthesis.
  rw [result_exprWithin, hlist, Option.none_or, result_anyAtom]
  rfl

theorem isStuck_node (htype : IsHead type)
    (each : ∀ child ∈ children, child.IsReadBack ∨ child.IsStuck)
    (hstuck : ∃ child ∈ children, child.IsStuck) : (node id type loc children).IsStuck := by
  intro depth start rest hfollows hlength
  have hnone := exprWithin_of_stuck htype each hstuck (start + 1) hlength
  rw [toList_pretty_node_append] at hnone ⊢
  have hskip : Cursor.skip ';' ⟨start + 1, '(' :: (type.toList ++ (childrenText children ++
      ')' :: rest))⟩ = ⟨start + 1, _⟩ :=
    Cursor.skip_of_opens rfl (by decide) (by decide)
  rw [← hskip] at hnone
  exact stalls_space (stalls_of_none (congrArg Cursor.rest hskip) (by decide) hnone)

end Nodes

/-- What is built of heads and atoms that were read is read back, if each number in it is written
with a point and without an exponent. -/
theorem isReadBack_of_builtOf {value : Value} (built : value.BuiltOf IsHead IsSexpAtom)
    (hpositional : ∀ x ∈ value.floats, x.IsPositional) : value.IsReadBack := by
  induction built with
  | atom hatom => exact isReadBack_atom hatom hpositional
  | node htype each induction =>
      refine isReadBack_node htype fun child member => induction child member fun x hx => ?_
      exact hpositional x (mem_floatsAll.mpr ⟨child, member, hx⟩)

section Stuck

variable {children : List Value}

theorem isReadBack_or_isStuck (each : ∀ child ∈ children, child.BuiltOf IsHead IsSexpAtom)
    (hstuck : ∀ child ∈ children,
      (∃ x ∈ child.floats, ¬ x.IsPositional) → child.IsStuck) :
    ∀ child ∈ children, child.IsReadBack ∨ child.IsStuck := by
  intro child member
  by_cases hpositional : ∀ x ∈ child.floats, x.IsPositional
  · exact .inl (isReadBack_of_builtOf (each child member) hpositional)
  · refine .inr (hstuck child member ?_)
    simpa using hpositional

theorem isStuck_of_builtOf {value : Value} (built : value.BuiltOf IsHead IsSexpAtom)
    (hsome : ∃ x ∈ value.floats, ¬ x.IsPositional) : value.IsStuck := by
  induction built with
  | @atom value hatom =>
      obtain ⟨x, member, hpositional⟩ := hsome
      cases value with
      | float y =>
          cases List.mem_singleton.mp member
          exact isStuck_float hpositional
      | node id type loc children => cases hatom
      | _ => cases member
  | @node id type loc children htype each induction =>
      obtain ⟨x, member, hpositional⟩ := hsome
      obtain ⟨child, hchild, hx⟩ := mem_floatsAll.mp member
      exact isStuck_node htype (isReadBack_or_isStuck each induction)
        ⟨child, hchild, induction child hchild ⟨x, hx, hpositional⟩⟩

end Stuck

end Value

namespace Sexp

open Value (IsHead IsSexpAtom floats)

variable {text : String} {doc : Document}

/-- The root of a document that was read is built of heads and atoms that can be written. -/
theorem builtOf_of_readDocument (hread : readDocument chart text = .ok doc) :
    doc.root.toValue.BuiltOf IsHead IsSexpAtom := by
  obtain ⟨sexp, root, hsexp, hvalue, rfl⟩ := readDocument_eq_ok_iff.mp hread
  rw [Document.toValue_root_ofNode]
  exact (Value.numbered_of_builtOf (builtOf_of_toValue (isTaken_of_readAll hsexp) hvalue) 0).1

theorem exists_node {value : Value} {node : Node} (built : value.BuiltOf IsHead IsSexpAtom)
    (hnested : value.nested = node.toValue.nested) : ∃ root, value = Node.toValue root := by
  cases built with
  | @node id type loc children htype each => exact ⟨⟨id, type, loc, children⟩, rfl⟩
  | atom hatom =>
      cases value with
      | node id type loc children => cases hatom
      | list items => cases hatom
      | _ => cases hnested

theorem readDocument_of_isExact {node : Node} (readBack : node.toValue.IsReadBack)
    (hexact : ∀ x ∈ node.toValue.floats, x.IsExact) :
    ∃ again, readDocument chart node.pretty = .ok again ∧
      again.root.toValue.nested = node.toValue.nested := by
  have hlength : (node.pretty.toList ++ []).length < node.pretty.toList.length + 1 := by
    rw [List.append_nil]
    exact Nat.lt_succ_self _
  obtain ⟨sexp, hread, hdenoted⟩ := readBack _ 0 [] (.nil _) hlength
  obtain ⟨value, hvalue, hnested⟩ := hdenoted hexact chart
  rw [List.append_nil] at hread
  have hdocument : SexpText.document.readAll node.pretty.toList = .ok sexp := by
    have hskip : (Cursor.ofText node.pretty.toList).skip ';' = Cursor.ofText node.pretty.toList :=
      SexpText.skip_of_exprWithin hread
    have hexpr : (SexpText.expr (Cursor.ofText node.pretty.toList)).result = _ := hread
    let last : Cursor := ⟨0 + node.toValue.pretty.toList.length, []⟩
    refine Rule.readAll_eq_ok.mpr ⟨last.skip ';', ?_, rfl⟩
    rw [result_document, hskip, hexpr]
    rfl
  have built := builtOf_of_toValue (isTaken_of_readAll hdocument) hvalue
  obtain ⟨root, rfl⟩ := exists_node built hnested
  refine ⟨_, readDocument_eq_ok_iff.mpr ⟨sexp, root, hdocument, hvalue, rfl⟩, ?_⟩
  rw [Document.toValue_root_ofNode, (Value.numbered_of_builtOf built 0).2, hnested]

theorem readDocument_of_isReadBack {node : Node} (readBack : node.toValue.IsReadBack)
    (hnone : node.toValue.floats = []) :
    ∃ again, readDocument chart node.pretty = .ok again ∧
      again.root.toValue.nested = node.toValue.nested :=
  readDocument_of_isExact readBack fun x member => by
    rw [hnone] at member
    cases member

theorem readDocument_of_isStuck {node : Node} (htype : IsHead node.type)
    (each : ∀ child ∈ node.children, child.IsReadBack ∨ child.IsStuck)
    (hstuck : ∃ child ∈ node.children, child.IsStuck) :
    ∃ fault, readDocument chart node.pretty = .error (.unreadable fault) := by
  obtain ⟨id, type, loc, children⟩ := node
  let node : Node := ⟨id, type, loc, children⟩
  have hlength : (node.pretty.toList ++ []).length < node.pretty.toList.length + 1 := by
    rw [List.append_nil]
    exact Nat.lt_succ_self _
  have hnone := Value.exprWithin_of_stuck htype each hstuck 0 hlength
  rw [List.append_nil] at hnone
  have hskip : (Cursor.ofText node.pretty.toList).skip ';' = Cursor.ofText node.pretty.toList :=
    Cursor.skip_of_opens (Value.toList_pretty_node id type loc children) (by decide) (by decide)
  have hexpr : (SexpText.expr (Cursor.ofText node.pretty.toList)).result = none := hnone
  have hdocument : (SexpText.document (Cursor.ofText node.pretty.toList)).result = none := by
    rw [result_document, hskip, hexpr]
    rfl
  obtain ⟨fault, hfault⟩ := SexpText.readAll_of_none hdocument
  exact ⟨fault, by rw [readDocument, hfault]; rfl⟩

theorem readDocument_of_stuck {node : Node} (built : node.toValue.BuiltOf IsHead IsSexpAtom)
    (hsome : ∃ x ∈ node.toValue.floats, ¬ x.IsPositional) :
    ∃ fault, readDocument chart node.pretty = .error (.unreadable fault) := by
  obtain ⟨id, type, loc, children⟩ := node
  cases built with
  | atom hatom => cases hatom
  | node htype each =>
      obtain ⟨x, member, hpositional⟩ := hsome
      obtain ⟨child, hchild, hx⟩ := Value.mem_floatsAll.mp member
      have hall := fun other hother => Value.isStuck_of_builtOf (each other hother)
      exact readDocument_of_isStuck htype (Value.isReadBack_or_isStuck each hall)
        ⟨child, hchild, hall child hchild ⟨x, hx, hpositional⟩⟩

/-- A document is read back from its s-expression, unless it holds numbers with a point. Where one
of them is written with an exponent or as a word, the s-expression cannot be read. -/
theorem readDocument_pretty (hread : readDocument chart text = .ok doc) :
    (doc.root.toValue.floats = [] →
      ∃ again, readDocument chart doc.root.pretty = .ok again ∧
        again.root.toValue.nested = doc.root.toValue.nested) ∧
    ((∃ x ∈ doc.root.toValue.floats, 'e' ∈ x.text.toList ∨ x.text = "inf" ∨ x.text = "-inf") →
      ∃ fault diagnostic, readDocument chart doc.root.pretty = .error fault ∧
        fault.diagnostic? doc.root.pretty = some diagnostic ∧
        diagnostic.subject = .sourceText) := by
  have built := builtOf_of_readDocument hread
  constructor
  · intro hnone
    refine readDocument_of_isReadBack (Value.isReadBack_of_builtOf built fun x member => ?_) hnone
    rw [hnone] at member
    exact absurd member List.not_mem_nil
  · rintro ⟨x, member, hwritten⟩
    obtain ⟨fault, hfault⟩ :=
      readDocument_of_stuck built ⟨x, member, Number.Binary64.not_isPositional hwritten⟩
    exact ⟨_, _, hfault, rfl, rfl⟩

/-- A small number is printed with an exponent. -/
theorem readDocument_pretty_small :
    ∃ doc, readDocument Text.basicLatin "(a 0.00001)" = .ok doc ∧ doc.root.pretty = "(a 1e-05)" ∧
      ∃ fault diagnostic, readDocument Text.basicLatin "(a 1e-05)" = .error fault ∧
        fault.diagnostic? "(a 1e-05)" = some diagnostic ∧ diagnostic.subject = .sourceText := by
  let x : Number.Binary64 := .finite false 5902958103587057 (-69)
  let root : Node := ⟨0, "a", some ⟨0, 11⟩, [.float x]⟩
  have hsexp : SexpText.document.readAll "(a 0.00001)".toList =
      .ok (.list ⟨0, 11⟩ ['a'] [.atom .float "0.00001".toList]) := by
    cbv
  have hnumber : Number.floatOfNumeral "0.00001".toList = x := by decide +kernel
  have hread : readDocument Text.basicLatin "(a 0.00001)" =
      .ok (Document.ofNode root "(a 0.00001)") := by
    refine readDocument_eq_ok_iff.mpr ⟨_, root, hsexp, ?_, rfl⟩
    change Except.ok (Value.node 0 "a" (some ⟨0, 11⟩) [.float (Number.floatOfNumeral _)]) = _
    rw [hnumber]
    rfl
  have hprinted : root.pretty = "(a 1e-05)" := by decide +kernel
  have hexponent : 'e' ∈ x.text.toList := by decide +kernel
  have hfails := (readDocument_pretty hread).2 ⟨x, List.mem_singleton_self x, .inl hexponent⟩
  have hsame : (Document.ofNode root "(a 0.00001)").root.pretty = "(a 1e-05)" := hprinted
  rw [hsame] at hfails
  exact ⟨_, hread, hsame, hfails⟩

end Sexp

end TreeMatch
