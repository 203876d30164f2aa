import TreeMatch.Proofs.Derivation
import TreeMatch.Proofs.Printing
import TreeMatch.Sexp.Reader

/-! Reading s-expressions: how atoms are told apart and where they end, what the reader makes of a
list, and what the values that it gives are built of. -/

namespace TreeMatch

variable {chart : Text.CodeChart}

open Grammar

namespace AtomKind

open Lexeme

def order : List AtomKind :=
  [.nil, .true, .false, .symbol, .float, .integer, .string]

def takeFirst (text : List Char) : Option (AtomKind × Lexeme.Split) :=
  order.findSome? fun kind => (kind.take text).map fun split => (kind, split)

def family : AtomKind → AtomKind
  | .float => .integer
  | kind => kind

def familyOf (c : Char) : AtomKind :=
  if c = 'n' then .nil
  else if c = 't' then .true
  else if c = 'f' then .false
  else if c = ':' then .symbol
  else if c = '"' then .string
  else .integer

structure Opens (c : Char) : Prop where
  blank : Text.isBlank c = Bool.false
  comment : c ≠ ';'
  left : c ≠ '('
  right : c ≠ ')'

variable {kind other : AtomKind} {text taken rest behind word : List Char}

theorem first_of_number {c : Char} (hfirst : c = '-' ∨ Text.isDigit c = Bool.true) :
    familyOf c = .integer ∧ Opens c := by
  rcases hfirst with rfl | hdigit
  · exact ⟨rfl, by decide, by decide, by decide, by decide⟩
  · have hne : ∀ d, Text.isDigit d = Bool.false → c ≠ d := fun d => Number.ne_of_isDigit hdigit
    constructor
    · simp (disch := decide) only [familyOf, hne, if_false]
    · exact ⟨(opens_of_digit hdigit).1, hne _ (by decide), hne _ (by decide), hne _ (by decide)⟩

theorem decimal_eq_some (htake : decimal text = some (taken, rest)) :
    text = taken ++ rest ∧
      ∃ c digits, taken = c :: digits ∧ (c = '-' ∨ Text.isDigit c = Bool.true) := by
  obtain ⟨whole, behind, part, hwhole, hpart, rfl⟩ := decimal_eq_some_iff.mp htake
  obtain ⟨rfl, c, digits, rfl, hfirst⟩ := integer_eq_some hwhole
  rw [fraction_eq_some hpart, ← List.append_assoc]
  exact ⟨rfl, c, digits ++ part, rfl, hfirst⟩

/-- An atom is a front of the text, and its first character tells its family. -/
theorem take_eq_some (htake : kind.take text = some (taken, rest)) :
    text = taken ++ rest ∧ ∃ c word, taken = c :: word ∧ familyOf c = kind.family ∧ Opens c := by
  cases kind with
  | nil | «true» | «false» =>
      obtain ⟨rfl, hsplit⟩ := literal_eq_some (notBefore_eq_some htake)
      exact ⟨hsplit, _, _, rfl, rfl, by decide, by decide, by decide, by decide⟩
  | symbol =>
      obtain ⟨hsplit, name, rfl⟩ := symbol_eq_some htake
      exact ⟨hsplit, ':', name, rfl, rfl, by decide, by decide, by decide, by decide⟩
  | string =>
      obtain ⟨hsplit, tail, rfl⟩ := string_eq_some htake
      exact ⟨hsplit, '"', tail, rfl, rfl, by decide, by decide, by decide, by decide⟩
  | float =>
      obtain ⟨hsplit, c, digits, rfl, hfirst⟩ := decimal_eq_some htake
      exact ⟨hsplit, c, digits, rfl, first_of_number hfirst⟩
  | integer =>
      obtain ⟨hsplit, c, digits, rfl, hfirst⟩ := integer_eq_some htake
      exact ⟨hsplit, c, digits, rfl, first_of_number hfirst⟩

theorem take_eq_none (htake : kind.take text = some (taken, rest))
    (hfamily : other.family ≠ kind.family) : other.take text = none := by
  obtain ⟨htext, c, word, rfl, hc, -⟩ := take_eq_some htake
  cases hother : other.take text with
  | none => rfl
  | some split =>
      obtain ⟨hsame, d, found, hfound, hd, -⟩ := take_eq_some hother
      rw [htext, hfound, List.cons_append, List.cons_append] at hsame
      rw [← hd, ← (List.cons.inj hsame).1] at hfamily
      exact absurd hc hfamily

/-- A kind that can be taken is the one that is taken, but for integers in front of a fraction. -/
theorem takeFirst_of_take (htake : kind.take text = some (taken, rest))
    (hwhole : kind = .integer → decimal text = none) :
    takeFirst text = some (kind, taken, rest) := by
  have hapart : ∀ other : AtomKind, other.family ≠ kind.family → other.take text = none :=
    fun other hfamily => take_eq_none htake hfamily
  cases kind with
  | integer =>
      have hfloat : AtomKind.float.take text = none := hwhole rfl
      simp (disch := decide) [takeFirst, order, List.findSome?_cons, htake, hfloat, hapart]
  | _ => simp (disch := decide) [takeFirst, order, List.findSome?_cons, htake, hapart]

theorem takeFirst_eq_some {split : Split} (htake : takeFirst text = some (kind, split)) :
    kind.take text = some split := by
  obtain ⟨other, -, hother⟩ := List.exists_of_findSome?_eq_some htake
  obtain ⟨result, hresult, hboth⟩ := Option.map_eq_some_iff.mp hother
  cases hboth
  exact hresult

theorem local_take (kind : AtomKind) : Local kind.take := by
  cases kind with
  | nil => exact local_keyword "nil"
  | «true» => exact local_keyword "true"
  | «false» => exact local_keyword "false"
  | symbol => exact local_symbol
  | float => exact local_decimal
  | integer => exact local_integer
  | string => exact local_string

/-- Which atom is taken depends on what stands behind it by the first character only, if that is no
point. -/
theorem takeFirst_of_follows (htake : kind.take text = some (taken, rest))
    (hfollows : Follows rest behind) (hpoint : rest.head? ≠ some '.') :
    takeFirst (taken ++ behind) = some (kind, taken, behind) := by
  have hagain := local_take kind htake hfollows
  refine takeFirst_of_take hagain ?_
  rintro rfl
  have hplain : ∀ c, behind.head? = some c → c ≠ '.' := by
    rintro c hhead rfl
    rcases hfollows '.' hhead with hsame | hspace | hclose
    · exact hpoint hsame
    · revert hspace
      decide
    · revert hclose
      decide
  have hwhole : Lexeme.integer (taken ++ behind) = some (taken, behind) := hagain
  simp only [decimal, hwhole, Option.bind_eq_bind, Option.bind_some, fraction_eq_none hplain]
  rfl

/-- A word that is taken as a whole is taken wherever no lexeme reads on behind it. -/
theorem takeFirst_word (htake : kind.take word = some (word, [])) (hfollows : Follows [] rest) :
    takeFirst (word ++ rest) = some (kind, word, rest) :=
  takeFirst_of_follows htake hfollows nofun

end AtomKind

namespace SexpText

variable {expr : Rule Sexp} {cursor next last named : Cursor} {word : List Char}
  {items : List Sexp} {sexp : Sexp} {depth : Nat}

theorem result_anyAtom (cursor : Cursor) :
    (anyAtom cursor).result = (AtomKind.takeFirst cursor.rest).map fun found =>
      (.atom found.1 found.2.1, ⟨cursor.offset + found.2.1.length, found.2.2⟩) := by
  have hatom : ∀ kind : AtomKind, (atom kind cursor).result =
      (kind.take cursor.rest).map fun split =>
        (.atom kind split.1, ⟨cursor.offset + split.1.length, split.2⟩) := by
    intro kind
    rw [atom, Rule.result_named, Rule.result_bind, Rule.result_lexeme]
    cases kind.take cursor.rest <;> rfl
  rw [anyAtom, Rule.result_named, Rule.result_choice, AtomKind.takeFirst, List.map_findSome?]
  simp only [AtomKind.order, List.findSome?_cons, List.findSome?_nil, hatom, Function.comp_apply,
    Option.map_map]
  rfl

theorem result_exprWithin (depth : Nat) (cursor : Cursor) :
    (exprWithin (depth + 1) cursor).result =
      (list (exprWithin depth) cursor).result.or (anyAtom cursor).result := by
  change (Rule.named _ cursor).result = _
  rw [Rule.result_named, Rule.result_choice]
  simp only [findSome?_cons_or, List.findSome?_nil, Option.or_none]

def item (expr : Rule Sexp) : Rule Sexp := do
  blanks
  expr

theorem result_behind_blanks (rule : Rule α) (cursor : Cursor) :
    ((blanks >>= fun _ => rule) cursor).result = (rule (cursor.skip ';')).result := by
  rw [Rule.result_bind, blanks, Rule.result_blanks, Option.bind_some]

theorem result_item (expr : Rule Sexp) (cursor : Cursor) :
    (item expr cursor).result = (expr (cursor.skip ';')).result :=
  result_behind_blanks expr cursor

theorem readAll_of_none {rule : Rule α} {text : List Char}
    (hnone : (rule (Cursor.ofText text)).result = none) :
    ∃ fault, rule.readAll text = .error fault := by
  unfold Rule.readAll
  rcases hread : rule (Cursor.ofText text) with ⟨misses, result⟩
  rw [hread] at hnone
  cases hnone
  exact ⟨_, rfl⟩

theorem list_eq_none (hhead : cursor.rest.head? ≠ some '(') : (list expr cursor).result = none := by
  rw [list, Rule.result_named]
  change ((Rule.char '(' >>= _) cursor).result = none
  rw [Rule.result_bind, Rule.char_eq_none hhead, Option.bind_none]

theorem result_list {rest : List Char} (hleft : cursor.rest = '(' :: rest)
    (hhead : (head (Cursor.skip ';' ⟨cursor.offset + 1, rest⟩)).result = some (word, named))
    (hitems : (Rule.many (item expr) named).result = some (items, last)) :
    (list expr cursor).result = (Rule.char ')' (last.skip ';')).result.map fun found =>
      (.list (Range.between cursor.offset found.2.offset) word items, found.2) := by
  rw [list, Rule.result_named]
  change ((Rule.char '(' >>= _) cursor).result = _
  rw [Rule.result_bind, Rule.char_of_rest hleft, Option.bind_some, result_behind_blanks,
    Rule.result_bind, hhead, Option.bind_some, Rule.result_bind]
  change ((Rule.many (item expr) named).result.bind _) = _
  rw [hitems, Option.bind_some, result_behind_blanks, Rule.result_bind]
  cases (Rule.char ')' (last.skip ';')).result <;> rfl

theorem list_eq_some (hread : (list expr cursor).result = some (sexp, next)) :
    ∃ rest word named items last, cursor.rest = '(' :: rest ∧
      (head (Cursor.skip ';' ⟨cursor.offset + 1, rest⟩)).result = some (word, named) ∧
      Rule.Repeats (item expr) named items last ∧
      (Rule.char ')' (last.skip ';')).result = some ((), next) ∧
      sexp = .list (Range.between cursor.offset next.offset) word items := by
  rw [list, Rule.result_named] at hread
  change ((Rule.char '(' >>= _) cursor).result = _ at hread
  obtain ⟨⟨⟩, opened, hleft, hinside⟩ := Rule.bind_eq_some.mp hread
  obtain ⟨rest, hrest, rfl⟩ := Rule.result_char hleft
  rw [result_behind_blanks] at hinside
  obtain ⟨word, named, hhead, hmore⟩ := Rule.bind_eq_some.mp hinside
  obtain ⟨items, last, hmany, hclose⟩ := Rule.bind_eq_some.mp hmore
  rw [result_behind_blanks] at hclose
  obtain ⟨⟨⟩, behind, hright, hdone⟩ := Rule.bind_eq_some.mp hclose
  cases hdone
  exact ⟨rest, word, named, items, last, hrest, hhead, .of_many hmany, hright, rfl⟩

theorem skip_of_exprWithin (hread : (exprWithin depth cursor).result = some (sexp, next)) :
    cursor.skip ';' = cursor := by
  cases depth with
  | zero => cases hread
  | succ depth =>
      rw [result_exprWithin, Option.or_eq_some_iff] at hread
      rcases hread with hlist | ⟨-, hatom⟩
      · obtain ⟨rest, -, -, -, -, hleft, -⟩ := list_eq_some hlist
        exact Cursor.skip_of_opens hleft (by decide) (by decide)
      · rw [result_anyAtom] at hatom
        obtain ⟨⟨kind, taken, rest⟩, htake, -⟩ := Option.map_eq_some_iff.mp hatom
        obtain ⟨htext, c, word, rfl, -, opens⟩ :=
          AtomKind.take_eq_some (AtomKind.takeFirst_eq_some htake)
        exact Cursor.skip_of_opens htext opens.blank opens.comment

def Advances (rule : Rule α) : Prop :=
  ∀ {cursor value next}, (rule cursor).result = some (value, next) →
    cursor.Reaches next ∧ cursor.offset < next.offset

theorem advances_item (advances : Advances expr) : Advances (item expr) := by
  intro cursor sexp next hread
  rw [result_item] at hread
  obtain ⟨reaches, hless⟩ := advances hread
  have hskip := Cursor.reaches_skip ';' cursor
  exact ⟨hskip.trans reaches, Nat.lt_of_le_of_lt hskip.offset_le hless⟩

theorem reaches_of_repeats (advances : Advances expr)
    (repeats : Rule.Repeats expr cursor items last) : cursor.Reaches last := by
  induction repeats with
  | nil cursor => exact .refl cursor
  | cons first later induction => exact (advances first).1.trans induction

theorem reaches_of_lexeme {take : List Char → Option Lexeme.Split}
    (htake : ∀ {text taken rest}, take text = some (taken, rest) → text = taken ++ rest)
    (hread : (Rule.lexeme take cursor).result = some (word, next)) : cursor.Reaches next := by
  rw [Rule.result_lexeme] at hread
  obtain ⟨split, hsplit, hboth⟩ := Option.map_eq_some_iff.mp hread
  cases hboth
  exact ⟨split.1, htake hsplit, rfl⟩

theorem reaches_of_head (hread : (head cursor).result = some (word, next)) :
    cursor.Reaches next := by
  rw [head, Rule.result_named] at hread
  exact reaches_of_lexeme (fun htake => (Lexeme.run_eq_some htake).1) hread

theorem advances_list (advances : Advances expr) : Advances (list expr) := by
  intro cursor sexp next hread
  obtain ⟨rest, word, named, items, last, hleft, hhead, hitems, hright, -⟩ := list_eq_some hread
  obtain ⟨behind, hclose, rfl⟩ := Rule.result_char hright
  have hword := reaches_of_head hhead
  have hbetween := reaches_of_repeats (advances_item advances) hitems
  have hinside := ((Cursor.reaches_skip ';' _).trans hword).trans
    (hbetween.trans (Cursor.reaches_skip ';' last))
  have hless := hinside.offset_le
  refine ⟨((Cursor.Reaches.step hleft).trans hinside).trans (.step hclose), ?_⟩
  simp only at hless ⊢
  omega

theorem advances_anyAtom : Advances anyAtom := by
  intro cursor sexp next hread
  rw [result_anyAtom] at hread
  obtain ⟨⟨kind, taken, rest⟩, htake, hboth⟩ := Option.map_eq_some_iff.mp hread
  cases hboth
  obtain ⟨htext, c, word, rfl, -⟩ := AtomKind.take_eq_some (AtomKind.takeFirst_eq_some htake)
  refine ⟨⟨c :: word, htext, rfl⟩, ?_⟩
  simp only [List.length_cons]
  omega

theorem advances_exprWithin (depth : Nat) : Advances (exprWithin depth) := by
  induction depth with
  | zero =>
      intro cursor sexp next hread
      cases hread
  | succ depth induction =>
      intro cursor sexp next hread
      rw [result_exprWithin, Option.or_eq_some_iff] at hread
      rcases hread with hlist | ⟨-, hatom⟩
      · exact advances_list induction hlist
      · exact advances_anyAtom hatom

def itemWithin (depth : Nat) : Rule Sexp :=
  item (exprWithin depth)

theorem result_itemWithin (depth : Nat) (cursor : Cursor) :
    (itemWithin depth cursor).result = (exprWithin depth (cursor.skip ';')).result :=
  result_item (exprWithin depth) cursor

theorem many_of_repeats (repeats : Rule.Repeats (itemWithin depth) cursor items last)
    (hstops : (itemWithin depth last).result = none) :
    (Rule.many (itemWithin depth) cursor).result = some (items, last) := by
  refine repeats.many (.inr hstops) fun hread => ?_
  obtain ⟨reaches, hless⟩ := advances_item (advances_exprWithin depth) hread
  have hlength := reaches.length_add
  omega

end SexpText

namespace Sexp

@[elab_as_elim]
theorem induct {motive : Sexp → Prop} (atom : ∀ kind text, motive (.atom kind text))
    (list : ∀ loc head items, (∀ item ∈ items, motive item) → motive (.list loc head items)) :
    ∀ sexp, motive sexp := by
  intro sexp
  refine Sexp.rec (motive_1 := motive) (motive_2 := fun items => ∀ item ∈ items, motive item)
    atom list ?_ ?_ sexp
  · intro other member
    cases member
  · intro first rest firstHolds restHolds other member
    cases member with
    | head => exact firstHolds
    | tail _ inTail => exact restHolds other inTail

def takeHead : List Char → Option Lexeme.Split :=
  Lexeme.run Lexeme.isWordStart fun c => Text.isWord c || c == '-'

inductive IsTaken : Sexp → Prop
  | atom {kind : AtomKind} {text : List Char} (htake : kind.take text = some (text, [])) :
      IsTaken (.atom kind text)
  | list {loc : Range} {head : List Char} {items : List Sexp}
      (hhead : takeHead head = some (head, [])) (each : ∀ item ∈ items, IsTaken item) :
      IsTaken (.list loc head items)

theorem take_whole {take : List Char → Option Lexeme.Split} (hlocal : Lexeme.Local take)
    {text taken rest : List Char} (htake : take text = some (taken, rest)) :
    take taken = some (taken, []) := by
  have hagain := hlocal htake (.nil rest)
  rwa [List.append_nil] at hagain

theorem yields_anyAtom : SexpText.anyAtom.Yields IsTaken := by
  have hatom : ∀ kind : AtomKind, (SexpText.atom kind).Yields IsTaken := by
    intro kind
    refine .named (.bind (.lexeme kind.take) ?_)
    rintro taken ⟨text, rest, htake⟩
    exact .pure (.atom (take_whole (AtomKind.local_take kind) htake))
  refine .named (.choice (hatom .nil) ?_)
  simp only [List.forall_mem_cons, hatom, true_and]
  exact List.forall_mem_nil _

theorem yields_list {expr : Rule Sexp} (hexpr : expr.Yields IsTaken) :
    (SexpText.list expr).Yields IsTaken := by
  have hlocal : Lexeme.Local takeHead := Lexeme.local_run (by decide) (by decide)
  refine .named (.bind (.any _) fun start _ =>
    .bind (.any _) fun _ _ => .bind (.any _) fun _ _ => ?_)
  refine .bind (.named (.lexeme _)) ?_
  rintro head ⟨text, rest, hhead⟩
  refine .bind (.many (.bind (.any _) fun _ _ => hexpr)) fun items each => ?_
  refine .bind (.any _) fun _ _ => .bind (.any _) fun _ _ => .bind (.any _) fun stop _ => ?_
  exact .pure (.list (take_whole hlocal hhead) each)

theorem yields_exprWithin (depth : Nat) :
    Rule.Yields (SexpText.exprWithin depth) IsTaken := by
  induction depth with
  | zero =>
      intro cursor misses sexp next hread
      cases hread
  | succ depth induction =>
      refine .named (.choice (yields_list induction) ?_)
      exact List.forall_mem_singleton.mpr yields_anyAtom

theorem isTaken_of_readAll {text : List Char} {sexp : Sexp}
    (hread : SexpText.document.readAll text = .ok sexp) : sexp.IsTaken := by
  have hexpr : SexpText.expr.Yields IsTaken := fun cursor => yields_exprWithin _ cursor
  refine Rule.readAll_yields (.bind (.any _) fun _ _ => .bind hexpr fun sexp taken => ?_) hread
  exact .bind (.any _) fun _ _ => .pure taken

end Sexp

namespace Value

def IsHead (type : String) : Prop :=
  Sexp.takeHead type.toList = some (type.toList, [])

def IsSexpAtom : Value → Prop
  | absent => True
  | bool _ => True
  | int i => Number.digitCount i ≤ AtomKind.maxDigits
  | float _ => True
  | str _ => True
  | sym name => IsSpelled name
  | _ => False

end Value

namespace Number

open Lexeme

theorem digitCount_intOfNumeral_le {text taken rest : List Char}
    (htake : integer text = some (taken, rest)) :
    digitCount (intOfNumeral taken) ≤ (taken.filter Text.isDigit).length := by
  obtain ⟨negative, digits, rfl, hsome, hdigits⟩ := signed_of_integer htake
  have hvalue : (intOfNumeral (signed negative digits)).natAbs = digitsValue 0 digits := by
    rw [intOfNumeral_signed negative hdigits]
    split
    · rw [Int.natAbs_neg, Int.natAbs_natCast]
    · exact Int.natAbs_natCast _
  rw [filter_isDigit_signed negative hdigits, digitCount, hvalue,
    Nat.length_toDigits_le_iff (by decide) (List.length_pos_iff.mpr hsome)]
  simpa using digitsValue_lt digits 0

end Number

namespace Sexp

open Value (IsHead IsSexpAtom)

theorem isSexpAtom_of_decode {kind : AtomKind} {text : List Char} {value : Value}
    (htake : kind.take text = some (text, [])) (hdecode : kind.decode chart text = .ok value) :
    value.IsSexpAtom := by
  cases kind with
  | nil | «true» | «false» | float =>
      cases hdecode
      trivial
  | symbol =>
      obtain ⟨-, name, rfl⟩ := Lexeme.symbol_eq_some htake
      cases hdecode
      rw [IsSexpAtom, Value.IsSpelled, List.drop_one, List.tail_cons, String.toList_ofList]
      exact htake
  | integer =>
      change AtomKind.decodeInteger text = _ at hdecode
      unfold AtomKind.decodeInteger at hdecode
      split at hdecode
      · cases hdecode
      · rename_i hlength
        cases hdecode
        exact Nat.le_trans (Number.digitCount_intOfNumeral_le htake) (Nat.le_of_not_lt hlength)
  | string =>
      simp only [AtomKind.decode] at hdecode
      split at hdecode
      · cases hdecode
        trivial
      · cases hdecode

theorem mem_of_toValues {items : List Sexp} {values : List Value}
    (hvalues : toValues chart items = .ok values) :
    ∀ value ∈ values, ∃ item ∈ items, item.toValue chart = .ok value := by
  induction items generalizing values with
  | nil =>
      cases hvalues
      exact List.forall_mem_nil _
  | cons item rest induction =>
      obtain ⟨first, hfirst, hmore⟩ := bind_ok hvalues
      obtain ⟨others, hothers, hdone⟩ := bind_ok hmore
      cases hdone
      refine List.forall_mem_cons.mpr ⟨⟨item, List.mem_cons_self, hfirst⟩, fun value member => ?_⟩
      obtain ⟨source, hsource, hvalue⟩ := induction hothers value member
      exact ⟨source, List.mem_cons_of_mem _ hsource, hvalue⟩

theorem builtOf_of_toValue {sexp : Sexp} {value : Value} (taken : sexp.IsTaken)
    (hvalue : sexp.toValue chart = .ok value) : value.BuiltOf IsHead IsSexpAtom := by
  induction taken generalizing value with
  | atom htake => exact .atom (isSexpAtom_of_decode htake hvalue)
  | list hhead each induction =>
      obtain ⟨children, hchildren, hdone⟩ := bind_ok hvalue
      cases hdone
      refine .node ?_ fun child member => ?_
      · rw [IsHead, String.toList_ofList]
        exact hhead
      · obtain ⟨item, hitem, hchild⟩ := mem_of_toValues hchildren child member
        exact induction item hitem hchild

end Sexp

namespace Value

theorem numbered_of_builtOf {value : Value} (built : value.BuiltOf IsHead IsSexpAtom) (next : Nat) :
    (value.numbered next).1.BuiltOf IsHead IsSexpAtom ∧
      (value.numbered next).1.nested = value.nested := by
  induction built generalizing next with
  | @atom value hatom =>
      cases value with
      | list items | tuple items => cases hatom
      | node id type loc children => cases hatom
      | _ => exact ⟨.atom hatom, rfl⟩
  | @node id type loc children htype each induction =>
      have hall : ∀ next, (∀ child ∈ (numberedAll next children).1,
          child.BuiltOf IsHead IsSexpAtom) ∧
          nestedAll (numberedAll next children).1 = nestedAll children := by
        clear each
        induction children with
        | nil => exact fun next => ⟨List.forall_mem_nil _, rfl⟩
        | cons child rest rests =>
            intro next
            obtain ⟨hchild, hrest⟩ := List.forall_mem_cons.mp induction
            obtain ⟨hfirst, hsame⟩ := hchild next
            obtain ⟨hothers, hequal⟩ := rests hrest (child.numbered next).2
            refine ⟨List.forall_mem_cons.mpr ⟨hfirst, hothers⟩, ?_⟩
            simp only [numberedAll, nestedAll, hsame, hequal]
      obtain ⟨hchildren, hnested⟩ := hall next
      refine ⟨.node htype hchildren, ?_⟩
      simp only [numbered, nested, hnested]

end Value

namespace Sexp

theorem result_document (cursor : Cursor) :
    (SexpText.document cursor).result =
      (SexpText.expr (cursor.skip ';')).result.map fun found => (found.1, found.2.skip ';') := by
  rw [SexpText.document, SexpText.result_behind_blanks, Rule.result_bind]
  cases (SexpText.expr (cursor.skip ';')).result with
  | none => rfl
  | some found =>
      rw [Option.bind_some, SexpText.result_behind_blanks]
      rfl

theorem readDocument_eq_ok_iff {text : String} {doc : Document} :
    readDocument chart text = .ok doc ↔
      ∃ sexp root, SexpText.document.readAll text.toList = .ok sexp ∧
        sexp.toValue chart = .ok (Node.toValue root) ∧ doc = Document.ofNode root text := by
  constructor
  · intro hread
    obtain ⟨sexp, hsexp, hlater⟩ := bind_ok hread
    obtain ⟨value, hvalue, hdone⟩ := bind_ok hlater
    cases hnode : value.node? with
    | none =>
        rw [hnode] at hdone
        cases hdone
    | some root =>
        rw [hnode] at hdone
        cases hdone
        rw [Value.eq_toValue hnode] at hvalue
        exact ⟨sexp, root, mapError_eq_ok.mp hsexp, mapError_eq_ok.mp hvalue, rfl⟩
  · rintro ⟨sexp, root, hsexp, hvalue, rfl⟩
    rw [readDocument, mapError_eq_ok.mpr hsexp]
    change (((sexp.toValue chart).mapError Fault.atom) >>= _) = _
    rw [mapError_eq_ok.mpr hvalue]
    rfl

end Sexp

namespace Document

theorem toValue_root_ofNode (root : Node) (text : String) :
    (ofNode root text).root.toValue = (root.toValue.numbered 0).1 := rfl

end Document

end TreeMatch
