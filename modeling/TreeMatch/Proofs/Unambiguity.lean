import Mathlib
import TreeMatch.Proofs.Decimals
import TreeMatch.Proofs.Relocation

/-! The s-expression of a pattern tells its tree: where one part ends and the next begins can be
seen from the characters, and so can what an atom is. -/

namespace TreeMatch

variable {chart : Text.CodeChart}

open Grammar.Lexeme (Follows)

/-- Words without blanks and closing parentheses are told apart from what follows them. -/
theorem words_unique {word other rest rest' : List Char}
    (hword : ∀ c ∈ word, c ≠ ' ' ∧ c ≠ ')') (hother : ∀ c ∈ other, c ≠ ' ' ∧ c ≠ ')')
    (hrest : Follows [] rest) (hrest' : Follows [] rest')
    (hsame : word ++ rest = other ++ rest') : word = other ∧ rest = rest' := by
  let test : Char → Bool := fun c => decide (c ≠ ' ' ∧ c ≠ ')')
  have hspan {front back : List Char} (hfront : ∀ c ∈ front, c ≠ ' ' ∧ c ≠ ')')
      (hback : Follows [] back) : (front ++ back).span test = (front, back) :=
    Grammar.Lexeme.span_of_stops (fun c member => decide_eq_true (hfront c member))
      (hback.stops (by decide) (by decide) fun c hhead => nomatch hhead)
  have hboth := (hspan hword hrest).symm.trans (hsame ▸ hspan hother hrest')
  exact ⟨congrArg Prod.fst hboth, congrArg Prod.snd hboth⟩

namespace Number

theorem IsNumberChar.inside {c : Char} (hchar : IsNumberChar c) :
    c ≠ ' ' ∧ c ≠ ')' ∧ c ≠ '"' ∧ c ≠ '(' := by
  refine ⟨?_, ?_, ?_, ?_⟩ <;> · rintro rfl; revert hchar; decide

theorem isNumberChar_toString (i : Int) : ∀ c ∈ (toString i).toList, IsNumberChar c := by
  intro c member
  rcases mem_toString i member with rfl | hdigit
  · exact .inr List.mem_cons_self
  · exact .inl hdigit

theorem Binary64.exists_mark {x : Binary64} (defined : x.IsDefined) :
    ∃ c ∈ x.text.toList, c ≠ '-' ∧ c.isDigit = false := by
  cases x with
  | nan label => exact absurd rfl (defined label)
  | infinite negative => cases negative <;> exact ⟨'i', by decide, by decide⟩
  | finite negative mantissa exponent =>
      obtain ⟨numeral, hwritten, form⟩ := numeralForm_text negative mantissa exponent
      have hmark : ∃ c ∈ numeral, c ≠ '-' ∧ c.isDigit = false := by
        cases form with
        | positional => exact ⟨'.', by simp, by decide⟩
        | scientific => exact ⟨'e', by simp, by decide⟩
        | pointed => exact ⟨'.', by simp, by decide⟩
      obtain ⟨c, member, hc⟩ := hmark
      rw [hwritten]
      cases negative with
      | true => exact ⟨c, List.mem_cons_of_mem _ member, hc⟩
      | false => exact ⟨c, member, hc⟩

end Number

namespace Value

open Number (IsNumberChar)

def IsPayload : Value → Prop
  | int _ => True
  | str _ => True
  | float x => x.IsDefined ∧ x.IsCanonical
  | _ => False

section Payloads

variable {value other : Value} {rest rest' : List Char}

/-- Numbers are written with their own characters, and strings in quotes. -/
theorem IsPayload.cases_pretty (payload : value.IsPayload) :
    (∃ s, value = .str s) ∨ ∀ c ∈ value.pretty.toList, IsNumberChar c := by
  cases value with
  | str s => exact .inl ⟨s, rfl⟩
  | int i => exact .inr (Number.isNumberChar_toString i)
  | float x => exact .inr (Number.Binary64.isNumberChar_text payload.1 payload.2)
  | absent | bool | sym | list | tuple | foreign | node => exact payload.elim

theorem head_of_numberChars {word : List Char} (hword : ∀ c ∈ word, IsNumberChar c)
    (hrest : Follows [] rest) {c : Char} (hhead : (word ++ rest).head? = some c) :
    c ≠ '"' ∧ c ≠ '(' := by
  cases word with
  | nil =>
      rcases hrest c hhead with hnone | rfl | rfl
      · cases hnone
      · exact ⟨by decide, by decide⟩
      · exact ⟨by decide, by decide⟩
  | cons d word =>
      cases hhead
      exact (hword c List.mem_cons_self).inside.2.2

theorem IsPayload.head_pretty (payload : value.IsPayload) (hrest : Follows [] rest)
    {behind : List Char} : value.pretty.toList ++ rest ≠ '(' :: behind := by
  intro hsame
  rcases payload.cases_pretty with ⟨s, rfl⟩ | hchars
  · rw [pretty, Text.toList_escaped] at hsame
    cases hsame
  · exact (head_of_numberChars hchars hrest (by rw [hsame]; rfl)).2 rfl

theorem IsPayload.eq_of_pretty (payload : value.IsPayload) (hother : other.IsPayload)
    (hnumber : ∀ s, value ≠ .str s) (hnumber' : ∀ s, other ≠ .str s)
    (hsame : value.pretty = other.pretty) : value = other := by
  have hapart {i : Int} {x : Number.Binary64} (defined : x.IsDefined) : toString i ≠ x.text := by
    intro htext
    obtain ⟨c, member, hminus, hdigit⟩ := Number.Binary64.exists_mark defined
    rw [← htext] at member
    rcases Number.mem_toString i member with rfl | hfound
    · exact hminus rfl
    · rw [hfound] at hdigit
      cases hdigit
  cases value with
  | str s => exact absurd rfl (hnumber s)
  | int i =>
      cases other with
      | str s => exact absurd rfl (hnumber' s)
      | int j =>
          have hvalue := Number.intOfNumeral_toString i
          rw [show toString i = toString j from hsame, Number.intOfNumeral_toString] at hvalue
          rw [hvalue]
      | float y => exact absurd hsame (hapart hother.1)
      | absent | bool | sym | list | tuple | foreign | node => exact hother.elim
  | float x =>
      cases other with
      | str s => exact absurd rfl (hnumber' s)
      | int j => exact absurd hsame.symm (hapart payload.1)
      | float y =>
          exact congrArg float
            (Number.Binary64.text_injective payload.1 payload.2 hother.1 hother.2 hsame)
      | absent | bool | sym | list | tuple | foreign | node => exact hother.elim
  | absent | bool | sym | list | tuple | foreign | node => exact payload.elim

theorem IsPayload.unique (payload : value.IsPayload) (hother : other.IsPayload)
    (hrest : Follows [] rest) (hrest' : Follows [] rest')
    (hsame : value.pretty.toList ++ rest = other.pretty.toList ++ rest') :
    value = other ∧ rest = rest' := by
  have hquote (s : String) (rest : List Char) :
      ((str s).pretty.toList ++ rest).head? = some '"' := by
    rw [pretty, Text.toList_escaped]
    rfl
  rcases payload.cases_pretty with ⟨s, rfl⟩ | hchars
  · rcases hother.cases_pretty with ⟨s', rfl⟩ | hchars'
    · -- Both literals are what is read at the front of the same text.
      have hread := Grammar.Lexeme.local_string (Text.string_escaped s) hrest
      have hread' := Grammar.Lexeme.local_string (Text.string_escaped s') hrest'
      have htext : (Text.escaped s).toList ++ rest = (Text.escaped s').toList ++ rest' := hsame
      rw [htext, hread'] at hread
      obtain ⟨hescaped, hbehind⟩ := Prod.mk.inj (Option.some.inj hread)
      have hvalue := Text.decodeLiteral_escaped Text.basicLatin s
      rw [← hescaped, Text.decodeLiteral_escaped] at hvalue
      exact ⟨congrArg str (Except.ok.inj hvalue).symm, hbehind.symm⟩
    · have hhead := hquote s rest
      rw [hsame] at hhead
      exact absurd rfl (head_of_numberChars hchars' hrest' hhead).1
  · rcases hother.cases_pretty with ⟨s', rfl⟩ | hchars'
    · have hhead := hquote s' rest'
      rw [← hsame] at hhead
      exact absurd rfl (head_of_numberChars hchars hrest hhead).1
    · -- Neither number holds a blank or a parenthesis, so each ends where one of these stands.
      have hplain {word : List Char} (hword : ∀ c ∈ word, IsNumberChar c) :
          ∀ c ∈ word, c ≠ ' ' ∧ c ≠ ')' :=
        fun c member => ⟨(hword c member).inside.1, (hword c member).inside.2.1⟩
      obtain ⟨hword, hbehind⟩ :=
        words_unique (hplain hchars) (hplain hchars') hrest hrest' hsame
      have hnumber {value : Value} (hvalue : ∀ c ∈ value.pretty.toList, IsNumberChar c) :
          ∀ s, value ≠ .str s := by
        rintro s rfl
        refine (hvalue '"' ?_).inside.2.2.1 rfl
        rw [pretty, Text.toList_escaped]
        exact List.mem_cons_self
      exact ⟨payload.eq_of_pretty hother (hnumber hchars) (hnumber hchars')
        (String.toList_inj.mp hword), hbehind⟩

end Payloads

end Value

namespace Term

inductive IsPrintable : Term → Prop
  | atom {value : Value} (payload : value.IsPayload) : IsPrintable (.atom value)
  | node {key : Nat} {tag : String} {loc : Option Range} {children : List Term}
      (htag : ∀ c ∈ tag.toList, c ≠ ' ' ∧ c ≠ ')')
      (each : ∀ child ∈ children, IsPrintable child) :
      IsPrintable (.node key tag loc children)

def childrenText (children : List Term) : List Char :=
  children.flatMap fun child => ' ' :: child.pretty.toList

theorem childrenText_append (child : Term) (others : List Term) (rest : List Char) :
    childrenText (child :: others) ++ rest =
      ' ' :: (child.pretty.toList ++ (childrenText others ++ rest)) := by
  rw [childrenText, List.flatMap_cons, List.cons_append, List.cons_append, List.append_assoc]
  rfl

theorem toList_pretty_node_append (key : Nat) (tag : String) (loc : Option Range)
    (children : List Term) (rest : List Char) :
    (node key tag loc children).pretty.toList ++ rest =
      '(' :: (tag.toList ++ (childrenText children ++ ')' :: rest)) := by
  have hall : (prettyAll children).flatMap (fun child => ' ' :: child.toList) =
      childrenText children := by
    induction children with
    | nil => rfl
    | cons child others induction =>
        rw [prettyAll, List.flatMap_cons, induction]
        rfl
  rw [pretty, Value.toList_nodeText, hall]
  simp

theorem follows_childrenText (children : List Term) (rest : List Char) :
    Follows [] (childrenText children ++ ')' :: rest) := by
  intro c hhead
  cases children with
  | nil =>
      cases hhead
      exact .inr (.inr rfl)
  | cons child others =>
      cases hhead
      exact .inr (.inl rfl)

/-- Of two terms with the same text in front of two rests, the first is read as the other. -/
def IsUnique (term : Term) : Prop :=
  ∀ {other : Term} {rest rest' : List Char}, other.IsPrintable → Follows [] rest →
    Follows [] rest' → term.pretty.toList ++ rest = other.pretty.toList ++ rest' →
    term.unplaced = other.unplaced ∧ rest = rest'

theorem children_unique {children children' : List Term} {rest rest' : List Char}
    (each : ∀ child ∈ children, child.IsUnique) (each' : ∀ child ∈ children', child.IsPrintable)
    (hsame : childrenText children ++ ')' :: rest = childrenText children' ++ ')' :: rest') :
    unplacedAll children = unplacedAll children' ∧ rest = rest' := by
  induction children generalizing children' with
  | nil =>
      cases children' with
      | nil => exact ⟨rfl, (List.cons.inj hsame).2⟩
      | cons child' others' => cases hsame
  | cons child others induction =>
      cases children' with
      | nil => cases hsame
      | cons child' others' =>
          rw [childrenText_append, childrenText_append] at hsame
          obtain ⟨hchild, hbehind⟩ := each child List.mem_cons_self
            (each' child' List.mem_cons_self) (follows_childrenText others rest)
            (follows_childrenText others' rest') (List.cons.inj hsame).2
          obtain ⟨hothers, hrest⟩ := induction
            (fun other member => each other (List.mem_cons_of_mem _ member))
            (fun other member => each' other (List.mem_cons_of_mem _ member)) hbehind
          exact ⟨by rw [unplacedAll, unplacedAll, hchild, hothers], hrest⟩

theorem IsPrintable.isUnique {term : Term} (printable : term.IsPrintable) : term.IsUnique := by
  induction printable with
  | atom payload =>
      intro other rest rest' hother hrest hrest' hsame
      cases hother with
      | atom payload' =>
          obtain ⟨rfl, hbehind⟩ := payload.unique payload' hrest hrest' hsame
          exact ⟨rfl, hbehind⟩
      | node htag' each' =>
          rw [toList_pretty_node_append] at hsame
          exact absurd hsame (payload.head_pretty hrest)
  | @node key tag loc children htag each induction =>
      intro other rest rest' hother hrest hrest' hsame
      cases hother with
      | atom payload' =>
          rw [toList_pretty_node_append] at hsame
          exact absurd hsame.symm (payload'.head_pretty hrest')
      | @node key' tag' loc' children' htag' each' =>
          rw [toList_pretty_node_append, toList_pretty_node_append] at hsame
          obtain ⟨hword, hbehind⟩ := words_unique htag htag' (follows_childrenText children rest)
            (follows_childrenText children' rest') (List.cons.inj hsame).2
          obtain ⟨hchildren, hend⟩ := children_unique induction each' hbehind
          exact ⟨by rw [unplaced, unplaced, String.toList_inj.mp hword, hchildren], hend⟩

end Term

def Leaf.IsPrintable (leaf : Leaf) : Prop :=
  ∀ value ∈ leaf.atoms, value.IsPayload

namespace Number.Binary64

theorem isDefined_ofDecimal (negative : Bool) (digits : Nat) (power : Int) :
    (ofDecimal negative digits power).IsDefined := by
  have hfinite (mantissa : Nat) (exponent : Int) : (finite negative mantissa exponent).IsDefined :=
    fun _ => nofun
  have hinfinite : (infinite negative).IsDefined := fun _ => nofun
  have hfraction (numerator denominator : Nat) :
      (ofFraction negative numerator denominator).IsDefined := by
    unfold ofFraction
    dsimp only
    split
    · exact hfinite _ _
    · split
      · split
        · exact hinfinite
        · exact hfinite _ _
      · split
        · exact hinfinite
        · exact hfinite _ _
  unfold ofDecimal
  dsimp only
  split
  · exact hfinite _ _
  split
  · exact hinfinite
  split
  · exact hfinite _ _
  split
  · exact hfraction _ _
  · exact hfraction _ _

end Number.Binary64

theorem Leaf.isPrintable_decode (loc : Range) (lexed : Lexed) (value : Leaf)
    (hdecode : decode chart loc lexed = .ok value) : value.IsPrintable := by
  have hnone : ∀ value ∈ ([] : List Value), value.IsPayload := List.forall_mem_nil _
  have hone {value : Value} (payload : value.IsPayload) : ∀ other ∈ [value], other.IsPayload :=
    List.forall_mem_singleton.mpr payload
  obtain ⟨kind, taken⟩ := lexed
  cases kind with
  | number =>
      change decodeNumber taken = _ at hdecode
      unfold decodeNumber at hdecode
      split at hdecode
      · cases hdecode
        exact hone ⟨Number.Binary64.isDefined_ofDecimal _ _ _,
          Number.Binary64.isCanonical_ofDecimal _ _ _⟩
      · split at hdecode <;> cases hdecode
        exact hone trivial
  | string =>
      change decodeString chart loc taken = _ at hdecode
      unfold decodeString at hdecode
      split at hdecode <;> cases hdecode
      exact hone trivial
  | param =>
      change decodeParam (taken.drop 1) = _ at hdecode
      unfold decodeParam at hdecode
      split at hdecode
      · split at hdecode <;> cases hdecode
        exact hone trivial
      · cases hdecode
        exact hone trivial
  | wildcard =>
      cases hdecode
      unfold IsPrintable atoms
      dsimp only
      split
      · exact hnone
      · exact hone trivial
  | rest | nil =>
      cases hdecode
      exact hnone
  | symbol | predicate | nodeType | punct =>
      cases hdecode
      exact hone trivial

namespace Pattern

theorem isPrintable_termsFrom {patterns : List (Pattern Leaf)}
    (each : ∀ pattern ∈ patterns, ∀ next, (pattern.termFrom next).IsPrintable) (next : Nat) :
    ∀ child ∈ termsFrom next patterns, child.IsPrintable := by
  induction patterns generalizing next with
  | nil => exact List.forall_mem_nil _
  | cons pattern rest induction =>
      exact List.forall_mem_cons.mpr ⟨each pattern List.mem_cons_self next,
        induction (fun other member => each other (List.mem_cons_of_mem _ member)) _⟩

theorem isPrintable_termFrom {pattern : Pattern Leaf} (hleaves : pattern.EachLeaf Leaf.IsPrintable)
    (next : Nat) : (pattern.termFrom next).IsPrintable := by
  induction pattern using induct generalizing next with
  | leaf loc value =>
      have htag : ∀ kind : TokenKind, ∀ c ∈ kind.name.toList, c ≠ ' ' ∧ c ≠ ')' := by
        intro kind
        cases kind <;> exact Number.forall_mem_of_all (by decide)
      rw [termFrom_leaf]
      refine .node (htag value.kind) fun child member => ?_
      obtain ⟨atom, hatom, rfl⟩ := List.mem_map.mp member
      exact .atom ((eachLeaf_leaf loc value).mp hleaves atom hatom)
  | marked loc mark inner induction =>
      rw [termFrom_marked]
      have htag : ∀ c ∈ mark.tag.toList, c ≠ ' ' ∧ c ≠ ')' := by
        cases mark <;> exact Number.forall_mem_of_all (by decide)
      refine .node htag (List.forall_mem_singleton.mpr ?_)
      exact induction ((eachLeaf_marked loc mark inner).mp hleaves) _
  | repeated loc inner quantity induction =>
      rw [termFrom_repeated]
      refine .node (Number.forall_mem_of_all (by decide))
        (List.forall_mem_cons.mpr ⟨?_, List.forall_mem_singleton.mpr ?_⟩)
      · exact induction ((eachLeaf_repeated loc inner quantity).mp hleaves) _
      · exact .atom trivial
  | grouped loc bracket first others firstHolds othersHold =>
      obtain ⟨hfirst, hothers⟩ := (eachLeaf_grouped loc bracket first others).mp hleaves
      rw [termFrom_grouped]
      have htag : ∀ c ∈ bracket.tag.toList, c ≠ ' ' ∧ c ≠ ')' := by
        cases bracket <;> exact Number.forall_mem_of_all (by decide)
      have hbehind := isPrintable_termsFrom fun other member =>
        othersHold other member (hothers other member)
      exact .node htag (List.forall_mem_cons.mpr ⟨firstHolds hfirst _, hbehind _⟩)

theorem isPrintable_of_read {text : List Char} {pattern : Pattern Leaf}
    (hread : Pattern.read chart text = .ok pattern) : pattern.toTerm.IsPrintable := by
  obtain ⟨lexed, -, hdecoded⟩ := lexed_of_read hread
  have hany : lexed.EachLeaf fun _ => True := fun _ _ _ => trivial
  have hdecode (loc : Range) (lexed : Lexed) (value : Leaf)
      (hvalue : Leaf.decode chart loc lexed = .ok value) (_ : True) : value.IsPrintable :=
    Leaf.isPrintable_decode loc lexed value hvalue
  exact isPrintable_termFrom (eachLeaf_decodeLeaves hdecode lexed pattern hdecoded hany) 0

/-- Patterns that are printed alike are alike but for their places. -/
theorem unplaced_of_pretty {text text' : List Char} {pattern pattern' : Pattern Leaf}
    (hread : Pattern.read chart text = .ok pattern)
    (hread' : Pattern.read chart text' = .ok pattern')
    (hsame : pattern.toTerm.pretty = pattern'.toTerm.pretty) :
    pattern.toTerm.unplaced = pattern'.toTerm.unplaced ∧
      Term.equal pattern.toTerm pattern'.toTerm = true := by
  have hunplaced := ((isPrintable_of_read hread).isUnique (isPrintable_of_read hread')
    (.nil []) (.nil []) (by rw [hsame])).1
  exact ⟨hunplaced, Term.equal_of_unplaced hunplaced⟩

/-- A number and a string in other words, with a bracket in the string. -/
theorem unplaced_of_pretty_escaped :
    ∃ pattern pattern', Pattern.read Text.basicLatin "(a -07 \"(\")".toList = .ok pattern ∧
      Pattern.read Text.basicLatin "( a -7 \"\\x28\")".toList = .ok pattern' ∧
      pattern.toTerm.pretty = pattern'.toTerm.pretty ∧
      pattern.toTerm.unplaced = pattern'.toTerm.unplaced := by
  let pattern : Pattern Leaf := .grouped ⟨0, 11⟩ .sequence (.leaf ⟨1, 1⟩ (.nodeType "a"))
    [.leaf ⟨3, 3⟩ (.int (-7)), .leaf ⟨7, 3⟩ (.string "(")]
  let pattern' : Pattern Leaf := .grouped ⟨0, 14⟩ .sequence (.leaf ⟨2, 1⟩ (.nodeType "a"))
    [.leaf ⟨4, 2⟩ (.int (-7)), .leaf ⟨7, 6⟩ (.string "(")]
  have hread : Pattern.read Text.basicLatin "(a -07 \"(\")".toList = .ok pattern := by
    decide +kernel
  have hread' : Pattern.read Text.basicLatin "( a -7 \"\\x28\")".toList = .ok pattern' := by
    decide +kernel
  have hsame : pattern.toTerm.pretty = pattern'.toTerm.pretty := rfl
  exact ⟨pattern, pattern', hread, hread', hsame, (unplaced_of_pretty hread hread' hsame).1⟩

end Pattern

end TreeMatch
