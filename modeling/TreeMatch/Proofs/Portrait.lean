import TreeMatch.Proofs.Calling
import TreeMatch.Proofs.Completeness
import TreeMatch.Proofs.Lines
import TreeMatch.Proofs.Printing

/-! The s-expression of a tree, read as a pattern, is a portrait of the tree: it matches what is
structurally the same and nothing else. -/

namespace TreeMatch

variable {chart : Text.CodeChart}

open Grammar

namespace Value

mutual

/-- Structurally the same: the same types and as many children, and equal atoms of one type. -/
def alike : Value → Value → Bool
  | node _ type _ children, other =>
    match other with
    | node _ type' _ children' => type == type' && alikeAll children children'
    | _ => false
  | atom, other => other.identicalTo atom
termination_by structural value => value

def alikeAll : List Value → List Value → Bool
  | [], [] => true
  | child :: rest, other :: others => alike child other && alikeAll rest others
  | _, _ => false
termination_by structural values => values

end

structure IsPlainType (type : String) : Prop where
  word : ∃ c rest, type.toList = c :: rest ∧ Text.isAsciiLower c = true ∧
    ∀ d ∈ rest, Text.isWord d = true
  other : type ≠ "nil"

/-- An atom that a pattern can hold: nothing, an integer that is not too long, a string, or a
symbol that can be written. -/
def IsPlainAtom : Value → Prop
  | absent => True
  | int i => Number.digitCount i ≤ maxIntegerDigits
  | str _ => True
  | sym name => IsSpelled name
  | _ => False

end Value

namespace Leaf

def atom? : Leaf → Option Value
  | nil => some .absent
  | int value => some (.int value)
  | string value => some (.str value)
  | symbol name => some (.sym name)
  | _ => none

def IsPlain : Leaf → Prop
  | nodeType _ => True
  | leaf => leaf.atom?.isSome = true

theorem holds_of_atom? {leaf : Leaf} {value : Value} (hatom : leaf.atom? = some value)
    (scene : Scene) (subject : Value) : leaf.holds scene subject = value.alike subject := by
  cases leaf with
  | nil =>
      cases hatom
      cases subject <;> rfl
  | int expected | string expected | symbol expected =>
      cases hatom
      cases subject <;> rfl
  | _ => cases hatom

theorem ne_rest_of_isPlain {leaf : Leaf} (plain : leaf.IsPlain) : leaf ≠ .rest := by
  rintro rfl
  cases plain

theorem isPlain_of_atom? {leaf : Leaf} {value : Value} (hatom : leaf.atom? = some value) :
    leaf.IsPlain := by
  cases leaf with
  | nodeType type => trivial
  | _ => exact Option.isSome_of_eq_some hatom

theorem isFinite_of_isPlain {leaf : Leaf} (plain : leaf.IsPlain) : leaf.IsFinite := by
  cases leaf with
  | float x => cases plain
  | _ => trivial

theorem cause?_of_isPlain {leaf : Leaf} (plain : leaf.IsPlain) (standing : Standing) :
    leaf.cause? standing = none := by
  cases leaf with
  | rest | position index | named name | predicate name => cases plain
  | _ => rfl

end Leaf

namespace Pattern

/-- The pattern matches what is like the value and nothing else, wherever it stands. -/
structure Portrays (pattern : Pattern Leaf) (value : Value) : Prop where
  matching : ∀ scene subject,
    matching? scene pattern [subject] = if value.alike subject then some [] else none
  fixed : pattern.isVariadic = false
  unrejected : ∀ standing, pattern.rejection? standing = none
  plain : pattern.EachLeaf Leaf.IsPlain

section Plain

variable {pattern : Pattern Leaf} (plain : pattern.EachLeaf Leaf.IsPlain)
include plain

theorem names_of_plain : pattern.names = [] := by
  rw [names, List.filterMap_eq_nil_iff]
  intro part member
  cases part with
  | leaf loc value =>
      cases value with
      | named name => cases plain loc _ member
      | _ => rfl
  | _ => rfl

theorem lastPosition_of_plain : pattern.lastPosition = 0 := by
  have hnone : pattern.walk.filterMap parameterPosition? = [] := by
    rw [List.filterMap_eq_nil_iff]
    intro part member
    cases part with
    | leaf loc value =>
        cases value with
        | position index => cases plain loc _ member
        | _ => rfl
    | _ => rfl
  rw [lastPosition, hnone]
  rfl

end Plain

theorem portrays_leaf {leaf : Leaf} {value : Value} (hatom : leaf.atom? = some value)
    (loc : Range) : (Pattern.leaf loc leaf).Portrays value := by
  have plain := Leaf.isPlain_of_atom? hatom
  constructor
  · intro scene subject
    rw [matching?, Leaf.holds_of_atom? hatom]
    exact Leaf.ne_rest_of_isPlain plain
  · cases leaf with
    | rest => cases hatom
    | _ => rfl
  · intro standing
    rw [rejection?, Leaf.cause?_of_isPlain plain]
    rfl
  · exact (eachLeaf_leaf loc leaf).mpr plain

section Sequences

variable {patterns : List (Pattern Leaf)} {children : List Value}

theorem matchingTerms?_portraits (each : List.Forall₂ Portrays patterns children) (scene : Scene)
    (others : List Value) :
    matchingTerms? scene patterns others =
      if Value.alikeAll children others then some [] else none := by
  induction each generalizing others with
  | nil => cases others <;> rfl
  | @cons pattern child patterns children portrays each induction =>
      rw [matchingTerms?]
      simp only [share_fixed portrays.fixed]
      cases others with
      | nil =>
          have hnone : matching? scene pattern [] = none := by
            rw [Option.eq_none_iff_forall_ne_some]
            intro captures hmatch
            cases length_of_matching? portrays.fixed hmatch
          rw [List.take_nil, hnone]
          rfl
      | cons other others =>
          change (matching? scene pattern [other] >>= fun front =>
            matchingTerms? scene patterns others >>= fun back => pure (front ++ back)) = _
          rw [portrays.matching, induction, Value.alikeAll]
          cases child.alike other <;> cases Value.alikeAll children others <;> rfl

theorem rejectionAmong?_portraits (each : List.Forall₂ Portrays patterns children)
    (standing : Standing) : rejectionAmong? standing patterns = none := by
  induction each with
  | nil => rfl
  | cons portrays each induction =>
      rw [rejectionAmong?, portrays.unrejected, induction]
      rfl

theorem forall_portraits (each : List.Forall₂ Portrays patterns children) :
    ∀ pattern ∈ patterns, pattern.isVariadic = false ∧ pattern.EachLeaf Leaf.IsPlain := by
  induction each with
  | nil => exact List.forall_mem_nil _
  | cons portrays each induction =>
      exact List.forall_mem_cons.mpr ⟨⟨portrays.fixed, portrays.plain⟩, induction⟩

theorem portrays_sequence (each : List.Forall₂ Portrays patterns children) (loc headLoc : Range)
    (id : Nat) (type : String) (place : Option Range) :
    (grouped loc .sequence (leaf headLoc (.nodeType type)) patterns).Portrays
      (.node id type place children) := by
  constructor
  · intro scene subject
    rw [matching?]
    cases subject with
    | node id' type' place' others =>
        change ((if type' == type then some [] else none) >>= fun front =>
          matchingTerms? scene patterns others >>= fun back => pure (front ++ back)) = _
        rw [matchingTerms?_portraits each, Value.alike, BEq.comm (a := type')]
        cases type == type' <;> cases Value.alikeAll children others <;> rfl
    | _ => rfl
  · rfl
  · intro standing
    have layout : Layout patterns :=
      .fixed patterns fun pattern member => (forall_portraits each pattern member).1
    rw [rejection?, crowding?_of_layout layout, rejectionAmong?_portraits each]
    rfl
  · refine (eachLeaf_grouped ..).mpr ⟨(eachLeaf_leaf ..).mpr trivial, fun pattern member => ?_⟩
    exact (forall_portraits each pattern member).2

end Sequences

end Pattern

namespace PatternText

open Lexeme (Follows)

variable {rest : List Char}

theorem ends_of_follows {pattern : Pattern Lexed} {offset : Nat} (hfollows : Follows [] rest) :
    pattern.Ends ⟨offset, rest⟩ := by
  intro _ quantity hhead
  rcases hfollows _ hhead with hend | hspace | hclose
  · cases hend
  · revert hspace
    cases quantity <;> decide
  · revert hclose
    cases quantity <;> decide

end PatternText

structure IsWord (word : List Char) (kind : TokenKind) (leaf : Leaf) : Prop where
  listed : kind ∈ TokenKind.leafOrder
  takes : kind.take word = some (word, [])
  other : kind = .nodeType → word ≠ "nil".toList
  decodes : ∀ chart loc, Leaf.decode chart loc ⟨kind, word⟩ = .ok leaf

/-- A word is read as the same leaf wherever no lexeme reads on behind it. -/
theorem occupies_of_isWord {word rest : List Char} {kind : TokenKind} {leaf : Leaf}
    (isWord : IsWord word kind leaf) (hfollows : Lexeme.Follows [] rest) (start : Nat) :
    (Pattern.leaf (Range.between start (start + word.length)) ⟨kind, word⟩).Occupies
      ⟨start, word ++ rest⟩ ⟨start + word.length, rest⟩ := by
  have htake := TokenKind.local_take kind isWord.takes hfollows
  exact ⟨TokenKind.takeFirst_of_take isWord.listed htake isWord.other, rfl, rfl⟩

namespace Value

theorem isWord_type {type : String} (plain : IsPlainType type) :
    IsWord type.toList .nodeType (.nodeType type) := by
  obtain ⟨c, rest, htype, hfirst, hrest⟩ := plain.word
  constructor
  · decide
  · refine Lexeme.notBefore_eq_some_iff.mpr ⟨?_, fun c hhead => nomatch hhead⟩
    refine Lexeme.run_eq_some_iff.mpr
      ⟨c, rest, htype, ?_, hfirst, hrest, fun c hhead => nomatch hhead⟩
    exact (List.append_nil _).symm
  · exact fun _ hnil => plain.other (String.toList_inj.mp hnil)
  · intro chart loc
    rw [Leaf.decode, String.ofList_toList]

theorem isWord_int {i : Int} (hdigits : Number.digitCount i ≤ maxIntegerDigits) :
    IsWord (toString i).toList .number (.int i) := by
  constructor
  · decide
  · refine Lexeme.notBefore_eq_some_iff.mpr ⟨Number.number_toString i, fun c hhead => nomatch hhead⟩
  · exact fun hkind => nomatch hkind
  · intro chart loc
    have hpoint : (toString i).toList.contains '.' = false := by
      rw [List.contains_eq_mem, decide_eq_false_iff_not]
      intro member
      rcases Number.mem_toString i member with hminus | hdigit
      · revert hminus
        decide
      · revert hdigit
        decide
    have hcount : ((toString i).toList.filter Text.isDigit).length ≤ maxIntegerDigits := by
      rw [Number.filter_isDigit_toString]
      exact hdigits
    change Leaf.decodeNumber (toString i).toList = _
    rw [Leaf.decodeNumber, hpoint, if_neg Bool.false_ne_true, if_neg (Nat.not_lt.mpr hcount),
      Number.intOfNumeral_toString]

theorem exists_isWord {value : Value} (plain : IsPlainAtom value) :
    ∃ kind leaf, IsWord value.pretty.toList kind leaf ∧ leaf.atom? = some value := by
  cases value with
  | absent => exact ⟨.nil, .nil, ⟨by decide, by decide, by decide, fun _ _ => rfl⟩, rfl⟩
  | int i => exact ⟨.number, .int i, isWord_int plain, rfl⟩
  | str s =>
      have hkind : TokenKind.string ≠ .nodeType := by decide
      refine ⟨.string, .string s,
        ⟨by decide, Text.string_escaped s, fun hsame => absurd hsame hkind,
          fun chart loc => ?_⟩, rfl⟩
      simp only [pretty, Leaf.decode, Leaf.decodeString, Text.decodeLiteral_escaped]
  | sym name =>
      have hpretty : (sym name).pretty.toList = ':' :: name.toList := by
        rw [pretty, String.toList_append]
        rfl
      have hkind : TokenKind.symbol ≠ .nodeType := by decide
      rw [hpretty]
      refine ⟨.symbol, .symbol name,
        ⟨by decide, plain, fun hsame => absurd hsame hkind, fun chart loc => ?_⟩, rfl⟩
      rw [Leaf.decode, List.drop_one, List.tail_cons, String.ofList_toList]
  | _ => cases plain

structure Draws (value : Value) (cursor next : Cursor) (lexed : Pattern Lexed)
    (pattern : Pattern Leaf) : Prop where
  atom : lexed.isAtom = true
  occupies : lexed.Occupies cursor next
  decodes : ∀ chart, lexed.decodeLeaves (Leaf.decode chart) = .ok pattern
  portrays : pattern.Portrays value

/-- What is written for a value is drawn by a pattern, wherever no lexeme reads on behind it. -/
def IsDrawn (value : Value) : Prop :=
  ∀ (start : Nat) (rest : List Char), Lexeme.Follows [] rest → ∃ lexed pattern,
    value.Draws ⟨start, value.pretty.toList ++ rest⟩
      ⟨start + value.pretty.toList.length, rest⟩ lexed pattern

theorem isDrawn_atom {value : Value} (plain : IsPlainAtom value) : value.IsDrawn := by
  intro start rest hfollows
  obtain ⟨kind, leaf, isWord, hatom⟩ := exists_isWord plain
  let range := Range.between start (start + value.pretty.toList.length)
  refine ⟨.leaf range ⟨kind, value.pretty.toList⟩, .leaf range leaf, rfl,
    occupies_of_isWord isWord hfollows start, fun chart => ?_, Pattern.portrays_leaf hatom range⟩
  rw [Pattern.decodeLeaves, isWord.decodes]
  rfl

theorem draws_children {children : List Value} (each : ∀ child ∈ children, child.IsDrawn)
    (start : Nat) (rest : List Char) :
    ∃ lexed patterns,
      Pattern.OccupiesAll lexed ⟨start, childrenText children ++ ')' :: rest⟩
        ⟨start + (childrenText children).length, ')' :: rest⟩ ∧
      (∀ chart, Pattern.decodeLeavesAll (Leaf.decode chart) lexed = .ok patterns) ∧
      List.Forall₂ Pattern.Portrays patterns children := by
  induction children generalizing start with
  | nil => exact ⟨[], [], rfl, fun _ => rfl, .nil⟩
  | cons child others induction =>
      obtain ⟨hchild, hothers⟩ := List.forall_mem_cons.mp each
      have hfollows := follows_childrenText others rest
      obtain ⟨lexed, pattern, draws⟩ := hchild (start + 1) _ hfollows
      obtain ⟨behind, patterns, hoccupies, hdecodes, portrays⟩ :=
        induction hothers (start + 1 + child.pretty.toList.length)
      have hlength : start + (childrenText (child :: others)).length =
          start + 1 + child.pretty.toList.length + (childrenText others).length := by
        rw [childrenText_cons, List.length_cons, List.length_append]
        omega
      have hskip : PatternText.skip ⟨start, _⟩ = _ := (Cursor.skip_space '#' start _).trans
        (PatternText.skip_of_occupies draws.occupies)
      rw [childrenText_append, hlength]
      refine ⟨lexed :: behind, pattern :: patterns, ⟨_, ?_, ?_, hoccupies⟩,
        fun chart => ?_, .cons draws.portrays portrays⟩
      · rw [hskip]
        exact draws.occupies
      · exact PatternText.ends_of_follows hfollows
      · rw [Pattern.decodeLeavesAll, draws.decodes, hdecodes]
        rfl

theorem isDrawn_node {id : Nat} {type : String} {loc : Option Range} {children : List Value}
    (plain : IsPlainType type) (each : ∀ child ∈ children, child.IsDrawn) :
    (node id type loc children).IsDrawn := by
  intro start rest _
  let opened := start + 1
  let parted := opened + type.toList.length
  let closed := parted + (childrenText children).length
  have isWord := isWord_type plain
  have hfollows := follows_childrenText children rest
  have hhead := occupies_of_isWord isWord hfollows opened
  obtain ⟨lexed, patterns, hoccupies, hdecodes, portrays⟩ := draws_children each parted rest
  have hclose : PatternText.skip ⟨closed, ')' :: rest⟩ = ⟨closed, ')' :: rest⟩ :=
    PatternText.skip_of_opens rfl (TokenKind.opens_of_sign (by decide))
  have htext : (node id type loc children).pretty.toList ++ rest =
      '(' :: (type.toList ++ (childrenText children ++ ')' :: rest)) := by
    rw [toList_pretty_node_append]
  have hlength : start + (node id type loc children).pretty.toList.length = closed + 1 := by
    rw [toList_pretty_node]
    simp only [List.length_cons, List.length_append, List.length_nil, opened, parted, closed]
    omega
  let range := Range.between start (closed + 1)
  let headRange := Range.between opened parted
  -- The head stands right behind the parenthesis, and every child behind one blank.
  have hnode : (Pattern.grouped range .sequence (.leaf headRange ⟨.nodeType, type.toList⟩)
      lexed).Occupies ⟨start, '(' :: (type.toList ++ (childrenText children ++ ')' :: rest))⟩
      ⟨closed + 1, rest⟩ := by
    refine ⟨_, ⟨parted, _⟩, ⟨closed, _⟩, rfl, ?_, PatternText.ends_of_follows hfollows, hoccupies,
      congrArg Cursor.rest hclose, ?_, rfl⟩
    · rw [PatternText.skip_of_occupies hhead]
      exact hhead
    · rw [hclose]
  rw [htext, hlength]
  refine ⟨_, .grouped range .sequence (.leaf headRange (.nodeType type)) patterns, rfl, hnode,
    fun chart => ?_, Pattern.portrays_sequence portrays range headRange id type loc⟩
  rw [Pattern.decodeLeaves, Pattern.decodeLeaves, isWord.decodes, hdecodes]
  rfl

theorem isDrawn_of_builtOf {value : Value} (built : value.BuiltOf IsPlainType IsPlainAtom) :
    value.IsDrawn := by
  induction built with
  | atom plain => exact isDrawn_atom plain
  | node plain each induction => exact isDrawn_node plain induction

end Value

def IsInline (c : Char) : Prop :=
  c ≠ '\x00' ∧ c ≠ '\n' ∧ c ≠ '\r'

section Inline

variable {c : Char} {text taken rest : List Char} {first follow : Char → Bool}

theorem isInline_of_visible (hvisible : 0x20 ≤ c.toNat) : IsInline c := by
  refine ⟨?_, ?_, ?_⟩ <;> rintro rfl <;> exact absurd hvisible (by decide)

theorem isInline_of_test {test : Char → Bool} (hnull : test '\x00' = false)
    (hfeed : test '\n' = false) (hreturn : test '\r' = false) (htest : test c = true) :
    IsInline c := by
  refine ⟨?_, ?_, ?_⟩ <;> rintro rfl
  · exact absurd htest (by rw [hnull]; decide)
  · exact absurd htest (by rw [hfeed]; decide)
  · exact absurd htest (by rw [hreturn]; decide)

theorem isInline_word (hword : Text.isWord c = true) : IsInline c :=
  isInline_of_test (by decide) (by decide) (by decide) hword

theorem isInline_operator (hoperator : Lexeme.isOperator c = true) : IsInline c :=
  isInline_of_test (by decide) (by decide) (by decide) hoperator

theorem isInline_wordStart (hstart : Lexeme.isWordStart c = true) : IsInline c :=
  isInline_of_test (by decide) (by decide) (by decide) hstart

theorem isInline_run (hrun : Lexeme.run first follow text = some (taken, rest))
    (hfirst : ∀ {c}, first c = true → IsInline c) (hfollow : ∀ {c}, follow c = true → IsInline c) :
    ∀ c ∈ taken, IsInline c := by
  obtain ⟨c, word, rfl, -, hc, hword, -⟩ := Lexeme.run_eq_some_iff.mp hrun
  exact List.forall_mem_cons.mpr ⟨hfirst hc, fun d member => hfollow (hword d member)⟩

theorem isInline_symbolName (htake : Lexeme.symbolName text = some (taken, rest)) :
    ∀ c ∈ taken, IsInline c := by
  cases Lexeme.nameForm_of_symbolName htake with
  | marked hword hmark =>
      refine List.forall_mem_append.mpr ⟨isInline_run hword isInline_wordStart isInline_word, ?_⟩
      refine List.forall_mem_singleton.mpr ?_
      exact isInline_of_test (by decide) (by decide) (by decide) hmark
  | plain hword hmark => exact isInline_run hword isInline_wordStart isInline_word
  | operator hword hoperator => exact isInline_run hoperator isInline_operator isInline_operator
  | assignment htext => simp [IsInline]
  | element htext hplain => simp [IsInline]

end Inline

namespace Value

theorem isInline_type {type : String} (plain : IsPlainType type) :
    ∀ c ∈ type.toList, IsInline c := by
  obtain ⟨c, rest, htype, hfirst, hrest⟩ := plain.word
  rw [htype]
  refine List.forall_mem_cons.mpr ⟨?_, fun d member => isInline_word (hrest d member)⟩
  exact isInline_of_test (by decide) (by decide) (by decide) hfirst

theorem isInline_atom {value : Value} (plain : IsPlainAtom value) :
    ∀ c ∈ value.pretty.toList, IsInline c := by
  cases value with
  | absent => simp [pretty, IsInline]
  | int i =>
      intro c member
      rcases Number.mem_toString i member with rfl | hdigit
      · exact ⟨by decide, by decide, by decide⟩
      · exact isInline_of_test (by decide) (by decide) (by decide) hdigit
  | str s => exact fun c member => isInline_of_visible (Text.visible_escaped s c member)
  | sym name =>
      obtain ⟨taken, hname, hword⟩ := Lexeme.cons_eq_some plain
      obtain ⟨-, rfl⟩ := List.cons.inj hword
      rw [pretty, String.toList_append]
      refine List.forall_mem_append.mpr ⟨?_, isInline_symbolName hname⟩
      exact List.forall_mem_singleton.mpr ⟨by decide, by decide, by decide⟩
  | _ => cases plain

theorem isInline_of_builtOf {value : Value} (built : value.BuiltOf IsPlainType IsPlainAtom) :
    ∀ c ∈ value.pretty.toList, IsInline c := by
  induction built with
  | atom plain => exact isInline_atom plain
  | @node id type loc children plain each induction =>
      have hchildren : ∀ c ∈ childrenText children, IsInline c := by
        intro c member
        obtain ⟨child, inside, hchild⟩ := List.mem_flatMap.mp member
        rcases List.mem_cons.mp hchild with rfl | hc
        · exact ⟨by decide, by decide, by decide⟩
        · exact induction child inside c hc
      rw [toList_pretty_node]
      refine List.forall_mem_cons.mpr ⟨⟨by decide, by decide, by decide⟩, ?_⟩
      refine List.forall_mem_append.mpr ⟨isInline_type plain, ?_⟩
      refine List.forall_mem_append.mpr ⟨hchildren, ?_⟩
      exact List.forall_mem_singleton.mpr ⟨by decide, by decide, by decide⟩

end Value

namespace Matcher

theorem splitReturns_of_inline {line : List Char} (hinline : ∀ c ∈ line, IsInline c) :
    splitReturns line = [line] := by
  induction line with
  | nil => rfl
  | cons c rest induction =>
      obtain ⟨hfirst, hrest⟩ := List.forall_mem_cons.mp hinline
      rw [splitReturns, if_neg hfirst.2.2, induction hrest]

theorem labelFault?_of_inline {label : String} (hinline : ∀ c ∈ label.toList, IsInline c) :
    labelFault? label = none := by
  have hfeed : '\n' ∉ label.toList := fun member => (hinline '\n' member).2.1 rfl
  rw [labelFault?, Text.splitLineFeeds_line hfeed]
  simp only [List.flatMap_cons, List.flatMap_nil, splitReturns_of_inline hinline]
  rfl

end Matcher

section Calls

variable {node : Node} (built : node.toValue.BuiltOf Value.IsPlainType Value.IsPlainAtom)
include built

theorem Pattern.read_pretty_portrays :
    ∃ pattern, Pattern.read chart node.pretty.toList = .ok pattern ∧
      pattern.Portrays node.toValue := by
  obtain ⟨lexed, pattern, draws⟩ := Value.isDrawn_of_builtOf built 0 [] (.nil _)
  rw [List.append_nil] at draws
  let stop : Cursor := ⟨0 + node.pretty.toList.length, []⟩
  have hskip : PatternText.skip (Cursor.ofText node.pretty.toList) = Cursor.ofText _ :=
    PatternText.skip_of_occupies draws.occupies
  have stands : lexed.Stands (PatternText.skip (Cursor.ofText node.pretty.toList)) stop := by
    rw [hskip]
    exact ⟨draws.occupies, PatternText.ends_of_follows (.nil _)⟩
  have hread := PatternText.readAll_pattern_iff.mpr ⟨stop, stands, rfl⟩
  refine ⟨pattern, ?_, draws.portrays⟩
  rw [Pattern.read, hread]
  change (lexed.decodeLeaves (Leaf.decode chart)).mapError PatternFault.leaf = _
  rw [draws.decodes]
  rfl

/-- The s-expression of a tree matches what is structurally the same as the tree, and nothing
else. -/
theorem Matcher.call_pretty (recording : Bool) (name : String) :
    ∃ pattern matcher, Pattern.read chart node.pretty.toList = .ok pattern ∧
      Matcher.compile chart .node (.text node.pretty) recording name = .ok matcher ∧
      matcher.positional = [] ∧ matcher.named = [] ∧
      ∀ arguments, matcher.Admits arguments → ∀ document subject,
        (matcher.call document subject arguments).returned =
          .ok (if node.toValue.alike subject then .bool true else .absent) := by
  obtain ⟨pattern, hread, portrays⟩ := Pattern.read_pretty_portrays built
  have hinline := Value.isInline_of_builtOf built
  have hnone := portrays.unrejected .outside
  have hnull : node.pretty.toList.contains '\x00' = false := by
    rw [List.contains_eq_mem, decide_eq_false_iff_not]
    exact fun member => (hinline _ member).1 rfl
  have hnames : areReadable (pattern.names.foldl Session.noteName []) = true := by
    rw [Pattern.names_of_plain portrays.plain]
    rfl
  have hcompile := compile_text_eq_ok hread hnone hnull hnames (labelFault?_of_inline hinline)
    recording name
  refine ⟨_, _, hread, hcompile, ?_, ?_, fun arguments admits document subject => ?_⟩
  · rw [positional_ofPattern, Pattern.lastPosition_of_plain portrays.plain]
    rfl
  · rw [named_ofPattern, Pattern.names_of_plain portrays.plain]
    rfl
  · have hfinite : pattern.EachLeaf Leaf.IsFinite :=
      fun loc value member => Leaf.isFinite_of_isPlain (portrays.plain loc value member)
    obtain ⟨returned, hreturned, reports⟩ :=
      reports_of_call hread hnone hfinite admits document subject
    rw [hreturned]
    rw [portrays.matching] at reports
    -- There are no slots to fill, so a match returns no more than its truth.
    cases hsame : node.toValue.alike subject with
    | true =>
        rw [hsame] at reports
        obtain ⟨slots, rfl, hlength, -⟩ := reports
        rw [List.eq_nil_of_length_eq_zero hlength]
        rfl
    | false =>
        rw [hsame] at reports
        exact congrArg Except.ok reports

end Calls

theorem Matcher.admits_none {matcher : Matcher} (hpositional : matcher.positional = [])
    (hnamed : matcher.named = []) (hrecording : matcher.recording = false) :
    matcher.Admits .none := by
  refine ⟨⟨rfl, checkArguments_eq_ok.mpr ⟨?_, ?_, List.forall_mem_nil _⟩⟩, ?_, ?_⟩
  · rw [hpositional]
    rfl
  · rw [missingKeywordsOf, hnamed, instrumented, hrecording]
    rfl
  · rw [hnamed]
    exact List.forall_mem_nil _
  · rw [hrecording]
    exact Bool.noConfusion

/-- A truth value is not the number that it counts as. -/
theorem Matcher.call_pretty_typed :
    let tree : Node := ⟨0, "op", none, [.int 1, .sym "+"]⟩
    ∃ matcher, Matcher.compile Text.basicLatin .node (.text tree.pretty) false "m" = .ok matcher ∧
      ∀ document,
        (matcher.call document (.node 7 "op" none [.int 1, .sym "+"]) .none).returned =
          .ok (.bool true) ∧
        (matcher.call document (.node 7 "op" none [.bool true, .sym "+"]) .none).returned =
          .ok .absent := by
  intro tree
  have plain : Value.IsPlainType "op" :=
    ⟨⟨'o', ['p'], rfl, rfl, List.forall_mem_singleton.mpr rfl⟩, by decide⟩
  have hdigits : Number.digitCount 1 ≤ maxIntegerDigits := by decide
  have built : tree.toValue.BuiltOf Value.IsPlainType Value.IsPlainAtom := by
    refine .node plain (List.forall_mem_cons.mpr ⟨.atom hdigits, ?_⟩)
    exact List.forall_mem_singleton.mpr (.atom rfl)
  obtain ⟨pattern, matcher, hread, hcompile, hpositional, hnamed, hcall⟩ :=
    Matcher.call_pretty built false "m"
  have hrecording : matcher.recording = false := by
    rw [(of_compile_text hread hcompile).2]
    rfl
  have admits := admits_none hpositional hnamed hrecording
  refine ⟨matcher, hcompile, fun document => ⟨?_, ?_⟩⟩
  · rw [hcall .none admits]
    rfl
  · rw [hcall .none admits]
    rfl

end TreeMatch
