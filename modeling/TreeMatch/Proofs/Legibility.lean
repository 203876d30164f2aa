import TreeMatch.Proofs.Growth
import TreeMatch.Proofs.Renumbering
import TreeMatch.Proofs.Rounding

/-! The trees that can be written as s-expressions: which trees are read back, and which of the
words that a program is written with stand in their way. -/

namespace TreeMatch

variable {chart : Text.CodeChart}

open Grammar

namespace AtomKind

open Lexeme

theorem blocks_list (rest : List Char) : Blocks ('[' :: rest) :=
  ⟨⟨'[', rest, rfl, by decide, by decide, by decide, by decide⟩, rfl⟩

theorem isCanonical_of_decode {kind : AtomKind} {text : List Char} {value : Value}
    (hdecode : kind.decode chart text = .ok value) : ∀ x ∈ value.floats, x.IsCanonical := by
  intro x member
  cases kind with
  | float =>
      cases hdecode
      rw [List.mem_singleton.mp member]
      exact Number.Binary64.isCanonical_ofDecimal _ _ _
  | integer =>
      change decodeInteger text = .ok value at hdecode
      unfold decodeInteger at hdecode
      split at hdecode <;> cases hdecode
      cases member
  | string =>
      rw [decode] at hdecode
      split at hdecode <;> cases hdecode
      cases member
  | _ =>
      cases hdecode
      cases member

end AtomKind

namespace Value

def IsLegible (atom : Value) : Prop :=
  atom.IsSexpAtom ∧ ∀ x ∈ atom.floats, x.IsPositional ∧ x.IsCanonical

variable {value : Value}

theorem builtOf_isLegible :
    value.BuiltOf IsHead IsLegible ↔ value.BuiltOf IsHead IsSexpAtom ∧
      ∀ x ∈ value.floats, x.IsPositional ∧ x.IsCanonical := by
  constructor
  · intro built
    induction built with
    | atom hatom => exact ⟨.atom hatom.1, hatom.2⟩
    | node htype each induction =>
        refine ⟨.node htype fun child member => (induction child member).1, fun x member => ?_⟩
        obtain ⟨child, hchild, hx⟩ := mem_floatsAll.mp member
        exact (induction child hchild).2 x hx
  · rintro ⟨built, hfloats⟩
    induction built with
    | atom hatom => exact .atom ⟨hatom, hfloats⟩
    | node htype each induction =>
        refine .node htype fun child member => induction child member fun x hx => ?_
        exact hfloats x (mem_floatsAll.mpr ⟨child, member, hx⟩)

theorem floats_unnumbered (value : Value) : value.unnumbered.floats = value.floats := by
  induction value using induct with
  | node id type loc children each =>
      rw [unnumbered, unnumberedAll_eq_map, floats, floats]
      clear id type loc
      induction children with
      | nil => rfl
      | cons child rest induction =>
          obtain ⟨hfirst, hrest⟩ := List.forall_mem_cons.mp each
          rw [List.map_cons, floatsAll, floatsAll, hfirst, induction hrest]
  | _ => rfl

theorem nestedAll_eq_map (children : List Value) : nestedAll children = children.map nested := by
  induction children with
  | nil => rfl
  | cons child rest induction => rw [nestedAll, induction, List.map_cons]

/-- A list is not told apart from a node by its nested form, but it cannot be written. -/
def IsSexpAtomOrList (atom : Value) : Prop :=
  atom.IsSexpAtom ∨ ∃ items, atom = .list items

/-- A value with the nested form of one that was read is built like it, but for lists. -/
theorem builtOf_of_nested {again : Value} (built : again.BuiltOf IsHead IsSexpAtom)
    (hnested : value.nested = again.nested) :
    value.BuiltOf IsHead IsSexpAtomOrList ∧ ∀ x ∈ value.floats, x ∈ again.floats := by
  induction built generalizing value with
  | @atom again hatom =>
      have hsame : value.nested = again := by
        cases again with
        | node id type loc children => cases hatom
        | _ => exact hnested
      cases value with
      | node id type loc children =>
          rw [nested] at hsame
          subst hsame
          cases hatom
      | _ =>
          cases hsame
          exact ⟨.atom (.inl hatom), fun x member => member⟩
  | @node id type loc children htype each induction =>
      cases value with
      -- A list of the parts of a node has the nested form of the node.
      | list items => exact ⟨.atom (.inr ⟨items, rfl⟩), List.forall_mem_nil _⟩
      | node id' type' loc' children' =>
          rw [nested, nested, nestedAll_eq_map, nestedAll_eq_map] at hnested
          injection hnested with hlists
          injection hlists with htypes hchildren
          cases htypes
          have hall : ∀ child ∈ children', child.BuiltOf IsHead IsSexpAtomOrList ∧
              ∀ x ∈ child.floats, x ∈ floatsAll children := by
            intro child member
            have hmem : child.nested ∈ children.map nested :=
              hchildren ▸ List.mem_map_of_mem member
            obtain ⟨other, hother, hequal⟩ := List.mem_map.mp hmem
            obtain ⟨hbuilt, hfloats⟩ := induction other hother hequal.symm
            exact ⟨hbuilt, fun x hx => mem_floatsAll.mpr ⟨other, hother, hfloats x hx⟩⟩
          refine ⟨.node htype fun child member => (hall child member).1, fun x member => ?_⟩
          obtain ⟨child, hchild, hx⟩ := mem_floatsAll.mp member
          exact (hall child hchild).2 x hx
      | _ => cases hnested

theorem isStuck_list (items : List Value) : (list items).IsStuck := by
  intro depth start rest hfollows hlength
  obtain ⟨depth, rfl⟩ : ∃ less, depth = less + 1 := ⟨depth - 1, by omega⟩
  have hpretty : ∃ text, (list items).pretty.toList = '[' :: text := by
    rw [pretty, String.toList_append, String.toList_append]
    exact ⟨_, rfl⟩
  obtain ⟨text, htext⟩ := hpretty
  rw [htext]
  exact stalls_space (SexpText.stalls_of_blocks (AtomKind.blocks_list _))

def IsWritable (value : Value) : Prop :=
  value.BuiltOf IsHead IsSexpAtom ∧ ∀ x ∈ value.floats, x.IsPositional

theorem isWritable_or_stuckChild {id : Nat} {type : String} {loc : Option Range}
    {children : List Value} (htype : IsHead type)
    (each : ∀ child ∈ children, child.IsWritable ∨ child.IsStuck) :
    (node id type loc children).IsWritable ∨
      (∀ child ∈ children, child.IsReadBack ∨ child.IsStuck) ∧
        ∃ child ∈ children, child.IsStuck := by
  by_cases hstuck : ∃ child ∈ children, child.IsStuck
  · refine .inr ⟨fun child member => ?_, hstuck⟩
    exact (each child member).imp_left fun hwritable =>
      isReadBack_of_builtOf hwritable.1 hwritable.2
  · have hall : ∀ child ∈ children, child.IsWritable := fun child member =>
      (each child member).resolve_right fun hchild => hstuck ⟨child, member, hchild⟩
    refine .inl ⟨.node htype fun child member => (hall child member).1, fun x member => ?_⟩
    obtain ⟨child, hchild, hx⟩ := mem_floatsAll.mp member
    exact (hall child hchild).2 x hx

theorem isWritable_or_isStuck (built : value.BuiltOf IsHead IsSexpAtomOrList) :
    value.IsWritable ∨ value.IsStuck := by
  induction built with
  | @atom value hatom =>
      rcases hatom with hatom | ⟨items, rfl⟩
      · by_cases hpositional : ∀ x ∈ value.floats, x.IsPositional
        · exact .inl ⟨.atom hatom, hpositional⟩
        · exact .inr (isStuck_of_builtOf (.atom hatom) (by simpa using hpositional))
      · exact .inr (isStuck_list items)
  | node htype each induction =>
      exact (isWritable_or_stuckChild htype induction).imp_right fun ⟨hall, hstuck⟩ =>
        isStuck_node htype hall hstuck

end Value

namespace Sexp

open Value (IsHead IsLegible)

theorem isCanonical_of_toValue {sexp : Sexp} {value : Value} (taken : sexp.IsTaken)
    (hvalue : sexp.toValue chart = .ok value) : ∀ x ∈ value.floats, x.IsCanonical := by
  induction taken generalizing value with
  | atom htake => exact AtomKind.isCanonical_of_decode hvalue
  | list hhead each induction =>
      obtain ⟨children, hchildren, hdone⟩ := bind_ok hvalue
      cases hdone
      intro x member
      obtain ⟨child, hchild, hx⟩ := Value.mem_floatsAll.mp member
      obtain ⟨item, hitem, htree⟩ := mem_of_toValues hchildren child hchild
      exact induction item hitem htree x hx

theorem isCanonical_of_readDocument {text : String} {doc : Document}
    (hread : readDocument chart text = .ok doc) : ∀ x ∈ doc.root.toValue.floats, x.IsCanonical := by
  obtain ⟨sexp, root, hsexp, hvalue, rfl⟩ := readDocument_eq_ok_iff.mp hread
  rw [← Value.floats_unnumbered, Document.unnumbered_ofNode, Value.floats_unnumbered]
  exact isCanonical_of_toValue (isTaken_of_readAll hsexp) hvalue

/-- The trees that are read back from their s-expressions are those with legible heads and atoms. -/
theorem exists_readDocument_iff {node : Node} :
    (∃ again, readDocument chart node.pretty = .ok again ∧
        again.root.toValue.nested = node.toValue.nested) ↔
      node.toValue.BuiltOf IsHead IsLegible := by
  rw [Value.builtOf_isLegible]
  constructor
  · rintro ⟨again, hread, hnested⟩
    obtain ⟨built, hfloats⟩ :=
      Value.builtOf_of_nested (builtOf_of_readDocument hread) hnested.symm
    have hcanonical : ∀ x ∈ node.toValue.floats, x.IsCanonical :=
      fun x member => isCanonical_of_readDocument hread x (hfloats x member)
    obtain ⟨id, type, loc, children⟩ := node
    cases built with
    | atom hatom =>
        rcases hatom with hatom | ⟨items, hlist⟩
        · cases hatom
        · cases hlist
    | node htype each =>
        have hchildren := fun child member => Value.isWritable_or_isStuck (each child member)
        rcases Value.isWritable_or_stuckChild htype hchildren with hwritable | ⟨hall, hstuck⟩
        · exact ⟨hwritable.1, fun x member => ⟨hwritable.2 x member, hcanonical x member⟩⟩
        · obtain ⟨fault, hfails⟩ := readDocument_of_isStuck htype hall hstuck
          rw [hfails] at hread
          cases hread
  · rintro ⟨built, hfloats⟩
    exact readDocument_of_isExact
      (Value.isReadBack_of_builtOf built fun x member => (hfloats x member).1) fun x member =>
        Number.Binary64.isExact_of_isPositional (hfloats x member).2 (hfloats x member).1

end Sexp

section Words

open Lexeme
open Value (IsHead IsSpelled)

variable {name : String} {c : Char} {word : List Char}

theorem symbol_eq_none (hfirst : isWordStart c = false) (hword : Text.isWord c = true)
    (rest : List Char) : symbol (':' :: c :: rest) = none := by
  have hoperator : isOperator c = false := by
    have hall : "-+*/%<>=!&|^~".toList.all (fun d => !Text.isWord d) = true := by
      decide +kernel
    refine Bool.eq_false_iff.mpr fun hoperator => ?_
    have hother := List.all_eq_true.mp hall c (List.contains_iff_mem.mp hoperator)
    rw [hword] at hother
    cases hother
  have hname : symbolName (c :: rest) = none := by
    unfold symbolName
    rw [run_eq_none hfirst, run_eq_none hoperator]
    dsimp only
    split
    · rename_i hsome
      cases hsome
    · rename_i heq
      cases heq
      exact absurd hword (by decide)
    · rename_i heq
      cases heq
      exact absurd hword (by decide)
    · rfl
  change cons ':' (symbolName (c :: rest)) = none
  rw [hname]
  rfl

theorem run_word (hname : name.toList = c :: word)
    (hword : ∀ d ∈ c :: word, Text.isWord d = true) (hfirst : isWordStart c = true)
    (rest : List Char) (hstops : ∀ d, rest.head? = some d → Text.isWord d = false) :
    run isWordStart Text.isWord (name.toList ++ rest) = some (name.toList, rest) := by
  rw [hname]
  exact run_of_stops hfirst (List.forall_mem_cons.mp hword).2 hstops

/-- The names that can be written are those that start with a letter of the alphabet or an
underscore; so it is with the names of setters. -/
theorem isSpelled_word (hname : name.toList = c :: word)
    (hword : ∀ d ∈ c :: word, Text.isWord d = true) :
    (IsSpelled name ↔ isWordStart c = true) ∧
      (IsSpelled (name ++ "=") ↔ isWordStart c = true) := by
  have hfails : ∀ rest : List Char, symbol (':' :: (name.toList ++ rest)) =
      some (':' :: (name.toList ++ rest), []) → isWordStart c = true := by
    intro rest hsome
    by_contra hfirst
    rw [hname, List.cons_append, symbol_eq_none (eq_false_of_ne_true hfirst)
      (hword c List.mem_cons_self)] at hsome
    cases hsome
  constructor
  · refine ⟨fun hspelled => hfails [] ?_, fun hfirst => ?_⟩
    · rw [List.append_nil]
      exact hspelled
    · have hrun := run_word hname hword hfirst [] fun d hhead => nomatch hhead
      rw [List.append_nil] at hrun
      change cons ':' (symbolName name.toList) = _
      rw [symbolName_plain hrun fun d hhead => nomatch hhead]
      rfl
  · have hsetter : (name ++ "=").toList = name.toList ++ ['='] := String.toList_append
    rw [IsSpelled, hsetter]
    refine ⟨hfails ['='], fun hfirst => ?_⟩
    have hrun := run_word hname hword hfirst ['='] (by rintro d ⟨⟩; decide)
    change cons ':' (symbolName (name.toList ++ ['='])) = _
    rw [symbolName_marked hrun (by decide)]
    rfl

end Words

namespace Program

open Value (IsHead IsLegible IsSpelled)

variable {vocabulary : Vocabulary} {index : LineIndex} {construct : Construct} {value : Value}

/-- Without lists, what has grown out of a construct is built of the vocabulary. -/
theorem Grown.builtOf (grown : Grown vocabulary index construct value)
    (hlists : ¬ vocabulary.lists) (habsent : vocabulary.atoms .absent) :
    value.BuiltOf vocabulary.types vocabulary.atoms := by
  induction grown with
  | absent => exact .atom habsent
  | atom hatom hplain => exact .atom hatom
  | list hsome each induction => exact absurd hsome hlists
  | own htype each induction => exact .node htype induction
  | span htype stand each induction => exact .node htype induction
  | part hpart grown induction => exact induction

def legible : Vocabulary :=
  ⟨IsHead, IsLegible, False⟩

theorem isOpen_legible : legible.IsOpen := by
  have htypes : ∀ type ∈ Vocabulary.commonTypes,
      Sexp.takeHead type.toList = some (type.toList, []) := by
    decide +kernel
  have hsymbols : ∀ symbol ∈ Vocabulary.commonSymbols,
      Lexeme.symbol (':' :: symbol.toList) = some (':' :: symbol.toList, []) := by
    decide +kernel
  exact ⟨htypes, fun symbol member => ⟨hsymbols symbol member, fun x hx => nomatch hx⟩⟩

/-- The operators whose symbols cannot be written behind a colon. -/
def unspelled : List String :=
  ["MatMult", "IsNot", "NotIn", "USub", "UAdd"]

theorem isSpelled_operator : ∀ entry ∈ operators, IsSpelled entry.2 ↔ entry.1 ∉ unspelled := by
  have hdecided : ∀ entry ∈ operators,
      Lexeme.symbol (':' :: entry.2.toList) = some (':' :: entry.2.toList, []) ↔
        entry.1 ∉ unspelled := by
    decide +kernel
  exact hdecided

/-- The tree of a program is built of legible words and atoms if all that the program keeps is. -/
theorem builtOf_toTree {program : Construct}
    (suits : ∀ part, Construct.Kept part program → legible.Suits part)
    (fits : legible.Fits program) (source : String) :
    (Document.ofNode (toTree source program) source).root.toValue.BuiltOf IsHead IsLegible := by
  have hgrown := (grown_toTree isOpen_legible suits fits source).builtOf not_false
    ⟨trivial, fun x hx => nomatch hx⟩
  obtain ⟨hbuilt, hfloats⟩ := Value.builtOf_isLegible.mp hgrown
  refine Value.builtOf_isLegible.mpr ⟨(Value.numbered_of_builtOf hbuilt 0).1, ?_⟩
  rwa [← Value.floats_unnumbered, Document.unnumbered_ofNode, Value.floats_unnumbered]

/-- The trees of programs that are read back from their s-expressions are those with legible heads
and atoms. They are legible if all that is kept of the program is; but five of the operators are
not, nor are names that start with a letter of another alphabet. -/
theorem readDocument_legible (chart : Text.CodeChart) (source : String) (program : Construct) :
    ∃ document, readDocument source (.ok program) = .ok document ∧
      ((∃ again, Sexp.readDocument chart document.root.pretty = .ok again ∧
          again.root.toValue.nested = document.root.toValue.nested) ↔
        document.root.toValue.BuiltOf IsHead IsLegible) ∧
      ((∀ part, Construct.Kept part program → legible.Suits part) → legible.Fits program →
        document.root.toValue.BuiltOf IsHead IsLegible) ∧
      (∀ entry ∈ operators, IsSpelled entry.2 ↔ entry.1 ∉ unspelled) ∧
      ∀ (name : String) (c : Char) (word : List Char), name.toList = c :: word →
        (∀ d ∈ c :: word, Text.isWord d = true) →
        (IsSpelled name ↔ Lexeme.isWordStart c = true) ∧
          (IsSpelled (name ++ "=") ↔ Lexeme.isWordStart c = true) :=
  ⟨_, rfl, Sexp.exists_readDocument_iff, fun suits fits => builtOf_toTree suits fits source,
    isSpelled_operator, fun _ _ _ => isSpelled_word⟩

instance : DecidablePred IsHead := fun type =>
  inferInstanceAs (Decidable (Sexp.takeHead type.toList = some (type.toList, [])))

instance (name : String) : Decidable (IsSpelled name) :=
  inferInstanceAs (Decidable (Lexeme.symbol (':' :: name.toList) = some (':' :: name.toList, [])))

instance : DecidablePred Value.IsSexpAtom := fun atom => by
  cases atom <;> unfold Value.IsSexpAtom <;> infer_instance

instance : DecidablePred Number.Binary64.IsPositional := fun x =>
  inferInstanceAs (Decidable (Lexeme.decimal x.text.toList = some (x.text.toList, [])))

instance : DecidablePred IsLegible := fun atom =>
  inferInstanceAs (Decidable (atom.IsSexpAtom ∧ ∀ x ∈ atom.floats, x.IsPositional ∧ x.IsCanonical))

instance : DecidablePred legible.types := inferInstanceAs (DecidablePred IsHead)

instance : DecidablePred legible.atoms := inferInstanceAs (DecidablePred IsLegible)

instance : Decidable legible.lists := inferInstanceAs (Decidable False)

/-- A call with a keyword and numbers, one of them negative. -/
theorem readDocument_legible_call :
    let load : Construct := .node "Load" none [] []
    let negative : Construct := .node "UnaryOp" (some ⟨1, 8, 1, 10⟩) ["op", "operand"]
      [.node "USub" none [] [], .node "Constant" (some ⟨1, 9, 1, 10⟩) ["value"] [.int 1]]
    let half : Construct := .node "Constant" (some ⟨1, 12, 1, 15⟩) ["value"]
      [.float (.finite false 6755399441055744 (-52))]
    let keyword : Construct := .node "keyword" (some ⟨1, 17, 1, 22⟩) ["arg", "value"]
      [.str "k", .node "Constant" (some ⟨1, 19, 1, 22⟩) ["value"] [.str "s"]]
    let method : Construct := .node "Attribute" (some ⟨1, 4, 1, 7⟩) ["value", "attr", "ctx"]
      [.node "Name" (some ⟨1, 4, 1, 5⟩) ["id", "ctx"] [.str "a", load], .str "b", load]
    let call : Construct := .node "Call" (some ⟨1, 4, 1, 23⟩) ["func", "args", "keywords"]
      [method, .list [negative, half], .list [keyword]]
    let target : Construct := .node "Name" (some ⟨1, 0, 1, 1⟩) ["id", "ctx"]
      [.str "x", .node "Store" none [] []]
    let program : Construct := .node "Module" none ["body", "type_ignores"]
      [.list [.node "Assign" (some ⟨1, 0, 1, 23⟩) ["targets", "value"] [.list [target], call]],
        .list []]
    ∃ document again, readDocument "x = a.b(-1, 1.5, k='s')" (.ok program) = .ok document ∧
      document.root.pretty = "(lvasgn :x (send (lvar :a) :b (int -1) (float 1.5) " ++
        "(hash (pair (sym :k) (str \"s\")))))" ∧
      Sexp.readDocument Text.basicLatin document.root.pretty = .ok again ∧
      again.root.toValue.nested = document.root.toValue.nested := by
  intro load negative half keyword method call target program
  obtain ⟨document, hread, hagain, hlegible, -⟩ :=
    readDocument_legible Text.basicLatin "x = a.b(-1, 1.5, k='s')" program
  have hparts : ∀ part ∈ program.parts, legible.Suits part := by decide +kernel
  have hsuits : ∀ part, Construct.Kept part program → legible.Suits part :=
    fun part kept => hparts part (Construct.part_of_kept kept).mem_parts
  have hfits : legible.Fits program := by decide +kernel
  obtain ⟨again, hread', hsame⟩ := hagain.mpr (hlegible hsuits hfits)
  refine ⟨document, again, hread, ?_, hread', hsame⟩
  cases hread
  decide +kernel

/-- A negation is printed with a symbol that cannot be read. -/
theorem readDocument_negation :
    let program : Construct := .node "Module" none ["body", "type_ignores"]
      [.list [.node "Expr" (some ⟨1, 0, 1, 2⟩) ["value"] [.node "UnaryOp" (some ⟨1, 0, 1, 2⟩)
        ["op", "operand"] [.node "USub" none [] [], .node "Name" (some ⟨1, 1, 1, 2⟩) ["id", "ctx"]
          [.str "x", .node "Load" none [] []]]]], .list []]
    ∃ document, readDocument "-x" (.ok program) = .ok document ∧
      document.root.pretty = "(send (lvar :x) :-@)" ∧
      Sexp.readDocument Text.basicLatin document.root.pretty =
        .error (.unreadable (.unexpected 18)) := by
  intro program
  have hpretty : (Document.ofNode (toTree "-x" program) "-x").root.pretty =
      "(send (lvar :x) :-@)" := by
    decide +kernel
  have hread : SexpText.document.readAll "(send (lvar :x) :-@)".toList =
      .error (.unexpected 18) := by
    cbv
  refine ⟨_, rfl, hpretty, ?_⟩
  rw [hpretty, Sexp.readDocument, hread]
  rfl

end Program

end TreeMatch
