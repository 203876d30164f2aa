import TreeMatch.Proofs.Adoption
import TreeMatch.Proofs.Reprinting

/-! Texts and programs become proper trees, in which every node that was made is met once, is a
child of its parent alone, and knows the text. -/

namespace TreeMatch

variable {chart : Text.CodeChart}

namespace Value

def IsFlat (value : Value) : Prop :=
  value.BuiltOf (fun _ => True) IsAtom

variable {value : Value} {id : Nat} {type : String} {loc : Option Range} {children : List Value}

theorem isFlat_node : (node id type loc children).IsFlat ↔ ∀ child ∈ children, child.IsFlat := by
  refine ⟨fun flat => ?_, .node trivial⟩
  cases flat with
  | atom hatom => cases hatom
  | node htype each => exact each

theorem not_isFlat_list {items : List Value} : ¬ (list items).IsFlat := by
  intro flat
  cases flat with
  | atom hatom => cases hatom

theorem not_isFlat_tuple {items : List Value} : ¬ (tuple items).IsFlat := by
  intro flat
  cases flat with
  | atom hatom => cases hatom

theorem IsFlat.eachNode_perm (flat : value.IsFlat) : value.eachNode.Perm value.builtNodes := by
  induction flat with
  | @atom value hatom =>
      cases value with
      | list items | tuple items => cases hatom
      | node id type loc children => cases hatom
      | _ => exact .nil
  | @node id type loc children htype each induction =>
      have hamong : (eachNodeAmong children).Perm (builtNodesAmong children) := by
        clear each
        induction children with
        | nil => exact .nil
        | cons child rest hrest =>
            obtain ⟨hfirst, hothers⟩ := List.forall_mem_cons.mp induction
            exact hfirst.append (hrest hothers)
      rw [eachNode, builtNodes]
      exact (hamong.cons _).trans (List.perm_append_singleton _ _).symm

theorem isFlat_unnumbered (value : Value) : value.unnumbered.IsFlat ↔ value.IsFlat := by
  induction value using induct with
  | node id type loc children each =>
      rw [unnumbered, isFlat_node, isFlat_node, unnumberedAll_eq_map, List.forall_mem_map]
      exact forall₂_congr each
  | list items each => exact iff_of_false not_isFlat_list not_isFlat_list
  | tuple items each => exact iff_of_false not_isFlat_tuple not_isFlat_tuple
  | _ => exact .rfl

theorem isAtom_of_isSexpAtom (hatom : value.IsSexpAtom) : value.IsAtom := by
  cases value with
  | list items | tuple items => cases hatom
  | node id type loc children => cases hatom
  | _ => trivial

theorem isFlat_of_builtOf (built : value.BuiltOf IsHead IsSexpAtom) : value.IsFlat := by
  induction built with
  | atom hatom => exact .atom (isAtom_of_isSexpAtom hatom)
  | node htype each induction => exact .node trivial induction

end Value

section Copies

variable {value original : Value} {held : List Node}

theorem Copies.isFlat (copies : Copies [value] [original] held) (flat : original.IsFlat) :
    value.IsFlat := by
  rw [← Value.isFlat_unnumbered, copies.unnumbered, Value.isFlat_unnumbered]
  exact flat

theorem Value.node?_unnumbered (value : Value) :
    value.unnumbered.node? = value.node?.map Node.unnumbered := by
  cases value with
  | node id type loc children =>
      rw [unnumbered, unnumberedAll_eq_map]
      rfl
  | _ => rfl

theorem Copies.node? (copies : Copies [value] [original] held) :
    value.node?.map Node.unnumbered = original.node?.map Node.unnumbered := by
  rw [← Value.node?_unnumbered, copies.unnumbered, Value.node?_unnumbered]

theorem Copies.eachNode_perm (copies : Copies [value] [original] held) (flat : original.IsFlat) :
    value.eachNode.Perm held := by
  have hnodes : value.builtNodes.Perm held := by
    have hnodes := copies.nodes
    rwa [Value.builtNodesAmong, Value.builtNodesAmong, List.append_nil] at hnodes
  exact (copies.isFlat flat).eachNode_perm.trans hnodes

end Copies

namespace Document

variable {root : Node} {made : List Node}

theorem nodes_ofMade_perm {source : String} (member : root ∈ made)
    (distinct : (made.map Node.id).Nodup) : (ofMade root made source).nodes.Perm made := by
  have hnodup : (made.filter fun node => node.id != root.id).Nodup :=
    (List.Nodup.of_map _ distinct).filter _
  refine (List.perm_ext_iff_of_nodup ?_ (List.Nodup.of_map _ distinct)).mpr fun node => ?_
  · refine List.nodup_append.mpr ⟨hnodup, List.nodup_singleton _, ?_⟩
    intro node hnode other hother hsame
    have hdifferent : node.id ≠ root.id := bne_iff_ne.mp (List.mem_filter.mp hnode).2
    exact hdifferent (congrArg Node.id (hsame.trans (List.mem_singleton.mp hother)))
  · rw [nodes, ofMade, List.mem_append, List.mem_filter, List.mem_singleton, bne_iff_ne]
    refine ⟨?_, fun hnode => ?_⟩
    · rintro (⟨hnode, -⟩ | rfl)
      · exact hnode
      · exact member
    · by_cases hid : node.id = root.id
      · exact .inr (List.inj_on_of_nodup_map distinct hnode member hid)
      · exact .inl ⟨hnode, hid⟩

/-- A document that is made of a flat tree is a proper tree, whatever numbers the nodes had. -/
theorem isTree_ofNode (flat : root.toValue.IsFlat) (source : String) :
    (ofNode root source).IsTree source := by
  obtain ⟨id, type, loc, children⟩ := root
  have hnodes : (ofNode ⟨id, type, loc, children⟩ source).nodes =
      ((Value.node id type loc children).numbered 0).1.builtNodes := rfl
  have hroot : (ofNode ⟨id, type, loc, children⟩ source).root.toValue =
      ((Value.node id type loc children).numbered 0).1 := rfl
  have hflat : ((Value.node id type loc children).numbered 0).1.IsFlat := by
    rw [← Value.isFlat_unnumbered, Value.unnumbered_numbered, Value.isFlat_unnumbered]
    exact flat
  refine isTree ?_ ?_ rfl
  · rw [hnodes, (Value.numbersApart _ 0).2]
    exact List.nodup_range'
  · rw [hnodes, Node.eachNode, hroot]
    exact hflat.eachNode_perm

end Document

namespace Build

theorem Yields.isTree {action : Build Value} {original : Value} (yields : Yields action original)
    (flat : original.IsFlat) {root : Node} (hroot : (action.after []).1.node? = some root)
    (source : String) : (Document.ofMade root (action.after []).2 source).IsTree source := by
  obtain ⟨own, hmade, hids, copies⟩ := yields []
  rw [List.nil_append] at hmade copies
  have hperm := copies.eachNode_perm flat
  rw [Value.eq_toValue hroot] at hperm
  have hdistinct : (own.map Node.id).Nodup := hids ▸ List.nodup_range'
  have hmember : root ∈ own := hperm.mem_iff.mp (by
    rw [Node.toValue, Value.eachNode]
    exact List.mem_cons_self)
  rw [hmade]
  have hnodes : (Document.ofMade root own source).nodes.Perm own :=
    Document.nodes_ofMade_perm hmember hdistinct
  exact Document.isTree ((hnodes.map Node.id).nodup_iff.mpr hdistinct) (hperm.trans hnodes.symm) rfl

end Build

inductive Corresponds {ε α β : Type} (related : α → β → Prop) : Except ε α → Except ε β → Prop
  | ok {first : α} {second : β} (hrelated : related first second) :
      Corresponds related (.ok first) (.ok second)
  | error (fault : ε) : Corresponds related (.error fault) (.error fault)

section Corresponds

variable {ε δ α β γ η : Type} {related : α → β → Prop} {later : γ → η → Prop}
  {first : Except ε α} {second : Except ε β}

theorem Corresponds.bind {next : α → Except ε γ} {next' : β → Except ε η}
    (corresponds : Corresponds related first second)
    (hnext : ∀ value value', related value value' → Corresponds later (next value) (next' value')) :
    Corresponds later (first >>= next) (second >>= next') := by
  cases corresponds with
  | ok hrelated => exact hnext _ _ hrelated
  | error fault => exact .error fault

theorem Corresponds.mapError (f : ε → δ) (corresponds : Corresponds related first second) :
    Corresponds related (first.mapError f) (second.mapError f) := by
  cases corresponds with
  | ok hrelated => exact .ok hrelated
  | error fault => exact .error (f fault)

/-- What is known of all results of the second step is known of the related ones. -/
theorem Corresponds.knowing {known : β → Prop} (corresponds : Corresponds related first second)
    (hknown : ∀ value, second = .ok value → known value) :
    Corresponds (fun a b => related a b ∧ known b) first second := by
  cases corresponds with
  | ok hrelated => exact .ok ⟨hrelated, hknown _ rfl⟩
  | error fault => exact .error fault

end Corresponds

structure Document.Twins (text : String) (built document : Document) : Prop where
  first : built.IsTree text
  second : document.IsTree text
  same : built.root.toValue.unnumbered = document.root.toValue.unnumbered

namespace Build

theorem Yields.twins {action : Build Value} {original : Value} (yields : Yields action original)
    (flat : original.IsFlat) (text : String) {tree : Node} (htree : original.node? = some tree) :
    ∃ root, (action.after []).1.node? = some root ∧
      Document.Twins text (.ofMade root (action.after []).2 text) (.ofNode tree text) := by
  obtain ⟨own, hmade, hids, copies⟩ := yields []
  have hsame := copies.node?
  rw [htree] at hsame
  obtain ⟨root, hroot, -⟩ := Option.map_eq_some_iff.mp hsame
  refine ⟨root, hroot, yields.isTree flat hroot text, ?_, ?_⟩
  · rw [Value.eq_toValue htree] at flat
    exact Document.isTree_ofNode flat text
  · have hcopy := copies.unnumbered
    rw [Value.eq_toValue hroot, Value.eq_toValue htree] at hcopy
    exact hcopy.trans (Document.unnumbered_ofNode tree text).symm

theorem Yields.made_eq_nil {action : Build Value} {original : Value}
    (yields : Yields action original) (flat : original.IsFlat) (hnone : original.node? = none) :
    (action.after []).1.node? = none ∧ (action.after []).2 = [] := by
  obtain ⟨own, hmade, hids, copies⟩ := yields []
  have hsame := copies.node?
  rw [hnone] at hsame
  have hno : (action.after []).1.node? = none := Option.map_eq_none_iff.mp hsame
  refine ⟨hno, ?_⟩
  rw [List.nil_append] at hmade copies
  have hperm := copies.eachNode_perm flat
  rw [hmade]
  cases hvalue : (action.after []).1 with
  | node id type loc children =>
      rw [hvalue] at hno
      cases hno
  | _ =>
      rw [hvalue] at hperm
      exact hperm.nil_eq.symm

end Build

namespace Sexp

open Build (Yields YieldsAll makes_pure)

theorem isTree_of_readDocument {text : String} {document : Document}
    (hread : readDocument chart text = .ok document) :
    document.IsTree text ∧ document.source = some text := by
  obtain ⟨sexp, root, hsexp, hvalue, rfl⟩ := readDocument_eq_ok_iff.mp hread
  have built := builtOf_of_toValue (isTaken_of_readAll hsexp) hvalue
  refine ⟨Document.isTree_ofNode (Value.isFlat_of_builtOf built) text, ?_⟩
  rw [Document.ofNode]
  split <;> rfl

theorem corresponds_make {sexp : Sexp} (taken : sexp.IsTaken) (chart : Text.CodeChart) :
    Corresponds Yields (sexp.make chart) (sexp.toValue chart) := by
  induction taken with
  | @atom kind text htake =>
      rw [make, toValue]
      cases hdecode : kind.decode chart text with
      | error fault => exact .error fault
      | ok value =>
          have hatom := Value.isAtom_of_isSexpAtom (isSexpAtom_of_decode htake hdecode)
          exact .ok (makes_pure (.atom value hatom))
  | @list loc head items hhead each induction =>
      have hitems : Corresponds YieldsAll (makeAll chart items) (toValues chart items) := by
        clear each
        induction items with
        | nil => exact .ok (makes_pure .nil)
        | cons item rest hrest =>
            obtain ⟨hfirst, hothers⟩ := List.forall_mem_cons.mp induction
            refine hfirst.bind fun first value hvalue =>
              (hrest hothers).bind fun others values hvalues => .ok ?_
            exact hvalue.bind fun _ _ copies => hvalues.bind fun _ _ copied =>
              makes_pure (copies.append copied)
      rw [make, toValue]
      exact hitems.bind fun children values hchildren => .ok
        (Build.yields_node (some loc) (String.ofList head) hchildren)

theorem corresponds_build (chart : Text.CodeChart) (text : String) :
    Corresponds (Document.Twins text) (build chart text) (readDocument chart text) := by
  rw [build, readDocument]
  cases hread : SexpText.document.readAll text.toList with
  | error fault => exact .error _
  | ok sexp =>
      have taken := isTaken_of_readAll hread
      have hmake := (corresponds_make taken chart).knowing fun value hvalue =>
        Value.isFlat_of_builtOf (builtOf_of_toValue taken hvalue)
      refine (hmake.mapError Fault.atom).bind fun action value hmade => ?_
      obtain ⟨yields, flat⟩ := hmade
      cases htree : value.node? with
      | none =>
          dsimp only
          rw [(yields.made_eq_nil flat htree).1]
          exact .error _
      | some tree =>
          obtain ⟨root, hroot, twins⟩ := yields.twins flat text htree
          dsimp only
          rw [hroot]
          exact .ok twins

end Sexp

namespace Construct

/-- Lists stand where the grammar has them, and hold no lists. -/
structure IsFlat (program : Construct) : Prop where
  single : program.isList = false
  items : ∀ part, Part part program → ∀ item ∈ part.items, item.isList = false
  fields : ∀ part, Part part program → ∀ name field, (name, field) ∈ part.entries →
    fieldKind part.className name = .one → field.isList = false
  keywords : ∀ part, Part part program → part.className = "Call" →
    ∀ keyword ∈ (part.field "keywords").items, keyword.className = "keyword"

theorem isFlat_of_parts {program : Construct} (single : program.isList = false)
    (items : ∀ part ∈ program.parts, ∀ item ∈ part.items, item.isList = false)
    (fields : ∀ part ∈ program.parts, ∀ entry ∈ part.entries,
      fieldKind part.className entry.1 = .one → entry.2.isList = false)
    (keywords : ∀ part ∈ program.parts, part.className = "Call" →
      ∀ keyword ∈ (part.field "keywords").items, keyword.className = "keyword") :
    program.IsFlat :=
  ⟨single, fun part hpart => items part hpart.mem_parts,
    fun part hpart name field => fields part hpart.mem_parts (name, field),
    fun part hpart => keywords part hpart.mem_parts⟩

end Construct

namespace Program

open Construct (Part Kept fieldKind)

def unlisted : Vocabulary :=
  ⟨fun _ => True, fun _ => True, False⟩

theorem fits_unlisted {construct : Construct} (hlist : construct.isList = false) :
    unlisted.Fits construct :=
  ⟨fun _ _ => trivial, fun hsome => absurd (hsome.symm.trans hlist) (by decide)⟩

theorem suits_unlisted {program part : Construct} (flat : program.IsFlat)
    (kept : Kept part program) : unlisted.Suits part := by
  have hpart := Construct.part_of_kept kept
  refine ⟨fun _ _ => trivial, fun _ _ => trivial,
    fun item member => fits_unlisted (flat.items part hpart item member), ?_, ?_, ?_⟩
  · intro name field member takes
    unfold Construct.Takes at takes
    split at takes
    · exact fits_unlisted (flat.fields part hpart name field member ‹_›)
    · cases takes
    · cases takes
    · exact fits_unlisted takes.2.2
  · intro name field member hfirst first hitem
    have hplain := Construct.isDecoration_of_fieldKind (by rw [hfirst]; decide)
    have hfield := (Construct.part_entry member hplain).trans hpart
    exact fits_unlisted (flat.items field hfield first (List.mem_of_mem_head? hitem))
  · intro hcall keyword member
    have hkeyword : Part keyword part := Construct.part_of_item (by rw [hcall]; rfl) member
    have hclass := flat.keywords part hpart hcall keyword member
    rcases keyword.field_mem_entries "value" with habsent | hvalue
    · rw [habsent]
      exact fits_unlisted rfl
    · refine fits_unlisted (flat.fields keyword (hkeyword.trans hpart) "value" _ hvalue ?_)
      rw [hclass]
      rfl

theorem Grown.isFlat {vocabulary : Vocabulary} {index : LineIndex} {construct : Construct}
    {value : Value} (grown : Grown vocabulary index construct value)
    (hlists : ¬ vocabulary.lists) : value.IsFlat := by
  induction grown with
  | absent => exact .atom trivial
  | atom hatom hplain => exact .atom hplain
  | list hsome each induction => exact absurd hsome hlists
  | own htype each induction => exact .node trivial induction
  | span htype stand each induction => exact .node trivial induction
  | part hpart grown induction => exact induction

theorem isFlat_read {program : Construct} (flat : program.IsFlat) (index : LineIndex) :
    (read index program).value.IsFlat :=
  ((sprouts_read ⟨fun _ _ => trivial, fun _ _ => trivial⟩ index program
    fun _ kept => suits_unlisted flat kept).grows (fits_unlisted flat.single)).grown.isFlat id

theorem twins_build {program : Construct} (flat : program.IsFlat) (source : String) :
    Document.Twins source (build source program) (.ofNode (toTree source program) source) := by
  have sound := sound_recipe (.ofText source.toList) program
  have yields := sound.serves.value
  rw [reading_recipe] at yields
  have hflat := isFlat_read flat (.ofText source.toList)
  rw [build, toTree]
  cases htree : (read (.ofText source.toList) program).value.node? with
  | some tree =>
      obtain ⟨root, hroot, twins⟩ := yields.twins hflat source htree
      dsimp only
      rw [hroot]
      exact twins
  | none =>
      obtain ⟨hnone, hmade⟩ := yields.made_eq_nil hflat htree
      dsimp only
      rw [hnone, hmade]
      have hempty : (Node.toValue ⟨0, "begin", none, []⟩).IsFlat :=
        .node trivial (List.forall_mem_nil _)
      have tree := Document.isTree_ofNode hempty source
      exact ⟨tree, tree, rfl⟩

end Program

namespace Document

/-- Whatever text is read, with whatever parser, the document built of it node by node is a proper
tree, and so is the document that is read at once; but for the numbers they are the same. -/
theorem corresponds_build (chart : Text.CodeChart) (parser : Program.Parser) (form : Form)
    (text : String)
    (flat : ∀ program, form = .program → parser text = .ok program → program.IsFlat) :
    Corresponds (Twins text) (Document.build chart parser form text)
      (Document.read chart parser form text) := by
  cases form with
  | sexp => exact (Sexp.corresponds_build chart text).mapError _
  | program =>
      rw [Document.build, Document.read]
      cases hparsed : parser text with
      | error rejection => exact .error _
      | ok program => exact .ok (Program.twins_build (flat program rfl hparsed) text)

/-- Documents are proper trees, built node by node or read at once: every node is met once, is the
child of its parent alone, is below the root, and has the text at its range. -/
theorem isTree_of_build (chart : Text.CodeChart) (parser : Program.Parser) (form : Form)
    (text : String)
    (flat : ∀ program, form = .program → parser text = .ok program → program.IsFlat) :
    (∀ built, Document.build chart parser form text = .ok built → built.IsTree text) ∧
    (∀ document, Document.read chart parser form text = .ok document → document.IsTree text ∧
      ∃ built, Document.build chart parser form text = .ok built ∧
        built.root.toValue.unnumbered = document.root.toValue.unnumbered) ∧
    ∀ failure, Document.build chart parser form text = .error failure ↔
      Document.read chart parser form text = .error failure := by
  have hboth := corresponds_build chart parser form text flat
  generalize Document.build chart parser form text = building at *
  generalize Document.read chart parser form text = reading at *
  cases hboth with
  | @ok built document twins =>
      refine ⟨?_, ?_, fun failure => iff_of_false nofun nofun⟩
      · rintro _ ⟨⟩
        exact twins.first
      · rintro _ ⟨⟩
        exact ⟨twins.second, built, rfl, twins.same⟩
  | error fault => exact ⟨nofun, nofun, fun failure => .rfl⟩

/-- Two targets in a row, the value of an entry before its key, and the keywords of a call: the
nodes are numbered as they are made, and met from the root on. -/
theorem isTree_of_build_chained :
    let load : Construct := .node "Load" none [] []
    let store : Construct := .node "Store" none [] []
    let name := fun (position : Position) (id : String) (ctx : Construct) =>
      Construct.node "Name" (some position) ["id", "ctx"] [.str id, ctx]
    let number := fun (position : Position) (i : Int) =>
      Construct.node "Constant" (some position) ["value", "kind"] [.int i, .absent]
    let pair : Construct := .node "Tuple" (some ⟨1, 4, 1, 8⟩) ["elts", "ctx"]
      [.list [name ⟨1, 4, 1, 5⟩ "b" store, name ⟨1, 7, 1, 8⟩ "c" store], store]
    let call : Construct := .node "Call" (some ⟨1, 20, 1, 26⟩) ["func", "args", "keywords"]
      [name ⟨1, 20, 1, 21⟩ "f" load, .list [],
        .list [.node "keyword" (some ⟨1, 22, 1, 25⟩) ["arg", "value"]
          [.str "k", number ⟨1, 24, 1, 25⟩ 2]]]
    let dict : Construct := .node "Dict" (some ⟨1, 11, 1, 27⟩) ["keys", "values"]
      [.list [.absent, number ⟨1, 17, 1, 18⟩ 1], .list [name ⟨1, 14, 1, 15⟩ "d" load, call]]
    let program : Construct := .node "Module" none ["body", "type_ignores"]
      [.list [.node "Assign" (some ⟨1, 0, 1, 27⟩) ["targets", "value", "type_comment"]
        [.list [name ⟨1, 0, 1, 1⟩ "a" store, pair], dict, .absent],
          .node "Pass" (some ⟨2, 0, 2, 4⟩) [] []], .list []]
    let parser : Program.Parser := fun _ => .ok program
    ∃ built, Document.build Text.basicLatin parser .program
        "a = b, c = {**d, 1: f(k=2)}\npass\n" = .ok built ∧
      built.root.eachNode.map (fun node => (node.id, node.type)) =
        [(16, "begin"), (14, "lvasgn"), (13, "masgn"), (12, "mlhs"), (10, "lvasgn"),
          (11, "lvasgn"), (9, "hash"), (1, "kwsplat"), (0, "lvar"), (8, "pair"), (7, "int"),
          (6, "send"), (5, "hash"), (4, "pair"), (2, "sym"), (3, "int"), (15, "pass")] ∧
      program.IsFlat ∧ built.IsTree "a = b, c = {**d, 1: f(k=2)}\npass\n" := by
  intro load store name number pair call dict program parser
  have flat : program.IsFlat := Construct.isFlat_of_parts rfl (by decide +kernel)
    (by decide +kernel) (by decide +kernel)
  refine ⟨Program.build _ program, rfl, ?_, flat, ?_⟩
  · decide +kernel
  · refine (isTree_of_build Text.basicLatin parser .program _ fun parsed _ hparsed => ?_).1 _ rfl
    cases hparsed
    exact flat

end Document

end TreeMatch
