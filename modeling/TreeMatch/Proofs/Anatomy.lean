import TreeMatch.Proofs.Syntax

/-! The anatomy of constructs: their fields and parts, the words and atoms that their own nodes are
written with, and the parts that stand for the whole. -/

namespace TreeMatch

namespace Construct

def position? : Construct → Option Position
  | node _ position .. => position
  | _ => none

def loc (index : LineIndex) (construct : Construct) : Option Range :=
  construct.position?.map index.rangeOf

def entries : Construct → List (String × Construct)
  | node _ _ names fields => names.zip fields
  | _ => []

/-- What a field holds; nothing if there is no such field. -/
def field (construct : Construct) (name : String) : Construct :=
  (construct.entries.lookup name).getD .absent

def items : Construct → List Construct
  | list items => items
  | _ => []

def word (construct : Construct) (name : String) : String :=
  (construct.field name).nameText

def present (construct : Construct) : List Construct :=
  if construct.isAbsent then [] else [construct]

def parameters (function : Construct) : List Construct :=
  let args := function.field "args"
  (args.field "posonlyargs").items ++ (args.field "args").items ++
    (args.field "kwonlyargs").items ++ (args.field "vararg").present ++
    (args.field "kwarg").present

def operator (construct : Construct) : Value :=
  .sym ((Program.operators.lookup construct.className).getD "")

/-- Decorations are part of what they decorate, but lie outside of its range. -/
def isDecoration (className name : String) : Bool :=
  name == "decorator_list" &&
    ["FunctionDef", "AsyncFunctionDef", "ClassDef"].contains className

inductive Part (part : Construct) : Construct → Prop
  | self : Part part part
  | item {items : List Construct} {item : Construct} (member : item ∈ items)
      (within : Part part item) : Part part (.list items)
  | field {className : String} {position : Option Position} {names : List String}
      {fields : List Construct} {name : String} {field : Construct}
      (member : (name, field) ∈ names.zip fields) (hplain : isDecoration className name = false)
      (within : Part part field) : Part part (.node className position names fields)

mutual

def parts : Construct → List Construct
  | list items => list items :: partsAll items
  | node className position names fields =>
    node className position names fields :: partsAmong className names fields
  | atom => [atom]
termination_by structural construct => construct

def partsAll : List Construct → List Construct
  | [] => []
  | construct :: rest => parts construct ++ partsAll rest
termination_by structural constructs => constructs

def partsAmong (className : String) (names : List String) : List Construct → List Construct
  | [] => []
  | field :: fields =>
    match names with
    | [] => []
    | name :: names =>
      (if isDecoration className name then [] else parts field) ++ partsAmong className names fields
termination_by structural fields => fields

end

def IsBare (construct : Construct) : Prop :=
  ∀ part, Part part construct → part.position? = none

/-- The constructs that stand for another, one by one: the statements of a body, the parameters of
a function, the keywords of a call and the entries of a dictionary display. -/
def heads (construct : Construct) : List Construct :=
  match construct.className with
  | "Module" | "Interactive" | "ClassDef" | "While" | "For" => (construct.field "body").items
  | "FunctionDef" | "AsyncFunctionDef" => construct.parameters ++ (construct.field "body").items
  | "If" => (construct.field "body").items ++ (construct.field "orelse").items
  | "Call" => (construct.field "keywords").items
  | "Dict" => (construct.field "keys").items ++ (construct.field "values").items
  | "Expression" => (construct.field "body").present
  | "Expr" | "Assign" => (construct.field "value").present
  | _ => []

section Words

def bare : Construct → List Value
  | bool b => [.bool b]
  | int i => [.int i]
  | float x => [.float x]
  | str s => [.str s]
  | foreign kind text => [.foreign kind text]
  | node className .. => ((Program.operators.lookup className).map Value.sym).toList
  | _ => []

/-- A negated number is a number. -/
def folded? (unary : Construct) : Option Value :=
  if (unary.field "op").className = "USub" ∧ (unary.field "operand").className = "Constant" then
    match (unary.field "operand").field "value" with
    | .int i => some (.int (-i))
    | .float x => some (.float x.negate)
    | _ => none
  else none

def payload : Construct → List Value
  | int i => [.int i]
  | float x => [.float x]
  | str s => [.str s]
  | foreign _ text => [.str text]
  | _ => []

/-- The type of the node of a constant, where it is not common. -/
def payloadType : Construct → List String
  | foreign kind _ => [kind.toLower]
  | list _ => [""]
  | node .. => [""]
  | _ => []

/-- The atoms that a construct's own nodes hold, but for the values of its fields. -/
def leaves (construct : Construct) : List Value :=
  match construct.className with
  | "Name" => [.sym (construct.word "id")]
  | "Attribute" => [.sym (construct.word "attr"), .sym (construct.word "attr" ++ "=")]
  | "FunctionDef" | "AsyncFunctionDef" =>
    .sym (construct.word "name") :: construct.parameters.map fun p => .sym (p.word "arg")
  | "ClassDef" => [.sym (construct.word "name")]
  | "Call" => (construct.field "keywords").items.map fun k => .sym (k.word "arg")
  | "AugAssign" | "BinOp" => [(construct.field "op").operator]
  | "Compare" => (construct.field "ops").items.map operator
  | "UnaryOp" =>
    match construct.folded? with
    | some number => [number]
    | none =>
      if (construct.field "op").className = "Not" then [] else [(construct.field "op").operator]
  | "Constant" => (construct.field "value").payload
  | _ => []

/-- The types of a construct's own nodes, but for those of the common vocabulary. -/
def types (construct : Construct) : List String :=
  match construct with
  | node className .. =>
    if className = "Constant" then (construct.field "value").payloadType
    else if isMark className then []
    else [className.toLower]
  | _ => []

/-- The construct may become a node named after its class. -/
def isSpread (className : String) : Bool :=
  (grammar.lookup className).isNone || ["Compare", "keyword", "Starred"].contains className

/-- A construct takes the value of a field as it is. Lists that are spread out are not taken. -/
def Takes (className name : String) (field : Construct) : Prop :=
  match fieldKind className name with
  | .one => True
  | .first | .lost => False
  | _ => isSpread className = true ∧ Program.hiddenFields.contains name = false ∧
      field.isList = false

end Words

section Parts

variable {part inner whole item : Construct} {name : String}

theorem Part.trans (hpart : Part part inner) (hinner : Part inner whole) : Part part whole := by
  induction hinner with
  | self => exact hpart
  | item member _ induction => exact .item member induction
  | field member hplain _ induction => exact .field member hplain induction

theorem mem_partsAll {constructs : List Construct} {construct : Construct}
    (member : construct ∈ constructs) (hpart : part ∈ construct.parts) :
    part ∈ partsAll constructs := by
  induction constructs with
  | nil => cases member
  | cons first rest induction =>
      rw [partsAll, List.mem_append]
      rcases List.mem_cons.mp member with rfl | hrest
      · exact .inl hpart
      · exact .inr (induction hrest)

theorem mem_partsAmong {className : String} {names : List String} {fields : List Construct}
    {field : Construct} (member : (name, field) ∈ names.zip fields)
    (hplain : isDecoration className name = false) (hpart : part ∈ field.parts) :
    part ∈ partsAmong className names fields := by
  induction fields generalizing names with
  | nil => rw [List.zip_nil_right] at member; cases member
  | cons first rest induction =>
      cases names with
      | nil => cases member
      | cons own names =>
          rw [partsAmong, List.mem_append]
          rw [List.zip_cons_cons] at member
          rcases List.mem_cons.mp member with hsame | hrest
          · cases hsame
            rw [hplain, if_neg Bool.false_ne_true]
            exact .inl hpart
          · exact .inr (induction hrest)

theorem mem_parts_self (construct : Construct) : construct ∈ construct.parts := by
  cases construct with
  | list items => exact List.mem_cons_self
  | node className position names fields => exact List.mem_cons_self
  | _ => exact List.mem_singleton_self _

theorem Part.mem_parts (hpart : Part part whole) : part ∈ whole.parts := by
  induction hpart with
  | self => exact mem_parts_self part
  | item member _ induction =>
      rw [parts]
      exact List.mem_cons_of_mem _ (mem_partsAll member induction)
  | field member hplain _ induction =>
      rw [parts]
      exact List.mem_cons_of_mem _ (mem_partsAmong member hplain induction)

theorem Kept.trans (hpart : Kept part inner) (hinner : Kept inner whole) : Kept part whole := by
  induction hinner with
  | self => exact hpart
  | item member _ induction => exact .item member induction
  | field member hlost hfirst _ induction => exact .field member hlost hfirst induction
  | first member hfirst _ induction => exact .first member hfirst induction

theorem fieldKind_of_isDecoration {className : String}
    (hdecoration : isDecoration className name = true) : fieldKind className name = .lost := by
  rw [isDecoration, Bool.and_eq_true, beq_iff_eq, List.contains_iff_mem] at hdecoration
  obtain ⟨rfl, member⟩ := hdecoration
  revert className
  decide

theorem isDecoration_of_fieldKind {className : String} (hlost : fieldKind className name ≠ .lost) :
    isDecoration className name = false :=
  Bool.eq_false_iff.mpr fun hdecoration => hlost (fieldKind_of_isDecoration hdecoration)

theorem part_of_kept (kept : Kept part whole) : Part part whole := by
  induction kept with
  | self => exact .self
  | item member _ induction => exact .item member induction
  | field member hlost _ _ induction =>
      exact .field member (isDecoration_of_fieldKind hlost) induction
  | first member hfirst _ induction =>
      refine .field member (isDecoration_of_fieldKind ?_) (.item List.mem_cons_self induction)
      rw [hfirst]
      decide

def Inside (part whole : Construct) : Prop :=
  Kept part whole ∧ sizeOf part < sizeOf whole

theorem Inside.trans (hpart : Inside part inner) (hinner : Inside inner whole) :
    Inside part whole :=
  ⟨hpart.1.trans hinner.1, Nat.lt_trans hpart.2 hinner.2⟩

theorem inside_item (member : item ∈ whole.items) : Inside item whole := by
  cases whole with
  | list items =>
      refine ⟨.item member .self, ?_⟩
      have hsmaller : sizeOf item < sizeOf items := List.sizeOf_lt_of_mem member
      rw [list.sizeOf_spec]
      omega
  | _ => cases member

theorem field_mem_entries (whole : Construct) (name : String) :
    whole.field name = .absent ∨ (name, whole.field name) ∈ whole.entries := by
  rw [field]
  cases hlookup : whole.entries.lookup name with
  | none => exact .inl rfl
  | some found =>
      obtain ⟨before, after, hentries, -⟩ := List.lookup_eq_some_iff.mp hlookup
      rw [hentries]
      exact .inr (List.mem_append_right _ List.mem_cons_self)

theorem sizeOf_entry {name : String} {entry : Construct} (member : (name, entry) ∈ whole.entries) :
    sizeOf entry < sizeOf whole := by
  cases whole with
  | node className position names fields =>
      have hsmaller : sizeOf entry < sizeOf fields :=
        List.sizeOf_lt_of_mem (List.of_mem_zip member).2
      rw [node.sizeOf_spec]
      omega
  | _ => cases member

theorem inside_entry {entry : Construct} (member : (name, entry) ∈ whole.entries)
    (hlost : fieldKind whole.className name ≠ .lost)
    (hfirst : fieldKind whole.className name ≠ .first) : Inside entry whole := by
  refine ⟨?_, sizeOf_entry member⟩
  cases whole with
  | node className position names fields => exact .field member hlost hfirst .self
  | _ => cases member

theorem part_entry {entry : Construct} (member : (name, entry) ∈ whole.entries)
    (hplain : isDecoration whole.className name = false) : Part entry whole := by
  cases whole with
  | node className position names fields => exact .field member hplain .self
  | _ => cases member

/-- A field that is not lost is inside of the construct, unless there is none. -/
theorem inside_field (hlost : fieldKind whole.className name ≠ .lost)
    (hfirst : fieldKind whole.className name ≠ .first) :
    whole.field name = .absent ∨ Inside (whole.field name) whole :=
  (whole.field_mem_entries name).imp_right fun member => inside_entry member hlost hfirst

theorem inside_of_item (hlost : fieldKind whole.className name ≠ .lost)
    (hfirst : fieldKind whole.className name ≠ .first)
    (member : item ∈ (whole.field name).items) : Inside item whole := by
  rcases inside_field hlost hfirst with habsent | hinside
  · rw [habsent] at member
    cases member
  · exact (inside_item member).trans hinside

theorem inside_first {first : Construct} {rest : List Construct}
    (hkind : fieldKind whole.className name = .first)
    (hitems : (whole.field name).items = first :: rest) : Inside first whole := by
  have hlist : whole.field name = .list (first :: rest) := by
    cases hfield : whole.field name with
    | list items =>
        rw [hfield] at hitems
        rw [← hitems]
        rfl
    | _ =>
        rw [hfield] at hitems
        cases hitems
  have member := (whole.field_mem_entries name).resolve_left (by rw [hlist]; exact nofun)
  refine ⟨?_, Nat.lt_trans (inside_item (hitems ▸ List.mem_cons_self)).2 (sizeOf_entry member)⟩
  cases whole with
  | node className position names fields => exact .first (hlist ▸ member) hkind .self
  | _ => cases member

theorem part_field (hplain : isDecoration whole.className name = false) :
    whole.field name = .absent ∨ Part (whole.field name) whole :=
  (whole.field_mem_entries name).imp_right fun member => part_entry member hplain

theorem part_of_item (hplain : isDecoration whole.className name = false)
    (member : item ∈ (whole.field name).items) : Part item whole := by
  rcases part_field hplain with habsent | hpart
  · rw [habsent] at member
    cases member
  · exact (part_of_kept (inside_item member).1).trans hpart

theorem eq_absent (habsent : whole.isAbsent = true) : whole = .absent := by
  cases whole with
  | absent => rfl
  | _ => cases habsent

theorem ne_absent (hpresent : whole.isAbsent = false) : whole ≠ .absent := by
  rintro rfl
  cases hpresent

theorem mem_present : item ∈ whole.present ↔ item = whole ∧ whole.isAbsent = false := by
  rw [present]
  cases whole.isAbsent <;> simp

/-- The parameters of a function are part of it, though its arguments are not kept. -/
theorem part_parameter (hfunction : isDecoration whole.className "args" = false)
    (member : item ∈ whole.parameters) : Part item whole := by
  have hargs : ∀ name, isDecoration (whole.field "args").className name = false →
      (item ∈ ((whole.field "args").field name).items ∨
        item ∈ ((whole.field "args").field name).present) → Part item whole := by
    intro name hplain hitem
    have hwithin : Part (whole.field "args") whole := by
      refine (part_field hfunction).resolve_left fun habsent => ?_
      rw [habsent] at hitem
      rcases hitem with hitem | hitem <;> cases hitem
    refine Part.trans ?_ hwithin
    rcases hitem with hitem | hitem
    · exact part_of_item hplain hitem
    · obtain ⟨rfl, hpresent⟩ := mem_present.mp hitem
      refine (part_field hplain).resolve_left fun habsent => ?_
      rw [habsent] at hpresent
      cases hpresent
  rw [parameters] at member
  simp only [List.mem_append] at member
  rcases member with (((hitem | hitem) | hitem) | hitem) | hitem
  · exact hargs "posonlyargs" rfl (.inl hitem)
  · exact hargs "args" rfl (.inl hitem)
  · exact hargs "kwonlyargs" rfl (.inl hitem)
  · exact hargs "vararg" rfl (.inr hitem)
  · exact hargs "kwarg" rfl (.inr hitem)

theorem fieldKind_of_isSpread {className : String} (hspread : isSpread className = true)
    (name : String) :
    fieldKind className name ≠ .lost ∧ fieldKind className name ≠ .first := by
  rw [isSpread, Bool.or_eq_true, List.contains_iff_mem] at hspread
  rcases hspread with hnone | hspecial
  · rw [fieldKind, Option.isNone_iff_eq_none.mp hnone]
    dsimp only
    split <;> decide
  · have hentry : ∃ entry, grammar.lookup className = some entry ∧
        ∀ field ∈ entry, field.2 ≠ .lost ∧ field.2 ≠ .first := by
      revert className
      decide +kernel
    obtain ⟨entry, hlookup, hentry⟩ := hentry
    rw [fieldKind, hlookup]
    dsimp only
    cases hname : entry.lookup name with
    | none => exact ⟨by decide, by decide⟩
    | some kind =>
        obtain ⟨before, after, hsplit, -⟩ := List.lookup_eq_some_iff.mp hname
        exact hentry (name, kind) (hsplit ▸ List.mem_append_right _ List.mem_cons_self)

theorem fieldKind_value (className : String) :
    fieldKind className "value" ≠ .lost ∧ fieldKind className "value" ≠ .first := by
  rw [fieldKind]
  cases hentry : grammar.lookup className with
  | none =>
      dsimp only
      split <;> decide
  | some entry =>
      have hkinds : ∀ entry ∈ grammar, (entry.2.lookup "value").getD .plain ≠ .lost ∧
          (entry.2.lookup "value").getD .plain ≠ .first := by
        decide +kernel
      obtain ⟨before, after, hsplit, -⟩ := List.lookup_eq_some_iff.mp hentry
      exact hkinds (className, entry) (hsplit ▸ List.mem_append_right _ List.mem_cons_self)

theorem takes_of_isSpread {className : String} {field : Construct}
    (hspread : isSpread className = true) (hhidden : Program.hiddenFields.contains name = false)
    (hlist : field.isList = false) : Takes className name field := by
  obtain ⟨hlost, hfirst⟩ := fieldKind_of_isSpread hspread name
  rw [Takes]
  split
  · trivial
  · exact hfirst ‹_›
  · exact hlost ‹_›
  · exact ⟨hspread, hhidden, hlist⟩

end Parts

end Construct

structure Vocabulary where
  types : String → Prop
  atoms : Value → Prop
  /-- Lists may stand among the children of a node. -/
  lists : Prop

namespace Vocabulary

def commonTypes : List String :=
  ["nil", "true", "false", "int", "float", "str", "begin", "lvar", "lvasgn", "send", "masgn",
    "mlhs", "asgn", "op_asgn", "def", "args", "arg", "restarg", "kwrestarg", "class", "const",
    "return", "if", "while", "for", "splat", "kwsplat", "pair", "sym", "hash", "array", "and", "or"]

def commonSymbols : List String :=
  ["[]", "[]=", "call", "!"]

variable (vocabulary : Vocabulary)

structure IsOpen : Prop where
  types : ∀ type ∈ commonTypes, vocabulary.types type
  symbols : ∀ symbol ∈ commonSymbols, vocabulary.atoms (.sym symbol)

structure Fits (construct : Construct) : Prop where
  atoms : ∀ atom ∈ construct.bare, vocabulary.atoms atom
  lists : construct.isList = true → vocabulary.lists

structure Suits (construct : Construct) : Prop where
  types : ∀ type ∈ construct.types, vocabulary.types type
  leaves : ∀ atom ∈ construct.leaves, vocabulary.atoms atom
  items : ∀ item ∈ construct.items, vocabulary.Fits item
  fields : ∀ name field, (name, field) ∈ construct.entries →
    Construct.Takes construct.className name field → vocabulary.Fits field
  first : ∀ name field, (name, field) ∈ construct.entries →
    Construct.fieldKind construct.className name = .first →
    ∀ first ∈ field.items.head?, vocabulary.Fits first
  keywords : construct.className = "Call" →
    ∀ keyword ∈ (construct.field "keywords").items, vocabulary.Fits (keyword.field "value")

instance [DecidablePred vocabulary.atoms] [Decidable vocabulary.lists] :
    DecidablePred vocabulary.Fits := fun construct =>
  decidable_of_iff ((∀ atom ∈ construct.bare, vocabulary.atoms atom) ∧
    (construct.isList = true → vocabulary.lists))
    ⟨fun ⟨atoms, lists⟩ => ⟨atoms, lists⟩, fun ⟨atoms, lists⟩ => ⟨atoms, lists⟩⟩

instance (className name : String) (field : Construct) :
    Decidable (Construct.Takes className name field) := by
  unfold Construct.Takes
  split <;> infer_instance

instance [DecidablePred vocabulary.types] [DecidablePred vocabulary.atoms]
    [Decidable vocabulary.lists] : DecidablePred vocabulary.Suits := fun construct =>
  decidable_of_iff ((∀ type ∈ construct.types, vocabulary.types type) ∧
    (∀ atom ∈ construct.leaves, vocabulary.atoms atom) ∧
    (∀ item ∈ construct.items, vocabulary.Fits item) ∧
    (∀ entry ∈ construct.entries,
      Construct.Takes construct.className entry.1 entry.2 → vocabulary.Fits entry.2) ∧
    (∀ entry ∈ construct.entries, Construct.fieldKind construct.className entry.1 = .first →
      ∀ first ∈ entry.2.items.head?, vocabulary.Fits first) ∧
    (construct.className = "Call" →
      ∀ keyword ∈ (construct.field "keywords").items, vocabulary.Fits (keyword.field "value")))
    ⟨fun ⟨types, leaves, items, fields, first, keywords⟩ =>
      ⟨types, leaves, items, fun name field member => fields (name, field) member,
        fun name field member => first (name, field) member, keywords⟩,
    fun ⟨types, leaves, items, fields, first, keywords⟩ =>
      ⟨types, leaves, items, fun entry member => fields entry.1 entry.2 member,
        fun entry member => first entry.1 entry.2 member, keywords⟩⟩

end Vocabulary

end TreeMatch
