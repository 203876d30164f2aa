import TreeMatch.Program.Reader

/-! The syntax of programs: which fields the constructs have, and which of their parts a tree
keeps. -/

namespace TreeMatch

inductive FieldKind
  | one
  | many
  /-- A list of constructs, of which a tree keeps the first. -/
  | first
  | any
  /-- A name, a context or operators, in which there is no call. -/
  | plain
  /-- Constructs that a tree does not keep. -/
  | lost
  deriving DecidableEq, Repr

namespace Construct

def isList : Construct → Bool
  | list _ => true
  | _ => false

/-- The constructs with a place in the common vocabulary and those that only stand within one, each
with its fields that are not plain. -/
def grammar : List (String × List (String × FieldKind)) :=
  [("Module", [("body", .many)]),
    ("Interactive", [("body", .many)]),
    ("Expression", [("body", .one)]),
    ("Expr", [("value", .one)]),
    ("Assign", [("targets", .many), ("value", .one)]),
    ("AugAssign", [("target", .one), ("value", .one)]),
    ("FunctionDef", [("args", .lost), ("body", .many), ("decorator_list", .lost),
      ("returns", .lost), ("type_params", .lost)]),
    ("AsyncFunctionDef", [("args", .lost), ("body", .many), ("decorator_list", .lost),
      ("returns", .lost), ("type_params", .lost)]),
    ("ClassDef", [("bases", .first), ("keywords", .lost), ("body", .many),
      ("decorator_list", .lost), ("type_params", .lost)]),
    ("Return", [("value", .one)]),
    ("If", [("test", .one), ("body", .many), ("orelse", .many)]),
    ("While", [("test", .one), ("body", .many), ("orelse", .lost)]),
    ("For", [("target", .one), ("iter", .one), ("body", .many), ("orelse", .lost)]),
    ("Call", [("func", .one), ("args", .many), ("keywords", .many)]),
    ("keyword", [("value", .one)]),
    ("Starred", [("value", .one)]),
    ("Attribute", [("value", .one)]),
    ("Subscript", [("value", .one), ("slice", .one)]),
    ("Name", []),
    ("Constant", []),
    ("BinOp", [("left", .one), ("right", .one)]),
    ("Compare", [("left", .one), ("comparators", .many)]),
    ("BoolOp", [("values", .many)]),
    ("UnaryOp", [("operand", .one)]),
    ("List", [("elts", .many)]),
    ("Tuple", [("elts", .many)]),
    ("Dict", [("keys", .many), ("values", .many)])]

def isMark (className : String) : Bool :=
  (Program.operators.lookup className).isSome || Program.markers.contains className

/-- The fields of a construct without a place in the grammar hold what they like. -/
def fieldKind (className name : String) : FieldKind :=
  match grammar.lookup className with
  | some fields => (fields.lookup name).getD .plain
  | none => if isMark className || Program.hiddenFields.contains name then .plain else .any

mutual

def isCallFree : Construct → Bool
  | list items => allCallFree items
  | node className _ _ fields => className != "Call" && allCallFree fields
  | _ => true
termination_by structural construct => construct

def allCallFree : List Construct → Bool
  | [] => true
  | construct :: rest => isCallFree construct && allCallFree rest
termination_by structural constructs => constructs

end

def fits (construct : Construct) : FieldKind → Bool
  | .one => !construct.isList
  | .many => construct.isList
  | .first => construct.isList
  | .plain => construct.isCallFree
  | .any => true
  | .lost => true

def itemsOf (fields : List (String × Construct)) (name : String) : List Construct :=
  match fields.lookup name with
  | some (.list items) => items
  | _ => []

/-- The fields of a construct fit each other: there is an operand to every operator and a value to
every key, and a call has nothing but keywords among its keywords. -/
def agrees (className : String) (fields : List (String × Construct)) : Bool :=
  match className with
  | "Call" => (itemsOf fields "keywords").all fun keyword => keyword.className == "keyword"
  | "Compare" => (itemsOf fields "ops").length == (itemsOf fields "comparators").length
  | "Dict" => (itemsOf fields "keys").length == (itemsOf fields "values").length
  | _ => true

mutual

def isWellFormed : Construct → Bool
  | list items => items.all (fun item => !item.isList) && allWellFormed items
  | node className _ names fields =>
    decide names.Nodup &&
      (names.zip fields).all (fun (name, field) => field.fits (fieldKind className name)) &&
      agrees className (names.zip fields) && allWellFormed fields
  | _ => true
termination_by structural construct => construct

def allWellFormed : List Construct → Bool
  | [] => true
  | construct :: rest => isWellFormed construct && allWellFormed rest
termination_by structural constructs => constructs

end

/-- A construct is part of another, and no field on the way to it is lost. -/
inductive Kept (part : Construct) : Construct → Prop
  | self : Kept part part
  | item {items : List Construct} {item : Construct} (member : item ∈ items)
      (within : Kept part item) : Kept part (.list items)
  | field {className : String} {position : Option Position} {names : List String}
      {fields : List Construct} {name : String} {field : Construct}
      (member : (name, field) ∈ names.zip fields) (hlost : fieldKind className name ≠ .lost)
      (hfirst : fieldKind className name ≠ .first) (within : Kept part field) :
      Kept part (.node className position names fields)
  | first {className : String} {position : Option Position} {names : List String}
      {fields : List Construct} {name : String} {first : Construct} {rest : List Construct}
      (member : (name, .list (first :: rest)) ∈ names.zip fields)
      (hfirst : fieldKind className name = .first) (within : Kept part first) :
      Kept part (.node className position names fields)

section WellFormed

variable {className : String} {position : Option Position} {names : List String}
  {fields : List Construct} {items : List Construct} {item : Construct}

theorem allCallFree_eq_all (constructs : List Construct) :
    allCallFree constructs = constructs.all isCallFree := by
  induction constructs with
  | nil => rfl
  | cons construct rest induction => rw [allCallFree, induction, List.all_cons]

theorem allWellFormed_eq_all (constructs : List Construct) :
    allWellFormed constructs = constructs.all isWellFormed := by
  induction constructs with
  | nil => rfl
  | cons construct rest induction => rw [allWellFormed, induction, List.all_cons]

theorem isWellFormed_item (hwellFormed : (list items).isWellFormed = true) (member : item ∈ items) :
    item.isWellFormed = true ∧ item.isList = false := by
  rw [isWellFormed, allWellFormed_eq_all, Bool.and_eq_true, List.all_eq_true, List.all_eq_true]
    at hwellFormed
  have hitem := hwellFormed.1 item member
  rw [Bool.not_eq_true'] at hitem
  exact ⟨hwellFormed.2 item member, hitem⟩

structure IsRegular (className : String) (names : List String) (fields : List Construct) :
    Prop where
  nodup : names.Nodup
  fits : ∀ name field, (name, field) ∈ names.zip fields →
    field.fits (fieldKind className name) = true
  agrees : agrees className (names.zip fields) = true
  fields : ∀ field ∈ fields, field.isWellFormed = true

theorem isRegular_node
    (hwellFormed : (node className position names fields).isWellFormed = true) :
    IsRegular className names fields := by
  rw [isWellFormed, allWellFormed_eq_all, Bool.and_eq_true, Bool.and_eq_true, Bool.and_eq_true,
    decide_eq_true_eq, List.all_eq_true, List.all_eq_true] at hwellFormed
  obtain ⟨⟨⟨hnodup, hfits⟩, hagrees⟩, hfields⟩ := hwellFormed
  exact ⟨hnodup, fun name field => hfits (name, field), hagrees, hfields⟩

theorem isCallFree_of_kept {part whole : Construct} (kept : Kept part whole)
    (hpart : part.isCallFree = false) : whole.isCallFree = false := by
  induction kept with
  | self => exact hpart
  | item member within induction =>
      rw [isCallFree, allCallFree_eq_all, List.all_eq_false]
      exact ⟨_, member, Bool.eq_false_iff.mp induction⟩
  | field member hlost hfirst within induction =>
      rw [isCallFree, allCallFree_eq_all, Bool.and_eq_false_iff, List.all_eq_false]
      exact .inr ⟨_, (List.of_mem_zip member).2, Bool.eq_false_iff.mp induction⟩
  | @first className position names fields name first rest member hfirst within induction =>
      have hlist : (list (first :: rest)).isCallFree = false := by
        rw [isCallFree, allCallFree, induction, Bool.false_and]
      rw [isCallFree, allCallFree_eq_all, Bool.and_eq_false_iff, List.all_eq_false]
      exact .inr ⟨_, (List.of_mem_zip member).2, Bool.eq_false_iff.mp hlist⟩

end WellFormed

end Construct

end TreeMatch
