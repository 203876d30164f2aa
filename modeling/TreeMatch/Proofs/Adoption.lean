import TreeMatch.Proofs.Growth
import TreeMatch.Proofs.Kinship
import TreeMatch.Proofs.Renumbering
import TreeMatch.Source

/-! Building a tree node by node: every node that is made becomes part of the tree once, whatever
the order in which the constructs are built. -/

namespace TreeMatch

namespace Value

theorem builtNodesAmong_append (front back : List Value) :
    builtNodesAmong (front ++ back) = builtNodesAmong front ++ builtNodesAmong back := by
  induction front with
  | nil => rfl
  | cons value rest induction =>
      rw [List.cons_append, builtNodesAmong, builtNodesAmong, induction, List.append_assoc]

theorem locOf_unnumbered (value : Value) :
    Program.locOf value.unnumbered = Program.locOf value := by
  cases value <;> rfl

end Value

structure Copies (values originals : List Value) (held : List Node) : Prop where
  same : values.map Value.unnumbered = originals.map Value.unnumbered
  nodes : (Value.builtNodesAmong values).Perm held

namespace Copies

variable {values originals others copied : List Value} {held own : List Node}

theorem nil : Copies [] [] [] :=
  ⟨rfl, .nil⟩

theorem append (front : Copies values originals held) (back : Copies others copied own) :
    Copies (values ++ others) (originals ++ copied) (held ++ own) := by
  refine ⟨?_, ?_⟩
  · rw [List.map_append, List.map_append, front.same, back.same]
  · rw [Value.builtNodesAmong_append]
    exact front.nodes.append back.nodes

theorem perm (copies : Copies values originals held) (hperm : held.Perm own) :
    Copies values originals own :=
  ⟨copies.same, copies.nodes.trans hperm⟩

theorem atom (value : Value) (hatom : value.IsAtom) : Copies [value] [value] [] := by
  refine ⟨rfl, ?_⟩
  cases value with
  | list items | tuple items => cases hatom
  | node id type loc children => cases hatom
  | _ => exact .nil

theorem symbol (symbol : String) : Copies [.sym symbol] [.sym symbol] [] :=
  .atom _ trivial

theorem absent : Copies [.absent] [.absent] [] :=
  .atom _ trivial

theorem unnumbered {value original : Value} (copies : Copies [value] [original] held) :
    value.unnumbered = original.unnumbered :=
  (List.cons.inj copies.same).1

theorem span_eq (copies : Copies values originals held) :
    Program.span values = Program.span originals := by
  have hlocs : ∀ values : List Value, values.filterMap Program.locOf =
      (values.map Value.unnumbered).filterMap Program.locOf := by
    intro values
    rw [List.filterMap_map]
    exact List.filterMap_congr fun value _ => (Value.locOf_unnumbered value).symm
  rw [Program.span, Program.span, hlocs values, hlocs originals, copies.same]

theorem assigned {value original : Value} (copies : Copies [value] [original] held) :
    Copies (Program.assigned value) (Program.assigned original) held := by
  have hsame := copies.unnumbered
  cases value with
  | absent =>
      cases original with
      | absent => exact ⟨rfl, copies.nodes⟩
      | _ => cases hsame
  | _ =>
      cases original with
      | absent => cases hsame
      | _ => exact copies

theorem list (copies : Copies values originals held) :
    Copies [.list values] [.list originals] held := by
  refine ⟨?_, ?_⟩
  · rw [List.map_singleton, List.map_singleton, Value.unnumbered, Value.unnumbered,
      Value.unnumberedAll_eq_map, Value.unnumberedAll_eq_map, copies.same]
  · rw [Value.builtNodesAmong, Value.builtNodesAmong, Value.builtNodes, List.append_nil]
    exact copies.nodes

end Copies

namespace Build

/-- The nodes that are made have the next numbers, and are those of the answer together with those
that were held before. -/
def Makes {α : Type} (held : List Node) (action : Build α) (answer : α → List Node → Prop) : Prop :=
  ∀ made, ∃ own, (action.after made).2 = made ++ own ∧
    own.map Node.id = List.range' made.length own.length ∧
    answer (action.after made).1 (held ++ own)

def Yields (action : Build Value) (original : Value) : Prop :=
  Makes [] action fun value now => Copies [value] [original] now

def YieldsAll (action : Build (List Value)) (originals : List Value) : Prop :=
  Makes [] action fun values now => Copies values originals now

section Rules

variable {α β : Type} {held : List Node} {answer : α → List Node → Prop}

theorem makes_pure {value : α} (hanswer : answer value held) :
    Makes held (pure value) answer := by
  intro made
  refine ⟨[], (List.append_nil made).symm, rfl, ?_⟩
  rw [List.append_nil]
  exact hanswer

theorem Makes.followed {first : Build α} {next : α → Build β} {middle : α → List Node → Prop}
    {answer : β → List Node → Prop} (hfirst : Makes held first middle)
    (hnext : ∀ value now, middle value now → Makes now (next value) answer) :
    Makes held (first >>= next) answer := by
  intro made
  obtain ⟨own, hmade, hids, hmiddle⟩ := hfirst made
  obtain ⟨more, hall, hmore, hanswer⟩ := hnext _ _ hmiddle (first.after made).2
  have hafter : (first >>= next).after made =
      (next (first.after made).1).after (first.after made).2 := rfl
  rw [hafter]
  refine ⟨own ++ more, ?_, ?_, ?_⟩
  · rw [hall, hmade, List.append_assoc]
  · rw [List.map_append, hids, hmore, hmade, List.length_append, List.length_append,
      List.range'_append_1]
  · rwa [← List.append_assoc]

theorem Makes.bind {first : Build α} {next : α → Build β} {middle : α → List Node → Prop}
    {answer : β → List Node → Prop} (hfirst : Makes [] first middle)
    (hnext : ∀ value own, middle value own → Makes (held ++ own) (next value) answer) :
    Makes held (first >>= next) answer := by
  have hheld : Makes held first fun value now => ∃ own, now = held ++ own ∧ middle value own := by
    intro made
    obtain ⟨own, hmade, hids, hmiddle⟩ := hfirst made
    exact ⟨own, hmade, hids, own, rfl, hmiddle⟩
  refine hheld.followed fun value now hmiddle => ?_
  obtain ⟨own, rfl, hvalue⟩ := hmiddle
  exact hnext value own hvalue

theorem makes_node {type : String} {loc : Option Range} {children originals : List Value}
    {own : List Node} (copies : Copies children originals own) (hperm : own.Perm held) :
    Makes held (make type loc children) fun value now =>
      Copies [value] [Program.node type loc originals] now := by
  intro made
  refine ⟨[⟨made.length, type, loc, children⟩], rfl, rfl, ?_, ?_⟩
  · change [Value.node 0 type loc (Value.unnumberedAll children)] =
      [Value.node 0 type loc (Value.unnumberedAll originals)]
    rw [Value.unnumberedAll_eq_map, Value.unnumberedAll_eq_map, copies.same]
  · change (Value.builtNodesAmong children ++ _ ++ []).Perm _
    rw [List.append_nil]
    exact (copies.nodes.trans hperm).append_right _

theorem makes_mapM {γ : Type} {items : List γ} {action : γ → Build Value} {original : γ → Value}
    (each : ∀ item ∈ items, Yields (action item) (original item)) :
    YieldsAll (items.mapM action) (items.map original) := by
  induction items with
  | nil => exact makes_pure .nil
  | cons item rest induction =>
      obtain ⟨hfirst, hrest⟩ := List.forall_mem_cons.mp each
      rw [YieldsAll, List.mapM_cons]
      exact hfirst.bind fun _ _ hvalue => (induction hrest).bind fun _ _ hvalues =>
        makes_pure (hvalue.append hvalues)

end Rules

end Build

open Build (Makes Yields YieldsAll makes_pure makes_node makes_mapM)

inductive Recipe.Sound : Recipe → Prop
  | mk {reading : Reading} {value : Build Value}
      {target : Option Range → List Value → Build Value} {parts : List Recipe}
      (hvalue : Yields value reading.value)
      (htarget : ∀ loc values originals held, Copies values originals held →
        Makes held (target loc values) fun value now =>
          Copies [value] [reading.target loc originals] now)
      (hparts : parts.map Recipe.reading = reading.parts) (each : ∀ part ∈ parts, Sound part) :
      Sound (.mk reading value target parts)

structure Recipe.Serves (recipe : Recipe) : Prop where
  value : Yields recipe.value recipe.reading.value
  alone : Yields (Build.targetAlone recipe) (Program.targetAlone recipe.reading)
  same : recipe.parts.map Recipe.reading = recipe.reading.parts
  each : ∀ part ∈ recipe.parts, part.Sound

theorem Recipe.Sound.target {recipe : Recipe} (sound : recipe.Sound) (loc : Option Range)
    {values originals : List Value} {held : List Node} (copies : Copies values originals held) :
    Makes held (recipe.target loc values) fun value now =>
      Copies [value] [recipe.reading.target loc originals] now := by
  cases sound with
  | mk hvalue htarget hparts each => exact htarget loc values originals held copies

theorem Recipe.Sound.serves {recipe : Recipe} (sound : recipe.Sound) : recipe.Serves := by
  have halone : Yields (Build.targetAlone recipe) (Program.targetAlone recipe.reading) :=
    sound.target _ .nil
  cases sound with
  | mk hvalue htarget hparts each => exact ⟨hvalue, halone, hparts, each⟩

theorem Recipe.serves_absent : Recipe.absent.Serves :=
  ⟨makes_pure .absent, makes_pure .absent, rfl, List.forall_mem_nil _⟩

structure Recipes.Serve (recipes : Recipes) (fields : Fields) : Prop where
  same : recipes.map (fun entry => (entry.1, entry.2.reading)) = fields
  each : ∀ entry ∈ recipes, entry.2.Sound

namespace Recipe.Serves

variable {recipe : Recipe} (serves : recipe.Serves)
include serves

theorem items : recipe.items.map Recipe.reading = recipe.reading.items ∧
    ∀ item ∈ recipe.items, item.Sound := by
  rw [Recipe.items, Reading.items]
  cases recipe.reading.construct with
  | list items => exact ⟨serves.same, serves.each⟩
  | _ => exact ⟨rfl, List.forall_mem_nil _⟩

theorem fields : recipe.fields.Serve recipe.reading.fields := by
  rw [Recipe.fields, Reading.fields]
  cases recipe.reading.construct with
  | node className position names fields =>
      refine ⟨?_, fun entry member => serves.each _ (List.of_mem_zip member).2⟩
      dsimp only
      rw [← serves.same, List.zip_map_right]
      rfl
  | _ => exact ⟨rfl, List.forall_mem_nil _⟩

theorem mapM_value : YieldsAll (recipe.items.mapM Recipe.value)
    (recipe.reading.items.map Reading.value) := by
  rw [← serves.items.1, List.map_map]
  exact makes_mapM fun item member => (serves.items.2 item member).serves.value

theorem mapM_alone : YieldsAll (recipe.items.mapM Build.targetAlone)
    (recipe.reading.items.map Program.targetAlone) := by
  rw [← serves.items.1, List.map_map]
  exact makes_mapM fun item member => (serves.items.2 item member).serves.alone

end Recipe.Serves

namespace Recipes.Serve

variable {recipes : Recipes} {fields : Fields} (serve : recipes.Serve fields)
include serve

theorem reading_get (name : String) : (recipes.get name).reading = fields.get name := by
  rw [Recipes.get, Fields.get, ← serve.same]
  clear serve
  induction recipes with
  | nil => rfl
  | cons entry rest induction =>
      rw [List.map_cons, List.lookup_cons, List.lookup_cons]
      cases name == entry.1 with
      | false => exact induction
      | true => rfl

theorem serves (name : String) : (recipes.get name).Serves := by
  rw [Recipes.get]
  cases hlookup : recipes.lookup name with
  | none => exact Recipe.serves_absent
  | some found => exact (serve.each _ (Program.mem_of_lookup hlookup)).serves

theorem symbol_eq (name added : String) :
    recipes.symbol name added = fields.symbol name added := by
  rw [Recipes.symbol, serve.reading_get, Fields.symbol]

theorem value (name : String) : Yields (recipes.get name).value (fields.get name).value :=
  serve.reading_get name ▸ (serve.serves name).value

end Recipes.Serve

namespace Build

open Program (locOf)

section Converters

variable {recipes : Recipes} {fields : Fields} (serve : recipes.Serve fields)
  (loc : Option Range) {className : String}

theorem yields_body {statements : Recipe} (serves : statements.Serves) :
    Yields (body statements) (Program.body statements.reading) := by
  refine serves.mapM_value.bind fun values own copies => ?_
  rw [Program.body]
  have hlength : values.length = (statements.reading.items.map Reading.value).length := by
    rw [← List.length_map, copies.same, List.length_map]
  generalize statements.reading.items.map Reading.value = originals at *
  match values, originals, hlength with
  | [], [], _ => exact makes_pure ⟨rfl, copies.nodes⟩
  | [value], [original], _ => exact makes_pure copies
  | first :: second :: rest, first' :: second' :: rest', _ =>
      rw [enclose, copies.span_eq]
      · exact makes_node copies (.refl _)
      · exact nofun
      · exact nofun

include serve

theorem yields_body_get (name : String) :
    Yields (body (recipes.get name)) (Program.body (fields.get name)) :=
  serve.reading_get name ▸ yields_body (serve.serves name)

theorem yields_alone (name : String) :
    Yields (targetAlone (recipes.get name)) (Program.targetAlone (fields.get name)) :=
  serve.reading_get name ▸ (serve.serves name).alone

theorem yields_values (name : String) : YieldsAll ((recipes.get name).items.mapM Recipe.value)
    ((fields.get name).items.map Reading.value) :=
  serve.reading_get name ▸ (serve.serves name).mapM_value

theorem className_get (name : String) :
    (recipes.get name).className = (fields.get name).className :=
  congrArg Reading.className (serve.reading_get name)

theorem isAbsent_get (name : String) : (recipes.get name).isAbsent = (fields.get name).isAbsent :=
  congrArg Reading.isAbsent (serve.reading_get name)

theorem fields_get (name : String) : (recipes.get name).fields.Serve (fields.get name).fields :=
  serve.reading_get name ▸ (serve.serves name).fields

omit serve

theorem yields_node {action : Build (List Value)} {originals : List Value} (type : String)
    (hall : YieldsAll action originals) :
    Yields (action >>= make type loc) (Program.node type loc originals) :=
  hall.bind fun _ _ copies => makes_node copies (.refl _)

theorem yields_parameter (type : String) {recipe : Recipe} (serves : recipe.Serves) :
    Yields (parameter type recipe) (Program.parameter type recipe.reading) := by
  rw [parameter, serves.fields.symbol_eq]
  exact makes_node (.symbol _) (.refl _)

theorem yields_optionalParameter (type : String) {recipe : Recipe} (serves : recipe.Serves) :
    YieldsAll (optionalParameter type recipe) (Program.optionalParameter type recipe.reading) := by
  rw [optionalParameter, Program.optionalParameter, Recipe.isAbsent]
  split
  · exact makes_pure .nil
  · exact (yields_parameter type serves).bind fun value own copies => makes_pure copies

theorem yields_superclass {bases : Recipe} (serves : bases.Serves) :
    Yields (superclass bases.items) (match bases.reading.items with
      | [] => .absent
      | first :: _ => first.value) := by
  obtain ⟨hsame, each⟩ := serves.items
  rw [← hsame]
  cases hitems : bases.items with
  | nil => exact makes_pure .absent
  | cons first rest =>
      rw [hitems] at each
      exact (each first List.mem_cons_self).serves.value

theorem yields_argument {recipe : Recipe} (serves : recipe.Serves) :
    Yields (argument recipe) (Program.argument recipe.reading) := by
  rw [argument, Program.argument, Recipe.className]
  split
  · exact (serves.fields.value "value").bind fun value own copies => makes_node copies (.refl _)
  · exact serves.value

theorem yields_keywordArgument {recipe : Recipe} (serves : recipe.Serves) :
    Yields (keywordArgument recipe) (Program.keywordArgument recipe.reading) := by
  have hvalue := serves.fields.value "value"
  rw [keywordArgument, Program.keywordArgument, isAbsent_get serves.fields,
    serves.fields.symbol_eq]
  split
  · exact hvalue.bind fun value own copies => makes_node copies (.refl _)
  · have hkey : Yields (make "sym" recipe.loc [recipe.reading.fields.symbol "arg" ""])
        (Program.node "sym" recipe.reading.loc [recipe.reading.fields.symbol "arg" ""]) :=
      makes_node (.symbol _) (.refl _)
    exact hkey.bind fun key own copies => hvalue.bind fun value more copied =>
      makes_node (copies.append copied) (.refl _)

theorem yields_keywords {recipe : Recipe} (serves : recipe.Serves) :
    YieldsAll (keywords recipe.items)
      (if (recipe.reading.items.map Program.keywordArgument).isEmpty then []
        else [Program.node "hash"
          (Program.span (recipe.reading.items.map Program.keywordArgument))
          (recipe.reading.items.map Program.keywordArgument)]) := by
  obtain ⟨hsame, each⟩ := serves.items
  have hpairs : YieldsAll (recipe.items.mapM keywordArgument)
      (recipe.reading.items.map Program.keywordArgument) := by
    rw [← hsame, List.map_map]
    exact makes_mapM fun item member => yields_keywordArgument (each item member).serves
  generalize recipe.reading.items.map Program.keywordArgument = originals at *
  refine hpairs.bind fun pairs own copies => ?_
  have hempty : pairs.isEmpty = originals.isEmpty := by
    rw [← List.isEmpty_map, copies.same, List.isEmpty_map]
  cases hnone : originals.isEmpty with
  | true =>
      have hnopairs := hempty.trans hnone
      rw [hnopairs]
      rw [List.isEmpty_iff.mp hnone, List.isEmpty_iff.mp hnopairs] at copies
      exact makes_pure copies
  | false =>
      rw [hempty.trans hnone, copies.span_eq]
      exact (makes_node copies (.refl _)).followed fun value now copied => makes_pure copied

theorem makes_flatten {γ : Type} {items : List γ} {action : γ → Build (List Value)}
    {originals : γ → List Value} (each : ∀ item ∈ items, YieldsAll (action item) (originals item)) :
    Makes [] (items.mapM action) fun lists now =>
      Copies lists.flatten (items.flatMap originals) now := by
  induction items with
  | nil => exact makes_pure .nil
  | cons item rest induction =>
      obtain ⟨hfirst, hrest⟩ := List.forall_mem_cons.mp each
      rw [List.mapM_cons]
      refine hfirst.bind fun values own copies => (induction hrest).bind fun lists more copied => ?_
      exact makes_pure (copies.append copied)

theorem yields_genericChildren {name : String} {recipe : Recipe} (sound : recipe.Sound) :
    YieldsAll (genericChildren (name, recipe))
      (Program.genericChildren [(name, recipe.reading)]) := by
  rw [genericChildren, Program.genericChildren, List.flatMap_singleton]
  dsimp only
  split
  · exact makes_pure .nil
  · cases recipe.reading.construct with
    | list items =>
        dsimp only
        rw [← sound.serves.same, List.map_map]
        exact makes_mapM fun part member => (sound.serves.each part member).serves.value
    | _ => exact sound.serves.value.bind fun value own copies => makes_pure copies

section Serve

include serve

theorem yields_generic : Yields (generic className loc recipes)
    (Program.generic className loc fields) := by
  rw [generic, Program.generic]
  cases Program.operators.lookup className with
  | some symbol => exact makes_pure (.symbol _)
  | none =>
      dsimp only
      split
      · exact makes_pure .absent
      · refine (makes_flatten fun field member =>
          yields_genericChildren (serve.each field member)).bind fun lists own copies => ?_
        refine makes_node ⟨copies.same.trans ?_, copies.nodes⟩ (.refl _)
        rw [← serve.same, Program.genericChildren, List.flatMap_map]
        simp only [Program.genericChildren, List.flatMap_singleton]

variable (className) in
theorem makes_target? (own : Option Range) {values originals : List Value} {held : List Node}
    (copies : Copies values originals held) {fallback : Build Value} {other : Value}
    (hfallback : Makes held fallback fun value now => Copies [value] [other] now) :
    Makes held ((target? className own recipes loc values).getD fallback) fun value now =>
      Copies [value] [(Program.target? className own fields loc originals).getD other] now := by
  rw [target?, Program.target?]
  split
  · rw [serve.symbol_eq]
    exact makes_node ((Copies.symbol _).append copies) (.refl _)
  split
  · rw [serve.symbol_eq]
    refine (serve.value "value").bind fun value own copied => ?_
    exact makes_node (copied.append ((Copies.symbol _).append copies)) List.perm_append_comm
  split
  · refine (serve.value "value").bind fun value own copied =>
      (serve.value "slice").bind fun slice more copied' => ?_
    refine makes_node (copied.append ((Copies.symbol _).append (copied'.append copies))) ?_
    rw [List.nil_append, ← List.append_assoc, List.append_assoc held]
    exact List.perm_append_comm
  split
  · have helements := serve.reading_get "elts" ▸ (serve.serves "elts").mapM_alone
    have hleft := yields_node own "mlhs" helements
    rw [Option.getD_some, ← bind_assoc]
    refine hleft.bind fun left own copied => ?_
    exact makes_node (copied.append copies) List.perm_append_comm
  · exact hfallback

/-- The targets are built from the last one on, each around the value so far. -/
theorem yields_assign : Yields (assign loc recipes) (Program.assign loc fields) := by
  have htargets : ∀ targets : List Recipe, (∀ target ∈ targets, target.Sound) →
      ∀ {value original : Value} {held : List Node}, Copies [value] [original] held →
        Makes held
          (targets.foldrM (fun target value => target.target loc (Program.assigned value)) value)
          fun value now => Copies [value] [(targets.map Recipe.reading).foldr
            (fun target value => target.target loc (Program.assigned value)) original] now := by
    intro targets each value original held copies
    induction targets with
    | nil => exact makes_pure copies
    | cons target rest induction =>
        obtain ⟨hfirst, hrest⟩ := List.forall_mem_cons.mp each
        rw [List.foldrM_cons]
        exact (induction hrest).followed fun value now copied =>
          hfirst.target loc copied.assigned
  obtain ⟨hsame, each⟩ := (serve.serves "targets").items
  rw [Program.assign, ← serve.reading_get "targets", ← hsame]
  exact (serve.value "value").bind fun value own copies => htargets _ each copies

theorem yields_plain (name : String) : (recipes.get name).items.map Recipe.reading =
      (fields.get name).items ∧ ∀ item ∈ (recipes.get name).items, item.Sound :=
  serve.reading_get name ▸ (serve.serves name).items

theorem yields_function : Yields (function loc recipes) (Program.function loc fields) := by
  have hargs := fields_get serve "args"
  obtain ⟨hfirst, first⟩ := yields_plain hargs "posonlyargs"
  obtain ⟨hsecond, second⟩ := yields_plain hargs "args"
  obtain ⟨hthird, third⟩ := yields_plain hargs "kwonlyargs"
  rw [function, Program.function, serve.symbol_eq, ← hfirst, ← hsecond, ← hthird, ← List.map_append,
    ← List.map_append, List.map_map]
  have hplain := makes_mapM fun item member =>
    yields_parameter "arg" (List.forall_mem_append.mpr
      ⟨List.forall_mem_append.mpr ⟨first, second⟩, third⟩ item member).serves
  have hrest := hargs.reading_get "vararg" ▸
    yields_optionalParameter "restarg" (hargs.serves "vararg")
  have hmore := hargs.reading_get "kwarg" ▸
    yields_optionalParameter "kwrestarg" (hargs.serves "kwarg")
  refine hplain.bind fun params own copies => hrest.bind fun rest others copied =>
    hmore.bind fun more last copied' => ?_
  have hall := (copies.append copied).append copied'
  dsimp only
  rw [hall.span_eq]
  refine (makes_node hall (.refl _)).followed fun signature now copies => ?_
  refine (yields_body_get serve "body").bind fun body own copied => ?_
  exact makes_node ((Copies.symbol _).append (copies.append copied)) (.refl _)

theorem yields_classDefinition :
    Yields (classDefinition loc recipes) (Program.classDefinition loc fields) := by
  have hsuperclass := serve.reading_get "bases" ▸ yields_superclass (serve.serves "bases")
  have hname : Yields (make "const" loc [.absent, recipes.symbol "name" ""])
      (Program.node "const" loc [.absent, fields.symbol "name" ""]) := by
    rw [serve.symbol_eq]
    exact makes_node (Copies.absent.append (.symbol _)) (.refl _)
  refine hsuperclass.bind fun superclass own copies => hname.bind fun name more copied =>
    (yields_body_get serve "body").bind fun body last copied' => ?_
  exact makes_node (copied.append (copies.append copied')) (by
    rw [List.nil_append, ← List.append_assoc]
    exact .append_right _ List.perm_append_comm)

omit serve in
theorem yields_callHead {func : Recipe} (serves : func.Serves) :
    YieldsAll (callHead func)
      (if func.reading.className = "Name" then [.absent, func.reading.fields.symbol "id" ""]
        else if func.reading.className = "Attribute" then
          [(func.reading.fields.get "value").value, func.reading.fields.symbol "attr" ""]
        else [func.reading.value, .sym "call"]) := by
  rw [callHead, Recipe.className, serves.fields.symbol_eq, serves.fields.symbol_eq]
  split
  · exact makes_pure (Copies.absent.append (.symbol _))
  split
  · refine (serves.fields.value "value").bind fun value own copies => ?_
    exact makes_pure ((copies.append (.symbol _)).perm (.of_eq (List.append_nil _)))
  · refine serves.value.bind fun value own copies => ?_
    exact makes_pure ((copies.append (.symbol _)).perm (.of_eq (List.append_nil _)))

theorem yields_call : Yields (call loc recipes) (Program.call loc fields) := by
  have hhead := serve.reading_get "func" ▸ yields_callHead (serve.serves "func")
  have hkeywords := serve.reading_get "keywords" ▸ yields_keywords (serve.serves "keywords")
  obtain ⟨hsame, each⟩ := yields_plain serve "args"
  have hargs := makes_mapM fun item member => yields_argument (each item member).serves
  rw [Program.call, Program.arguments, ← hsame, List.map_map]
  refine hhead.bind fun head own copies => hargs.bind fun args others copied =>
    hkeywords.bind fun hash last copied' => ?_
  exact makes_node (copies.append (copied.append copied'))
    (.of_eq (List.append_assoc own others last).symm)

omit serve in
theorem yields_constant (construct : Construct) :
    Yields (constant loc construct) (Program.constant loc construct) := by
  cases construct with
  | int i => exact makes_node (.atom (.int i) trivial) (.refl _)
  | float x => exact makes_node (.atom (.float x) trivial) (.refl _)
  | str text | foreign kind text => exact makes_node (.atom (.str text) trivial) (.refl _)
  | _ => exact makes_node .nil (.refl _)

theorem yields_unary : Yields (unary loc recipes) (Program.unary loc fields) := by
  have hoperand := serve.reading_get "operand"
  have hfields := hoperand ▸ (serve.serves "operand").fields
  have hsymbol : ∀ (op : Reading), Copies
      [if op.className = "Not" then .sym "!" else Program.operatorSymbol op]
      [if op.className = "Not" then .sym "!" else Program.operatorSymbol op] [] := by
    intro op
    split
    · exact .symbol _
    · exact .symbol _
  have hsent : Yields
      (do
        let value ← (recipes.get "operand").value
        make "send" loc [value, if (fields.get "op").className = "Not" then .sym "!"
          else Program.operatorSymbol (fields.get "op")])
      (Program.node "send" loc [(fields.get "operand").value,
        if (fields.get "op").className = "Not" then .sym "!"
        else Program.operatorSymbol (fields.get "op")]) :=
    (serve.value "operand").bind fun value own copies =>
      makes_node (copies.append (hsymbol _)) (.of_eq (List.append_nil own))
  rw [unary, Program.unary, className_get serve, className_get serve, serve.reading_get,
    hfields.reading_get]
  split
  · cases ((fields.get "operand").fields.get "value").construct with
    | int i => exact makes_node (.atom (.int (-i)) trivial) (.refl _)
    | float x => exact makes_node (.atom (.float x.negate) trivial) (.refl _)
    | _ => exact hsent
  · exact hsent

omit serve in
theorem yields_dictEntry {key value : Recipe} (keySound : key.Sound) (valueSound : value.Sound) :
    Yields (dictEntry (key, value)) (Program.dictEntry key.reading value.reading) := by
  rw [dictEntry, Program.dictEntry]
  refine valueSound.serves.value.bind fun built own copies => ?_
  dsimp only
  rw [Recipe.isAbsent]
  split
  · have hloc : locOf built = locOf value.reading.value := by
      rw [← Value.locOf_unnumbered, copies.unnumbered, Value.locOf_unnumbered]
    rw [hloc]
    exact makes_node copies (.refl _)
  · refine keySound.serves.value.bind fun builtKey more copied => ?_
    have hboth := copied.append copies
    have hspan : Program.span [builtKey, built] =
        Program.span [key.reading.value, value.reading.value] := hboth.span_eq
    rw [hspan]
    exact makes_node hboth List.perm_append_comm

theorem yields_dict : Yields (dict loc recipes) (Program.dict loc fields) := by
  obtain ⟨hkeys, keys⟩ := yields_plain serve "keys"
  obtain ⟨hvalues, values⟩ := yields_plain serve "values"
  rw [Program.dict, ← hkeys, ← hvalues, List.zip_map, List.map_map]
  exact yields_node loc "hash" (makes_mapM fun entry member =>
    yields_dictEntry (keys _ (List.of_mem_zip member).1) (values _ (List.of_mem_zip member).2))

omit serve in
theorem yields_between {first second : Build Value} {left right : Value} (type symbol : String)
    (hfirst : Yields first left) (hsecond : Yields second right) :
    Yields
      (do
        let left ← first
        let right ← second
        make type loc [left, .sym symbol, right])
      (Program.node type loc [left, .sym symbol, right]) :=
  hfirst.bind fun _ _ copies => hsecond.bind fun _ _ copied =>
    makes_node (copies.append ((Copies.symbol symbol).append copied)) (.refl _)

theorem yields_compare {alone : Build Value} {original : Value} :
    Yields (convert "Compare" loc recipes alone)
      (Program.convert "Compare" loc fields original) := by
  obtain ⟨hops, ops⟩ := yields_plain serve "ops"
  obtain ⟨hothers, others⟩ := yields_plain serve "comparators"
  rw [convert_compare, Program.convert_compare, ← hops, ← hothers]
  rcases (recipes.get "ops").items with - | ⟨op, - | ⟨later, rest⟩⟩
  · exact yields_generic serve loc
  · -- One operator compares with the first of the others, if there is one.
    generalize (recipes.get "comparators").items = operands at others
    cases operands with
    | nil => exact yields_generic serve loc
    | cons other rest =>
        have hother := (others other List.mem_cons_self).serves.value
        exact yields_between loc "send" _ (serve.value "left") hother
  · exact yields_generic serve loc

variable (className) in
/-- What is built of a construct is a copy of what it becomes, whatever its class is. -/
theorem yields_convert {alone : Build Value} {original : Value} (halone : Yields alone original) :
    Yields (convert className loc recipes alone)
      (Program.convert className loc fields original) := by
  have hload : isLoaded recipes = Program.isLoaded fields := by
    rw [isLoaded, className_get serve, Program.isLoaded]
  have hoperator := congrArg Program.operatorSymbol (serve.reading_get "op")
  have hvalue := serve.value "value"
  have hbody := yields_body_get serve "body"
  -- The cases are those of the conversion: statements, expressions, and the rest.
  unfold convert
  split
  · exact hbody
  · exact hbody
  · exact serve.value "body"
  · exact hvalue
  · exact yields_assign serve loc
  · rw [hoperator]
    exact yields_between loc "op_asgn" _ (yields_alone serve "target") hvalue
  · exact yields_function serve loc
  · exact yields_function serve loc
  · exact yields_classDefinition serve loc
  · rw [isAbsent_get serve]
    change Yields _ (Program.node "return" loc (if _ then [] else [_]))
    split
    · exact makes_node .nil (.refl _)
    · exact hvalue.bind fun value own copies => makes_node copies (.refl _)
  · refine (serve.value "test").bind fun test own copies => hbody.bind fun body more copied =>
      (yields_body_get serve "orelse").bind fun orelse last copied' => ?_
    exact makes_node (copies.append (copied.append copied'))
      (.of_eq (List.append_assoc own more last).symm)
  · refine (serve.value "test").bind fun test own copies => hbody.bind fun body more copied => ?_
    exact makes_node (copies.append copied) (.refl _)
  · refine (yields_alone serve "target").bind fun target own copies =>
      (serve.value "iter").bind fun iter more copied => hbody.bind fun body last copied' => ?_
    exact makes_node (copies.append (copied.append copied'))
      (.of_eq (List.append_assoc own more last).symm)
  · exact yields_call serve loc
  · rw [serve.symbol_eq]
    refine hvalue.bind fun value own copies => ?_
    exact makes_node (copies.append (.symbol _)) (.of_eq (List.append_nil own))
  · exact yields_between loc "send" _ hvalue (serve.value "slice")
  · rw [hload]
    change Yields _ (if _ then Program.node "lvar" loc [_] else original)
    split
    · rw [serve.symbol_eq]
      exact makes_node (.symbol _) (.refl _)
    · exact halone
  · rw [serve.reading_get]
    exact yields_constant loc _
  · rw [hoperator]
    exact yields_between loc "send" _ (serve.value "left") (serve.value "right")
  · have hcompare : Yields (convert "Compare" loc recipes alone)
        (Program.convert "Compare" loc fields original) := yields_compare serve loc
    rwa [convert_compare] at hcompare
  · rw [className_get serve]
    exact yields_node loc _ (yields_values serve "values")
  · exact yields_unary serve loc
  · rw [hload]
    change Yields _ (if _ then Program.node "array" loc _ else original)
    split
    · exact yields_node loc "array" (yields_values serve "elts")
    · exact halone
  · rw [hload]
    change Yields _ (if _ then Program.node "array" loc _ else original)
    split
    · exact yields_node loc "array" (yields_values serve "elts")
    · exact halone
  · exact yields_dict serve loc
  · unfold Program.convert
    split
    all_goals first | contradiction | exact yields_generic serve loc

end Serve

end Converters

end Build

namespace Program

variable {construct : Construct} {readings : List Reading} {parts : List Recipe}

theorem sound_recipeOfAtom {value : Build Value} {original : Value} (hvalue : Yields value original)
    (hparts : parts.map Recipe.reading = readings) (each : ∀ part ∈ parts, part.Sound) :
    (recipeOfAtom (readAtom construct original readings) value parts).Sound :=
  .mk hvalue (fun _ _ _ _ copies => hvalue.bind fun _ _ copied =>
    makes_node (copied.append copies) List.perm_append_comm) hparts each

theorem sound_recipeOfNode (className : String) (loc : Option Range) (names : List String)
    (hparts : parts.map Recipe.reading = readings) (each : ∀ part ∈ parts, part.Sound) :
    (recipeOfNode (readNode construct className loc names readings) className loc names
      parts).Sound := by
  have serve : Recipes.Serve (names.zip parts) (names.zip readings) := by
    refine ⟨?_, fun entry member => each _ (List.of_mem_zip member).2⟩
    rw [← hparts, List.zip_map_right]
    rfl
  have halone := Build.makes_target? serve loc className loc .nil (makes_pure .absent)
  have hvalue := Build.yields_convert serve loc className halone
  exact .mk hvalue (fun at' _ _ _ copies => Build.makes_target? serve at' className loc copies
    (hvalue.bind fun _ _ copied => makes_node (copied.append copies) List.perm_append_comm))
    hparts each

variable (index : LineIndex)

theorem recipes_eq_map (constructs : List Construct) :
    recipes index constructs = constructs.map (recipe index) := by
  induction constructs with
  | nil => rfl
  | cons construct rest induction => rw [recipes, induction, List.map_cons]

theorem reading_recipe (construct : Construct) :
    (recipe index construct).reading = read index construct := by
  cases construct <;> rfl

theorem reading_recipes (constructs : List Construct) :
    (recipes index constructs).map Recipe.reading = readAll index constructs := by
  rw [recipes_eq_map, List.map_map, readAll_eq_map]
  exact List.map_congr_left fun construct _ => reading_recipe index construct

theorem sound_recipe (construct : Construct) : (recipe index construct).Sound := by
  induction hsize : sizeOf construct using Nat.strongRecOn generalizing construct with
  | _ size induction =>
    have hrecipes : ∀ constructs : List Construct, sizeOf constructs < sizeOf construct →
        ∀ part ∈ recipes index constructs, part.Sound := by
      intro constructs hsmaller part member
      rw [recipes_eq_map] at member
      obtain ⟨inner, hinner, rfl⟩ := List.mem_map.mp member
      have hless := List.sizeOf_lt_of_mem hinner
      exact induction _ (by omega) inner rfl
    cases construct with
    | list items =>
        have hitems := hrecipes items (by rw [Construct.list.sizeOf_spec]; omega)
        have hreadings := reading_recipes index items
        refine sound_recipeOfAtom ?_ hreadings hitems
        rw [← hreadings, List.map_map]
        exact (makes_mapM fun part member => (hitems part member).serves.value).bind
          fun values own copies => makes_pure copies.list
    | node className position names fields =>
        refine sound_recipeOfNode className _ names (reading_recipes index fields)
          (hrecipes fields ?_)
        rw [Construct.node.sizeOf_spec]
        omega
    | _ => exact sound_recipeOfAtom (makes_pure (.atom _ trivial)) rfl (List.forall_mem_nil _)

end Program

end TreeMatch
