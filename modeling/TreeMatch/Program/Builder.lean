import TreeMatch.Build
import TreeMatch.Program.Reader

/-! Building the tree of a program node by node. The constructs are built in the order in which they
are asked for, which is not always that of the program. -/

namespace TreeMatch

/-- How a construct is built, as a value and as the target of an assignment. -/
inductive Recipe
  | mk (reading : Reading) (value : Build Value)
    (target : Option Range → List Value → Build Value) (parts : List Recipe)

namespace Recipe

def reading : Recipe → Reading
  | mk reading .. => reading

def value : Recipe → Build Value
  | mk _ value .. => value

def target : Recipe → Option Range → List Value → Build Value
  | mk _ _ target _ => target

def parts : Recipe → List Recipe
  | mk _ _ _ parts => parts

def absent : Recipe :=
  mk .absent (pure .absent) (fun _ _ => pure .absent) []

def loc (recipe : Recipe) : Option Range :=
  recipe.reading.loc

def isAbsent (recipe : Recipe) : Bool :=
  recipe.reading.isAbsent

def className (recipe : Recipe) : String :=
  recipe.reading.className

def items (recipe : Recipe) : List Recipe :=
  match recipe.reading.construct with
  | .list _ => recipe.parts
  | _ => []

end Recipe

abbrev Recipes := List (String × Recipe)

namespace Recipes

def get (recipes : Recipes) (name : String) : Recipe :=
  (recipes.lookup name).getD .absent

def symbol (recipes : Recipes) (name : String) (added : String) : Value :=
  .sym ((recipes.get name).reading.construct.nameText ++ added)

end Recipes

def Recipe.fields (recipe : Recipe) : Recipes :=
  match recipe.reading.construct with
  | .node _ _ names _ => names.zip recipe.parts
  | _ => []

namespace Build

open Program (span locOf operatorSymbol assigned)

def enclose (statements : List Value) : Build Value :=
  match statements with
  | [] => pure .absent
  | [single] => pure single
  | several => make "begin" (span several) several

def body (statements : Recipe) : Build Value := do
  enclose (← statements.items.mapM Recipe.value)

def genericChildren (field : String × Recipe) : Build (List Value) :=
  if Program.hiddenFields.contains field.1 then pure []
  else
    match field.2.reading.construct with
    | .list _ => field.2.parts.mapM Recipe.value
    | _ => do return [← field.2.value]

def generic (className : String) (loc : Option Range) (fields : Recipes) : Build Value :=
  match Program.operators.lookup className with
  | some symbol => pure (.sym symbol)
  | none =>
    if Program.markers.contains className then pure .absent
    else do make className.toLower loc (← fields.mapM genericChildren).flatten

def targetAlone (recipe : Recipe) : Build Value :=
  recipe.target recipe.loc []

def target? (className : String) (own : Option Range) (fields : Recipes) (loc : Option Range)
    (values : List Value) : Option (Build Value) :=
  if className = "Name" then some (make "lvasgn" loc (fields.symbol "id" "" :: values))
  else if className = "Attribute" then some do
    let value ← (fields.get "value").value
    make "send" loc (value :: fields.symbol "attr" "=" :: values)
  else if className = "Subscript" then some do
    let value ← (fields.get "value").value
    let slice ← (fields.get "slice").value
    make "send" loc (value :: .sym "[]=" :: slice :: values)
  else if className = "Tuple" ∨ className = "List" then some do
    let elements ← (fields.get "elts").items.mapM targetAlone
    let left ← make "mlhs" own elements
    make "masgn" loc (left :: values)
  else none

/-- The value is built first, and then the targets from the last one on. -/
def assign (loc : Option Range) (fields : Recipes) : Build Value := do
  let value ← (fields.get "value").value
  (fields.get "targets").items.foldrM (fun target value => target.target loc (assigned value)) value

def parameter (type : String) (recipe : Recipe) : Build Value :=
  make type recipe.loc [recipe.fields.symbol "arg" ""]

def optionalParameter (type : String) (recipe : Recipe) : Build (List Value) :=
  if recipe.isAbsent then pure [] else do return [← parameter type recipe]

def function (loc : Option Range) (fields : Recipes) : Build Value := do
  let args := (fields.get "args").fields
  let plain := (args.get "posonlyargs").items ++ (args.get "args").items ++
    (args.get "kwonlyargs").items
  let params ← plain.mapM (parameter "arg")
  let rest ← optionalParameter "restarg" (args.get "vararg")
  let more ← optionalParameter "kwrestarg" (args.get "kwarg")
  let all := params ++ rest ++ more
  let signature ← make "args" (span all) all
  let body ← body (fields.get "body")
  make "def" loc [fields.symbol "name" "", signature, body]

def superclass (bases : List Recipe) : Build Value :=
  match bases with
  | [] => pure .absent
  | first :: _ => first.value

def classDefinition (loc : Option Range) (fields : Recipes) : Build Value := do
  let superclass ← superclass (fields.get "bases").items
  let name ← make "const" loc [.absent, fields.symbol "name" ""]
  let body ← body (fields.get "body")
  make "class" loc [name, superclass, body]

def argument (recipe : Recipe) : Build Value :=
  if recipe.className = "Starred" then do
    make "splat" recipe.loc [← (recipe.fields.get "value").value]
  else recipe.value

def keywordArgument (recipe : Recipe) : Build Value :=
  if (recipe.fields.get "arg").isAbsent then do
    make "kwsplat" recipe.loc [← (recipe.fields.get "value").value]
  else do
    let key ← make "sym" recipe.loc [recipe.fields.symbol "arg" ""]
    let value ← (recipe.fields.get "value").value
    make "pair" recipe.loc [key, value]

def keywords (recipes : List Recipe) : Build (List Value) := do
  let pairs ← recipes.mapM keywordArgument
  if pairs.isEmpty then return [] else return [← make "hash" (span pairs) pairs]

def callHead (func : Recipe) : Build (List Value) :=
  if func.className = "Name" then pure [.absent, func.fields.symbol "id" ""]
  else if func.className = "Attribute" then do
    return [← (func.fields.get "value").value, func.fields.symbol "attr" ""]
  else do return [← func.value, .sym "call"]

def call (loc : Option Range) (fields : Recipes) : Build Value := do
  let head ← callHead (fields.get "func")
  let args ← (fields.get "args").items.mapM argument
  let hash ← keywords (fields.get "keywords").items
  make "send" loc (head ++ (args ++ hash))

def constant (loc : Option Range) (construct : Construct) : Build Value :=
  match construct with
  | .absent => make "nil" loc []
  | .bool b => make (if b then "true" else "false") loc []
  | .int i => make "int" loc [.int i]
  | .float x => make "float" loc [.float x]
  | .str s => make "str" loc [.str s]
  | .foreign kind text => make kind.toLower loc [.str text]
  | _ => make "" loc []

def unary (loc : Option Range) (fields : Recipes) : Build Value :=
  let operand := fields.get "operand"
  let sent : Build Value := do
    let value ← operand.value
    make "send" loc [value,
      if (fields.get "op").className = "Not" then .sym "!"
      else operatorSymbol (fields.get "op").reading]
  if (fields.get "op").className = "USub" ∧ operand.className = "Constant" then
    match (operand.fields.get "value").reading.construct with
    | .int i => make "int" loc [.int (-i)]
    | .float x => make "float" loc [.float x.negate]
    | _ => sent
  else sent

/-- The value of an entry is built before its key. -/
def dictEntry (entry : Recipe × Recipe) : Build Value := do
  let value ← entry.2.value
  if entry.1.isAbsent then make "kwsplat" (locOf value) [value]
  else
    let key ← entry.1.value
    make "pair" (span [key, value]) [key, value]

def dict (loc : Option Range) (fields : Recipes) : Build Value := do
  make "hash" loc
    (← ((fields.get "keys").items.zip (fields.get "values").items).mapM dictEntry)

def isLoaded (fields : Recipes) : Bool :=
  (fields.get "ctx").className == "Load"

/-- Builds the value of a construct, given how it is built as a target by itself. -/
def convert (className : String) (loc : Option Range) (fields : Recipes) (alone : Build Value) :
    Build Value :=
  match className with
  | "Module" | "Interactive" => body (fields.get "body")
  | "Expression" => (fields.get "body").value
  | "Expr" => (fields.get "value").value
  | "Assign" => assign loc fields
  | "AugAssign" => do
    let target ← targetAlone (fields.get "target")
    let value ← (fields.get "value").value
    make "op_asgn" loc [target, operatorSymbol (fields.get "op").reading, value]
  | "FunctionDef" | "AsyncFunctionDef" => function loc fields
  | "ClassDef" => classDefinition loc fields
  | "Return" =>
    if (fields.get "value").isAbsent then make "return" loc []
    else do make "return" loc [← (fields.get "value").value]
  | "If" => do
    let test ← (fields.get "test").value
    let body' ← body (fields.get "body")
    let orelse ← body (fields.get "orelse")
    make "if" loc [test, body', orelse]
  | "While" => do
    let test ← (fields.get "test").value
    let body ← body (fields.get "body")
    make "while" loc [test, body]
  | "For" => do
    let target ← targetAlone (fields.get "target")
    let iter ← (fields.get "iter").value
    let body ← body (fields.get "body")
    make "for" loc [target, iter, body]
  | "Call" => call loc fields
  | "Attribute" => do
    make "send" loc [← (fields.get "value").value, fields.symbol "attr" ""]
  | "Subscript" => do
    let value ← (fields.get "value").value
    let slice ← (fields.get "slice").value
    make "send" loc [value, .sym "[]", slice]
  | "Name" => if isLoaded fields then make "lvar" loc [fields.symbol "id" ""] else alone
  | "Constant" => constant loc (fields.get "value").reading.construct
  | "BinOp" => do
    let left ← (fields.get "left").value
    let right ← (fields.get "right").value
    make "send" loc [left, operatorSymbol (fields.get "op").reading, right]
  | "Compare" =>
    match (fields.get "ops").items, (fields.get "comparators").items with
    | [op], other :: _ => do
      let left ← (fields.get "left").value
      let right ← other.value
      make "send" loc [left, operatorSymbol op.reading, right]
    | _, _ => generic className loc fields
  | "BoolOp" => do
    make (if (fields.get "op").className = "And" then "and" else "or") loc
      (← (fields.get "values").items.mapM Recipe.value)
  | "UnaryOp" => unary loc fields
  | "List" | "Tuple" =>
    if isLoaded fields then do make "array" loc (← (fields.get "elts").items.mapM Recipe.value)
    else alone
  | "Dict" => dict loc fields
  | _ => generic className loc fields

theorem convert_compare (loc : Option Range) (fields : Recipes) (alone : Build Value) :
    convert "Compare" loc fields alone =
      match (fields.get "ops").items, (fields.get "comparators").items with
      | [op], other :: _ => do
        let left ← (fields.get "left").value
        let right ← other.value
        make "send" loc [left, operatorSymbol op.reading, right]
      | _, _ => generic "Compare" loc fields := rfl

end Build

namespace Program

def recipeOfNode (reading : Reading) (className : String) (loc : Option Range)
    (names : List String) (parts : List Recipe) : Recipe :=
  let fields : Recipes := names.zip parts
  let value := Build.convert className loc fields
    ((Build.target? className loc fields loc []).getD (pure .absent))
  let target := fun at' values =>
    (Build.target? className loc fields at' values).getD do
      Build.make "asgn" at' ((← value) :: values)
  .mk reading value target parts

def recipeOfAtom (reading : Reading) (value : Build Value) (parts : List Recipe) : Recipe :=
  .mk reading value (fun loc values => do Build.make "asgn" loc ((← value) :: values)) parts

mutual

def recipe (index : LineIndex) : Construct → Recipe
  | .absent => recipeOfAtom (read index .absent) (pure .absent) []
  | .bool b => recipeOfAtom (read index (.bool b)) (pure (.bool b)) []
  | .int i => recipeOfAtom (read index (.int i)) (pure (.int i)) []
  | .float x => recipeOfAtom (read index (.float x)) (pure (.float x)) []
  | .str s => recipeOfAtom (read index (.str s)) (pure (.str s)) []
  | .foreign kind text =>
    recipeOfAtom (read index (.foreign kind text)) (pure (.foreign kind text)) []
  | .list items =>
    let parts := recipes index items
    recipeOfAtom (read index (.list items)) (do return .list (← parts.mapM Recipe.value)) parts
  | .node className position names fields =>
    recipeOfNode (read index (.node className position names fields)) className
      (position.map index.rangeOf) names (recipes index fields)
termination_by structural construct => construct

def recipes (index : LineIndex) : List Construct → List Recipe
  | [] => []
  | construct :: rest => recipe index construct :: recipes index rest
termination_by structural constructs => constructs

end

def build (source : String) (program : Construct) : Document :=
  let (value, made) := (recipe (LineIndex.ofText source.toList) program).value.after []
  match value.node? with
  | some root => Document.ofMade root made source
  | none => Document.ofMade ⟨made.length, "begin", none, []⟩ made source

end Program

end TreeMatch
