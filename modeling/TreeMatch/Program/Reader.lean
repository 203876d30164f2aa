import TreeMatch.Diagnostic
import TreeMatch.Document
import TreeMatch.Program.LineIndex

/-! From programs to documents. A construct with a place in the common vocabulary of syntax trees
becomes the node of that name; any other becomes a node named after its class. -/

namespace TreeMatch

/-- A construct together with what it becomes: as a value, and as the target of an assignment at
some range with the value assigned, if any. -/
inductive Reading
  | mk (construct : Construct) (loc : Option Range) (value : Value)
    (target : Option Range → List Value → Value) (parts : List Reading)

namespace Reading

def construct : Reading → Construct
  | mk construct .. => construct

def loc : Reading → Option Range
  | mk _ loc .. => loc

def value : Reading → Value
  | mk _ _ value .. => value

def target : Reading → Option Range → List Value → Value
  | mk _ _ _ target _ => target

def parts : Reading → List Reading
  | mk _ _ _ _ parts => parts

def absent : Reading :=
  mk .absent none .absent (fun _ _ => .absent) []

def isAbsent (reading : Reading) : Bool :=
  reading.construct.isAbsent

def className (reading : Reading) : String :=
  reading.construct.className

def items (reading : Reading) : List Reading :=
  match reading.construct with
  | .list _ => reading.parts
  | _ => []

end Reading

abbrev Fields := List (String × Reading)

namespace Fields

def get (fields : Fields) (name : String) : Reading :=
  (fields.lookup name).getD .absent

def symbol (fields : Fields) (name : String) (added : String) : Value :=
  .sym ((fields.get name).construct.nameText ++ added)

end Fields

def Reading.fields (reading : Reading) : Fields :=
  match reading.construct with
  | .node _ _ names _ => names.zip reading.parts
  | _ => []

namespace Program

def node (type : String) (loc : Option Range) (children : List Value) : Value :=
  .node 0 type loc children

def operators : List (String × String) :=
  [("Add", "+"), ("Sub", "-"), ("Mult", "*"), ("Div", "/"), ("FloorDiv", "//"), ("Mod", "%"),
    ("Pow", "**"), ("LShift", "<<"), ("RShift", ">>"), ("BitOr", "|"), ("BitAnd", "&"),
    ("BitXor", "^"), ("MatMult", "@"), ("Eq", "=="), ("NotEq", "!="), ("Lt", "<"), ("LtE", "<="),
    ("Gt", ">"), ("GtE", ">="), ("Is", "is"), ("IsNot", "is not"), ("In", "in"),
    ("NotIn", "not in"), ("Not", "!"), ("USub", "-@"), ("UAdd", "+@"), ("Invert", "~")]

def markers : List String :=
  ["And", "Or", "Load", "Store", "Del"]

def operatorSymbol (reading : Reading) : Value :=
  .sym ((operators.lookup reading.className).getD "")

def hiddenFields : List String :=
  ["ctx", "type_comment", "kind"]

def locOf (value : Value) : Option Range :=
  value.node?.bind Node.loc

def span (values : List Value) : Option Range :=
  Range.hull (values.filterMap locOf)

/-- A series of statements: a single one stands for itself. -/
def body (statements : Reading) : Value :=
  match statements.items.map Reading.value with
  | [] => .absent
  | [single] => single
  | several => node "begin" (span several) several

/-- The children of a node named after its class: lists are spread out. -/
def genericChildren (fields : Fields) : List Value :=
  fields.flatMap fun (name, field) =>
    if hiddenFields.contains name then []
    else
      match field.construct with
      | .list _ => field.parts.map Reading.value
      | _ => [field.value]

def generic (className : String) (loc : Option Range) (fields : Fields) : Value :=
  match operators.lookup className with
  | some symbol => .sym symbol
  | none =>
    if markers.contains className then .absent
    else node className.toLower loc (genericChildren fields)

/-- The values given to a target: none if the value assigned is absent. -/
def assigned (value : Value) : List Value :=
  match value with
  | .absent => []
  | value => [value]

def targetAlone (reading : Reading) : Value :=
  reading.target reading.loc []

/-- Assignment to a construct that is not a value otherwise, or `none` if the construct's own
value is the target. -/
def target? (className : String) (own : Option Range) (fields : Fields) (loc : Option Range)
    (values : List Value) : Option Value :=
  if className = "Name" then some (node "lvasgn" loc (fields.symbol "id" "" :: values))
  else if className = "Attribute" then
    some (node "send" loc ((fields.get "value").value :: fields.symbol "attr" "=" :: values))
  else if className = "Subscript" then
    some (node "send" loc
      ((fields.get "value").value :: .sym "[]=" :: (fields.get "slice").value :: values))
  else if className = "Tuple" ∨ className = "List" then
    let elements := (fields.get "elts").items.map targetAlone
    some (node "masgn" loc (node "mlhs" own elements :: values))
  else none

/-- An assignment; several targets nest, the last one innermost. -/
def assign (loc : Option Range) (fields : Fields) : Value :=
  (fields.get "targets").items.foldr (fun t value => t.target loc (assigned value))
    (fields.get "value").value

def parameter (type : String) (reading : Reading) : Value :=
  node type reading.loc [reading.fields.symbol "arg" ""]

def optionalParameter (type : String) (reading : Reading) : List Value :=
  if reading.isAbsent then [] else [parameter type reading]

def function (loc : Option Range) (fields : Fields) : Value :=
  let args := (fields.get "args").fields
  let plain := (args.get "posonlyargs").items ++ (args.get "args").items ++
    (args.get "kwonlyargs").items
  let params := plain.map (parameter "arg") ++ optionalParameter "restarg" (args.get "vararg") ++
    optionalParameter "kwrestarg" (args.get "kwarg")
  node "def" loc [fields.symbol "name" "", node "args" (span params) params,
    body (fields.get "body")]

def classDefinition (loc : Option Range) (fields : Fields) : Value :=
  let superclass :=
    match (fields.get "bases").items with
    | [] => .absent
    | first :: _ => first.value
  node "class" loc [node "const" loc [.absent, fields.symbol "name" ""], superclass,
    body (fields.get "body")]

def argument (reading : Reading) : Value :=
  if reading.className = "Starred" then
    node "splat" reading.loc [(reading.fields.get "value").value]
  else reading.value

def keywordArgument (reading : Reading) : Value :=
  let fields := reading.fields
  if (fields.get "arg").isAbsent then node "kwsplat" reading.loc [(fields.get "value").value]
  else
    node "pair" reading.loc
      [node "sym" reading.loc [fields.symbol "arg" ""], (fields.get "value").value]

def arguments (fields : Fields) : List Value :=
  let pairs := (fields.get "keywords").items.map keywordArgument
  (fields.get "args").items.map argument ++
    (if pairs.isEmpty then [] else [node "hash" (span pairs) pairs])

def call (loc : Option Range) (fields : Fields) : Value :=
  let func := fields.get "func"
  let head :=
    if func.className = "Name" then [.absent, func.fields.symbol "id" ""]
    else if func.className = "Attribute" then
      [(func.fields.get "value").value, func.fields.symbol "attr" ""]
    else [func.value, .sym "call"]
  node "send" loc (head ++ arguments fields)

def constant (loc : Option Range) (construct : Construct) : Value :=
  match construct with
  | .absent => node "nil" loc []
  | .bool b => node (if b then "true" else "false") loc []
  | .int i => node "int" loc [.int i]
  | .float x => node "float" loc [.float x]
  | .str s => node "str" loc [.str s]
  | .foreign kind text => node kind.toLower loc [.str text]
  | _ => node "" loc []

def unary (loc : Option Range) (fields : Fields) : Value :=
  let operand := fields.get "operand"
  let sent := node "send" loc [operand.value,
    if (fields.get "op").className = "Not" then .sym "!" else operatorSymbol (fields.get "op")]
  if (fields.get "op").className = "USub" ∧ operand.className = "Constant" then
    match (operand.fields.get "value").construct with
    | .int i => node "int" loc [.int (-i)]
    | .float x => node "float" loc [.float x.negate]
    | _ => sent
  else sent

/-- An entry of a dictionary display; one without a key spreads another dictionary. -/
def dictEntry (key value : Reading) : Value :=
  if key.isAbsent then node "kwsplat" (locOf value.value) [value.value]
  else node "pair" (span [key.value, value.value]) [key.value, value.value]

def dict (loc : Option Range) (fields : Fields) : Value :=
  node "hash" loc
    (((fields.get "keys").items.zip (fields.get "values").items).map fun (k, v) => dictEntry k v)

/-- The field that tells whether a name or a display is read or assigned to says it is read. -/
def isLoaded (fields : Fields) : Bool :=
  (fields.get "ctx").className == "Load"

def convert (className : String) (loc : Option Range) (fields : Fields) (alone : Value) : Value :=
  match className with
  | "Module" | "Interactive" => body (fields.get "body")
  | "Expression" => (fields.get "body").value
  | "Expr" => (fields.get "value").value
  | "Assign" => assign loc fields
  | "AugAssign" =>
    node "op_asgn" loc [targetAlone (fields.get "target"), operatorSymbol (fields.get "op"),
      (fields.get "value").value]
  | "FunctionDef" | "AsyncFunctionDef" => function loc fields
  | "ClassDef" => classDefinition loc fields
  | "Return" =>
    node "return" loc
      (if (fields.get "value").isAbsent then [] else [(fields.get "value").value])
  | "If" =>
    node "if" loc [(fields.get "test").value, body (fields.get "body"), body (fields.get "orelse")]
  | "While" => node "while" loc [(fields.get "test").value, body (fields.get "body")]
  | "For" =>
    node "for" loc [targetAlone (fields.get "target"), (fields.get "iter").value,
      body (fields.get "body")]
  | "Call" => call loc fields
  | "Attribute" => node "send" loc [(fields.get "value").value, fields.symbol "attr" ""]
  | "Subscript" =>
    node "send" loc [(fields.get "value").value, .sym "[]", (fields.get "slice").value]
  | "Name" => if isLoaded fields then node "lvar" loc [fields.symbol "id" ""] else alone
  | "Constant" => constant loc (fields.get "value").construct
  | "BinOp" =>
    node "send" loc
      [(fields.get "left").value, operatorSymbol (fields.get "op"), (fields.get "right").value]
  | "Compare" =>
    match (fields.get "ops").items, (fields.get "comparators").items with
    | [op], other :: _ =>
      node "send" loc [(fields.get "left").value, operatorSymbol op, other.value]
    | _, _ => generic className loc fields
  | "BoolOp" =>
    node (if (fields.get "op").className = "And" then "and" else "or") loc
      ((fields.get "values").items.map Reading.value)
  | "UnaryOp" => unary loc fields
  | "List" | "Tuple" =>
    if isLoaded fields then node "array" loc ((fields.get "elts").items.map Reading.value)
    else alone
  | "Dict" => dict loc fields
  | _ => generic className loc fields

theorem convert_compare (loc : Option Range) (fields : Fields) (alone : Value) :
    convert "Compare" loc fields alone =
      match (fields.get "ops").items, (fields.get "comparators").items with
      | [op], other :: _ =>
        node "send" loc [(fields.get "left").value, operatorSymbol op, other.value]
      | _, _ => generic "Compare" loc fields := rfl

def readNode (construct : Construct) (className : String) (loc : Option Range)
    (names : List String) (parts : List Reading) : Reading :=
  let fields : Fields := names.zip parts
  let value := convert className loc fields ((target? className loc fields loc []).getD .absent)
  let target := fun at' values =>
    (target? className loc fields at' values).getD (node "asgn" at' (value :: values))
  .mk construct loc value target parts

/-- The reading of a construct that is no node: as a target it counts like any other value. -/
def readAtom (construct : Construct) (value : Value) (parts : List Reading) : Reading :=
  .mk construct none value (fun loc values => node "asgn" loc (value :: values)) parts

mutual

def read (index : LineIndex) : Construct → Reading
  | .absent => readAtom .absent .absent []
  | .bool b => readAtom (.bool b) (.bool b) []
  | .int i => readAtom (.int i) (.int i) []
  | .float x => readAtom (.float x) (.float x) []
  | .str s => readAtom (.str s) (.str s) []
  | .foreign kind text => readAtom (.foreign kind text) (.foreign kind text) []
  | .list items =>
    let parts := readAll index items
    readAtom (.list items) (.list (parts.map Reading.value)) parts
  | .node className position names fields =>
    readNode (.node className position names fields) className (position.map index.rangeOf) names
      (readAll index fields)
termination_by structural construct => construct

def readAll (index : LineIndex) : List Construct → List Reading
  | [] => []
  | construct :: rest => read index construct :: readAll index rest
termination_by structural constructs => constructs

end

/-- The tree of a program. A program without a tree of its own has an empty node. -/
def toTree (source : String) (program : Construct) : Node :=
  ((read (LineIndex.ofText source.toList) program).value.node?).getD ⟨0, "begin", none, []⟩

structure Rejection where
  message : String
  line : Option Int
  column : Option Int
  deriving DecidableEq, Repr

def Rejection.diagnostic (source : String) (rejection : Rejection) : Diagnostic :=
  Diagnostic.make .sourceText ("cannot parse source: " ++ rejection.message) none
    (some (Span.point "<source>" (rejection.line.getD 0) (rejection.column.getD 0))) source ""

def readDocument (source : String) (parsed : Except Rejection Construct) :
    Except Diagnostic Document :=
  match parsed with
  | .ok program => .ok (Document.ofNode (toTree source program) source)
  | .error rejection => .error (rejection.diagnostic source)

end Program

end TreeMatch
