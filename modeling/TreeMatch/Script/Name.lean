import TreeMatch.Place
import TreeMatch.Text.Charset

/-! Names in a generated script: which are taken, and how a name is made from any text. -/

namespace TreeMatch.Script

def keywords : List String :=
  ["False", "None", "True", "and", "as", "assert", "async", "await", "break", "class", "continue",
   "def", "del", "elif", "else", "except", "finally", "for", "from", "global", "if", "import",
   "in", "is", "lambda", "nonlocal", "not", "or", "pass", "raise", "return", "try", "while",
   "with", "yield"]

def isKeyword (name : String) : Bool :=
  keywords.contains name

def builtinNames : List String :=
  ["ArithmeticError", "AssertionError", "AttributeError", "BaseException", "BaseExceptionGroup",
   "BlockingIOError", "BrokenPipeError", "BufferError", "BytesWarning", "ChildProcessError",
   "ConnectionAbortedError", "ConnectionError", "ConnectionRefusedError", "ConnectionResetError",
   "DeprecationWarning", "EOFError", "Ellipsis", "EncodingWarning", "EnvironmentError",
   "Exception", "ExceptionGroup", "False", "FileExistsError", "FileNotFoundError",
   "FloatingPointError", "FutureWarning", "GeneratorExit", "IOError", "ImportError",
   "ImportWarning", "IndentationError", "IndexError", "InterruptedError", "IsADirectoryError",
   "KeyError", "KeyboardInterrupt", "LookupError", "MemoryError", "ModuleNotFoundError",
   "NameError", "None", "NotADirectoryError", "NotImplemented", "NotImplementedError", "OSError",
   "OverflowError", "PendingDeprecationWarning", "PermissionError", "ProcessLookupError",
   "RecursionError", "ReferenceError", "ResourceWarning", "RuntimeError", "RuntimeWarning",
   "StopAsyncIteration", "StopIteration", "SyntaxError", "SyntaxWarning", "SystemError",
   "SystemExit", "TabError", "TimeoutError", "True", "TypeError", "UnboundLocalError",
   "UnicodeDecodeError", "UnicodeEncodeError", "UnicodeError", "UnicodeTranslateError",
   "UnicodeWarning", "UserWarning", "ValueError", "Warning", "ZeroDivisionError",
   "__build_class__", "__debug__", "__doc__", "__import__", "__loader__", "__name__",
   "__package__", "__spec__", "abs", "aiter", "all", "anext", "any", "ascii", "bin", "bool",
   "breakpoint", "bytearray", "bytes", "callable", "chr", "classmethod", "compile", "complex",
   "copyright", "credits", "delattr", "dict", "dir", "divmod", "enumerate", "eval", "exec",
   "exit", "filter", "float", "format", "frozenset", "getattr", "globals", "hasattr", "hash",
   "help", "hex", "id", "input", "int", "isinstance", "issubclass", "iter", "len", "license",
   "list", "locals", "map", "max", "memoryview", "min", "next", "object", "oct", "open", "ord",
   "pow", "print", "property", "quit", "range", "repr", "reversed", "round", "set", "setattr",
   "slice", "sorted", "staticmethod", "str", "sum", "super", "tuple", "type", "vars", "zip"]

/-- The place where a script keeps the names that it finds defined. -/
def builtinsName : String := "__builtins__"

/-- Further names that the collection of defined names answers to, being an object itself. -/
def objectNames : List String :=
  ["__annotations__", "__class__", "__delattr__", "__dict__", "__dir__", "__eq__", "__format__",
   "__ge__", "__getattribute__", "__getstate__", "__gt__", "__hash__", "__init__",
   "__init_subclass__", "__le__", "__lt__", "__ne__", "__new__", "__reduce__", "__reduce_ex__",
   "__repr__", "__setattr__", "__sizeof__", "__str__", "__subclasshook__"]

def reservedNames : List String :=
  [rootName, "captures", "trace"]

def helperNames : List String :=
  ["_is_node", "_eq", "_capture", "_param_match", "_result", "Sym"]

/-- The name would hide one that a generated function relies on. -/
def isShadowing (name : String) : Bool :=
  reservedNames.contains name || helperNames.contains name || builtinNames.contains name ||
    objectNames.contains name

/-- A name as it may be used for a function: hyphens become underscores, other foreign characters
go, and a digit in front or a keyword gets an underscore. -/
def identifierOf (text : String) : String :=
  let kept := (text.toList.map fun c => if c = '-' then '_' else c).filter fun c =>
    Text.isAsciiLetter c || Text.isAsciiDigit c || c == '_'
  let kept :=
    match kept with
    | c :: _ => if Text.isAsciiDigit c then '_' :: kept else kept
    | [] => kept
  let name := String.ofList kept
  if isKeyword name then name ++ "_"
  else if name = "" then "_unnamed"
  else name

def functionName (requested : String) : String :=
  let name := identifierOf requested
  if isShadowing name then "matcher" else name

def nameWarnings (requested : String) : List String :=
  (if !Text.isIdentifier requested || isKeyword requested then
    ["function_name " ++ Text.quoted requested ++ " is not a valid identifier"] else []) ++
  (if isShadowing requested then
    ["function_name " ++ Text.quoted requested ++ " shadows a name the matcher uses"] else [])

end TreeMatch.Script
