import LiveShell.Value.Basic
import LiveShell.Value.Members

/-!
The built-in kinds: what they are called, what they inherit from, and which members they have.
-/

namespace LiveShell

/-- The errors that are built in, each with the one it is a case of. -/
def errorParents : List (String × String) :=
  [("Exception", "BaseException"), ("BaseExceptionGroup", "BaseException"),
   ("GeneratorExit", "BaseException"), ("KeyboardInterrupt", "BaseException"),
   ("SystemExit", "BaseException"), ("CancelledError", "BaseException"),
   ("ArithmeticError", "Exception"), ("FloatingPointError", "ArithmeticError"),
   ("OverflowError", "ArithmeticError"), ("ZeroDivisionError", "ArithmeticError"),
   ("AssertionError", "Exception"), ("AttributeError", "Exception"), ("BufferError", "Exception"),
   ("EOFError", "Exception"), ("ExceptionGroup", "BaseExceptionGroup"), ("ImportError", "Exception"),
   ("ModuleNotFoundError", "ImportError"), ("LookupError", "Exception"), ("IndexError", "LookupError"),
   ("KeyError", "LookupError"), ("MemoryError", "Exception"), ("NameError", "Exception"),
   ("UnboundLocalError", "NameError"), ("OSError", "Exception"), ("BlockingIOError", "OSError"),
   ("ChildProcessError", "OSError"), ("ConnectionError", "OSError"),
   ("BrokenPipeError", "ConnectionError"), ("ConnectionAbortedError", "ConnectionError"),
   ("ConnectionRefusedError", "ConnectionError"), ("ConnectionResetError", "ConnectionError"),
   ("FileExistsError", "OSError"), ("FileNotFoundError", "OSError"), ("InterruptedError", "OSError"),
   ("IsADirectoryError", "OSError"), ("NotADirectoryError", "OSError"), ("PermissionError", "OSError"),
   ("ProcessLookupError", "OSError"), ("TimeoutError", "OSError"), ("ReferenceError", "Exception"),
   ("RuntimeError", "Exception"), ("NotImplementedError", "RuntimeError"),
   ("RecursionError", "RuntimeError"), ("StopAsyncIteration", "Exception"),
   ("StopIteration", "Exception"), ("SyntaxError", "Exception"), ("IndentationError", "SyntaxError"),
   ("TabError", "IndentationError"), ("SystemError", "Exception"), ("TypeError", "Exception"),
   ("ValueError", "Exception"), ("UnicodeError", "ValueError"), ("UnicodeDecodeError", "UnicodeError"),
   ("UnicodeEncodeError", "UnicodeError"), ("UnicodeTranslateError", "UnicodeError"),
   ("Warning", "Exception"), ("BytesWarning", "Warning"), ("DeprecationWarning", "Warning"),
   ("EncodingWarning", "Warning"), ("FutureWarning", "Warning"), ("ImportWarning", "Warning"),
   ("PendingDeprecationWarning", "Warning"), ("ResourceWarning", "Warning"),
   ("RuntimeWarning", "Warning"), ("SyntaxWarning", "Warning"), ("UnicodeWarning", "Warning"),
   ("UserWarning", "Warning"), ("error", "Exception"), ("JSONDecodeError", "ValueError"),
   ("ConchError", "Exception"), ("ConchConfigError", "ConchError"), ("SideEffectError", "ConchError"),
   ("PatternRequiredError", "ConchError"), ("ValidationError", "ValueError")]

/-- The errors that the shell itself adds. -/
def shellErrors : List String :=
  ["ConchError", "ConchConfigError", "SideEffectError", "PatternRequiredError"]

/-- The errors that an error is a case of, itself first. -/
def errorOrder : Nat → String → List String
  | 0, name => [name]
  | fuel + 1, name => match errorParents.lookup name with
      | some parent => name :: errorOrder fuel parent
      | none => [name]

/-- Whether every error of one name is one of another. -/
def isErrorCase (name ancestor : String) : Bool := (errorOrder 8 name).contains ancestor

namespace Kind

def name : Kind → String
  | object => "object"
  | type => "type"
  | nothing => "NoneType"
  | ellipsis => "ellipsis"
  | notImplemented => "NotImplementedType"
  | boolean => "bool"
  | whole => "int"
  | real => "float"
  | complex => "complex"
  | text => "str"
  | bytes => "bytes"
  | tuple => "tuple"
  | list => "list"
  | dict => "dict"
  | defaultDict => "defaultdict"
  | set => "set"
  | frozenSet => "frozenset"
  | range => "range"
  | slice => "slice"
  | function => "function"
  | routine => "builtin_function_or_method"
  | method => "method"
  | wrapper => "method-wrapper"
  | descriptor => "method_descriptor"
  | slotDescriptor => "wrapper_descriptor"
  | fieldDescriptor => "getset_descriptor"
  | module => "module"
  | generator => "generator"
  | coroutine => "coroutine"
  | property => "property"
  | staticMethod => "staticmethod"
  | classMethod => "classmethod"
  | super => "super"
  | enumerate => "enumerate"
  | zip => "zip"
  | map => "map"
  | filter => "filter"
  | reversed => "reversed"
  | pattern => "Pattern"
  | matched => "Match"
  | patternFlag => "RegexFlag"
  | path => "Path"
  | systemPath => "PosixPath"
  | error name => name
  | named name => name

/-- The library that a kind outside of the built-in names belongs to. -/
def library? : Kind → Option String
  | defaultDict => some "collections"
  | pattern | matched => some "re"
  | path | systemPath => some "pathlib"
  | error "error" => some "re"
  | error "JSONDecodeError" => some "json.decoder"
  | error "CancelledError" => some "asyncio.exceptions"
  | error name => if shellErrors.contains name then some "conch.exceptions" else none
  | _ => none

/-- The name of a kind with its library. -/
def fullName (kind : Kind) : String :=
  match kind.library? with
  | some library => library ++ "." ++ kind.name
  | none => kind.name

/-- A kind and what it inherits from, in order. -/
def order : Kind → List Kind
  | object => [object]
  | boolean => [boolean, whole, object]
  | defaultDict => [defaultDict, dict, object]
  | patternFlag => [patternFlag, whole, object]
  | systemPath => [systemPath, path, object]
  | error name => (errorOrder 8 name).map error ++ [object]
  | kind => [kind, object]

/-- Kinds that no class may extend. -/
def isFinal : Kind → Bool
  | boolean | nothing | ellipsis | notImplemented | range | slice | function | routine | method | wrapper
  | descriptor | slotDescriptor | fieldDescriptor | generator | coroutine => true
  | _ => false

/-- The members of a kind beyond those of every object. -/
def ownMembers : Kind → List String
  | boolean | whole => Members.whole
  | patternFlag => Members.whole ++ ["name", "value", "__module__"]
  | real => Members.real
  | complex => Members.complex
  | text => Members.text
  | bytes => Members.bytes
  | tuple => Members.tuple
  | list => Members.list
  | dict => Members.mapping
  | defaultDict => Members.mapping ++ ["__copy__", "__missing__", "default_factory", "__module__"]
  | set => Members.set
  | frozenSet => Members.frozenSet
  | range => Members.range
  | nothing | notImplemented => Members.nothing
  | slice => ["indices", "start", "step", "stop"]
  | function => Members.function
  | routine | wrapper => Members.routine
  | method => ["__call__", "__func__", "__get__", "__self__"]
  | descriptor | slotDescriptor | fieldDescriptor => Members.descriptor
  | generator => Members.generator
  | coroutine => ["__await__", "__del__", "__name__", "__qualname__", "close", "cr_await", "cr_code",
      "cr_frame", "cr_origin", "cr_running", "cr_suspended", "send", "throw"]
  | type => ["__abstractmethods__", "__annotations__", "__base__", "__bases__", "__basicsize__", "__call__",
      "__dict__", "__dictoffset__", "__flags__", "__instancecheck__", "__itemsize__", "__module__", "__mro__",
      "__name__", "__or__", "__prepare__", "__qualname__", "__ror__", "__subclasscheck__", "__subclasses__",
      "__text_signature__", "__weakrefoffset__", "mro"]
  | path | systemPath => Members.path
  | module => ["__dict__"]
  | property => ["__delete__", "__get__", "__isabstractmethod__", "__set__", "__set_name__", "deleter",
      "fdel", "fget", "fset", "getter", "setter"]
  | enumerate | zip | map | filter | reversed => ["__iter__", "__next__"]
  | pattern => ["__class_getitem__", "__copy__", "__deepcopy__", "__module__", "findall", "finditer",
      "flags", "fullmatch", "groupindex", "groups", "match", "pattern", "scanner", "search", "split", "sub",
      "subn"]
  | matched => ["__class_getitem__", "__copy__", "__deepcopy__", "__getitem__", "__module__", "end",
      "endpos", "expand", "group", "groupdict", "groups", "lastgroup", "lastindex", "pos", "re", "regs",
      "span", "start", "string"]
  | error "StopIteration" => ["value"] ++ errorMembers
  | error "SystemExit" => ["code"] ++ errorMembers
  | error name =>
      errorMembers ++ (if isErrorCase name "ImportError" then ["msg", "name", "path"] else []) ++
        (if isErrorCase name "OSError" then ["characters_written", "errno", "filename", "filename2",
          "strerror"] else []) ++
        (if isErrorCase name "AttributeError" then ["name", "obj"] else []) ++
        (if isErrorCase name "NameError" then ["name"] else []) ++
        (if isErrorCase name "SyntaxError" then ["end_lineno", "end_offset", "filename", "lineno", "msg",
          "offset", "print_file_and_line", "text"] else [])
  | named "dict_keys" => viewMembers ++ setMembers
  | named "dict_items" => viewMembers ++ setMembers
  | named "dict_values" => viewMembers
  | named "mappingproxy" => ["__class_getitem__", "__contains__", "__getitem__", "__ior__", "__iter__",
      "__len__", "__or__", "__reversed__", "__ror__", "copy", "get", "items", "keys", "values"]
  | named _ => ["__iter__", "__length_hint__", "__next__", "__setstate__"]
  | _ => []
where
  errorMembers : List String :=
    ["__cause__", "__context__", "__dict__", "__setstate__", "__suppress_context__", "__traceback__",
     "add_note", "args", "with_traceback"]
  viewMembers : List String := ["__iter__", "__len__", "__reversed__", "mapping"]
  setMembers : List String :=
    ["__and__", "__contains__", "__or__", "__rand__", "__ror__", "__rsub__", "__rxor__", "__sub__",
     "__xor__", "isdisjoint"]

/-- All members of a kind, in order. -/
def members (kind : Kind) : List String := sortedOnce (Members.object ++ kind.ownMembers)

def hasMember (kind : Kind) (member : String) : Bool :=
  Members.object.contains member || kind.ownMembers.contains member

end Kind

/-- The names that stand for kinds. -/
def namedKinds : List (String × Kind) :=
  [("object", .object), ("type", .type), ("bool", .boolean), ("int", .whole), ("float", .real),
   ("complex", .complex), ("str", .text), ("bytes", .bytes), ("tuple", .tuple), ("list", .list),
   ("dict", .dict), ("set", .set), ("frozenset", .frozenSet), ("range", .range), ("slice", .slice),
   ("property", .property), ("staticmethod", .staticMethod), ("classmethod", .classMethod),
   ("super", .super), ("enumerate", .enumerate), ("zip", .zip), ("map", .map), ("filter", .filter),
   ("reversed", .reversed), ("bytearray", .named "bytearray"), ("memoryview", .named "memoryview"),
   ("EnvironmentError", .error "OSError"), ("IOError", .error "OSError")]

/-- Values of built-in names that are neither kinds nor functions. -/
def namedConstants : List (String × Value) :=
  [("None", .nothing), ("True", .boolean true), ("False", .boolean false), ("Ellipsis", .ellipsis),
   ("NotImplemented", .notImplemented), ("__debug__", .boolean true), ("__name__", .text "builtins"),
   ("__package__", .text "")]

/-- The value of a built-in name. -/
def builtinValue? (name : String) : Option Value :=
  match namedConstants.lookup name with
  | some value => some value
  | none =>
      match namedKinds.lookup name with
      | some kind => some (.kind kind)
      | none =>
          if !Members.builtin.contains name then none
          else if name = "BaseException" || (errorParents.lookup name).isSome then some (.kind (.error name))
          else if name = "__doc__" || name = "__loader__" || name = "__spec__" then
            some (.foreign "builtins" name)
          else if ["copyright", "credits", "exit", "help", "license", "quit"].contains name then
            some (.foreign "builtins" name)
          else some (.routine name)

end LiveShell
