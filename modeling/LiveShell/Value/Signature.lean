import LiveShell.Value.Attribute
import LiveShell.Value.Show

/-!
How a callable value may be called, as a text: its parameters with annotations and defaults, and what it
gives.
-/

namespace LiveShell

namespace Signature

/-- The parameters of the built-in functions that tell of them. -/
def functions : List (String × String) :=
  [("__import__", "(name, globals=None, locals=None, fromlist=(), level=0)"), ("abs", "(x, /)"),
   ("aiter", "(async_iterable, /)"), ("all", "(iterable, /)"), ("any", "(iterable, /)"),
   ("ascii", "(obj, /)"), ("bin", "(number, /)"), ("callable", "(obj, /)"), ("chr", "(i, /)"),
   ("compile", "(source, filename, mode, flags=0, dont_inherit=False, optimize=-1, *, _feature_version=-1)"),
   ("delattr", "(obj, name, /)"), ("divmod", "(x, y, /)"),
   ("eval", "(source, globals=None, locals=None, /)"),
   ("exec", "(source, globals=None, locals=None, /, *, closure=None)"),
   ("format", "(value, format_spec='', /)"), ("globals", "()"), ("hasattr", "(obj, name, /)"),
   ("hash", "(obj, /)"), ("hex", "(number, /)"), ("id", "(obj, /)"), ("input", "(prompt='', /)"),
   ("isinstance", "(obj, class_or_tuple, /)"), ("issubclass", "(cls, class_or_tuple, /)"),
   ("len", "(obj, /)"), ("locals", "()"), ("oct", "(number, /)"),
   ("open", "(file, mode='r', buffering=-1, encoding=None, errors=None, newline=None, closefd=True, opener=None)"),
   ("ord", "(c, /)"), ("pow", "(base, exp, mod=None)"),
   ("print", "(*args, sep=' ', end='\\n', file=None, flush=False)"), ("repr", "(obj, /)"),
   ("round", "(number, ndigits=None)"), ("setattr", "(obj, name, value, /)"),
   ("sorted", "(iterable, /, *, key=None, reverse=False)"), ("sum", "(iterable, /, start=0)")]

/-- The parameters of the kinds that tell of them. -/
def kinds : List (Kind × String) :=
  [(.complex, "(real=0, imag=0)"), (.enumerate, "(iterable, start=0)"), (.real, "(x=0, /)"),
   (.list, "(iterable=(), /)"), (.named "memoryview", "(object)"), (.object, "()"),
   (.property, "(fget=None, fset=None, fdel=None, doc=None)"), (.reversed, "(sequence, /)"),
   (.tuple, "(iterable=(), /)")]

/-- The parameters of methods by the kind that they belong to, the value itself left out. -/
def methods : List (Kind × List (String × String)) :=
  [(.text,
     [("center", "(width, fillchar=' ', /)"), ("encode", "(encoding='utf-8', errors='strict')"),
      ("expandtabs", "(tabsize=8)"), ("join", "(iterable, /)"), ("ljust", "(width, fillchar=' ', /)"),
      ("lstrip", "(chars=None, /)"), ("partition", "(sep, /)"), ("removeprefix", "(prefix, /)"),
      ("removesuffix", "(suffix, /)"), ("replace", "(old, new, count=-1, /)"),
      ("rjust", "(width, fillchar=' ', /)"), ("rpartition", "(sep, /)"),
      ("rsplit", "(sep=None, maxsplit=-1)"), ("rstrip", "(chars=None, /)"),
      ("split", "(sep=None, maxsplit=-1)"), ("splitlines", "(keepends=False)"),
      ("strip", "(chars=None, /)"), ("translate", "(table, /)"), ("zfill", "(width, /)")] ++
    ["capitalize", "casefold", "isalnum", "isalpha", "isascii", "isdecimal", "isdigit", "isidentifier",
     "islower", "isnumeric", "isprintable", "isspace", "istitle", "isupper", "lower", "swapcase", "title",
     "upper"].map fun name => (name, "()")),
   (.bytes,
     [("center", "(width, fillchar=b' ', /)"), ("decode", "(encoding='utf-8', errors='strict')"),
      ("expandtabs", "(tabsize=8)"), ("fromhex", "(string, /)"), ("join", "(iterable_of_bytes, /)"),
      ("ljust", "(width, fillchar=b' ', /)"), ("lstrip", "(bytes=None, /)"), ("maketrans", "(frm, to, /)"),
      ("partition", "(sep, /)"), ("removeprefix", "(prefix, /)"), ("removesuffix", "(suffix, /)"),
      ("replace", "(old, new, count=-1, /)"), ("rjust", "(width, fillchar=b' ', /)"),
      ("rpartition", "(sep, /)"), ("rsplit", "(sep=None, maxsplit=-1)"), ("rstrip", "(bytes=None, /)"),
      ("split", "(sep=None, maxsplit=-1)"), ("splitlines", "(keepends=False)"),
      ("strip", "(bytes=None, /)"), ("translate", "(table, /, delete=b'')"), ("zfill", "(width, /)")]),
   (.whole,
     [("as_integer_ratio", "()"), ("bit_count", "()"), ("bit_length", "()"),
      ("from_bytes", "(bytes, byteorder='big', *, signed=False)"),
      ("to_bytes", "(length=1, byteorder='big', *, signed=False)")]),
   (.real,
     [("as_integer_ratio", "()"), ("conjugate", "()"), ("fromhex", "(string, /)"), ("hex", "()"),
      ("is_integer", "()")]),
   (.complex, [("conjugate", "()")]),
   (.list,
     [("append", "(object, /)"), ("clear", "()"), ("copy", "()"), ("count", "(value, /)"),
      ("extend", "(iterable, /)"), ("index", "(value, start=0, stop=9223372036854775807, /)"),
      ("insert", "(index, object, /)"), ("pop", "(index=-1, /)"), ("remove", "(value, /)"),
      ("reverse", "()"), ("sort", "(*, key=None, reverse=False)")]),
   (.tuple,
     [("count", "(value, /)"), ("index", "(value, start=0, stop=9223372036854775807, /)")]),
   (.dict,
     [("fromkeys", "(iterable, value=None, /)"), ("get", "(key, default=None, /)"), ("popitem", "()"),
      ("setdefault", "(key, default=None, /)")]),
   (.set, [("issubset", "(other, /)"), ("issuperset", "(other, /)")]),
   (.frozenSet, [("issubset", "(other, /)"), ("issuperset", "(other, /)")])]

/-- The parameters of an operation by its name. -/
def ofOperation? (name : String) : Option String :=
  if ["__abs__", "__bool__", "__dir__", "__float__", "__hash__", "__index__", "__int__", "__invert__",
      "__iter__", "__len__", "__neg__", "__next__", "__pos__", "__repr__", "__reduce__", "__sizeof__",
      "__str__", "__getstate__"].contains name then some "()"
  else if ["__delattr__", "__getattribute__"].contains name then some "(name, /)"
  else if ["__contains__", "__delitem__", "__getitem__"].contains name then some "(key, /)"
  else if name = "__setattr__" then some "(name, value, /)"
  else if name = "__setitem__" then some "(key, value, /)"
  else if name = "__format__" then some "(format_spec, /)"
  else if name = "__reduce_ex__" then some "(protocol, /)"
  else if name = "__pow__" || name = "__rpow__" then some "(value, mod=None, /)"
  else if ["__init__", "__call__", "__new__"].contains name then some "(*args, **kwargs)"
  else if ["__round__", "__ceil__", "__floor__", "__trunc__", "__init_subclass__", "__subclasshook__",
      "__class_getitem__", "__getnewargs__"].contains name then none
  else if isOperationName name then some "(value, /)"
  else none

def ofMethod? (kind : Kind) (name : String) : Option String :=
  if isOperationName name then
    if isPlainOperation kind name && name = "__getitem__" then none else ofOperation? name
  else
    (kind.order.findSome? fun ancestor => (methods.lookup ancestor).bind fun known => known.lookup name)

/-- The same parameters after the value itself. -/
def withSelf (parameters : String) : String :=
  let inner := String.ofList ((parameters.toList.drop 1).dropLast)
  if inner = "" then "(self, /)"
  else if (inner.splitOn "/").length = 1 then "(self, /, " ++ inner ++ ")"
  else "(self, " ++ inner ++ ")"

end Signature

namespace Run

/-- What annotates a parameter, as a signature shows it: a class by its name, other values by their form. -/
def annotationText (engine : Engine) (annotated : Value) : Run String := do
  if ← isClass annotated then
    match annotated with
    | .kind kind => return kind.fullName
    | _ => fullClassName annotated
  else shown engine annotated

def parameterText (engine : Engine) (data : FunctionData) (name : String) : Run String := do
  let annotated ← (match data.annotations.lookup name with
    | some annotated => do pure (name ++ ": " ++ (← annotationText engine annotated))
    | none => pure name)
  match data.defaults.lookup name with
  | none => return annotated
  | some default =>
      let sign := if (data.annotations.lookup name).isSome then " = " else "="
      return annotated ++ sign ++ (← shown engine default)

/-- The marks between parameters: after those that are given by place only, before those by name only. -/
def parameterTexts (engine : Engine) (data : FunctionData) (placeOpen nameOpen : Bool) :
    List Code.Expr → Run (List String)
  | [] => return if placeOpen then ["/"] else []
  | .parameter name kind _ _ :: rest => do
      let text ← parameterText engine data name
      let mark := if placeOpen && kind ≠ .positionalOnly then ["/"] else []
      match kind with
      | .positionalOnly => return text :: (← parameterTexts engine data true nameOpen rest)
      | .positional => return mark ++ text :: (← parameterTexts engine data false nameOpen rest)
      | .variadic => return mark ++ ("*" ++ text) :: (← parameterTexts engine data false true rest)
      | .keywordOnly =>
          let star := if nameOpen then [] else ["*"]
          return mark ++ star ++ text :: (← parameterTexts engine data false true rest)
      | .keywords => return mark ++ ("**" ++ text) :: (← parameterTexts engine data false nameOpen rest)
  | _ :: rest => parameterTexts engine data placeOpen nameOpen rest

def functionSignature (engine : Engine) (data : FunctionData) : Run String := do
  let parameters ← parameterTexts engine data false false data.parameters
  let body := "(" ++ ", ".intercalate parameters ++ ")"
  match data.annotations.lookup "return" with
  | none => return body
  | some annotated => return body ++ " -> " ++ (← annotationText engine annotated)

/-- The parameters without the first one, which a bound method fills; nothing when no parameter can be. -/
def withoutFirst? : List Code.Expr → Option (List Code.Expr)
  | .parameter name .variadic annotated default :: rest =>
      some (.parameter name .variadic annotated default :: rest)
  | .parameter _ .positional _ _ :: rest | .parameter _ .positionalOnly _ _ :: rest => some rest
  | _ => none

/-- The signature of a function that is called on a value. -/
def boundSignature? (engine : Engine) (function : Value) : Run (Option String) := do
  match function with
  | .ref address =>
      match ← cellAt? address with
      | some (.function data) =>
          match withoutFirst? data.parameters with
          | some parameters => return some (← functionSignature engine { data with parameters })
          | none => return none
      | some (.host ..) => return some "(*args)"
      | _ => return none
  | _ => return none

/-- The signature of a class: of how it sets up its instances, or of the kind that it extends. -/
def classSignature? (engine : Engine) (cls : Value) : Run (Option String) := do
  let rec search : List Value → Run (Option Value)
    | [] => return none
    | .ref address :: rest => do
        match ← cellAt? address with
        | some (.classObject data) =>
            match ← nameIn? data.space "__new__" with
            | some made => return some made
            | none =>
                match ← nameIn? data.space "__init__" with
                | some made => return some made
                | none => search rest
        | _ => search rest
    | _ :: rest => search rest
  match ← search (← orderOf cls) with
  | some function => boundSignature? engine function
  | none => return Signature.kinds.lookup (← baseKind cls)

/-- The signature of a value that can be called, if it tells of one. -/
def signature? (engine : Engine) (value : Value) : Run (Option String) := do
  match value with
  | .kind kind => return Signature.kinds.lookup kind
  | .routine name => return Signature.functions.lookup name
  | .method self name => return Signature.ofMethod? (← baseKind (← classOf self)) name
  | .wrapper _ name => return Signature.ofOperation? name
  | .descriptor kind name => return (Signature.ofMethod? kind name).map Signature.withSelf
  | .ref address =>
      match ← cellAt? address with
      | some (.function data) => return some (← functionSignature engine data)
      | some (.host name qualified _ _) =>
          return some (if name = qualified then "(*args, **kwargs)" else "(self, *args)")
      | some (.bound _ function) => boundSignature? engine function
      | some (.classObject _) => classSignature? engine value
      | some (.instanceOf ..) =>
          match ← ownMember? value "__call__" with
          | some function => boundSignature? engine function
          | none => return none
      | _ => return none
  | _ => return none

/-- The name of a callable value with its signature, or with dots when it tells of none. -/
def signatureHint (engine : Engine) (value : Value) : Run String := do
  let name ← (match ← attributeIfAny? engine value "__name__" with
    | some name => textOf engine name
    | none => typeName value)
  let known ← unlessRaised ["TypeError", "ValueError"] (signature? engine value)
  match known with
  | some (some signature) => return name ++ signature
  | _ => return name ++ "(...)"

end Run

end LiveShell
