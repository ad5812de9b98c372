import LiveShell.Value.Show

/-!
The libraries that code can load: what they are called, which members they have, and what those are. A member
that nothing is known about but its name is kept as a name.
-/

namespace LiveShell

namespace Library

/-- Libraries that are loaded from the start. -/
def loadedFromStart : List String :=
  ["json", "json.decoder", "json.encoder", "json.scanner", "os", "os.path", "posixpath", "sys", "re",
   "asyncio", "builtins", "pathlib", "collections", "itertools", "functools", "types", "inspect"]

/-- Members of the library of mathematical functions. -/
def mathMembers : List String :=
  ["__doc__", "__file__", "__loader__", "__name__", "__package__", "__spec__", "acos", "acosh", "asin",
   "asinh", "atan", "atan2", "atanh", "cbrt", "ceil", "comb", "copysign", "cos", "cosh", "degrees", "dist",
   "e", "erf", "erfc", "exp", "exp2", "expm1", "fabs", "factorial", "floor", "fmod", "frexp", "fsum",
   "gamma", "gcd", "hypot", "inf", "isclose", "isfinite", "isinf", "isnan", "isqrt", "lcm", "ldexp",
   "lgamma", "log", "log10", "log1p", "log2", "modf", "nan", "nextafter", "perm", "pi", "pow", "prod",
   "radians", "remainder", "sin", "sinh", "sqrt", "tan", "tanh", "tau", "trunc", "ulp"]

/-- The members of a library that is known by a list of them. -/
def members? (name : String) : Option (List String) :=
  [("re", Members.patternLibrary), ("os", Members.systemLibrary), ("posixpath", Members.pathLibrary),
   ("json", Members.jsonLibrary), ("json.decoder", Members.jsonDecoderLibrary),
   ("asyncio", Members.asyncLibrary), ("math", mathMembers), ("builtins", Members.builtin)].lookup name

/-- Names of libraries that can be loaded though their members are not listed. -/
def unlisted : List String :=
  ["sys", "json.encoder", "json.scanner", "pathlib", "collections", "collections.abc", "itertools",
   "functools", "types", "inspect", "random", "time", "datetime", "string", "logging", "typing", "enum",
   "copy", "operator", "textwrap", "subprocess", "threading", "shutil", "glob", "tempfile", "urllib",
   "urllib.parse", "urllib.request", "http", "socket", "decimal", "fractions", "statistics", "abc", "ast",
   "io", "contextlib", "dataclasses", "warnings", "traceback", "unittest", "argparse", "hashlib", "base64",
   "struct", "pickle", "csv", "sqlite3", "uuid", "heapq", "bisect", "array", "weakref", "gc", "platform",
   "signal", "select", "queue", "secrets", "zlib", "gzip", "zipfile", "tarfile", "calendar", "locale",
   "codecs", "cmath", "importlib", "importlib.util", "keyword", "token", "tokenize", "pprint", "difflib",
   "fnmatch", "stat", "errno", "getpass", "configparser", "tomllib", "html", "xml", "email", "ssl",
   "multiprocessing", "concurrent", "concurrent.futures", "asyncio.events", "asyncio.tasks",
   "asyncio.queues", "asyncio.locks", "asyncio.futures", "asyncio.exceptions", "os.path", "numbers",
   "builtins", "genericpath", "posix"]

/-- Whether a library exists. -/
def exists? (name : String) : Bool := (members? name).isSome || unlisted.contains name

/-- What a library calls itself. -/
def properName (name : String) : String := if name = "os.path" then "posixpath" else name

/-- Libraries with libraries below them. -/
def isPackage (name : String) : Bool :=
  ["json", "asyncio", "collections", "urllib", "http", "importlib", "logging", "unittest", "email", "xml",
   "html", "concurrent", "multiprocessing", "re", "sqlite3", "tomllib"].contains name

/-- Members that are libraries themselves. -/
def partNames : List (String × List (String × String)) :=
  [("os", [("path", "posixpath"), ("sys", "sys"), ("abc", "abc"), ("st", "stat")]),
   ("posixpath", [("os", "os"), ("sys", "sys"), ("stat", "stat"), ("genericpath", "genericpath")]),
   ("re", [("enum", "enum"), ("functools", "functools"), ("copyreg", "copyreg"),
     ("_compiler", "re._compiler"), ("_constants", "re._constants"), ("_parser", "re._parser")]),
   ("json", [("codecs", "codecs"), ("decoder", "json.decoder"), ("encoder", "json.encoder"),
     ("scanner", "json.scanner")]),
   ("json.decoder", [("re", "re"), ("scanner", "json.scanner")]),
   ("asyncio", ("sys", "sys") :: ["base_events", "base_futures", "base_subprocess", "base_tasks", "constants",
     "coroutines", "events", "exceptions", "format_helpers", "futures", "locks", "log", "mixins",
     "protocols", "queues", "runners", "selector_events", "sslproto", "staggered", "streams", "subprocess",
     "taskgroups", "tasks", "threads", "timeouts", "transports", "trsock", "unix_events"].map
       fun name => (name, "asyncio." ++ name))]

def partsOf (name : String) : List (String × String) := (partNames.lookup name).getD []

/-- Functions of the system library that are written like the code here, not built in. -/
def systemFunctions : List String :=
  ["_check_methods", "_execvpe", "_exists", "_fspath", "_fwalk", "_get_exports_list", "_spawnvef", "_walk",
   "execl", "execle", "execlp", "execlpe", "execvp", "execvpe", "fdopen", "fsdecode", "fsencode", "fwalk",
   "get_exec_path", "getenv", "getenvb", "makedirs", "popen", "removedirs", "renames", "spawnl", "spawnle",
   "spawnlp", "spawnlpe", "spawnv", "spawnve", "spawnvp", "spawnvpe", "walk"]

/-- Members with values of their own. -/
def constants : List (String × Value) :=
  [("os.sep", .text "/"), ("os.altsep", .nothing), ("os.curdir", .text "."), ("os.pardir", .text ".."),
   ("os.extsep", .text "."), ("os.pathsep", .text ":"), ("os.linesep", .text "\n"), ("os.name", .text "posix"),
   ("os.devnull", .text "/dev/null"), ("os.defpath", .text "/bin:/usr/bin"), ("os.F_OK", .whole 0),
   ("os.R_OK", .whole 4), ("os.W_OK", .whole 2), ("os.X_OK", .whole 1), ("os.O_RDONLY", .whole 0),
   ("os.SEEK_SET", .whole 0), ("os.SEEK_CUR", .whole 1), ("os.SEEK_END", .whole 2), ("os.EX_OK", .whole 0),
   ("os.supports_bytes_environ", .boolean true), ("os.error", .kind (.error "OSError")),
   ("posixpath.sep", .text "/"), ("posixpath.altsep", .nothing), ("posixpath.curdir", .text "."),
   ("posixpath.pardir", .text ".."), ("posixpath.extsep", .text "."), ("posixpath.pathsep", .text ":"),
   ("posixpath.defpath", .text "/bin:/usr/bin"), ("posixpath.devnull", .text "/dev/null"),
   ("posixpath.supports_unicode_filenames", .boolean false),
   ("re.A", .patternFlags 256), ("re.ASCII", .patternFlags 256), ("re.DEBUG", .patternFlags 128),
   ("re.I", .patternFlags 2), ("re.IGNORECASE", .patternFlags 2), ("re.L", .patternFlags 4),
   ("re.LOCALE", .patternFlags 4), ("re.M", .patternFlags 8), ("re.MULTILINE", .patternFlags 8),
   ("re.S", .patternFlags 16), ("re.DOTALL", .patternFlags 16), ("re.U", .patternFlags 32),
   ("re.UNICODE", .patternFlags 32), ("re.X", .patternFlags 64), ("re.VERBOSE", .patternFlags 64),
   ("re.T", .patternFlags 1), ("re.TEMPLATE", .patternFlags 1), ("re.NOFLAG", .patternFlags 0),
   ("re.Pattern", .kind .pattern), ("re.Match", .kind .matched), ("re.error", .kind (.error "error")),
   ("re._MAXCACHE", .whole 512), ("re.__version__", .text "2.2.1"),
   ("json.__version__", .text "2.0.9"), ("json.__author__", .text "Bob Ippolito <bob@redivi.com>"),
   ("json.JSONDecodeError", .kind (.error "JSONDecodeError")),
   ("json.decoder.JSONDecodeError", .kind (.error "JSONDecodeError")),
   ("asyncio.CancelledError", .kind (.error "CancelledError")),
   ("asyncio.TimeoutError", .kind (.error "TimeoutError")),
   ("asyncio.FIRST_COMPLETED", .text "FIRST_COMPLETED"),
   ("asyncio.FIRST_EXCEPTION", .text "FIRST_EXCEPTION"), ("asyncio.ALL_COMPLETED", .text "ALL_COMPLETED"),
   ("math.pi", .real 3.141592653589793), ("math.e", .real 2.718281828459045),
   ("math.tau", .real 6.283185307179586), ("math.inf", .real (Number.infinite false)),
   ("math.nan", .real Number.notANumber), ("collections.defaultdict", .kind .defaultDict),
   ("pathlib.Path", .kind .path), ("pathlib.PosixPath", .kind .systemPath), ("sys.maxsize", .whole (Nat.pow 2 63 - 1 : Nat)),
   ("sys.platform", .text "linux"), ("sys.byteorder", .text "little"), ("sys.maxunicode", .whole 1114111)]

/-- A member of a library that is not a library itself. -/
def memberOf? (library name : String) : Option Value :=
  match constants.lookup (library ++ "." ++ name) with
  | some value => some value
  | none =>
      if library = "builtins" then builtinValue? name
      else if name = "__name__" then some (.text library)
      else if name = "__package__" then
        some (.text (if isPackage library then library else ".".intercalate (library.splitOn ".").dropLast))
      else match members? library with
        | some names =>
            if !names.contains name then none
            else if library = "math" && foreignKind library name = .function then
              some (.routine (library ++ "." ++ name))
            else if library = "os" && foreignKind library name = .function &&
                !systemFunctions.contains name && !isOperationName name then
              some (.routine (library ++ "." ++ name))
            else some (.foreign library name)
        | none => none

end Library

namespace Run

/-- Makes a library ready and gives it. Its parts are made ready with it. -/
def openLibrary : Nat → String → Run Value
  | 0, name => do
      let space ← newDict #[]
      let library ← new (.module name space)
      modify fun world => { world with modules := world.modules ++ [(name, library)] }
      return library
  | depth + 1, name => do
      match (← get).modules.lookup name with
      | some library => return library
      | none =>
          let space ← newDict #[]
          let library ← new (.module name space)
          modify fun world => { world with modules := world.modules ++ [(name, library)] }
          for (member, part) in Library.partsOf name do
            setName space member (← openLibrary depth part)
          return library

end Run

end LiveShell
