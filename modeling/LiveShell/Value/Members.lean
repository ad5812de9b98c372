/-!
The names that the members of the built-in kinds and libraries have. A list that starts from the members of
every object holds only what it adds to them.
-/

namespace LiveShell

namespace Members

/-- Members of every object. -/
def object : List String :=
  ["__class__", "__delattr__", "__dir__", "__doc__", "__eq__", "__format__", "__ge__", "__getattribute__",
   "__getstate__", "__gt__", "__hash__", "__init__", "__init_subclass__", "__le__", "__lt__", "__ne__",
   "__new__", "__reduce__", "__reduce_ex__", "__repr__", "__setattr__", "__sizeof__", "__str__",
   "__subclasshook__"]

/-- The names that are known everywhere. -/
def builtin : List String :=
  ["ArithmeticError", "AssertionError", "AttributeError", "BaseException", "BaseExceptionGroup",
   "BlockingIOError", "BrokenPipeError", "BufferError", "BytesWarning", "ChildProcessError",
   "ConnectionAbortedError", "ConnectionError", "ConnectionRefusedError", "ConnectionResetError",
   "DeprecationWarning", "EOFError", "Ellipsis", "EncodingWarning", "EnvironmentError", "Exception",
   "ExceptionGroup", "False", "FileExistsError", "FileNotFoundError", "FloatingPointError", "FutureWarning",
   "GeneratorExit", "IOError", "ImportError", "ImportWarning", "IndentationError", "IndexError",
   "InterruptedError", "IsADirectoryError", "KeyError", "KeyboardInterrupt", "LookupError", "MemoryError",
   "ModuleNotFoundError", "NameError", "None", "NotADirectoryError", "NotImplemented",
   "NotImplementedError", "OSError", "OverflowError", "PendingDeprecationWarning", "PermissionError",
   "ProcessLookupError", "RecursionError", "ReferenceError", "ResourceWarning", "RuntimeError",
   "RuntimeWarning", "StopAsyncIteration", "StopIteration", "SyntaxError", "SyntaxWarning", "SystemError",
   "SystemExit", "TabError", "TimeoutError", "True", "TypeError", "UnboundLocalError", "UnicodeDecodeError",
   "UnicodeEncodeError", "UnicodeError", "UnicodeTranslateError", "UnicodeWarning", "UserWarning",
   "ValueError", "Warning", "ZeroDivisionError", "__build_class__", "__debug__", "__doc__", "__import__",
   "__loader__", "__name__", "__package__", "__spec__", "abs", "aiter", "all", "anext", "any", "ascii",
   "bin", "bool", "breakpoint", "bytearray", "bytes", "callable", "chr", "classmethod", "compile",
   "complex", "copyright", "credits", "delattr", "dict", "dir", "divmod", "enumerate", "eval", "exec",
   "exit", "filter", "float", "format", "frozenset", "getattr", "globals", "hasattr", "hash", "help", "hex",
   "id", "input", "int", "isinstance", "issubclass", "iter", "len", "license", "list", "locals", "map",
   "max", "memoryview", "min", "next", "object", "oct", "open", "ord", "pow", "print", "property", "quit",
   "range", "repr", "reversed", "round", "set", "setattr", "slice", "sorted", "staticmethod", "str", "sum",
   "super", "tuple", "type", "vars", "zip"]

/-- Members of texts. -/
def text : List String :=
  ["__add__", "__contains__", "__getitem__", "__getnewargs__", "__iter__", "__len__", "__mod__", "__mul__",
   "__rmod__", "__rmul__", "capitalize", "casefold", "center", "count", "encode", "endswith", "expandtabs",
   "find", "format", "format_map", "index", "isalnum", "isalpha", "isascii", "isdecimal", "isdigit",
   "isidentifier", "islower", "isnumeric", "isprintable", "isspace", "istitle", "isupper", "join", "ljust",
   "lower", "lstrip", "maketrans", "partition", "removeprefix", "removesuffix", "replace", "rfind",
   "rindex", "rjust", "rpartition", "rsplit", "rstrip", "split", "splitlines", "startswith", "strip",
   "swapcase", "title", "translate", "upper", "zfill"]

/-- Members of integers and truth values. -/
def whole : List String :=
  ["__abs__", "__add__", "__and__", "__bool__", "__ceil__", "__divmod__", "__float__", "__floor__",
   "__floordiv__", "__getnewargs__", "__index__", "__int__", "__invert__", "__lshift__", "__mod__",
   "__mul__", "__neg__", "__or__", "__pos__", "__pow__", "__radd__", "__rand__", "__rdivmod__",
   "__rfloordiv__", "__rlshift__", "__rmod__", "__rmul__", "__ror__", "__round__", "__rpow__",
   "__rrshift__", "__rshift__", "__rsub__", "__rtruediv__", "__rxor__", "__sub__", "__truediv__",
   "__trunc__", "__xor__", "as_integer_ratio", "bit_count", "bit_length", "conjugate", "denominator",
   "from_bytes", "imag", "numerator", "real", "to_bytes"]

/-- Members of real numbers. -/
def real : List String :=
  ["__abs__", "__add__", "__bool__", "__ceil__", "__divmod__", "__float__", "__floor__", "__floordiv__",
   "__getformat__", "__getnewargs__", "__int__", "__mod__", "__mul__", "__neg__", "__pos__", "__pow__",
   "__radd__", "__rdivmod__", "__rfloordiv__", "__rmod__", "__rmul__", "__round__", "__rpow__", "__rsub__",
   "__rtruediv__", "__sub__", "__truediv__", "__trunc__", "as_integer_ratio", "conjugate", "fromhex", "hex",
   "imag", "is_integer", "real"]

/-- Members of complex numbers. -/
def complex : List String :=
  ["__abs__", "__add__", "__bool__", "__complex__", "__getnewargs__", "__mul__", "__neg__", "__pos__",
   "__pow__", "__radd__", "__rmul__", "__rpow__", "__rsub__", "__rtruediv__", "__sub__", "__truediv__",
   "conjugate", "imag", "real"]

/-- Members of lists. -/
def list : List String :=
  ["__add__", "__class_getitem__", "__contains__", "__delitem__", "__getitem__", "__iadd__", "__imul__",
   "__iter__", "__len__", "__mul__", "__reversed__", "__rmul__", "__setitem__", "append", "clear", "copy",
   "count", "extend", "index", "insert", "pop", "remove", "reverse", "sort"]

/-- Members of tuples. -/
def tuple : List String :=
  ["__add__", "__class_getitem__", "__contains__", "__getitem__", "__getnewargs__", "__iter__", "__len__",
   "__mul__", "__rmul__", "count", "index"]

/-- Members of mappings. -/
def mapping : List String :=
  ["__class_getitem__", "__contains__", "__delitem__", "__getitem__", "__ior__", "__iter__", "__len__",
   "__or__", "__reversed__", "__ror__", "__setitem__", "clear", "copy", "fromkeys", "get", "items", "keys",
   "pop", "popitem", "setdefault", "update", "values"]

/-- Members of sets. -/
def set : List String :=
  ["__and__", "__class_getitem__", "__contains__", "__iand__", "__ior__", "__isub__", "__iter__",
   "__ixor__", "__len__", "__or__", "__rand__", "__ror__", "__rsub__", "__rxor__", "__sub__", "__xor__",
   "add", "clear", "copy", "difference", "difference_update", "discard", "intersection",
   "intersection_update", "isdisjoint", "issubset", "issuperset", "pop", "remove", "symmetric_difference",
   "symmetric_difference_update", "union", "update"]

/-- Members of sets that do not change. -/
def frozenSet : List String :=
  ["__and__", "__class_getitem__", "__contains__", "__iter__", "__len__", "__or__", "__rand__", "__ror__",
   "__rsub__", "__rxor__", "__sub__", "__xor__", "copy", "difference", "intersection", "isdisjoint",
   "issubset", "issuperset", "symmetric_difference", "union"]

/-- Members of byte strings. -/
def bytes : List String :=
  ["__add__", "__bytes__", "__contains__", "__getitem__", "__getnewargs__", "__iter__", "__len__",
   "__mod__", "__mul__", "__rmod__", "__rmul__", "capitalize", "center", "count", "decode", "endswith",
   "expandtabs", "find", "fromhex", "hex", "index", "isalnum", "isalpha", "isascii", "isdigit", "islower",
   "isspace", "istitle", "isupper", "join", "ljust", "lower", "lstrip", "maketrans", "partition",
   "removeprefix", "removesuffix", "replace", "rfind", "rindex", "rjust", "rpartition", "rsplit", "rstrip",
   "split", "splitlines", "startswith", "strip", "swapcase", "title", "translate", "upper", "zfill"]

/-- Members of ranges. -/
def range : List String :=
  ["__bool__", "__contains__", "__getitem__", "__iter__", "__len__", "__reversed__", "count", "index",
   "start", "step", "stop"]

/-- Members of the value that stands for nothing. -/
def nothing : List String :=
  ["__bool__"]

/-- Members of functions. -/
def function : List String :=
  ["__annotations__", "__builtins__", "__call__", "__closure__", "__code__", "__defaults__", "__dict__",
   "__get__", "__globals__", "__kwdefaults__", "__module__", "__name__", "__qualname__"]

/-- Members of built-in functions and methods. -/
def routine : List String :=
  ["__call__", "__module__", "__name__", "__qualname__", "__self__", "__text_signature__"]

/-- Members of generators. -/
def generator : List String :=
  ["__del__", "__iter__", "__name__", "__next__", "__qualname__", "close", "gi_code", "gi_frame",
   "gi_running", "gi_suspended", "gi_yieldfrom", "send", "throw"]

/-- Members of instances of classes made here. -/
def ownInstance : List String :=
  ["__dict__", "__module__", "__weakref__"]

/-- Members of methods that have no object yet. -/
def descriptor : List String :=
  ["__call__", "__get__", "__name__", "__objclass__", "__qualname__", "__text_signature__"]

/-- Members of the library for patterns. -/
def patternLibrary : List String :=
  ["A", "ASCII", "DEBUG", "DOTALL", "I", "IGNORECASE", "L", "LOCALE", "M", "MULTILINE", "Match", "NOFLAG",
   "Pattern", "RegexFlag", "S", "Scanner", "T", "TEMPLATE", "U", "UNICODE", "VERBOSE", "X", "_MAXCACHE",
   "__all__", "__builtins__", "__cached__", "__doc__", "__file__", "__loader__", "__name__", "__package__",
   "__path__", "__spec__", "__version__", "_cache", "_casefix", "_compile", "_compile_repl", "_compiler",
   "_constants", "_expand", "_parser", "_pickle", "_special_chars_map", "_subx", "compile", "copyreg",
   "enum", "error", "escape", "findall", "finditer", "fullmatch", "functools", "match", "purge", "search",
   "split", "sub", "subn", "template"]

/-- Members of the library for the system. -/
def systemLibrary : List String :=
  ["CLD_CONTINUED", "CLD_DUMPED", "CLD_EXITED", "CLD_KILLED", "CLD_STOPPED", "CLD_TRAPPED", "DirEntry",
   "EFD_CLOEXEC", "EFD_NONBLOCK", "EFD_SEMAPHORE", "EX_CANTCREAT", "EX_CONFIG", "EX_DATAERR", "EX_IOERR",
   "EX_NOHOST", "EX_NOINPUT", "EX_NOPERM", "EX_NOUSER", "EX_OK", "EX_OSERR", "EX_OSFILE", "EX_PROTOCOL",
   "EX_SOFTWARE", "EX_TEMPFAIL", "EX_UNAVAILABLE", "EX_USAGE", "F_LOCK", "F_OK", "F_TEST", "F_TLOCK",
   "F_ULOCK", "GRND_NONBLOCK", "GRND_RANDOM", "GenericAlias", "MFD_ALLOW_SEALING", "MFD_CLOEXEC",
   "MFD_HUGETLB", "MFD_HUGE_16GB", "MFD_HUGE_16MB", "MFD_HUGE_1GB", "MFD_HUGE_1MB", "MFD_HUGE_256MB",
   "MFD_HUGE_2GB", "MFD_HUGE_2MB", "MFD_HUGE_32MB", "MFD_HUGE_512KB", "MFD_HUGE_512MB", "MFD_HUGE_64KB",
   "MFD_HUGE_8MB", "MFD_HUGE_MASK", "MFD_HUGE_SHIFT", "Mapping", "MutableMapping", "NGROUPS_MAX",
   "O_ACCMODE", "O_APPEND", "O_ASYNC", "O_CLOEXEC", "O_CREAT", "O_DIRECT", "O_DIRECTORY", "O_DSYNC",
   "O_EXCL", "O_FSYNC", "O_LARGEFILE", "O_NDELAY", "O_NOATIME", "O_NOCTTY", "O_NOFOLLOW", "O_NONBLOCK",
   "O_PATH", "O_RDONLY", "O_RDWR", "O_RSYNC", "O_SYNC", "O_TMPFILE", "O_TRUNC", "O_WRONLY",
   "POSIX_FADV_DONTNEED", "POSIX_FADV_NOREUSE", "POSIX_FADV_NORMAL", "POSIX_FADV_RANDOM",
   "POSIX_FADV_SEQUENTIAL", "POSIX_FADV_WILLNEED", "POSIX_SPAWN_CLOSE", "POSIX_SPAWN_DUP2",
   "POSIX_SPAWN_OPEN", "PRIO_PGRP", "PRIO_PROCESS", "PRIO_USER", "P_ALL", "P_NOWAIT", "P_NOWAITO", "P_PGID",
   "P_PID", "P_PIDFD", "P_WAIT", "PathLike", "RTLD_DEEPBIND", "RTLD_GLOBAL", "RTLD_LAZY", "RTLD_LOCAL",
   "RTLD_NODELETE", "RTLD_NOLOAD", "RTLD_NOW", "RWF_APPEND", "RWF_DSYNC", "RWF_HIPRI", "RWF_NOWAIT",
   "RWF_SYNC", "R_OK", "SCHED_BATCH", "SCHED_FIFO", "SCHED_IDLE", "SCHED_OTHER", "SCHED_RESET_ON_FORK",
   "SCHED_RR", "SEEK_CUR", "SEEK_DATA", "SEEK_END", "SEEK_HOLE", "SEEK_SET", "SPLICE_F_MORE",
   "SPLICE_F_MOVE", "SPLICE_F_NONBLOCK", "ST_APPEND", "ST_MANDLOCK", "ST_NOATIME", "ST_NODEV",
   "ST_NODIRATIME", "ST_NOEXEC", "ST_NOSUID", "ST_RDONLY", "ST_RELATIME", "ST_SYNCHRONOUS", "ST_WRITE",
   "TMP_MAX", "WCONTINUED", "WCOREDUMP", "WEXITED", "WEXITSTATUS", "WIFCONTINUED", "WIFEXITED",
   "WIFSIGNALED", "WIFSTOPPED", "WNOHANG", "WNOWAIT", "WSTOPPED", "WSTOPSIG", "WTERMSIG", "WUNTRACED",
   "W_OK", "XATTR_CREATE", "XATTR_REPLACE", "XATTR_SIZE_MAX", "X_OK", "_Environ", "__all__", "__builtins__",
   "__doc__", "__file__", "__loader__", "__name__", "__package__", "__spec__", "_check_methods", "_execvpe",
   "_exists", "_exit", "_fspath", "_fwalk", "_get_exports_list", "_spawnvef", "_walk", "_wrap_close", "abc",
   "abort", "access", "altsep", "chdir", "chmod", "chown", "chroot", "close", "closerange", "confstr",
   "confstr_names", "copy_file_range", "cpu_count", "ctermid", "curdir", "defpath", "device_encoding",
   "devnull", "dup", "dup2", "environ", "environb", "error", "eventfd", "eventfd_read", "eventfd_write",
   "execl", "execle", "execlp", "execlpe", "execv", "execve", "execvp", "execvpe", "extsep", "fchdir",
   "fchmod", "fchown", "fdatasync", "fdopen", "fork", "forkpty", "fpathconf", "fsdecode", "fsencode",
   "fspath", "fstat", "fstatvfs", "fsync", "ftruncate", "fwalk", "get_blocking", "get_exec_path",
   "get_inheritable", "get_terminal_size", "getcwd", "getcwdb", "getegid", "getenv", "getenvb", "geteuid",
   "getgid", "getgrouplist", "getgroups", "getloadavg", "getlogin", "getpgid", "getpgrp", "getpid",
   "getppid", "getpriority", "getrandom", "getresgid", "getresuid", "getsid", "getuid", "getxattr",
   "initgroups", "isatty", "kill", "killpg", "lchown", "linesep", "link", "listdir", "listxattr", "lockf",
   "login_tty", "lseek", "lstat", "major", "makedev", "makedirs", "memfd_create", "minor", "mkdir",
   "mkfifo", "mknod", "name", "nice", "open", "openpty", "pardir", "path", "pathconf", "pathconf_names",
   "pathsep", "pidfd_open", "pipe", "pipe2", "popen", "posix_fadvise", "posix_fallocate", "posix_spawn",
   "posix_spawnp", "pread", "preadv", "putenv", "pwrite", "pwritev", "read", "readlink", "readv",
   "register_at_fork", "remove", "removedirs", "removexattr", "rename", "renames", "replace", "rmdir",
   "scandir", "sched_get_priority_max", "sched_get_priority_min", "sched_getaffinity", "sched_getparam",
   "sched_getscheduler", "sched_param", "sched_rr_get_interval", "sched_setaffinity", "sched_setparam",
   "sched_setscheduler", "sched_yield", "sendfile", "sep", "set_blocking", "set_inheritable", "setegid",
   "seteuid", "setgid", "setgroups", "setpgid", "setpgrp", "setpriority", "setregid", "setresgid",
   "setresuid", "setreuid", "setsid", "setuid", "setxattr", "spawnl", "spawnle", "spawnlp", "spawnlpe",
   "spawnv", "spawnve", "spawnvp", "spawnvpe", "splice", "st", "stat", "stat_result", "statvfs",
   "statvfs_result", "strerror", "supports_bytes_environ", "supports_dir_fd", "supports_effective_ids",
   "supports_fd", "supports_follow_symlinks", "symlink", "sync", "sys", "sysconf", "sysconf_names",
   "system", "tcgetpgrp", "tcsetpgrp", "terminal_size", "times", "times_result", "truncate", "ttyname",
   "umask", "uname", "uname_result", "unlink", "unsetenv", "urandom", "utime", "wait", "wait3", "wait4",
   "waitid", "waitid_result", "waitpid", "waitstatus_to_exitcode", "walk", "write", "writev"]

/-- Members of the library for paths. -/
def pathLibrary : List String :=
  ["__all__", "__builtins__", "__doc__", "__file__", "__loader__", "__name__", "__package__", "__spec__",
   "_get_sep", "_joinrealpath", "_path_normpath", "_varprog", "_varprogb", "abspath", "altsep", "basename",
   "commonpath", "commonprefix", "curdir", "defpath", "devnull", "dirname", "exists", "expanduser",
   "expandvars", "extsep", "genericpath", "getatime", "getctime", "getmtime", "getsize", "isabs", "isdir",
   "isfile", "islink", "ismount", "join", "lexists", "normcase", "normpath", "os", "pardir", "pathsep",
   "realpath", "relpath", "samefile", "sameopenfile", "samestat", "sep", "split", "splitdrive", "splitext",
   "stat", "supports_unicode_filenames", "sys"]

/-- Members of the library for JSON. -/
def jsonLibrary : List String :=
  ["JSONDecodeError", "JSONDecoder", "JSONEncoder", "__all__", "__author__", "__builtins__", "__cached__",
   "__doc__", "__file__", "__loader__", "__name__", "__package__", "__path__", "__spec__", "__version__",
   "_default_decoder", "_default_encoder", "codecs", "decoder", "detect_encoding", "dump", "dumps",
   "encoder", "load", "loads", "scanner"]

/-- Members of the part of that library that reads. -/
def jsonDecoderLibrary : List String :=
  ["BACKSLASH", "FLAGS", "JSONArray", "JSONDecodeError", "JSONDecoder", "JSONObject", "NaN", "NegInf",
   "PosInf", "STRINGCHUNK", "WHITESPACE", "WHITESPACE_STR", "_CONSTANTS", "__all__", "__builtins__",
   "__cached__", "__doc__", "__file__", "__loader__", "__name__", "__package__", "__spec__",
   "_decode_uXXXX", "c_scanstring", "py_scanstring", "re", "scanner", "scanstring"]

/-- Members of the library for waiting. -/
def asyncLibrary : List String :=
  ["ALL_COMPLETED", "AbstractChildWatcher", "AbstractEventLoop", "AbstractEventLoopPolicy",
   "AbstractServer", "Barrier", "BaseEventLoop", "BaseProtocol", "BaseTransport", "BoundedSemaphore",
   "BrokenBarrierError", "BufferedProtocol", "CancelledError", "Condition", "DatagramProtocol",
   "DatagramTransport", "DefaultEventLoopPolicy", "Event", "FIRST_COMPLETED", "FIRST_EXCEPTION",
   "FastChildWatcher", "Future", "Handle", "IncompleteReadError", "InvalidStateError", "LifoQueue",
   "LimitOverrunError", "Lock", "MultiLoopChildWatcher", "PidfdChildWatcher", "PriorityQueue", "Protocol",
   "Queue", "QueueEmpty", "QueueFull", "ReadTransport", "Runner", "SafeChildWatcher", "SelectorEventLoop",
   "Semaphore", "SendfileNotAvailableError", "Server", "StreamReader", "StreamReaderProtocol",
   "StreamWriter", "SubprocessProtocol", "SubprocessTransport", "Task", "TaskGroup", "ThreadedChildWatcher",
   "Timeout", "TimeoutError", "TimerHandle", "Transport", "WriteTransport", "__all__", "__builtins__",
   "__cached__", "__doc__", "__file__", "__loader__", "__name__", "__package__", "__path__", "__spec__",
   "_enter_task", "_get_running_loop", "_leave_task", "_register_task", "_set_running_loop",
   "_unregister_task", "all_tasks", "as_completed", "base_events", "base_futures", "base_subprocess",
   "base_tasks", "constants", "coroutines", "create_subprocess_exec", "create_subprocess_shell",
   "create_task", "current_task", "ensure_future", "events", "exceptions", "format_helpers", "futures",
   "gather", "get_child_watcher", "get_event_loop", "get_event_loop_policy", "get_running_loop",
   "iscoroutine", "iscoroutinefunction", "isfuture", "locks", "log", "mixins", "new_event_loop",
   "open_connection", "open_unix_connection", "protocols", "queues", "run", "run_coroutine_threadsafe",
   "runners", "selector_events", "set_child_watcher", "set_event_loop", "set_event_loop_policy", "shield",
   "sleep", "sslproto", "staggered", "start_server", "start_unix_server", "streams", "subprocess", "sys",
   "taskgroups", "tasks", "threads", "timeout", "timeout_at", "timeouts", "to_thread", "transports",
   "trsock", "unix_events", "wait", "wait_for", "wrap_future"]

/-- Members of paths. -/
def path : List String :=
  ["__bytes__", "__enter__", "__exit__", "__fspath__", "__module__", "__rtruediv__", "__slots__",
   "__truediv__", "_cached_cparts", "_cparts", "_drv", "_format_parsed_parts", "_from_parsed_parts",
   "_from_parts", "_hash", "_make_child", "_make_child_relpath", "_parse_args", "_parts", "_pparts",
   "_root", "_scandir", "_str", "absolute", "anchor", "as_posix", "as_uri", "chmod", "cwd", "drive",
   "exists", "expanduser", "glob", "group", "hardlink_to", "home", "is_absolute", "is_block_device",
   "is_char_device", "is_dir", "is_fifo", "is_file", "is_mount", "is_relative_to", "is_reserved",
   "is_socket", "is_symlink", "iterdir", "joinpath", "lchmod", "link_to", "lstat", "match", "mkdir", "name",
   "open", "owner", "parent", "parents", "parts", "read_bytes", "read_text", "readlink", "relative_to",
   "rename", "replace", "resolve", "rglob", "rmdir", "root", "samefile", "stat", "stem", "suffix",
   "suffixes", "symlink_to", "touch", "unlink", "with_name", "with_stem", "with_suffix", "write_bytes",
   "write_text"]

end Members

/-- Order of texts by code points. -/
def textBefore (a b : String) : Bool := decide (a < b)

/-- Names in order. Repeats stay. -/
def sortNames (names : List String) : List String := names.mergeSort fun a b => !textBefore b a

/-- Neighbours that are equal made one. -/
def dropRepeats : List String → List String
  | first :: second :: rest =>
      if first = second then dropRepeats (second :: rest) else first :: dropRepeats (second :: rest)
  | names => names

/-- Names in order, each once. -/
def sortedOnce (names : List String) : List String := dropRepeats (sortNames names)

end LiveShell
