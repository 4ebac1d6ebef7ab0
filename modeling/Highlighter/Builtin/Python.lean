import Highlighter.Profile
import Highlighter.Regex.Constant

/-!
# The profile of Python

Triple-quoted strings are tried before those of one line.
-/

namespace Highlighter.Builtin

open Highlighter.Regex

/-- The words that count as keywords. -/
def pythonWords : List String := [
  "and", "or", "not", "is", "in", "if", "elif", "else", "for", "while", "break", "continue",
  "try", "except", "finally", "raise", "assert", "with", "as", "pass", "return", "yield",
  "lambda", "match", "case", "def", "class", "global", "nonlocal", "del", "import", "from",
  "async", "await", "True", "False", "None", "Ellipsis", "NotImplemented", "__debug__", "bool",
  "int", "float", "complex", "str", "bytes", "bytearray", "list", "tuple", "set", "frozenset",
  "dict", "object", "type", "abs", "aiter", "all", "any", "anext", "ascii", "bin", "breakpoint",
  "callable", "chr", "classmethod", "compile", "delattr", "dir", "divmod", "enumerate", "eval",
  "exec", "filter", "format", "getattr", "globals", "hasattr", "hash", "help", "hex", "id",
  "input", "isinstance", "issubclass", "iter", "len", "locals", "map", "max", "memoryview", "min",
  "next", "oct", "open", "ord", "pow", "print", "property", "range", "repr", "reversed", "round",
  "setattr", "slice", "sorted", "staticmethod", "sum", "super", "vars", "zip", "__import__",
  "BaseException", "Exception", "ArithmeticError", "BufferError", "LookupError", "AssertionError",
  "AttributeError", "EOFError", "FloatingPointError", "GeneratorExit", "ImportError",
  "ModuleNotFoundError", "IndexError", "KeyError", "KeyboardInterrupt", "MemoryError",
  "NameError", "NotImplementedError", "OSError", "OverflowError", "RecursionError",
  "ReferenceError", "RuntimeError", "StopIteration", "StopAsyncIteration", "SyntaxError",
  "IndentationError", "TabError", "SystemError", "SystemExit", "TypeError", "UnboundLocalError",
  "UnicodeError", "UnicodeEncodeError", "UnicodeDecodeError", "UnicodeTranslateError",
  "ValueError", "ZeroDivisionError", "BlockingIOError", "ChildProcessError", "ConnectionError",
  "BrokenPipeError", "ConnectionAbortedError", "ConnectionRefusedError", "ConnectionResetError",
  "FileExistsError", "FileNotFoundError", "InterruptedError", "IsADirectoryError",
  "NotADirectoryError", "PermissionError", "ProcessLookupError", "TimeoutError", "Warning",
  "UserWarning", "DeprecationWarning", "PendingDeprecationWarning", "SyntaxWarning",
  "RuntimeWarning", "FutureWarning", "ImportWarning", "UnicodeWarning", "BytesWarning",
  "ResourceWarning", "__name__", "__file__", "__doc__", "__package__", "__loader__", "__spec__",
  "__annotations__", "__builtins__", "Container", "Hashable", "Iterable", "Iterator",
  "Reversible", "Generator", "Sized", "Callable", "Collection", "Sequence", "MutableSequence",
  "ByteString", "Set", "MutableSet", "Mapping", "MutableMapping", "MappingView", "ItemsView",
  "KeysView", "ValuesView", "Awaitable", "Coroutine", "AsyncIterable", "AsyncIterator",
  "AsyncGenerator"]

/-- The entries of the profile of Python. -/
def python : List (Value × Value) := [
  (.text "argument", grammarScanner Signature.python),
  (.text "operator", .pattern (.constant
      ("\\*\\*|//|==|!=|<=|>=|->|:=|\\+|-|\\*|/|%|=|<|>|&|\\||\\^|~|!|:|(?<!\\w)\\.(?!\\w)"))),
  (.text "number", .pattern (.constant
      ("\\b0x[\\da-f]+\\b|\\b0b[01]+\\b|\\b0o[0-7]+\\b|\\b\\d+\\.?\\d*(?:e[+-]?\\d+)?j?\\b")
      { ignoreCase := true })),
  (.text "function", .pattern (.constant "\\b[^\\W\\d]\\w*(?=\\s*\\()")),
  (.text "tag", .pattern (.constant "@\\s*[\\w.]+")),
  (.text "keyword", .list (pythonWords.map .text)),
  (.text "string", .pattern (.constant
      ("(?:rb|br|fr|rf|r|u|f|b)?(?:\\\"\\\"\\\"[\\s\\S]*?\\\"\\\"\\\"|'''[\\s\\S]*?'''" ++
        "|\\\"(?:\\\\.|[^\\\"\\\\])*\\\"|'(?:\\\\.|[^'\\\\])*')") { ignoreCase := true })),
  (.text "variable", .pattern (.constant "\\bself\\b|\\bcls\\b|\\b__[a-z_]+__\\b")),
  (.text "comment", .pattern (.constant "#.*"))]

end Highlighter.Builtin
