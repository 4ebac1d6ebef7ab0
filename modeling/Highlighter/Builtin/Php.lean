import Highlighter.Profile
import Highlighter.Regex.Constant

/-!
# The profile of PHP

Heredoc and nowdoc strings are not recognized.
-/

namespace Highlighter.Builtin

open Highlighter.Regex

/-- The words that count as keywords. -/
def phpWords : List String := [
  "if", "else", "elseif", "endif", "while", "do", "for", "foreach", "as", "endwhile", "endfor",
  "endforeach", "switch", "case", "default", "break", "continue", "endswitch", "match", "return",
  "goto", "try", "catch", "finally", "throw", "function", "fn", "class", "interface", "trait",
  "enum", "extends", "implements", "abstract", "final", "const", "public", "protected", "private",
  "static", "var", "global", "readonly", "namespace", "use", "insteadof", "echo", "print",
  "include", "include_once", "require", "require_once", "isset", "empty", "unset", "die", "exit",
  "eval", "list", "clone", "declare", "array", "string", "int", "float", "bool", "object",
  "callable", "iterable", "void", "mixed", "never", "null", "false", "true", "__LINE__",
  "__FILE__", "__DIR__", "__FUNCTION__", "__CLASS__", "__TRAIT__", "__METHOD__", "__NAMESPACE__",
  "Traversable", "Iterator", "IteratorAggregate", "Throwable", "ArrayAccess", "Serializable",
  "Countable", "Stringable", "UnitEnum", "BackedEnum", "JsonSerializable", "Reflector",
  "DateTimeInterface", "SessionHandlerInterface", "InternalIterator", "OuterIterator",
  "RecursiveIterator", "SeekableIterator", "SplObserver", "SplSubject", "$GLOBALS", "$_SERVER",
  "$_GET", "$_POST", "$_FILES", "$_COOKIE", "$_SESSION", "$_REQUEST", "$_ENV", "$argc", "$argv",
  "$this"]

/-- The entries of the profile of PHP. Variables come before arguments, so that parameter names stay
visible. -/
def php : List (Value × Value) := [
  (.text "variable", .pattern (.constant "\\$[a-zA-Z_\\x7f-\\uffff][a-zA-Z0-9_\\x7f-\\uffff]*")),
  (.text "argument", grammarScanner Signature.php),
  (.text "operator", .pattern (.constant
      ("===|!==|\\?\\?|\\*\\*|<<|>>|<=|>=|==|!=|->|=>|::|\\.|\\?|!|\\+|-|\\*|/|%|=|<|>|&" ++
        "|\\||\\^|~|(?<!\\w)new(?!\\w)|(?<!\\w)instanceof(?!\\w)"))),
  (.text "number", .pattern (.constant
      ("\\b0b[01]+\\b|\\b0x[\\da-f]+\\b|\\b0o[0-7]+\\b|\\b\\d*\\.?\\d+(?:e[+-]?\\d+)?\\b")
      { ignoreCase := true })),
  (.text "function", .pattern (.constant "\\b[a-zA-Z_\\x80-\\uffff]\\w*(?=\\s*\\()")),
  (.text "tag", .pattern (.constant "<\\?(?:php|=)?|\\?>" { ignoreCase := true })),
  (.text "keyword", .list (phpWords.map .text)),
  (.text "string", .pattern (.constant "([\\\"'`])(?:\\\\.|[^\\\\])*?\\1")),
  (.text "comment", .pattern (.constant "/\\*[\\s\\S]*?\\*/|(?://|#(?!\\[)).*"))]

end Highlighter.Builtin
