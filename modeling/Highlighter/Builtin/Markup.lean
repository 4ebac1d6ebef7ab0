import Highlighter.Profile
import Highlighter.Regex.Constant

/-!
# The default profile

Markup with style sheets. It stands in wherever no profile is named or a profile cannot be loaded.
-/

namespace Highlighter.Builtin

open Highlighter.Regex

/-- The entries of the default profile. -/
def markup : List (Value × Value) := [
  (.text "argument", .pattern (.constant "(?<=\\()[^)]+(?=\\))")),
  (.text "operator", .pattern (.constant "[>~+*|=^$]")),
  (.text "property", .pattern (.constant "(?<!@)\\b[\\w-]+(?=:)")),
  (.text "number", .pattern (.constant
      ("[+-]?\\b\\d*\\.?\\d+(?:e[+-]?\\d+)?(?:%|[a-z]\x7b1,4\x7d)?\\b") { ignoreCase := true })),
  (.text "tag", .pattern (.constant "</?[\\w-]+|/>|(?<=[\\w\\\"'])>")),
  (.text "comment", .pattern (.constant "(<!--|/\\*)([\\s\\S]*?)(-->|\\*/)")),
  (.text "keyword", .pattern (.constant "@\\w+\\b")),
  (.text "variable", .pattern (.constant "--[\\w\\d]+-?[\\w\\d]*")),
  (.text "function", .pattern (.constant "[\\w-]+\\s*(?=\\()")),
  (.text "string", .pattern (.constant "([\\\"'])(?:\\\\.|[^\\\\])*?\\1"))]

end Highlighter.Builtin
