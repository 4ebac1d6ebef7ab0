import Highlighter.Regex.Match
import Highlighter.Regex.Reader

/-!
# Constant patterns

Patterns that are part of the library are given by their texts. A text that is no pattern would give
one that matches nowhere.
-/

namespace Highlighter.Regex

/-- The pattern of a text that is known to be one. -/
def Pattern.constant (source : String) (options : Options := {}) : Pattern :=
  match Pattern.read source options with
  | .ok pattern => pattern
  | .error _ => { source, options, node := .ahead true .empty }

end Highlighter.Regex
