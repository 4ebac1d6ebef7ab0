import Highlighter.Builtin.JavaScript
import Highlighter.Builtin.Markup
import Highlighter.Builtin.Php
import Highlighter.Builtin.Python

/-!
# Built-in profiles

The default profile, and the profiles that can be loaded by name. Their patterns are ready ones, so
that no reader has a part in them; where a reader has to be named, it is the library's own.
-/

namespace Highlighter.Builtin

attribute [local instance] PatternReader.standard

/-- The default profile. -/
def defaultProfile : Profile :=
  match (Profile.ofMapping "default" markup).outcome with
  | .ok profile => profile
  | .error _ => { name := "default" }

/-- The entries of the profiles that can be loaded by name. -/
def named : List (String × List (Value × Value)) :=
  [("javascript", javaScript), ("php", php), ("python", python)]

/-- The profile of a name, without loading. -/
def profile? (name : String) : Option Profile :=
  if name = "default" then some defaultProfile
  else (named.lookup name).bind fun entries => (Profile.ofMapping name entries).outcome.toOption

end Highlighter.Builtin
