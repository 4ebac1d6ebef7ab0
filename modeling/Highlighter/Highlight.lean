import Highlighter.Extraction
import Highlighter.Host.Loader
import Highlighter.Snippet

/-!
# Highlighting a text at once

A text is highlighted with the profile of an identifier: the text is normalized if that is wanted,
the profile is resolved, and the spans are found. Calls that bring no registry of their own share
one, which is made by the first of them with the settings that are active then.

Main definitions: `Call`, `Call.run`.
-/

namespace Highlighter

open Highlighter.Host

/-- A call: the text, the identifier of the profile, and the surroundings. -/
structure Call where
  source : String
  identifier : Identifier := .nothing
  /-- Whether the text is normalized, if that is not left to the settings. -/
  normalizes : Option Bool := none
  /-- The settings that are active during the call. -/
  settings : Settings := {}
  /-- The registry that the call brings. -/
  registry : Option Registry := none

namespace Call

/-- The text whose spans are found. -/
def text (call : Call) : String :=
  if call.normalizes.getD call.settings.normalizes then Snippet.normalize call.source
  else call.source

variable [PatternReader]

/-- Makes a call, given the registry that calls share, if it has been made. -/
def run (call : Call) (loader : Loader) (shared : Option Registry) :
    Option Registry × Run Highlights :=
  let registry := call.registry.getD (shared.getD { settings := call.settings })
  let resolved := loader.resolve registry call.identifier
  let registry := match resolved.outcome with
    | .ok (registry, _) => registry
    | .error _ => registry
  let shared := match call.registry with
    | some _ => shared
    | none => some registry
  (shared, do
    let (_, resolved) ← resolved
    extractAll resolved.profile call.text)

end Call

end Highlighter
