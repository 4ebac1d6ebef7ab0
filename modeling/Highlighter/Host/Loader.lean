import Highlighter.Registry

/-!
# Loaders

A loader answers the requests of a registry: from a table that is given in advance, or from a store
whose modules do not ask for the end of the program.

Main definitions: `Loader`, `Loader.answer`.
-/

namespace Highlighter.Host

open Highlighter.Resource

/-- What a table holds for an identifier. -/
inductive Stock where
  | value (data : Value)
  | raises (fault : Fault)
  /-- A failure to load with the given text. -/
  | refused (text : String)

/-- Where a host loads profiles from. -/
inductive Loader where
  | table (entries : List (String × Stock))
  | store (resources : Store Empty)

/-- What a loader answers to a request. -/
def Loader.answer (loader : Loader) (location identifier : String) : Run Value :=
  match loader with
  | .store resources => do
    match ← load resources location (some identifier) with
    | .ok entries => return .map entries
    | .error status => nomatch status
  | .table entries =>
    match entries.lookup identifier with
    | some (.value data) => return data
    | some (.raises fault) => .fail fault
    | some (.refused text) => .fail (.loadFailed identifier (.other text) (some location))
    | none => .fail (.loadFailed identifier .notFound (some location))

variable [PatternReader]

/-- Resolves an identifier at once. -/
def Loader.resolve (loader : Loader) (registry : Registry) (identifier : Identifier) :
    Run (Registry × Resolved) := do
  match ← registry.ask identifier with
  | (registry, .ready resolved) => return (registry, resolved)
  | (registry, .waits name _) =>
    let location ← .ofExcept (Registry.locate registry.settings name)
    registry.finish name location (loader.answer location name)

end Highlighter.Host
