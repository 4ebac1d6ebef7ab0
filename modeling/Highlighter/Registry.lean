import Highlighter.Builtin.Basic
import Highlighter.Resource.Load
import Highlighter.Settings

/-!
# The registry of profiles

A registry turns identifiers into profiles. A few identifiers stand for the default profile, a ready
profile stands for itself, and a literal mapping is converted once. A name is looked up among the
loaded profiles and is loaded otherwise; while it is being loaded, everybody who asks for it waits
for the same load. A load that fails gives the default profile, which is then kept under the name.

The registry itself never waits: `ask` says what there is to wait for, and `finish` is called when a
load has ended.

Main definitions: `Identifier`, `Registry`, `Registry.ask`, `Registry.finish`, `Registry.locate`.
-/

namespace Highlighter

open Highlighter.Resource

/-- Which profile object a profile is. -/
inductive Handle where
  | default
  /-- A profile that the user made. -/
  | given (key : String)
  /-- A profile that a registry made. -/
  | made (serial : Nat)
  deriving DecidableEq, Repr

/-- A profile together with its identity. -/
structure Resolved where
  handle : Handle
  profile : Profile

/-- The default profile. -/
def Resolved.default : Resolved :=
  ⟨.default, Builtin.defaultProfile⟩

/-- What a profile is asked for by. -/
inductive Identifier where
  | nothing
  | name (text : String)
  /-- A literal mapping; the key says which one it is. -/
  | literal (key : String) (entries : Table)
  | ready (resolved : Resolved)
  /-- A value of any other kind. -/
  | other (value : Value)

/-- An identifier as it is shown. -/
def Identifier.shown : Identifier → String
  | .nothing => Value.null.shown
  | .name text => (Value.text text).shown
  | .literal _ entries => (Value.map entries).shown
  | .ready resolved => resolved.profile.shown
  | .other value => value.shown

/-- Names that stand for the default profile. -/
def defaultAliases : List String := ["", "html", "default"]

/-- A load that has begun and has not ended in a profile. -/
inductive Flight where
  | loading
  /-- No location could be given, which ends the load before it begins. -/
  | stranded (fault : Fault)

/-- What an identifier leads to. -/
inductive Answer where
  | ready (resolved : Resolved)
  /-- One has to wait for the load of a name, which `begins` now or has begun before. -/
  | waits (name : String) (begins : Bool)

/-- The profiles that have been loaded and converted, and the loads in flight. -/
structure Registry where
  settings : Settings := {}
  profiles : List (String × Resolved) := []
  literals : List (String × Resolved) := []
  inflight : List (String × Flight) := []
  serial : Nat := 0

namespace Registry

/-- Where the profile of a name is loaded from. -/
def locate (settings : Settings) (name : String) : Except Fault String := do
  if isPathLike name then return name
  let file := "syntax." ++ name ++ "." ++ (← settings.profileExtension.plain?)
  match settings.baseLocation with
  | .text base =>
    if isRemote base then
      return String.ofList ((base.toList.reverse.dropWhile (· == '/')).reverse) ++ "/" ++ file
    else return ((Path.ofText base).join (Path.ofText file)).text
  | .foreign conduct => conduct.folder file
  | .bytes _ => throw (.misuse "TypeError" "a bytes-like object is required, not 'str'")
  | base => throw (.misuse "AttributeError"
      ("'" ++ base.typeName ++ "' object has no attribute 'startswith'"))

/-- Where the profile of an identifier is loaded from; only a name has a location. -/
def location (registry : Registry) : Identifier → Except Fault String
  | .name name => locate registry.settings name
  | .nothing => .error (.noLocation "NoneType")
  | .literal _ _ => .error (.noLocation "dict")
  | .ready _ => .error (.noLocation "SyntaxProfile")
  | .other value => .error (.noLocation value.typeName)

section Asking

variable [PatternReader]

/-- The profile under which a literal mapping is kept, and its conversion if there is none. -/
def askLiteral (registry : Registry) (key : String) (entries : Table) :
    Run (Registry × Resolved) := do
  match registry.literals.lookup key with
  | some resolved => return (registry, resolved)
  | none =>
    match ← (Profile.ofMapping "custom" entries).attempt with
    | .ok profile =>
      let resolved : Resolved := ⟨.made registry.serial, profile⟩
      return ({ registry with
        literals := registry.literals ++ [(key, resolved)]
        serial := registry.serial + 1 }, resolved)
    | .error fault =>
      if fault.isValueFault then
        .note (.revertedLiteral fault)
        return ({ registry with literals := registry.literals ++ [(key, .default)] }, .default)
      else .fail fault

/-- Asks for the profile of a name. -/
def askName (registry : Registry) (name : String) : Run (Registry × Answer) :=
  match registry.profiles.lookup name with
  | some resolved => return (registry, .ready resolved)
  | none =>
    match registry.inflight.lookup name with
    | some .loading => return (registry, .waits name false)
    | some (.stranded fault) => .fail fault
    | none =>
      return ({ registry with inflight := registry.inflight ++ [(name, .loading)] },
        .waits name true)

/-- Asks for the profile of an identifier. -/
def ask (registry : Registry) (identifier : Identifier) : Run (Registry × Answer) :=
  match identifier with
  | .ready resolved => return (registry, .ready resolved)
  | .nothing => return (registry, .ready .default)
  | .literal key entries => do
    let (registry, resolved) ← registry.askLiteral key entries
    return (registry, .ready resolved)
  | .name name =>
    if defaultAliases.contains name then return (registry, .ready .default)
    else registry.askName name
  | .other value => do
    .note (.unsupportedIdentifier value.typeName)
    return (registry, .ready .default)

end Asking

/-- The notice of a load that failed. -/
def failureNotice (name location : String) : Fault → Notice
  | .loadFailed identifier defect place => .revertedLoad (.loadFailed identifier defect place)
  | fault => .revertedFault name location fault

section Landing

variable [PatternReader]

/-- The profile of a loaded value. -/
def profileOf (name : String) (value : Value) : Run Profile := do
  match ← .ofExcept (entriesOf value) with
  | some entries => Profile.ofMapping name entries
  | none => .fail (.noEntries value.qualifiedTypeName)

/-- Ends the load of a name with the value that was loaded, and gives the profile that is then kept
under the name. -/
def finish (registry : Registry) (name location : String) (loaded : Run Value) :
    Run (Registry × Resolved) := do
  let outcome ← (do profileOf name (← loaded)).attempt
  let registry := { registry with inflight := registry.inflight.filter (·.1 != name) }
  let resolved : Resolved := match outcome with
    | .ok profile => ⟨.made registry.serial, profile⟩
    | .error _ => .default
  .note (match outcome with
    | .ok _ => .loaded name location
    | .error fault => failureNotice name location fault)
  match registry.profiles.lookup name with
  | some kept => return (registry, kept)
  | none =>
    return ({ registry with
      profiles := registry.profiles ++ [(name, resolved)]
      serial := registry.serial + 1 }, resolved)

end Landing

/-- Ends the load of a name for which no location can be given. It is never tried again. -/
def strand (registry : Registry) (name : String) (fault : Fault) : Registry :=
  { registry with
    inflight := registry.inflight.filter (·.1 != name) ++ [(name, .stranded fault)] }

/-- The profile that is kept for an identifier. -/
def cached (registry : Registry) : Identifier → Option Resolved
  | .literal key _ => registry.literals.lookup key
  | .name name => registry.profiles.lookup name
  | _ => none

/-- Whether a profile is kept under a name. -/
def contains (registry : Registry) : Identifier → Bool
  | .name name => (registry.profiles.lookup name).isSome
  | _ => false

/-- Whether the profile of an identifier is being loaded. -/
def isLoading (registry : Registry) : Identifier → Except Fault Bool
  | .name name => .ok (registry.inflight.lookup name).isSome
  | .literal _ _ => .error (.unhashable "dict")
  | .other (.list _) => .error (.unhashable "list")
  | _ => .ok false

/-- Forgets the profile of an identifier, or all profiles. Loads in flight go on. -/
def invalidate (registry : Registry) : Identifier → Registry
  | .nothing => { registry with profiles := [], literals := [] }
  | .literal key _ => { registry with literals := registry.literals.filter (·.1 != key) }
  | .name name => { registry with profiles := registry.profiles.filter (·.1 != name) }
  | _ => registry

/-- The number of profiles that are kept. -/
def size (registry : Registry) : Nat :=
  registry.profiles.length + registry.literals.length

end Registry

end Highlighter
