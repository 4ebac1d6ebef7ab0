import Highlighter.Data.Json
import Highlighter.Data.Toml.Reader
import Highlighter.Resource.Charset
import Highlighter.Resource.Store
import Highlighter.Resource.Url
import Highlighter.Text.Lower
import Highlighter.Value.Table

/-!
# Loading profiles

A profile is loaded from a location: the path of a file or a web address. The suffix of the location
says whether it is data in JSON or TOML or a module; modules are loaded from files only. What is
loaded must be a mapping.

A load ends with a mapping, with a fault, or with the request of a module to end the program.

Main definitions: `isPathLike`, `load`.
-/

namespace Highlighter.Resource

open Highlighter.Data (Refusal)
open Highlighter.Text (lower)

/-- Whether an identifier is used as a location as it stands. -/
def isPathLike (identifier : String) : Bool :=
  match identifier.toList with
  | '.' :: _ => true
  | '/' :: _ => true
  | _ => identifier.startsWith "http:" || identifier.startsWith "https:"

/-- The entries of a value, if it is a mapping. -/
def entriesOf : Value → Except Fault (Option Table)
  | .map entries => .ok (some entries)
  | .foreign conduct => conduct.entries
  | _ => .ok none

/-- The entries of a value that must be a mapping. -/
def requireMapping (fail : LoadDefect → Fault) (value : Value) : Run Table := do
  match ← .ofExcept (entriesOf value) with
  | some entries => return entries
  | none => .fail (fail (.noMapping value.typeName))

/-- Fails because of a fault that was caught. The failure says what the fault says; if the fault
cannot be worded, what comes of the attempt is the fault. -/
def failBy {α : Type} (cause : Fault) (failure : String → Fault) : Run α :=
  match cause.wording with
  | .ok message => .fail (failure message)
  | .error fault => .fail fault

/-- The entries of a text, given the name and the reader of its format. -/
def readWith (fail : LoadDefect → Fault) (format : String) (read : String → Except Refusal Value)
    (text : String) : Run Table :=
  match read text with
  | .ok value => requireMapping fail value
  | .error .malformed => .fail (fail (.invalidData format))
  | .error (.longNumeral digits) => .fail (.longNumeral digits Text.maxDigits)

/-- The entries that a text in a data format denotes. -/
def readData (fail : LoadDefect → Fault) (suffix text : String) : Run Table :=
  match suffix with
  | ".json" => readWith fail "json" Data.Json.read text
  | ".toml" => readWith fail "toml" Data.Toml.read text
  | suffix => .fail (fail (.unsupportedFormat suffix))

/-- Writes the breaks of a text as line feeds. -/
def unifyBreaks : List Char → List Char
  | '\r' :: '\n' :: rest => '\n' :: unifyBreaks rest
  | '\r' :: rest => '\n' :: unifyBreaks rest
  | c :: rest => c :: unifyBreaks rest
  | [] => []

/-- Whether a fault is one of reading and decoding. -/
def isReadingFault (fault : Fault) : Bool :=
  fault.isA "OSError" || fault.isA "UnicodeDecodeError"

/-- Gives a text that was to be read. A fault of reading or decoding is a failure to load. -/
def readOrFail (failure : String → Fault) (text : Except Fault String) : Run String :=
  match text with
  | .ok text => pure text
  | .error fault => if isReadingFault fault then failBy fault failure else .fail fault

section Loading

variable {ε : Type} (store : Store ε)

/-- The exports of a module that may hold a profile, in the order in which they are tried. -/
def exportNames : List String := ["SYNTAX", "default"]

/-- The entries of the first export of a module that holds anything. An export that the module does
not have holds nothing. -/
def readExports (fail : LoadDefect → Fault) (exported : String → ModuleEnd ε Value) :
    List String → Run (Except ε Table)
  | [] => .fail (fail .noExport)
  | name :: names =>
    match exported name with
    | .result .null => readExports fail exported names
    | .result value => do return .ok (← requireMapping fail value)
    | .fault fault =>
      if fault.isA "AttributeError" then readExports fail exported names else .fail fault
    | .exit status => return .error status

/-- The entries that a module exports. -/
def readModule (fail : LoadDefect → Fault) (path : Path) : Run (Except ε Table) :=
  match store.run path with
  | .result exported => readExports fail exported exportNames
  | .fault fault => failBy fault fun message => fail (.moduleRaised fault.kind message)
  | .exit status => return .error status

/-- The text of a file. -/
def fileText (path : Path) : Except Fault String := do
  match Charset.utf8.decode? (← store.bytes path) with
  | some text => return String.ofList (unifyBreaks text.toList)
  | none => throw .undecodable

/-- Loads from a file. -/
def loadFile (location identifier : String) : Run (Except ε Table) := do
  let path := Path.ofText location
  let fail := fun place defect => Fault.loadFailed identifier defect (some place)
  if !(← .ofExcept (store.isFile path)) then .fail (fail location .notFound)
  else
    let suffix := lower path.suffix
    if suffix == ".py" then
      if path.suffix != suffix then .fail (fail path.text .notImportable)
      else readModule store (fail path.text) path
    else do
      let text ← readOrFail (fun message => fail location (.unreadable message))
        (fileText store path)
      return .ok (← readData (fail location) suffix text)

/-- The text that a server replies with. -/
def remoteText (url : String) : Except Fault String := do
  let response ← store.request url
  let charset ← response.charset
  store.decode ((charset.filter (!·.isEmpty)).getD "utf-8") (← response.data)

/-- Loads from a web address. -/
def loadRemote (location identifier : String) : Run (Except ε Table) := do
  let fail := fun defect => Fault.loadFailed identifier defect (some location)
  let path ← .ofExcept (urlPath location)
  let suffix := lower (Path.ofText path).suffix
  if suffix == ".py" then .fail (fail .remoteModule)
  else do
    .note (.fetching location)
    let text ← readOrFail (fun message => fail (.fetchFailed message)) (remoteText store location)
    return .ok (← readData fail suffix text)

/-- Loads the entries of a profile, unless a module asks for the end of the program. In faults the
profile goes by its identifier, or by its location if it has none. -/
def load (location : String) (identifier : Option String) : Run (Except ε Table) :=
  let identifier := match identifier with
    | some identifier => if identifier.isEmpty then location else identifier
    | none => location
  if isRemote location then loadRemote store location identifier
  else loadFile store location identifier

end Loading

end Highlighter.Resource
