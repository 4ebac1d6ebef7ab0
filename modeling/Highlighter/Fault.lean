import Highlighter.Text.Quoted

/-!
# Faults

Everything that can go wrong is a `Fault`, given by its cause. `Fault.kind` names the kind of a
fault and `Fault.message` words it; both appear in answers and in notices. Where a reader of
patterns or of data refuses its input, the message holds `<detail>` for the reader's own account.

What the user brings along may raise faults of its own kinds. These say which known kinds they
belong to, and they may even fail to be worded: `Fault.wording` is then the fault that comes of the
attempt.

Main definitions: `Fault`, `Fault.kind`, `Fault.isA`, `Fault.message`, `Fault.wording`,
`Fault.summary`.
-/

namespace Highlighter

open Highlighter.Text

/-- The kinds of fault that a scanner, a loader or a renderer of the user may raise. -/
inductive RaisedKind where
  | runtime
  | value
  | type
  | key
  | index
  | os
  | zeroDivision
  deriving DecidableEq, Repr

/-- The name of a kind. -/
def RaisedKind.name : RaisedKind → String
  | .runtime => "RuntimeError"
  | .value => "ValueError"
  | .type => "TypeError"
  | .key => "KeyError"
  | .index => "IndexError"
  | .os => "OSError"
  | .zeroDivision => "ZeroDivisionError"

/-- Why a profile entry is no rule. -/
inductive Defect where
  /-- The value is of no kind that a rule can be made of. -/
  | unsupportedType (typeName : String)
  /-- A word of a keyword list is no text or empty. -/
  | keyword (shown : String)
  /-- The pattern of a mapping is no text. -/
  | patternType
  /-- A text is no pattern. -/
  | invalidPattern
  /-- A mapping names no known scanner. -/
  | unknownScanner (shown : String) (known : List String)
  /-- A mapping is of neither form. -/
  | shapelessMapping
  /-- A ready pattern is not one for texts. -/
  | bytesPattern
  /-- Matching failed. -/
  | failed (kind message : String)
  /-- A reason given as a text. -/
  | other (text : String)
  deriving DecidableEq, Repr

/-- The wording of a defect. -/
def Defect.message : Defect → String
  | .unsupportedType typeName => "unsupported value of type " ++ typeName
  | .keyword shown => "keyword list contains " ++ shown ++ "; expected non-empty strings"
  | .patternType => "'pattern' must be a string"
  | .invalidPattern => "invalid pattern: <detail>"
  | .unknownScanner shown known =>
    "unknown scanner " ++ shown ++ " (known: " ++ ", ".intercalate known ++ ")"
  | .shapelessMapping => "mapping must contain 'pattern' or 'scanner'"
  | .bytesPattern => "pattern must be a compiled str pattern, not bytes"
  | .failed kind message => kind ++ ": " ++ message
  | .other text => text

/-- Why a resource gives no profile. -/
inductive LoadDefect where
  | remoteModule
  | notFound
  /-- The file cannot be read, for the given reason. -/
  | unreadable (text : String)
  | unsupportedFormat (suffix : String)
  /-- The data is not of its format, which is given by name. -/
  | invalidData (format : String)
  | noMapping (typeName : String)
  | moduleRaised (kind message : String)
  | noExport
  /-- A module has a suffix by which it cannot be imported. -/
  | notImportable
  /-- The fetch failed with the given text. -/
  | fetchFailed (text : String)
  /-- A reason given as a text. -/
  | other (text : String)
  deriving DecidableEq, Repr

/-- The wording of a load defect. -/
def LoadDefect.message : LoadDefect → String
  | .remoteModule => "remote Python profiles are not executed"
  | .notFound => "resource not found"
  | .unreadable text => "cannot read resource: " ++ text
  | .unsupportedFormat suffix => "unsupported profile format " ++ quoted suffix
  | .invalidData format => "invalid " ++ format ++ ": <detail>"
  | .noMapping typeName => "export is " ++ typeName ++ ", expected a mapping"
  | .moduleRaised kind message => "module raised " ++ kind ++ ": " ++ message
  | .notImportable => "not an importable module"
  | .noExport => "module defines no SYNTAX or default"
  | .fetchFailed text => "fetch failed: " ++ text
  | .other text => text

/-- Why the host of a web address is refused. -/
inductive HostDefect where
  /-- A bracket is opened and not closed, or closed and not opened. -/
  | brackets
  /-- An address of a future version is not of its form. -/
  | future
  /-- An address of version 4 stands in brackets. -/
  | bracketedVersion4
  /-- A text in brackets is no address. -/
  | noAddress (shown : String)
  /-- A character of the host stands for a text with a separator in it. -/
  | separator (host : String)
  deriving DecidableEq, Repr

/-- The wording of a host defect. -/
def HostDefect.message : HostDefect → String
  | .brackets => "Invalid IPv6 URL"
  | .future => "IPvFuture address is invalid"
  | .bracketedVersion4 => "An IPv4 address cannot be in brackets"
  | .noAddress shown => shown ++ " does not appear to be an IPv4 or IPv6 address"
  | .separator host =>
    "netloc '" ++ host ++ "' contains invalid characters under NFKC normalization"

/-- What went wrong. -/
inductive Fault where
  /-- A profile entry is no rule. -/
  | malformedRule (label : String) (defect : Defect)
  /-- A scanner raised a fault, which is given by kind and message. -/
  | scannerFailed (label kind message : String)
  /-- A resource gave no profile. -/
  | loadFailed (identifier : String) (defect : LoadDefect) (location : Option String)
  /-- Offsets are empty or leave a text of the given length. -/
  | outOfText (start stop : Int) (length : Nat)
  /-- Offsets are negative or empty. -/
  | emptyRange (start stop : Int)
  /-- A fault of the library that is of no special kind. -/
  | general (text : String)
  /-- A fault that the user's part raised. -/
  | raised (kind : RaisedKind) (text : String)
  | unsupportedOption (c : Char)
  | invalidPattern
  | contradictoryOptions
  | repeatTooLarge
  | infiniteOffset
  /-- A value of the given type cannot be read as a number. -/
  | noOffset (typeName : String)
  /-- A text or a number is no whole number. -/
  | noWholeNumber
  /-- A value does not consist of two values. -/
  | noPair
  | unhashable (typeName : String)
  | noLength (typeName : String)
  | notText (typeName : String)
  | bytesWord
  | notIterable (typeName : String)
  | notCallable (typeName : String)
  | noEntries (typeName : String)
  | noLocation (typeName : String)
  | badTypeName (shown : String)
  | duplicateType (name : String)
  | unknownEncoding (name : String)
  | undecodable
  | badHost (defect : HostDefect)
  /-- A whole number has more digits than are read. -/
  | longNumeral (digits limit : Nat)
  /-- A whole number has more digits than are written. -/
  | unwrittenNumeral (limit : Nat)
  /-- A fault of the given kind with a message of its own. -/
  | misuse (kind message : String)
  /-- A fault of a kind that the user defined, with the known kinds that it belongs to. -/
  | foreign (kind : String) (bases : List String) (message : String)
  /-- The same, but the attempt to word it ends with another fault. -/
  | mute (kind : String) (bases : List String) (cause : Fault)
  deriving DecidableEq, Repr

/-- The name of a fault's kind. -/
def Fault.kind : Fault → String
  | .malformedRule _ _ => "MalformedRuleError"
  | .scannerFailed _ _ _ => "ScannerError"
  | .loadFailed _ _ _ => "ProfileLoadError"
  | .outOfText _ _ _ => "RangeConstructionError"
  | .emptyRange _ _ => "ValueError"
  | .general _ => "TintaError"
  | .raised kind _ => kind.name
  | .unsupportedOption _ => "ValueError"
  | .invalidPattern => "error"
  | .contradictoryOptions => "ValueError"
  | .repeatTooLarge => "OverflowError"
  | .infiniteOffset => "OverflowError"
  | .noOffset _ => "TypeError"
  | .noWholeNumber => "ValueError"
  | .noPair => "ValueError"
  | .unhashable _ => "TypeError"
  | .noLength _ => "TypeError"
  | .notText _ => "TypeError"
  | .bytesWord => "TypeError"
  | .notIterable _ => "TypeError"
  | .notCallable _ => "TypeError"
  | .noEntries _ => "AttributeError"
  | .noLocation _ => "TypeError"
  | .badTypeName _ => "ValueError"
  | .duplicateType _ => "ValueError"
  | .unknownEncoding _ => "LookupError"
  | .undecodable => "UnicodeDecodeError"
  | .badHost _ => "ValueError"
  | .longNumeral _ _ => "ValueError"
  | .unwrittenNumeral _ => "ValueError"
  | .misuse kind _ => kind
  | .foreign kind _ _ => kind
  | .mute kind _ _ => kind

/-- The known kinds that a fault belongs to. -/
def Fault.bases : Fault → List String
  | .foreign _ bases _ => bases
  | .mute _ bases _ => bases
  | .undecodable => ["UnicodeDecodeError", "ValueError"]
  | fault => [fault.kind]

/-- Whether a fault belongs to a known kind. -/
def Fault.isA (fault : Fault) (kind : String) : Bool :=
  fault.bases.contains kind

/-- A half-open range of offsets. -/
def rangeText (start stop : Int) : String :=
  "[" ++ toString start ++ ", " ++ toString stop ++ ")"

/-- The wording of a fault, which is empty if it cannot be worded. -/
def Fault.message : Fault → String
  | .malformedRule label defect =>
    "Invalid syntax definition for '" ++ label ++ "': " ++ defect.message
  | .scannerFailed label kind message =>
    "Scanner for '" ++ label ++ "' failed: " ++ kind ++ ": " ++ message
  | .loadFailed identifier defect location =>
    let place := match location with
      | some location =>
        if location.isEmpty || location == identifier then "" else " (" ++ location ++ ")"
      | none => ""
    "Could not load syntax profile '" ++ identifier ++ "'" ++ place ++ ": " ++ defect.message
  | .outOfText start stop length =>
    "Range " ++ rangeText start stop ++ " is invalid for text of length " ++ toString length
  | .emptyRange start stop => "invalid range " ++ rangeText start stop
  | .general text => text
  | .raised .key text => quoted text
  | .raised _ text => text
  | .unsupportedOption c => "unsupported regex flag " ++ String.ofList (quotedChars [c])
  | .invalidPattern => "<detail>"
  | .contradictoryOptions => "ASCII and UNICODE flags are incompatible"
  | .repeatTooLarge => "the repetition number is too large"
  | .infiniteOffset => "cannot convert float infinity to integer"
  | .noOffset typeName =>
    "int() argument must be a string, a bytes-like object or a real number, not '" ++ typeName ++
      "'"
  | .noWholeNumber => "invalid literal for int() with base 10"
  | .noPair => "expected two values to unpack"
  | .unhashable typeName => "unhashable type: '" ++ typeName ++ "'"
  | .noLength typeName => "object of type '" ++ typeName ++ "' has no len()"
  | .notText typeName => "decoding to str: need a bytes-like object, " ++ typeName ++ " found"
  | .bytesWord => "cannot use a string pattern on a bytes-like object"
  | .notIterable typeName => "'" ++ typeName ++ "' object is not iterable"
  | .notCallable typeName => "'" ++ typeName ++ "' object is not callable"
  | .noEntries typeName => "'" ++ typeName ++ "' object has no attribute 'items'"
  | .noLocation typeName => "expected string or bytes-like object, got '" ++ typeName ++ "'"
  | .badTypeName shown => "token type names must be non-empty strings, got " ++ shown
  | .duplicateType name => "token type '" ++ name ++ "' declared twice"
  | .unknownEncoding name => "unknown encoding: " ++ name
  | .undecodable => "<detail>"
  | .badHost defect => defect.message
  | .longNumeral digits limit =>
    "Exceeds the limit (" ++ toString limit ++
      " digits) for integer string conversion: value has " ++
      toString digits ++ " digits; use sys.set_int_max_str_digits() to increase the limit"
  | .unwrittenNumeral limit =>
    "Exceeds the limit (" ++ toString limit ++ " digits) for integer string conversion; " ++
      "use sys.set_int_max_str_digits() to increase the limit"
  | .misuse _ message => message
  | .foreign _ _ message => message
  | .mute _ _ _ => ""

/-- The wording of a fault, or the fault that comes of wording it. -/
def Fault.wording : Fault → Except Fault String
  | .mute _ _ cause => .error cause
  | fault => .ok fault.message

/-- The kind and the wording of a fault. -/
def Fault.summary (fault : Fault) : String :=
  fault.kind ++ ": " ++ fault.message

/-- Whether a fault is one of the library's own. -/
def Fault.isOwn : Fault → Bool
  | .malformedRule _ _ => true
  | .scannerFailed _ _ _ => true
  | .loadFailed _ _ _ => true
  | .outOfText _ _ _ => true
  | .general _ => true
  | _ => false

/-- Whether a fault is about a wrong value. -/
def Fault.isValueFault (fault : Fault) : Bool :=
  fault.isA "ValueError"

/-- Whether a fault is about an entry that is no rule. -/
def Fault.isMalformed (fault : Fault) : Bool :=
  fault.isA "MalformedRuleError"

@[simp]
theorem Fault.isMalformed_malformedRule (label : String) (defect : Defect) :
    (Fault.malformedRule label defect).isMalformed = true := by
  simp [isMalformed, isA, bases, kind]

end Highlighter
