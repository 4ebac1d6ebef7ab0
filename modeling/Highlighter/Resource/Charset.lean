import Highlighter.Text.Blank
import Highlighter.Text.Lower

/-!
# Character sets

A few character sets in which a resource may be written, and the name by which a content type gives
one. Which sets there are is up to the store that a resource comes from; these are the ones that a
store knows that is given by tables, and files are written in the first of them.

Main definitions: `Charset`, `Charset.ofName?`, `Charset.decode?`, `charsetName?`.
-/

namespace Highlighter.Resource

/-- A character set. -/
inductive Charset where
  | utf8
  | latin1
  | ascii
  deriving DecidableEq, Repr

namespace Charset

/-- The character set of a name in lower case, where a hyphen, a blank and an underscore are the
same. -/
def ofName? (name : String) : Option Charset :=
  let name := String.ofList (name.toList.map fun c => if c == '-' || c == ' ' then '_' else c)
  if ["utf_8", "utf8", "u8", "utf", "cp65001"].contains name then some .utf8
  else if ["iso_8859_1", "iso8859_1", "iso8859", "8859", "latin_1", "latin1", "latin", "l1",
      "cp819", "iso_ir_100", "csisolatin1", "ibm819"].contains name then some .latin1
  else if ["us_ascii", "ascii", "us", "646", "ansi_x3.4_1968", "ansi_x3.4_1986", "iso646_us",
      "iso_ir_6", "csascii", "cp367", "ibm367"].contains name then some .ascii
  else none

/-- The text that bytes stand for, if they stand for one. -/
def decode? (charset : Charset) (bytes : ByteArray) : Option String :=
  match charset with
  | .utf8 => String.fromUTF8? bytes
  | .latin1 => some (String.ofList (bytes.toList.map fun byte => Char.ofNat byte.toNat))
  | .ascii =>
    if bytes.toList.all (· < 128) then
      some (String.ofList (bytes.toList.map fun byte => Char.ofNat byte.toNat))
    else none

end Charset

/-- The pieces of a content type between semicolons that stand outside of quotes. -/
def parameters (quoted : Bool) : List Char → List (List Char)
  | [] => [[]]
  | ';' :: rest =>
    if quoted then extend ';' (parameters quoted rest) else [] :: parameters false rest
  | '"' :: rest => extend '"' (parameters (!quoted) rest)
  | c :: rest => extend c (parameters quoted rest)
where
  /-- Puts a character before the first piece. -/
  extend (c : Char) : List (List Char) → List (List Char)
    | piece :: others => (c :: piece) :: others
    | [] => [[c]]

/-- Takes the quotes off a value that stands between two of them. -/
def unquoted (value : List Char) : List Char :=
  match value, value.getLast? with
  | '"' :: rest, some '"' => if rest.isEmpty then value else rest.dropLast
  | _, _ => value

/-- The value that a piece of a content type gives to the character set. -/
def charsetValue? (parameter : List Char) : Option (List Char) :=
  match parameter.dropWhile (· != '=') with
  | '=' :: value =>
    let key := String.ofList (Text.trim (parameter.takeWhile (· != '=')))
    if Text.lower key == "charset" then some (unquoted (Text.trim value)) else none
  | _ => none

/-- The name of the character set that a content type gives, in lower case. A name that is empty or
not in ASCII counts as none. -/
def charsetName? (contentType : String) : Option String :=
  match ((parameters false contentType.toList).drop 1).findSome? charsetValue? with
  | some value =>
    if value.isEmpty || value.any (128 ≤ ·.toNat) then none
    else some (Text.lower (String.ofList value))
  | none => none

end Highlighter.Resource
