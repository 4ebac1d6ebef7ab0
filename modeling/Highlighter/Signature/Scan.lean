import Highlighter.Regex.Match
import Highlighter.Signature.State
import Highlighter.Span
import Highlighter.Text.Blank

/-!
# Parameter names

A grammar finds the headers of definitions, each of which ends after the opening parenthesis of a
parameter list. The list is cut into slots at its top-level commas; a slot ends at its first
top-level equals sign, so that it holds no default value. The name of a parameter is what the
grammar's parameter pattern matches as the group `name` in its slot.

Main definitions: `Grammar`, `slots`, `Grammar.scanList`, `Grammar.emitted`, `Grammar.scan`.
-/

namespace Highlighter.Signature

open Highlighter.Regex Highlighter.Text

/-- How the definitions of a language are written. -/
structure Grammar where
  name : String
  header : Pattern
  parameter : Pattern
  lexis : Lexis

/-- The place of a parameter without its default value. -/
structure Slot where
  start : Nat
  stop : Nat
  deriving DecidableEq, Repr

/-- The slots of a parameter list, read from a state. `start` is where the current slot begins and
`cut` where its default value begins, if it has one; `offset` is that of the next character. A slot
counts only when its end has been read, and the end of the list ends the reading. -/
def slotsFrom (lexis : Lexis) : ScanState → Nat → Option Nat → Nat → List Char → List Slot
  | _, _, _, _, [] => []
  | state, start, cut, offset, c :: rest =>
    match state.step lexis c with
    | (.none, state) => slotsFrom lexis state start cut (offset + 1) rest
    | (.default, state) => slotsFrom lexis state start (cut <|> some offset) (offset + 1) rest
    | (.separator, state) =>
      ⟨start, cut.getD offset⟩ :: slotsFrom lexis state (offset + 1) none (offset + 1) rest
    | (.finish, _) => [⟨start, cut.getD offset⟩]

/-- The slots of the parameter list that begins at an offset. -/
def slots (lexis : Lexis) (source : List Char) (offset : Nat) : List Slot :=
  slotsFrom lexis {} offset none offset (source.drop offset)

/-- The offsets of the group `name` in a match. A group that took no part is at minus one. -/
def nameOffsets (parameter : Pattern) (found : Match) : Except Fault (Int × Int) :=
  match parameter.groupNumber? "name" with
  | none => .error (.raised .index "no such group")
  | some index =>
    match found.final.capture? index with
    | some capture => .ok (capture.start, capture.stop)
    | none => .ok (-1, -1)

/-- The name of the parameter in a slot, if the slot is not blank and holds one. The span must fit a
text of the given length. -/
def Grammar.argumentName (grammar : Grammar) (source : List Char) (length : Nat) (slot : Slot) :
    Run (Option Span) :=
  let text := (source.drop slot.start).take (slot.stop - slot.start)
  if (trim text).isEmpty then pure none
  else match grammar.parameter.search? text with
  | none => pure none
  | some found => do
    let (start, stop) ← Run.ofExcept (nameOffsets grammar.parameter found)
    Span.orDrop length (slot.start + start) (slot.start + stop)

/-- The names in the given slots. -/
def Grammar.namesIn (grammar : Grammar) (source : List Char) (length : Nat) :
    List Slot → Run (List Span)
  | [] => pure []
  | slot :: rest => do
    let name ← grammar.argumentName source length slot
    let names ← grammar.namesIn source length rest
    return name.toList ++ names

/-- The parameter names of the list that begins at an offset. -/
def Grammar.scanList (grammar : Grammar) (source : List Char) (length offset : Nat) :
    Run (List Span) :=
  grammar.namesIn source length (slots grammar.lexis source offset)

/-- The names in the given slots that are found one after the other, until there is a fault. -/
def Grammar.emittedIn (grammar : Grammar) (source : List Char) (length : Nat) :
    List Slot → List Span
  | [] => []
  | slot :: rest =>
    match (grammar.argumentName source length slot).outcome with
    | .ok name => name.toList ++ grammar.emittedIn source length rest
    | .error _ => []

/-- The names of the list that begins at an offset that are found one after the other, until there
is a fault. Those of `scanList` are known only when all of them have been found. -/
def Grammar.emitted (grammar : Grammar) (source : List Char) (offset : Nat) : List Span :=
  grammar.emittedIn source source.length (slots grammar.lexis source offset)

/-- The parameter names of the lists that begin at the given offsets. -/
def Grammar.scanLists (grammar : Grammar) (source : List Char) (length : Nat) :
    List Nat → Run (List Span)
  | [] => pure []
  | offset :: rest => do
    let names ← grammar.scanList source length offset
    let others ← grammar.scanLists source length rest
    return names ++ others

/-- The parameter names of all definitions in a text, header by header. Spans must fit a text of the
given length. -/
def Grammar.scan (grammar : Grammar) (source : String) (length : Nat) : Run (List Span) :=
  let headers := grammar.header.findAll source.toList
  grammar.scanLists source.toList length (headers.map Match.stop)

/-- The name of a grammar's scanner. -/
def Grammar.scannerName (grammar : Grammar) : String :=
  "ArgumentScanner(" ++ quoted grammar.name ++ ")"

end Highlighter.Signature
