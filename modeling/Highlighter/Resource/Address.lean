import Highlighter.Fault
import Highlighter.Text.Digit

/-!
# Network addresses in brackets

The host of a web address may be given in brackets as an address of version 6 or of a future
version.

Main definition: `checkBracketed`.
-/

namespace Highlighter.Resource

open Highlighter.Text (isHexDigit ofDigitChars)

/-- A number from 0 to 255 without leading zeros. -/
def isOctet (text : List Char) : Bool :=
  !text.isEmpty && text.all Char.isDigit && text.length ≤ 3 &&
    (text.length = 1 || text.head? != some '0') && ofDigitChars 10 text ≤ 255

/-- Addresses of version 4: four numbers with points between them. -/
def isVersion4 (text : List Char) : Bool :=
  let octets := text.splitOn '.'
  octets.length = 4 && octets.all isOctet

/-- Up to four hexadecimal digits. -/
def isGroup (text : List Char) : Bool :=
  !text.isEmpty && text.all isHexDigit && text.length ≤ 4

/-- The groups of an address of version 6 without a gap. -/
def areGroups (groups : List (List Char)) : Bool :=
  groups.length = 8 && groups.all isGroup

/-- The groups before and after the gap of an address of version 6. A side may be empty; the gap
stands for at least one group. -/
def areSides (before after : List (List Char)) : Bool :=
  let before := if before == [[]] then [] else before
  let after := if after == [[]] then [] else after
  before.all isGroup && after.all isGroup && before.length + after.length ≤ 7

/-- Replaces an address of version 4 at the end by two groups. -/
def expandLast (groups : List (List Char)) : Option (List (List Char)) :=
  match groups.getLast? with
  | some last =>
    if last.contains '.' then
      if isVersion4 last then some (groups.dropLast ++ [['0'], ['0']]) else none
    else some groups
  | none => some groups

/-- The places of the empty groups that are neither first nor last. -/
def gaps (groups : List (List Char)) : List Nat :=
  (List.range groups.length).filter fun place =>
    0 < place && place + 1 < groups.length && (groups.getD place []).isEmpty

/-- Addresses of version 6 without a zone. -/
def isPlainVersion6 (text : List Char) : Bool :=
  let groups := text.splitOn ':'
  3 ≤ groups.length &&
    match expandLast groups with
    | none => false
    | some groups =>
      groups.length ≤ 9 &&
        match gaps groups with
        | [] => areGroups groups
        | [place] => areSides (groups.take place) (groups.drop (place + 1))
        | _ => false

/-- Addresses of version 6, which may name a zone after a percent sign. -/
def isVersion6 (text : List Char) : Bool :=
  match text.splitOn '%' with
  | [address] => isPlainVersion6 address
  | [address, zone] => !zone.isEmpty && isPlainVersion6 address
  | _ => false

/-- Addresses of a future version: a `v`, hexadecimal digits, a point and more. -/
def isFutureVersion (text : List Char) : Bool :=
  match text with
  | 'v' :: rest =>
    match rest.takeWhile isHexDigit, rest.dropWhile isHexDigit with
    | _ :: _, '.' :: _ :: _ => true
    | _, _ => false
  | _ => false

/-- Checks the text between the brackets of a host. -/
def checkBracketed (text : List Char) : Except HostDefect Unit :=
  if text.head? == some 'v' then
    if isFutureVersion text then .ok () else .error .future
  else if isVersion4 text then .error .bracketedVersion4
  else if isVersion6 text then .ok ()
  else .error (.noAddress (Text.quoted (String.ofList text)))

end Highlighter.Resource
