import Highlighter.Resource.Address

/-!
# Web addresses

Of a web address the library needs the path. The host is checked on the way.

Main definitions: `isRemote`, `urlPath`.
-/

namespace Highlighter.Resource

/-- Whether a location is a web address. -/
def isRemote (location : String) : Bool :=
  location.startsWith "http://" || location.startsWith "https://"

/-- Characters outside of ASCII that stand for a text with a separator of web addresses in it. -/
def isSeparatorLike (c : Char) : Bool :=
  [0x2047, 0x2048, 0x2049, 0x2100, 0x2101, 0x2105, 0x2106, 0x2A74, 0xFE13, 0xFE16, 0xFE55, 0xFE56,
    0xFE5F, 0xFE6B, 0xFF03, 0xFF0F, 0xFF1A, 0xFF1F, 0xFF20].contains c.toNat

/-- Characters that end the host. -/
def endsHost (c : Char) : Bool :=
  c == '/' || c == '?' || c == '#'

/-- Checks the brackets of a host and what stands between them. -/
def checkBrackets (host : List Char) : Except HostDefect Unit :=
  match host.contains '[', host.contains ']' with
  | false, false => .ok ()
  | true, true =>
    checkBracketed (((host.dropWhile (· != '[')).drop 1).takeWhile (· != ']'))
  | _, _ => .error .brackets

/-- Checks a host. -/
def checkHost (host : List Char) : Except HostDefect Unit := do
  checkBrackets host
  if host.any isSeparatorLike then
    throw (.separator (String.ofList host))

/-- The path of a web address: what follows the host, up to a query or a fragment. Tabs and breaks
do not count. -/
def urlPath (url : String) : Except Fault String := do
  let text := url.toList.filter fun c => !(c == '\t' || c == '\n' || c == '\r')
  let text := (text.dropWhile (· != ':')).drop 3
  match checkHost (text.takeWhile (!endsHost ·)) with
  | .ok () =>
    let rest := text.dropWhile (!endsHost ·)
    return String.ofList (rest.takeWhile fun c => !(c == '?' || c == '#'))
  | .error defect => throw (.badHost defect)

end Highlighter.Resource
