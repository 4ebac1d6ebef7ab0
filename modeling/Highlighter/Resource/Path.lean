/-!
# Paths

A path is a sequence of components below a root. Repeated slashes, components `.` and a slash at the
end do not matter and are dropped; components `..` are kept. Two slashes at the front are a root of
their own.

Main definitions: `Path`, `Path.ofText`, `Path.text`, `Path.join`, `Path.suffix`.
-/

namespace Highlighter.Resource

/-- Where a path starts. -/
inductive Root where
  | relative
  | slash
  | twoSlashes
  deriving DecidableEq, Repr

/-- The text of a root. -/
def Root.text : Root → String
  | .relative => ""
  | .slash => "/"
  | .twoSlashes => "//"

/-- A path: its root and its components. -/
structure Path where
  root : Root := .relative
  parts : List String := []
  deriving DecidableEq, Repr

namespace Path

/-- Whether a piece of a text is a component. -/
def isComponent (piece : List Char) : Bool :=
  !(piece.isEmpty || piece == ['.'])

/-- The components of a text. -/
def components (text : List Char) : List String :=
  ((text.splitOn '/').filter isComponent).map String.ofList

/-- The root of a text. -/
def rootOf (text : List Char) : Root :=
  match (text.takeWhile (· == '/')).length with
  | 0 => .relative
  | 2 => .twoSlashes
  | _ => .slash

/-- The path of a text. -/
def ofText (text : String) : Path where
  root := rootOf text.toList
  parts := components text.toList

/-- The text of a path. -/
def text (path : Path) : String :=
  match path.root, path.parts with
  | .relative, [] => "."
  | root, parts => root.text ++ "/".intercalate parts

/-- The path that another path leads to from here. -/
def join (path other : Path) : Path :=
  match other.root with
  | .relative => { path with parts := path.parts ++ other.parts }
  | _ => other

/-- The last component. -/
def name (path : Path) : String :=
  path.parts.getLastD ""

/-- The part of a name from its last point on, unless the point stands first or last. -/
def suffixOf (name : List Char) : List Char :=
  let tail := (name.reverse.takeWhile (· != '.')).reverse
  if tail.isEmpty || name.length ≤ tail.length + 1 then [] else '.' :: tail

/-- The suffix of the last component. -/
def suffix (path : Path) : String :=
  String.ofList (suffixOf path.name.toList)

end Path

end Highlighter.Resource
