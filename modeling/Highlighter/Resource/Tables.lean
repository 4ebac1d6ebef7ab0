import Highlighter.Builtin.Basic
import Highlighter.Resource.Charset
import Highlighter.Resource.Store
import Highlighter.Settings

/-!
# Stores that are given by tables

The files and replies of a store may simply be listed. The modules of the built-in profiles are
there as well. Such a store knows a few character sets, and its modules raise a fault or export
values.

Main definitions: `Tables`, `Tables.store`.
-/

namespace Highlighter.Resource

/-- A module: the fault that it raises, and the values that it exports. -/
structure CodeFile where
  raises : Option Fault := none
  exports : List (String × Value) := []

/-- What stands at a path. -/
inductive Content where
  | bytes (data : ByteArray)
  | code (body : CodeFile)
  | directory

/-- What is listed as the reply of a server. -/
inductive ListedReply where
  | body (data : ByteArray) (contentType : Option String)
  /-- The request failed with the given text. -/
  | failure (text : String)

/-- Resources by path and by web address. -/
structure Tables where
  files : List (Path × Content) := []
  remote : List (String × ListedReply) := []

/-- The built-in modules by file name. -/
def builtinModules : List (String × CodeFile) :=
  Builtin.named.map (fun (name, entries) =>
    ("syntax." ++ name ++ ".py", { exports := [("SYNTAX", .map entries)] })) ++
    [("default.py", { exports := [] }), ("__init__.py", { exports := [] })]

namespace Tables

variable (tables : Tables)

/-- Whether components below a root lead to a directory. -/
def isDirectory (root : Root) (parts : List String) : Bool :=
  parts.isEmpty || tables.files.any fun (path, content) =>
    path.root == root && parts.isPrefixOf path.parts &&
      (match content with
        | .directory => true
        | _ => parts.length < path.parts.length)

/-- The components at which one arrives from `here`; a step is only possible from a directory. One
does not get above a root, and what stands above the directory of relative paths is not known. -/
def walk (root : Root) (here : List String) : List String → Option (List String)
  | [] => some here
  | part :: rest =>
    if !tables.isDirectory root here then none
    else if part == ".." then
      if here.isEmpty && root == .relative then none else walk root here.dropLast rest
    else walk root (here ++ [part]) rest

/-- The file at a path, if there is one. -/
def listed? (path : Path) : Option Content :=
  match tables.walk path.root [] path.parts with
  | some parts =>
    match tables.files.find? fun entry => entry.1.root == path.root && entry.1.parts == parts with
    | some (_, .directory) => none
    | some (_, content) => some content
    | none => none
  | none => none

/-- The file at a path, which may be a built-in one. -/
def file? (path : Path) : Option Content :=
  match path.root, path.parts with
  | .relative, [base, name] =>
    if base == builtinBase then (builtinModules.lookup name).map .code else tables.listed? path
  | _, _ => tables.listed? path

/-- The fault of asking for a file that is not there. -/
def missing : Fault :=
  .raised .os "No such file or directory"

/-- The text that stands in for a module where it is read as data, which it is not. -/
def codeText : String := "<module>"

/-- The bytes of a file. -/
def bytes (path : Path) : Except Fault ByteArray :=
  match tables.file? path with
  | some (.bytes data) => .ok data
  | some (.code _) => .ok codeText.toUTF8
  | _ => .error missing

/-- Runs a module. A file of bytes counts as a module without exports. -/
def run (path : Path) : ModuleEnd Empty (String → ModuleEnd Empty Value) :=
  match tables.file? path with
  | some (.code body) =>
    match body.raises with
    | some fault => .fault fault
    | none => .result fun name => .result ((body.exports.lookup name).getD .null)
  | some (.bytes _) => .result fun _ => .result .null
  | _ => .fault missing

/-- Sends a request. -/
def request (url : String) : Except Fault Reply :=
  match tables.remote.lookup url with
  | none => .error (.raised .os "unreachable")
  | some (.failure text) => .error (.raised .os text)
  | some (.body data contentType) =>
    .ok { charset := .ok (contentType.bind charsetName?), data := .ok data }

/-- Decodes in one of the character sets that are known. -/
def decode (name : String) (data : ByteArray) : Except Fault String :=
  match Charset.ofName? name with
  | none => .error (.unknownEncoding name)
  | some charset =>
    match charset.decode? data with
    | some text => .ok text
    | none => .error .undecodable

/-- The store of the given tables. No module of it asks for the end of the program. -/
def store : Store Empty where
  isFile path := .ok (tables.file? path).isSome
  bytes := tables.bytes
  run := tables.run
  request := tables.request
  decode := decode

end Tables

end Highlighter.Resource
