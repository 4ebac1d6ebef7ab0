import Highlighter.Resource.Path
import Highlighter.Value.Basic

/-!
# Stores

A store is what profiles are loaded from: files, modules among them, and servers. It says what comes
of everything that a load asks of its surroundings. Each of these questions may end with any fault,
and a module that is run may do whatever it likes: it may ask for the end of the program instead of
ending itself. What such a request says is of type `ε`; if there is none, no module ever makes one.

Main definitions: `Store`, `ModuleEnd`, `Reply`.
-/

namespace Highlighter.Resource

/-- How the run of a module, or a question to a module, ends: with a result, with a fault, or with
the request to end the program. -/
inductive ModuleEnd (ε α : Type) where
  | result (value : α)
  | fault (fault : Fault)
  | exit (status : ε)

/-- What a server replies: the name of the character set that it declares, and its data. -/
structure Reply where
  charset : Except Fault (Option String)
  data : Except Fault ByteArray

/-- The surroundings that profiles are loaded from. -/
structure Store (ε : Type) where
  /-- Whether a path leads to a file. -/
  isFile : Path → Except Fault Bool
  /-- The bytes of a file. -/
  bytes : Path → Except Fault ByteArray
  /-- Runs a module, which then has a value for each name that it is asked for. -/
  run : Path → ModuleEnd ε (String → ModuleEnd ε Value)
  /-- Sends a request to a web address. -/
  request : String → Except Fault Reply
  /-- The text that bytes stand for in the character set of a name. -/
  decode : String → ByteArray → Except Fault String

end Highlighter.Resource
