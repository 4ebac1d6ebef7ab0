/-!
# Reading a parameter list character by character

A parameter list is read one character at a time. Only characters of code can open or close
delimiters, separate parameters or begin a default value; characters of string literals and comments
cannot. A comment begins or ends with a marker of one or two characters.

Main definitions: `Lexis`, what literals and comments look like; `ScanState`; `ScanState.step`.
-/

namespace Highlighter.Signature

/-- What string literals and comments look like. An empty marker stands for none. -/
structure Lexis where
  quotes : List Char
  lineComment : List Char := []
  blockOpen : List Char := []
  blockClose : List Char := []
  deriving DecidableEq, Repr

/-- What kind of text is being read. -/
inductive Mode where
  | code
  /-- Inside a string literal. -/
  | quoted
  /-- Inside a string literal, after a backslash. -/
  | escaped
  /-- Inside a comment that ends with its line. -/
  | comment
  /-- Inside a comment that ends with a marker. -/
  | blockComment
  deriving DecidableEq, Repr

/-- What a character means for the parameter list. -/
inductive Boundary where
  /-- It belongs to the current parameter. -/
  | none
  /-- It separates two parameters. -/
  | separator
  /-- It ends the list. -/
  | finish
  /-- It begins a default value. -/
  | default
  deriving DecidableEq, Repr

/-- What is known after some characters of a list. -/
structure ScanState where
  mode : Mode := .code
  /-- The quote that opened the current literal; empty outside of literals. -/
  quote : List Char := []
  /-- Open parentheses, the list's own included. -/
  paren : Int := 1
  bracket : Int := 0
  brace : Int := 0
  /-- The last character read in the current mode, for markers of two characters. -/
  previous : List Char := []
  deriving DecidableEq, Repr

namespace ScanState

/-- Outside of all nested delimiters. -/
def topLevel (state : ScanState) : Bool :=
  state.paren == 1 && state.bracket == 0 && state.brace == 0

/-- Changes the mode and forgets the last character. -/
def enter (state : ScanState) (mode : Mode) : ScanState :=
  { state with mode, previous := [] }

/-- Reads a delimiter, a comma or an equals sign of code, or any other character. A closing bracket
or brace without an opening one is ignored. -/
def stepDelimiter (state : ScanState) (c : Char) : Boundary × ScanState :=
  match c with
  | '(' => (.none, { state with paren := state.paren + 1 })
  | '[' => (.none, { state with bracket := state.bracket + 1 })
  | '\x7b' => (.none, { state with brace := state.brace + 1 })
  | ')' => (if state.paren - 1 = 0 then .finish else .none, { state with paren := state.paren - 1 })
  | ']' => (.none, { state with bracket := max 0 (state.bracket - 1) })
  | '\x7d' => (.none, { state with brace := max 0 (state.brace - 1) })
  | ',' => (if state.topLevel then .separator else .none, state)
  | '=' => (if state.topLevel then .default else .none, state)
  | _ => (.none, state)

/-- Whether a character, alone or with the one before it, is a marker. -/
def completes (state : ScanState) (marker : List Char) (c : Char) : Bool :=
  !marker.isEmpty && (marker == [c] || marker == state.previous ++ [c])

/-- Reads a character of code. -/
def stepCode (lexis : Lexis) (state : ScanState) (c : Char) : Boundary × ScanState :=
  if state.completes lexis.lineComment c then (.none, state.enter .comment)
  else if state.completes lexis.blockOpen c then (.none, state.enter .blockComment)
  else if lexis.quotes.contains c then (.none, { state.enter .quoted with quote := [c] })
  else { state with previous := [c] }.stepDelimiter c

/-- Reads a character. -/
def step (lexis : Lexis) (state : ScanState) (c : Char) : Boundary × ScanState :=
  match state.mode with
  | .code => state.stepCode lexis c
  | .quoted =>
    if c = '\\' then (.none, { state with mode := .escaped })
    else if state.quote = [c] then (.none, { state.enter .code with quote := [] })
    else (.none, state)
  | .escaped => (.none, { state with mode := .quoted })
  | .comment => (.none, if c = '\n' then state.enter .code else state)
  | .blockComment =>
    (.none, if state.previous ++ [c] = lexis.blockClose then state.enter .code
      else { state with previous := [c] })

/-- Reads a text; gives what each character means and the state after it. -/
def steps (lexis : Lexis) : ScanState → List Char → List (Boundary × ScanState)
  | _, [] => []
  | state, c :: rest =>
    let result := state.step lexis c
    result :: steps lexis result.2 rest

end ScanState

end Highlighter.Signature
