import Highlighter.Regex.Width
import Highlighter.Text.Identifier
import Highlighter.Text.Numeral

/-!
# Reading patterns

The reader turns the text of a pattern into an expression by recursive descent over its tokens. A
token is a character, or a backslash with the character after it.

A pattern that cannot be read is malformed, with three exceptions that are errors of their own: a
repeat count that is too large, one that has too many digits, and contradictory options for the
whole pattern. The first error met in reading order decides; contradictory options are noticed when
the whole text has been read, and look behinds of variable width and forbidden repetitions last.
What the names of characters stand for is given from outside.

The functions of the descent carry a bound on its depth. A reader that reaches the bound ends with
an error of its own; `Highlighter.Proofs.Regex.Reading` shows that this never happens.

Main definition: `Pattern.read`.
-/

namespace Highlighter.Regex

open Highlighter.Text

/-- Why a text is no pattern. -/
inductive PatternError where
  | malformed
  | repeatTooLarge
  /-- A repeat count has more digits than are read. -/
  | longNumeral (digits : Nat)
  | contradictoryOptions
  /-- The bound on the depth of the descent is reached. -/
  | exhausted
  deriving DecidableEq, Repr

/-- A character of a pattern, with the backslash before it if there is one, or a last backslash. -/
inductive Token where
  | plain (c : Char)
  | escaped (c : Char)
  | dangling
  deriving DecidableEq, Repr

/-- The tokens of a text. -/
def tokens : List Char → List Token
  | [] => []
  | ['\\'] => [.dangling]
  | '\\' :: c :: rest => .escaped c :: tokens rest
  | c :: rest => .plain c :: tokens rest

/-- What the reader knows between two tokens. -/
structure ReadState where
  rest : List Token
  /-- The options of the whole pattern. -/
  options : Options
  /-- The code points of the characters that have a name. -/
  characters : String → Option Nat
  /-- The widths of the groups in order; an open group has none yet. -/
  widths : List (Option (Nat × Nat)) := []
  names : List (String × Nat) := []
  /-- Inside a look behind, the number of the first group opened in it. -/
  behindFrom : Option Nat := none
  /-- Groups that conditions refer to. -/
  conditions : List Nat := []
  /-- Whether some look behind has no fixed width. -/
  looseBehind : Bool := false

/-- Actions of the reader. -/
abbrev Reader := StateT ReadState (Except PatternError)

/-- Gives up. -/
def fail {α : Type} : Reader α :=
  throw .malformed

/-- Reaches the bound on the depth. -/
def exhaust {α : Type} : Reader α :=
  throw .exhausted

/-- The next token. -/
def peek : Reader (Option Token) := do
  return (← get).rest.head?

/-- Moves to another place, which must not be before a last backslash. -/
def moveTo (rest : List Token) : Reader Unit := do
  if rest.head? = some .dangling then fail
  modify fun state => { state with rest }

/-- Takes the next token. -/
def take : Reader (Option Token) := do
  let rest := (← get).rest
  moveTo rest.tail
  return rest.head?

/-- Takes the given character if it is next. -/
def eat (c : Char) : Reader Bool := do
  if (← peek) = some (.plain c) then
    let _ ← take
    return true
  else
    return false

/-- Takes the given character. -/
def expect (c : Char) : Reader Unit := do
  unless ← eat c do fail

/-- Takes characters of a kind, at most the given number. -/
def takeWhile (kind : Char → Bool) : Nat → Reader (List Char)
  | 0 => return []
  | count + 1 => do
    match ← peek with
    | some (.plain c) =>
      if kind c then
        let _ ← take
        return c :: (← takeWhile kind count)
      else
        return []
    | _ => return []

/-- Takes a name up to a closing character, which is taken too. A backslash belongs to the name. -/
def takeName (close : Char) : Nat → Reader (List Char)
  | 0 => exhaust
  | count + 1 => do
    match ← take with
    | some (.plain c) =>
      if c = close then return [] else return c :: (← takeName close count)
    | some (.escaped c) => return '\\' :: c :: (← takeName close count)
    | _ => fail

/-- A non-empty name up to a closing character. -/
def takeNonemptyName (close : Char) : Reader (List Char) := do
  let name ← takeName close ((← get).rest.length + 2)
  if name.isEmpty then fail
  return name

/-- Skips tokens up to the given character, which is skipped too. -/
def skipPast (close : Char) (atEnd : Reader Unit) : Nat → Reader Unit
  | 0 => exhaust
  | count + 1 => do
    match ← take with
    | some token => if token = .plain close then return () else skipPast close atEnd count
    | none => atEnd

/-- Digits to the base eight. -/
def isOctal (c : Char) : Bool :=
  '0' ≤ c && c ≤ '7'

/-- A code point written with exactly the given number of hexadecimal digits. -/
def hexEscape (count : Nat) : Reader Nat := do
  let digits ← takeWhile isHexDigit count
  if digits.length ≠ count then fail
  let code := ofDigitChars 16 digits
  if code > 0x10FFFF then fail
  return code

/-- The code point of a control character's letter. -/
def controlEscape? : Char → Option Nat
  | 'a' => some 7
  | 'f' => some 12
  | 'n' => some 10
  | 'r' => some 13
  | 't' => some 9
  | 'v' => some 11
  | _ => none

/-- The class that a letter names. -/
def categoryEscape? (ascii : Bool) : Char → Option CharItem
  | 'd' => some (.category .digit false ascii)
  | 'D' => some (.category .digit true ascii)
  | 's' => some (.category .blank false ascii)
  | 'S' => some (.category .blank true ascii)
  | 'w' => some (.category .word false ascii)
  | 'W' => some (.category .word true ascii)
  | _ => none

/-- The condition that a letter names. -/
def anchorEscape? (ascii : Bool) : Char → Option Anchor
  | 'A' => some .textStart
  | 'b' => some (.wordEdge ascii)
  | 'B' => some (.notWordEdge ascii)
  | 'Z' => some .textEnd
  | _ => none

/-- The code point of a character that is given by its name. -/
def namedEscape : Reader Nat := do
  expect '\x7b'
  let name ← takeNonemptyName '\x7d'
  match (← get).characters (String.ofList name) with
  | some code => return code
  | none => fail

/-- The code point of an escape that both kinds of place share: controls, code points by number or
by name, and characters that stand for themselves. -/
def sharedEscape (c : Char) : Reader Nat := do
  match controlEscape? c with
  | some code => return code
  | none =>
    if c = 'x' then hexEscape 2
    else if c = 'u' then hexEscape 4
    else if c = 'U' then hexEscape 8
    else if c = 'N' then namedEscape
    else if c.isAlphanum then fail
    else return c.toNat

/-- An escape inside a character class. -/
def classEscape (options : Options) (c : Char) : Reader CharItem := do
  match categoryEscape? options.ascii c with
  | some item => return item
  | none =>
    if c = 'b' then return .single 8
    else if isOctal c then
      let code := ofDigitChars 8 (c :: (← takeWhile isOctal 2))
      if code > 0o377 then fail
      return .single code
    else return .single (← sharedEscape c)

/-- A step that consumes one code point. -/
def literalNode (options : Options) (code : Nat) : Node :=
  .chars { items := [.single code], folding := options.folding }

/-- A character set with several members. Under full folding a code point beyond the basic plane is
compared with the lower case of a character. -/
def charSet (options : Options) (negated : Bool) (items : List CharItem) : CharSet :=
  let spread : CharItem → CharItem
    | .single code =>
      if options.folding = .full && code ≥ 65536 then .lowered code else .single code
    | item => item
  { items := items.eraseDups.map spread, negated, folding := options.folding }

/-- The member of a character class that a token gives. -/
def classItem (options : Options) : Token → Reader CharItem
  | .plain c => return .single c.toNat
  | .escaped c => classEscape options c
  | .dangling => fail

/-- The members of a character class up to its closing bracket. -/
def classItems (options : Options) : Nat → List CharItem → Reader (List CharItem)
  | 0, _ => exhaust
  | count + 1, items => do
    match ← take with
    | none => fail
    | some token =>
      if token = .plain ']' && !items.isEmpty then return items
      let first ← classItem options token
      if ← eat '-' then
        match ← take with
        | none => fail
        | some (.plain ']') => return items ++ [first, .single 45]
        | some token =>
          match first, ← classItem options token with
          | .single low, .single high =>
            if high < low then fail
            classItems options count (items ++ [.range low high])
          | _, _ => fail
      else
        classItems options count (items ++ [first])

/-- A character class after its opening bracket. -/
def charClass (options : Options) : Reader Node := do
  let negated ← eat '^'
  let items := (← classItems options ((← get).rest.length + 2) []).eraseDups
  match items with
  | [.single code] =>
    return .chars { items := [.single code], negated, folding := options.folding }
  | _ => return .chars (charSet options negated items)

/-- The least and the greatest width of a group that is closed. -/
def groupWidth? (index : Nat) : Reader (Option (Nat × Nat)) := do
  match index with
  | 0 => return none
  | index + 1 => return ((← get).widths[index]?).bind id

/-- Checks that a condition or a back reference inside a look behind refers to a group closed before
the look behind. -/
def checkBehind (index : Nat) : Reader Unit := do
  match (← get).behindFrom with
  | none => return ()
  | some first =>
    if (← groupWidth? index).isNone then fail
    if index ≥ first then fail

/-- A back reference to a group that is closed. -/
def backreference (options : Options) (index : Nat) : Reader Node := do
  if (← groupWidth? index).isNone then fail
  checkBehind index
  return .backref index options.folding

/-- An escape that begins with a digit other than zero: three octal digits, or a group's number. -/
def numberEscape (options : Options) (c : Char) : Reader Node := do
  match ← takeWhile Char.isDigit 1 with
  | [d] =>
    if isOctal c && isOctal d then
      match ← takeWhile isOctal 1 with
      | [e] =>
        let code := ofDigitChars 8 [c, d, e]
        if code > 0o377 then fail
        return literalNode options code
      | _ => backreference options (ofDigitChars 10 [c, d])
    else backreference options (ofDigitChars 10 [c, d])
  | _ => backreference options (ofDigitChars 10 [c])

/-- An escape outside of character classes. -/
def escape (options : Options) (c : Char) : Reader Node := do
  match anchorEscape? options.ascii c, categoryEscape? options.ascii c with
  | some anchor, _ => return .anchor anchor
  | none, some item => return .chars { items := [item], folding := options.folding }
  | none, none =>
    if c = '0' then
      return literalNode options (ofDigitChars 8 (← takeWhile isOctal 2))
    else if c.isDigit then numberEscape options c
    else return literalNode options (← sharedEscape c)

/-- Repeat counts from this one on are refused. -/
def repeatLimit : Nat := 0xFFFFFFFF

/-- A repeat count below the limit, of no more digits than are read. -/
def repeatCount (digits : List Char) : Reader Nat := do
  if digits.length > maxDigits then throw (.longNumeral digits.length)
  let count := ofDigitChars 10 digits
  if count ≥ repeatLimit then throw .repeatTooLarge
  return count

/-- The bounds that the digits of a quantifier give. Without digits there is no bound. -/
def repeatBounds (low high : List Char) : Reader (Nat × Option Nat) := do
  let least ← if low.isEmpty then pure 0 else repeatCount low
  if high.isEmpty then return (least, none)
  let most ← repeatCount high
  if most < least then fail
  return (least, some most)

/-- The bounds of a quantifier that begins with the given character. A brace that begins no
quantifier gives none, and nothing is taken after it. -/
def quantifier (c : Char) : Reader (Option (Nat × Option Nat)) := do
  match c with
  | '?' => return some (0, some 1)
  | '*' => return some (0, none)
  | '+' => return some (1, none)
  | _ =>
    let here := (← get).rest
    if (← peek) = some (.plain '}') then return none
    let low ← takeWhile Char.isDigit here.length
    let comma ← eat ','
    let high ← takeWhile Char.isDigit (if comma then here.length else 0)
    if ← eat '}' then
      return some (← repeatBounds low (if comma then high else low))
    else
      moveTo here
      return none

/-- A part of a sequence. A group without number and options is kept apart until the sequence ends,
because it can be repeated whatever it holds. -/
inductive Piece where
  | one (node : Node)
  | block (nodes : List Node)

/-- The expressions of a piece. -/
def Piece.nodes : Piece → List Node
  | .one node => [node]
  | .block nodes => nodes

/-- What a quantifier prefers, which is told by the character after it. -/
def takeGreed : Reader Greed := do
  if ← eat '?' then return .lazy
  else if ← eat '+' then return .possessive
  else return .greedy

/-- Repeats the last piece; the pieces are given last first. -/
def repeatLast (least : Nat) (most : Option Nat) : List Piece → Reader (List Piece)
  | [] => fail
  | last :: before => do
    let body ← match last with
      | .one (.anchor _) => fail
      | .one (.repeated _ _ _ _) => fail
      | .one node => pure node
      | .block nodes => pure (Node.ofList nodes)
    return .one (.repeated least most (← takeGreed) body) :: before

/-- Expressions that are equal whenever they are written the same. -/
def Node.isPlain : Node → Bool
  | .chars _ => true
  | .anchor _ => true
  | .backref _ _ => true
  | _ => false

/-- Moves equal first expressions out of the alternatives. -/
def shareHeads : Nat → List (List Node) → List Node × List (List Node)
  | 0, branches => ([], branches)
  | count + 1, branches =>
    match branches with
    | (node :: _) :: _ =>
      if node.isPlain && branches.all (·.head? = some node) then
        let (shared, rest) := shareHeads count (branches.map List.tail)
        (node :: shared, rest)
      else ([], branches)
    | _ => ([], branches)

/-- The members of a sequence that is one set of characters and not the complement of one. -/
def setMembers? : List Node → Option (List CharItem)
  | [.chars set] => if set.negated then none else some set.items
  | _ => none

/-- Joins alternatives. Alternatives that are all sets of characters become one set. -/
def joinBranches (options : Options) : List (List Node) → List Node
  | [branch] => branch
  | branches =>
    let (shared, rest) := shareHeads ((branches.head?.map List.length).getD 0) branches
    match rest.mapM setMembers? with
    | some members => shared ++ [.chars (charSet options false members.flatten)]
    | none => shared ++ [.ofAlternatives (rest.map .ofList)]

/-- An option of the whole pattern or of a group by its letter. -/
def optionLetter? : Char → Option Options
  | 'i' => some { ignoreCase := true }
  | 'm' => some { multiline := true }
  | 's' => some { dotAll := true }
  | 'x' => some { verbose := true }
  | 'a' => some { ascii := true }
  | 'u' => some { unicode := true }
  | 't' => some { template := true }
  | _ => none

/-- Options that are in one of the two. -/
def Options.union (options other : Options) : Options where
  ignoreCase := options.ignoreCase || other.ignoreCase
  multiline := options.multiline || other.multiline
  dotAll := options.dotAll || other.dotAll
  verbose := options.verbose || other.verbose
  ascii := options.ascii || other.ascii
  unicode := options.unicode || other.unicode
  template := options.template || other.template

/-- The options of a group that turns some on and some off. Turning a kind of characters on turns
the other kind off. -/
def Options.adjust (options on off : Options) : Options where
  ignoreCase := (options.ignoreCase || on.ignoreCase) && !off.ignoreCase
  multiline := (options.multiline || on.multiline) && !off.multiline
  dotAll := (options.dotAll || on.dotAll) && !off.dotAll
  verbose := (options.verbose || on.verbose) && !off.verbose
  ascii := if on.unicode then false else options.ascii || on.ascii
  unicode := if on.ascii then false else options.unicode || on.unicode
  template := options.template

/-- Letters of options with the character that ends them. -/
def optionLetters (closers : List Char) : Nat → Char → Reader (List Char × Char)
  | 0, _ => exhaust
  | count + 1, c => do
    if (optionLetter? c).isNone then fail
    match ← take with
    | some (.plain d) =>
      if closers.contains d then return ([c], d)
      let (letters, close) ← optionLetters closers count d
      return (c :: letters, close)
    | _ => fail

/-- Letters of options, the first of which is given, with the character that ends them. -/
def takeOptions (closers : List Char) (c : Char) : Reader (List Char × Char) := do
  optionLetters closers ((← get).rest.length + 1) c

/-- The options that letters stand for. -/
def optionsOf (letters : List Char) : Options :=
  letters.foldl (fun options c => options.union ((optionLetter? c).getD {})) {}

/-- What an opening parenthesis with a question mark and option letters turns on and off. -/
structure OptionChange where
  on : Options
  off : Options
  /-- The change is for the whole pattern. -/
  whole : Bool

/-- The options that letters after a dash turn off, given the letters before it. -/
def removedOptions (added : List Char) : Reader Options := do
  match ← take with
  | some (.plain c) =>
    let (removed, _) ← takeOptions [':'] c
    let off := optionsOf removed
    if off.ascii || off.unicode || off.template then fail
    if removed.any added.contains then fail
    return off
  | _ => fail

/-- Reads option letters, the first of which is given. -/
def optionChange (c : Char) : Reader OptionChange := do
  let (added, close) ← if c = '-' then pure ([], '-') else takeOptions [')', '-', ':'] c
  let on := optionsOf added
  if on.ascii && on.unicode then fail
  if close = ')' then return { on, off := {}, whole := true }
  if on.template then fail
  if close = ':' then return { on, off := {}, whole := false }
  return { on, off := ← removedOptions added, whole := false }

/-- Opens the next group and gives its number. -/
def openGroup (name : Option String) : Reader Nat := do
  let state ← get
  let index := state.widths.length + 1
  match name with
  | some name =>
    if (state.names.lookup name).isSome then fail
    set { state with widths := state.widths ++ [none], names := state.names ++ [(name, index)] }
  | none => set { state with widths := state.widths ++ [none] }
  return index

/-- The width of an expression, given the groups closed so far. -/
def widthNow (node : Node) : Reader (Nat × Nat) := do
  let widths := (← get).widths
  return node.width fun index => ((widths[index - 1]?).bind id).getD (0, 0)

/-- Closes a group. -/
def closeGroup (index : Nat) (body : Node) : Reader Unit := do
  let width ← widthNow body
  modify fun state => { state with widths := state.widths.set (index - 1) (some width) }

/-- The group that a condition names or numbers. -/
def conditionGroup (name : List Char) : Reader Nat := do
  if isIdentifier name then
    match (← get).names.lookup (String.ofList name) with
    | some index => return index
    | none => fail
  else
    match readInt? name with
    | some (.ofNat (index + 1)) =>
      modify fun state => { state with conditions := (index + 1) :: state.conditions }
      return index + 1
    | _ => fail

/-- A look behind, whose width is that of its body. -/
def behindNode (negated : Bool) (body : Node) : Reader Node := do
  let (least, most) ← widthNow body
  if least ≠ most || least > maxBehind then
    modify fun state => { state with looseBehind := true }
  return .behind least negated body

/-- What an opening parenthesis has given: a piece of the sequence, nothing, or new options for the
rest of the pattern. -/
inductive Opened where
  | piece (piece : Piece)
  | nothing
  | options (options : Options)

mutual

/-- Reads alternatives up to the end of the pattern or of the group. -/
def alternation : Nat → Bool → Options → Reader (List Node)
  | 0, _, _ => exhaust
  | fuel + 1, nested, options => do
    let read ← branches fuel nested true options
    let whole := (← get).options
    return joinBranches (if nested then options else whole) read

/-- Reads the alternatives one by one. -/
def branches : Nat → Bool → Bool → Options → Reader (List (List Node))
  | 0, _, _, _ => exhaust
  | fuel + 1, nested, first, options => do
    let branch ← sequence fuel (first && !nested) options []
    if ← eat '|' then
      let whole := (← get).options
      return branch :: (← branches fuel nested false (if nested then options else whole))
    else
      return [branch]

/-- Reads one alternative. The pieces read so far are given last first. `first` says that options
for the whole pattern may still be set here. -/
def sequence : Nat → Bool → Options → List Piece → Reader (List Node)
  | 0, _, _, _ => exhaust
  | fuel + 1, first, options, pieces => do
    let token ← peek
    if token = none || token = some (.plain '|') || token = some (.plain ')') then
      return pieces.reverse.flatMap Piece.nodes
    match ← take with
    | some (.escaped c) =>
      sequence fuel first options (.one (← escape options c) :: pieces)
    | some (.plain c) =>
      if options.verbose && isAsciiBlank c then
        sequence fuel first options pieces
      else if options.verbose && c = '#' then
        skipPast '\n' (pure ()) ((← get).rest.length + 2)
        sequence fuel first options pieces
      else match c with
      | '[' => sequence fuel first options (.one (← charClass options) :: pieces)
      | '.' =>
        let set : CharSet :=
          if options.dotAll then { items := [], negated := true }
          else { items := [.single 10], negated := true }
        sequence fuel first options (.one (.chars set) :: pieces)
      | '^' =>
        let anchor := if options.multiline then Anchor.lineStart else .textStart
        sequence fuel first options (.one (.anchor anchor) :: pieces)
      | '$' =>
        let anchor := if options.multiline then Anchor.lineEnd else .lastLineEnd
        sequence fuel first options (.one (.anchor anchor) :: pieces)
      | '(' =>
        match ← opened fuel (first && pieces.isEmpty) options with
        | .piece piece => sequence fuel first options (piece :: pieces)
        | .nothing => sequence fuel first options pieces
        | .options options => sequence fuel first options pieces
      | c =>
        if c = '?' || c = '*' || c = '+' || c = '\x7b' then
          match ← quantifier c with
          | some (least, most) =>
            sequence fuel first options (← repeatLast least most pieces)
          | none => sequence fuel first options (.one (literalNode options c.toNat) :: pieces)
        else sequence fuel first options (.one (literalNode options c.toNat) :: pieces)
    | _ => fail

/-- Reads what follows an opening parenthesis. -/
def opened : Nat → Bool → Options → Reader Opened
  | 0, _, _ => exhaust
  | fuel + 1, first, options => do
    if !(← eat '?') then
      return .piece (← captured fuel none options)
    match ← take with
    | some (.plain c) =>
      match c with
      | 'P' =>
        if ← eat '<' then
          let name ← takeNonemptyName '>'
          if !isIdentifier name then fail
          return .piece (← captured fuel (some (String.ofList name)) options)
        else if ← eat '=' then
          let name ← takeNonemptyName ')'
          match (← get).names.lookup (String.ofList name) with
          | some index => return .piece (.one (← backreference options index))
          | none => fail
        else fail
      | ':' =>
        let nodes ← alternation fuel true options
        expect ')'
        return .piece (.block nodes)
      | '#' =>
        skipPast ')' fail ((← get).rest.length + 2)
        return .nothing
      | '=' => return .piece (.one (← lookedAhead fuel false options))
      | '!' => return .piece (.one (← lookedAhead fuel true options))
      | '<' =>
        if ← eat '=' then return .piece (.one (← lookedBehind fuel false options))
        else if ← eat '!' then return .piece (.one (← lookedBehind fuel true options))
        else fail
      | '(' =>
        let index ← conditionGroup (← takeNonemptyName ')')
        checkBehind index
        let present ← sequence fuel false options []
        let absent ← if ← eat '|' then sequence fuel false options [] else pure []
        expect ')'
        return .piece (.one (.cond index (.ofList present) (.ofList absent)))
      | '>' =>
        let nodes ← alternation fuel true options
        expect ')'
        return .piece (.one (.atomic (.ofList nodes)))
      | c =>
        let change ← optionChange c
        if change.whole then
          if !first then fail
          modify fun state => { state with options := state.options.union change.on }
          let whole := (← get).options
          return .options whole
        let nodes ← alternation fuel true (options.adjust change.on change.off)
        expect ')'
        return .piece (.one (.seq .empty (.ofList nodes)))
    | _ => fail

/-- Reads a group with a number. -/
def captured : Nat → Option String → Options → Reader Piece
  | 0, _, _ => exhaust
  | fuel + 1, name, options => do
    let index ← openGroup name
    let body := Node.ofList (← alternation fuel true options)
    expect ')'
    closeGroup index body
    return .one (.group index body)

/-- Reads a look ahead. -/
def lookedAhead : Nat → Bool → Options → Reader Node
  | 0, _, _ => exhaust
  | fuel + 1, negated, options => do
    let body := Node.ofList (← alternation fuel true options)
    expect ')'
    return .ahead negated body

/-- Reads a look behind. -/
def lookedBehind : Nat → Bool → Options → Reader Node
  | 0, _, _ => exhaust
  | fuel + 1, negated, options => do
    let outer := (← get).behindFrom
    if outer.isNone then
      modify fun state => { state with behindFrom := some (state.widths.length + 1) }
    let body := Node.ofList (← alternation fuel true options)
    if outer.isNone then
      modify fun state => { state with behindFrom := none }
    expect ')'
    behindNode negated body

end

/-- Reads a whole pattern and gives its expression. -/
def wholePattern : Reader Node := do
  let rest := (← get).rest
  moveTo rest
  let nodes ← alternation (5 * rest.length + 3) false (← get).options
  let state ← get
  if state.options.ascii && state.options.unicode then throw .contradictoryOptions
  unless state.rest.isEmpty do fail
  if state.conditions.any (· > state.widths.length) then fail
  let node := Node.ofList nodes
  if state.looseBehind || (state.options.template && node.repeats) then fail
  return node

/-- Reads a pattern under given options. No character has a name, unless names are given. -/
def Pattern.read (source : String) (options : Options)
    (characters : String → Option Nat := fun _ => none) : Except PatternError Pattern := do
  let (node, state) ← wholePattern.run { rest := tokens source.toList, options, characters }
  return {
    source
    options := state.options
    node
    groups := state.widths.length
    names := state.names }

end Highlighter.Regex
