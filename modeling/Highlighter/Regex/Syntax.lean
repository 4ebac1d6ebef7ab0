/-!
# Regular expressions: syntax

A pattern is a text that the reader of `Highlighter.Regex.Reader` has understood: the expression it
denotes, its options, and its groups. Options that change what a character matches (ignoring case,
ASCII classes, lines) are resolved while reading, so an expression means the same wherever it
stands.

Main definitions: `CharSet`, what one step consumes; `Node`, an expression; `Pattern`.
-/

namespace Highlighter.Regex

/-- The options of a pattern, or of a part of it. -/
structure Options where
  ignoreCase : Bool := false
  multiline : Bool := false
  dotAll : Bool := false
  verbose : Bool := false
  ascii : Bool := false
  unicode : Bool := false
  /-- No part of the pattern may be repeated. -/
  template : Bool := false
  deriving DecidableEq, Repr

/-- The letters of the options in effect, in alphabetical order. -/
def Options.letters (options : Options) : String :=
  String.ofList ((if options.ascii then ['a'] else []) ++
    (if options.ignoreCase then ['i'] else []) ++ (if options.multiline then ['m'] else []) ++
    (if options.dotAll then ['s'] else []) ++ (if options.verbose then ['x'] else []))

/-- Which characters count as equal: only the same one, ASCII letters of either case, or letters of
either case. -/
inductive Folding where
  | exact
  | ascii
  | full
  deriving DecidableEq, Repr

/-- The comparison of characters under the given options. -/
def Options.folding (options : Options) : Folding :=
  if !options.ignoreCase then .exact else if options.ascii then .ascii else .full

/-- The named classes of characters. -/
inductive Category where
  | digit
  | blank
  | word
  deriving DecidableEq, Repr

/-- A member of a character set. -/
inductive CharItem where
  /-- One code point. -/
  | single (code : Nat)
  /-- The characters whose lower case is this code point. -/
  | lowered (code : Nat)
  /-- All code points from the first to the last. -/
  | range (first last : Nat)
  /-- A named class, or all characters outside it; over ASCII only, or over all characters. -/
  | category (kind : Category) (negated : Bool) (ascii : Bool)
  deriving DecidableEq, Repr

/-- What one step of an expression consumes: a character that is in one of the items, or, if
`negated`, in none of them. -/
structure CharSet where
  items : List CharItem
  negated : Bool := false
  folding : Folding := .exact
  deriving DecidableEq, Repr

/-- A condition on a place in the text. -/
inductive Anchor where
  | textStart
  | lineStart
  | textEnd
  /-- The end of the text, or before a line feed that ends it. -/
  | lastLineEnd
  | lineEnd
  | wordEdge (ascii : Bool)
  | notWordEdge (ascii : Bool)
  deriving DecidableEq, Repr

/-- How many iterations a repetition prefers: as many or as few as possible, or as many as possible
without ever giving one back. -/
inductive Greed where
  | greedy
  | lazy
  | possessive
  deriving DecidableEq, Repr

/-- Regular expressions. -/
inductive Node where
  | empty
  | chars (set : CharSet)
  | anchor (condition : Anchor)
  | seq (first second : Node)
  | alt (first second : Node)
  | group (index : Nat) (body : Node)
  | backref (index : Nat) (folding : Folding)
  | repeated (least : Nat) (most : Option Nat) (greed : Greed) (body : Node)
  /-- The body matches from here. -/
  | ahead (negated : Bool) (body : Node)
  /-- The body matches from `width` characters before here. -/
  | behind (width : Nat) (negated : Bool) (body : Node)
  /-- The first way in which the body matches, and no other. -/
  | atomic (body : Node)
  /-- The first expression if the group has matched, else the second. -/
  | cond (index : Nat) (present absent : Node)
  deriving DecidableEq, Repr

/-- Expressions one after the other. -/
def Node.ofList : List Node → Node
  | [] => .empty
  | [node] => node
  | node :: rest => .seq node (ofList rest)

/-- Alternatives, the first preferred. -/
def Node.ofAlternatives : List Node → Node
  | [] => .empty
  | [node] => node
  | node :: rest => .alt node (ofAlternatives rest)

/-- The expression that matches a text and nothing else. -/
def Node.literal (text : List Char) : Node :=
  Node.ofList (text.map fun c => .chars { items := [.single c.toNat] })

/-- Whether some part of an expression is repeated. -/
def Node.repeats : Node → Bool
  | .empty | .chars _ | .anchor _ | .backref _ _ => false
  | .seq first second | .alt first second => first.repeats || second.repeats
  | .group _ body | .ahead _ body | .behind _ _ body | .atomic body => body.repeats
  | .repeated _ _ _ _ => true
  | .cond _ present absent => present.repeats || absent.repeats

/-- A pattern: its text, the options in effect, its expression, and the number and names of its
groups. -/
structure Pattern where
  source : String
  options : Options := {}
  node : Node
  groups : Nat := 0
  names : List (String × Nat) := []
  deriving DecidableEq, Repr

/-- The number of a named group. -/
def Pattern.groupNumber? (pattern : Pattern) (name : String) : Option Nat :=
  pattern.names.lookup name

end Highlighter.Regex
