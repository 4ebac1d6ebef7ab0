import Highlighter.Regex.Syntax

/-!
# The width of an expression

The least and the greatest number of characters that an expression may consume. A look behind needs
an expression for which the two are equal.
-/

namespace Highlighter.Regex

/-- Widths beyond this count as this. -/
def maxWidth : Nat := 0x10000000000000000

/-- The greatest width of a look behind. -/
def maxBehind : Nat := 0xFFFFFFFF

/-- A pair of widths, capped. -/
def capped (least most : Nat) : Nat × Nat :=
  (min least maxWidth, min most maxWidth)

/-- The least and the greatest width, given the widths of the groups. -/
def Node.width (groupWidth : Nat → Nat × Nat) : Node → Nat × Nat
  | .empty => (0, 0)
  | .chars _ => (1, 1)
  | .anchor _ => (0, 0)
  | .seq first second =>
    let (l, m) := first.width groupWidth
    let (l', m') := second.width groupWidth
    capped (l + l') (m + m')
  | .alt first second =>
    let (l, m) := first.width groupWidth
    let (l', m') := second.width groupWidth
    (min l l', max m m')
  | .group _ body => body.width groupWidth
  | .backref index _ => groupWidth index
  | .repeated least most _ body =>
    let (l, m) := body.width groupWidth
    match most with
    | some most => capped (l * least) (m * most)
    | none => capped (l * least) (if m = 0 then 0 else maxWidth)
  | .ahead _ _ => (0, 0)
  | .behind _ _ _ => (0, 0)
  | .atomic body => body.width groupWidth
  | .cond _ present absent =>
    let (l, m) := present.width groupWidth
    let (l', m') := absent.width groupWidth
    (min l l', max m m')

end Highlighter.Regex
