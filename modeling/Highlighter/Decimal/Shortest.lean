/-!
# Shortest decimals of binary numbers

A finite double is `m · 2 ^ q` for whole numbers `m` and `q`. Among the decimals that round to it
the shortest are those with the fewest digits, and of these the nearest to it is taken; of two that
are equally near, the one with an even last digit.

Main definition: `shortest`.
-/

namespace Highlighter.Decimal

/-- A double: not a number, infinite, or `significand · 2 ^ exponent`, with a sign. -/
inductive Binary where
  | nan
  | infinite (negative : Bool)
  | finite (negative : Bool) (significand : Nat) (exponent : Int)
  deriving DecidableEq, Repr

/-- The parts of a double. -/
def Binary.ofFloat (x : Float) : Binary :=
  let bits := x.toBits.toNat
  let negative := bits / Nat.pow 2 63 = 1
  let exponent := bits / Nat.pow 2 52 % Nat.pow 2 11
  let fraction := bits % Nat.pow 2 52
  if exponent = 2047 then (if fraction = 0 then .infinite negative else .nan)
  else if exponent = 0 then .finite negative fraction (-1074)
  else .finite negative (fraction + Nat.pow 2 52) (Int.ofNat exponent - 1075)

/-- A positive rational number as numerator and denominator. -/
structure Ratio where
  num : Nat
  den : Nat

/-- `value · base ^ exponent`. -/
def Ratio.scale (value : Ratio) (base : Nat) : Int → Ratio
  | .ofNat exponent => ⟨value.num * Nat.pow base exponent, value.den⟩
  | .negSucc exponent => ⟨value.num, value.den * Nat.pow base (exponent + 1)⟩

/-- Comparison of two rational numbers. -/
def Ratio.le (a b : Ratio) : Bool :=
  a.num * b.den ≤ b.num * a.den

/-- The difference of two rational numbers, whichever is greater. -/
def Ratio.distance (a b : Ratio) : Ratio :=
  let left := a.num * b.den
  let right := b.num * a.den
  ⟨(left - right) + (right - left), a.den * b.den⟩

/-- The number of zeros after the point of `num / den`, at most the given number. -/
def leadingZeros (den : Nat) : Nat → Nat → Nat
  | 0, _ => 0
  | fuel + 1, num => if num * 10 ≥ den then 0 else leadingZeros den fuel (num * 10) + 1

/-- The number of decimal digits before the point of a number that is at least one; for smaller
numbers minus the number of zeros after the point. -/
def Ratio.magnitude (value : Ratio) : Int :=
  if value.num ≥ value.den then (Nat.toDigits 10 (value.num / value.den)).length
  else -Int.ofNat (leadingZeros value.den 400 value.num)

/-- The decimals that round to a double: those between two bounds. -/
structure Interval where
  low : Ratio
  high : Ratio
  closed : Bool

/-- The interval of the double `m · 2 ^ q`. Below a power of two doubles are twice as dense. -/
def roundingInterval (m : Nat) (q : Int) : Interval :=
  let below := if m = Nat.pow 2 52 && q > -1074 then 4 * m - 1 else 4 * m - 2
  { low := Ratio.scale ⟨below, 1⟩ 2 (q - 2)
    high := Ratio.scale ⟨4 * m + 2, 1⟩ 2 (q - 2)
    closed := m % 2 = 0 }

/-- Membership in an interval. -/
def Interval.holds (interval : Interval) (value : Ratio) : Bool :=
  if interval.closed then interval.low.le value && value.le interval.high
  else !value.le interval.low && !interval.high.le value

/-- The nearer neighbour with the given exponent that rounds to the value, if there is one. -/
def candidate? (value : Ratio) (interval : Interval) (exponent : Int) : Option Nat :=
  let scaled := value.scale 10 (-exponent)
  let low := scaled.num / scaled.den
  let fits := fun digits => digits > 0 && interval.holds (Ratio.scale ⟨digits, 1⟩ 10 exponent)
  let lowGap := Ratio.distance scaled ⟨low, 1⟩
  let highGap := Ratio.distance scaled ⟨low + 1, 1⟩
  if fits low && fits (low + 1) then
    if lowGap.le highGap && highGap.le lowGap then some (if low % 2 = 0 then low else low + 1)
    else some (if lowGap.le highGap then low else low + 1)
  else if fits low then some low
  else if fits (low + 1) then some (low + 1)
  else none

/-- Tries longer and longer decimals. -/
def shortestFrom (value : Ratio) (interval : Interval) : Nat → Int → Nat × Int
  | 0, exponent => (0, exponent)
  | fuel + 1, exponent =>
    match candidate? value interval exponent with
    | some digits => (digits, exponent)
    | none => shortestFrom value interval fuel (exponent - 1)

/-- The shortest decimal `digits · 10 ^ exponent` that rounds to `m · 2 ^ q`. -/
def shortest (m : Nat) (q : Int) : Nat × Int :=
  let value := Ratio.scale ⟨m, 1⟩ 2 q
  shortestFrom value (roundingInterval m q) 20 (value.magnitude - 1)

/-- Digits without trailing zeros, and the exponent that makes up for them. -/
def stripZeros : Nat → Nat × Int → Nat × Int
  | 0, decimal => decimal
  | fuel + 1, (digits, exponent) =>
    if digits % 10 = 0 && digits > 0 then stripZeros fuel (digits / 10, exponent + 1)
    else (digits, exponent)

/-- How decimals are written: the exponents of ten of the leading digit for which no exponent is
written, and the least number of digits of an exponent. -/
structure Format where
  leastPositional : Int
  mostPositional : Int
  exponentDigits : Nat

/-- A text filled up with zeros on the left. -/
def padLeft (width : Nat) (digits : List Char) : List Char :=
  List.replicate (width - digits.length) '0' ++ digits

/-- A positive decimal in a format. Positional numbers have at least one digit after the point. -/
def Format.write (format : Format) (decimal : Nat × Int) : String :=
  let (number, exponent) := stripZeros 20 decimal
  let digits := Nat.toDigits 10 number
  let leading := exponent + digits.length - 1
  if format.leastPositional ≤ leading && leading ≤ format.mostPositional then
    if exponent ≥ 0 then
      String.ofList (digits ++ List.replicate exponent.toNat '0') ++ ".0"
    else
      let places := (-exponent).toNat
      let padded := padLeft (places + 1) digits
      String.ofList (padded.take (padded.length - places)) ++ "." ++
        String.ofList (padded.drop (padded.length - places))
  else
    let fraction := if digits.length ≤ 1 then [] else '.' :: digits.tail
    let sign := if leading < 0 then "-" else "+"
    String.ofList (digits.take 1 ++ fraction) ++ "e" ++ sign ++
      String.ofList (padLeft format.exponentDigits (Nat.toDigits 10 leading.natAbs))

/-- Numbers from a ten-thousandth to below ten to the sixteenth are written without exponent. -/
def plainFormat : Format := ⟨-4, 15, 2⟩

/-- The text of a double. -/
def floatText (x : Float) : String :=
  match Binary.ofFloat x with
  | .nan => "nan"
  | .infinite negative => if negative then "-inf" else "inf"
  | .finite negative m q =>
    (if negative then "-" else "") ++ (if m = 0 then "0.0" else plainFormat.write (shortest m q))

/-- A double without its fraction: none for an infinite one or none that is a number. -/
def truncate? (x : Float) : Option Int :=
  match Binary.ofFloat x with
  | .finite negative m q =>
    let magnitude := match q with
      | .ofNat q => m * Nat.pow 2 q
      | .negSucc q => m / Nat.pow 2 (q + 1)
    some (if negative then -Int.ofNat magnitude else Int.ofNat magnitude)
  | _ => none

end Highlighter.Decimal
