import Highlighter.Data.Scan
import Highlighter.Text.Numeral
import Highlighter.Value.Basic

/-!
# Numbers in data

Whole numbers are kept exactly, up to a number of digits. A decimal becomes the nearest double.
-/

namespace Highlighter.Data

open Highlighter.Text (ofDigitChars)

/-- A whole number of decimal digits. -/
def wholeNumber (negative : Bool) (digits : List Char) : Scan Value := do
  if digits.length > Text.maxDigits then
    throw (.longNumeral digits.length)
  let value : Int := ofDigitChars 10 digits
  return .int (if negative then -value else value)

/-- The double nearest to `digits · 10 ^ exponent`; infinite if it is too large. -/
def nearestFloat (digits : Nat) (exponent : Int) : Float :=
  let magnitude := exponent + (Nat.toDigits 10 digits).length
  if digits = 0 || magnitude < -330 then 0.0
  else if magnitude > 310 then 1.0 / 0.0
  else match exponent with
    | .ofNat exponent => OfScientific.ofScientific digits false exponent
    | .negSucc exponent => OfScientific.ofScientific digits true (exponent + 1)

/-- A decimal in its parts: sign, digits before and after the point, and exponent. -/
structure DecimalParts where
  negative : Bool
  whole : List Char
  fraction : List Char
  exponentNegative : Bool
  exponent : List Char

/-- The nearest double. -/
def DecimalParts.toFloat (parts : DecimalParts) : Float :=
  let digits := ofDigitChars 10 (parts.whole ++ parts.fraction)
  let exponent : Int := ofDigitChars 10 parts.exponent
  let exponent := (if parts.exponentNegative then -exponent else exponent) - parts.fraction.length
  let value := nearestFloat digits exponent
  if parts.negative then -value else value

/-- The number of a decimal, which is whole if it has neither a fraction nor an exponent. -/
def DecimalParts.toValue (parts : DecimalParts) : Scan Value :=
  if parts.fraction.isEmpty && parts.exponent.isEmpty then wholeNumber parts.negative parts.whole
  else return .float parts.toFloat

/-- The infinite double of a sign. -/
def infinity (negative : Bool) : Float :=
  if negative then -(1.0 / 0.0) else 1.0 / 0.0

end Highlighter.Data
