import SixAxis.Datum.Reading
import SixAxis.Unconnected

/-!
# Numbers in generated code

A number in generated code has a limited number of decimals and the shortest text with that
value: no zero at the end of the decimals, no bare point, no negative zero.  The marker of an
unconnected axis is written as one token.

* `CodeNumber.text` — the text of a double with a number of decimals;
* `CodeNumber.list` — a sequence of numbers as the body of an array;
* `CodeNumber.ofNumber`, `CodeNumber.ofNumbers` — the same for numbers that a double may not reach;
* `CodeNumber.asked` — the text with decimals that are part of a request.
-/

namespace SixAxis.CodeNumber

/-- The token of an unconnected axis. -/
def unconnectedToken : String := "9E9"

/-- Decimals of lengths, angles and speeds. -/
def lengthDecimals : Nat := 2

/-- Decimals of durations and masses. -/
def fineDecimals : Nat := 3

/-- Decimals of the parts of a quaternion. -/
def unitDecimals : Nat := 6

/-- A number with at most `decimals` decimals. -/
def text (x : Float) (decimals : Nat := lengthDecimals) : String :=
  if isUnconnected x then unconnectedToken
  else match Decimal.Fixed.ofFloat? x decimals with
    | some f => f.trimmed
    | none => Decimal.shown x

/-- Numbers with commas between them. -/
def list (xs : List Float) (decimals : Nat := lengthDecimals) : String :=
  ", ".intercalate (xs.map fun x => text x decimals)

/-- The text of a number in the range of doubles. -/
def ofNumber (n : Number) (decimals : Nat := lengthDecimals) : Checked String := do
  return text (← n.toReal) decimals

/-- Numbers in the range of doubles, with commas between them. -/
def ofNumbers (ns : List Number) (decimals : Nat := lengthDecimals) : Checked String := do
  return list (← ns.mapM Number.toReal) decimals

/-! ### Decimals that are asked for -/

/-- The most decimals that a double can have. -/
def mostDecimals : Nat := 1074

/-- The largest number of decimals that can be asked for. -/
def mostAsked : Nat := 2147483647

/-- The number of decimals that a datum asks for: a whole number in the range of 32 bits, or the
decimal digits of one.  More decimals than a double can have make no difference. -/
def decimals? (d : Datum) : Option Nat :=
  let asked : Option Nat := match d with
    | .number (.whole n) => if n < 0 then none else some n.toNat
    | .text s => if s.isEmpty then none else (s.toList.mapM Text.decimalValue?).map Decimal.natOf
    | _ => none
  (asked.filter (· ≤ mostAsked)).map (min · mostDecimals)

/-- The text of a double with decimals that are asked for; they do not matter for the token. -/
def asked (decimals : Datum) (x : Float) : Checked String :=
  if isUnconnected x then .ok unconnectedToken
  else match decimals? decimals with
    | some n => .ok (text x n)
    | none => .error (Misuse.unreadable "invalid number of decimals")

end SixAxis.CodeNumber
