import SixAxis.Decimal.Binary

/-!
# A fixed number of decimals

The exact value of a double rounded to a given number of decimals, a tie going to the even
digit, and written with all of them.

* `Fixed.ofFloat?` — the rounded value, in units of the last decimal;
* `Fixed.text` — sign, whole part, point and decimals;
* `Fixed.trimmed` — the same without trailing zeros, without a trailing point and without the
  sign of zero.
-/

namespace SixAxis.Decimal

/-- The digits of a whole number in base ten. -/
def digitsOf (n : Nat) : List Char := Nat.toDigits 10 n

/-- A decimal number with a fixed number of decimals. -/
structure Fixed where
  negative : Bool
  /-- The magnitude in units of the last decimal. -/
  units : Nat
  decimals : Nat
deriving Repr, BEq, DecidableEq

namespace Fixed

/-- A finite double rounded to the given number of decimals. -/
def ofFloat? (x : Float) (decimals : Nat) : Option Fixed :=
  (Binary.ofFloat? x).map fun b =>
    let (num, den) := b.fraction
    ⟨b.negative, roundedQuotient (num * tenTo decimals) den, decimals⟩

/-- The digits before the point. -/
def wholeDigits (f : Fixed) : List Char := digitsOf (f.units / tenTo f.decimals)

/-- The digits behind the point, exactly as many as there are decimals. -/
def decimalDigits (f : Fixed) : List Char :=
  let digits := digitsOf (f.units % tenTo f.decimals)
  if f.decimals = 0 then [] else List.replicate (f.decimals - digits.length) '0' ++ digits

/-- The number with every decimal written. -/
def text (f : Fixed) : String :=
  let point := if f.decimals = 0 then [] else '.' :: f.decimalDigits
  String.ofList ((if f.negative then ['-'] else []) ++ f.wholeDigits ++ point)

/-- The number without a sign when all its digits are zero. -/
def unsignedZero (f : Fixed) : Fixed :=
  if f.units = 0 then { f with negative := false } else f

/-- Without the zeros at the end of a list of digits. -/
def dropTrailingZeros (digits : List Char) : List Char :=
  (digits.reverse.dropWhile (· == '0')).reverse

/-- The shortest text of the rounded value: no zero at the end of the decimals, no point
without decimals, no sign on zero. -/
def trimmed (f : Fixed) : String :=
  let decimals := dropTrailingZeros f.decimalDigits
  let point := if decimals.isEmpty then [] else '.' :: decimals
  String.ofList ((if f.negative && f.units ≠ 0 then ['-'] else []) ++ f.wholeDigits ++ point)

end Fixed

end SixAxis.Decimal
