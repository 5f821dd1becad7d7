/-!
# Doubles as exact fractions

A finite double is a whole number times a power of two.  This module takes a double apart
into that form and builds the double **nearest to a given fraction**, so that the decimal
modules and the exact remainder work in whole numbers only.

* `Binary.ofFloat?` — the exact value of a finite double;
* `Binary.nearest` — the double nearest to a fraction, a tie going to the even mantissa;
* `roundedQuotient` — the whole number nearest to a fraction, with the same rule for ties.
-/

namespace SixAxis.Decimal

/-- A power of two. -/
def twoTo (k : Nat) : Nat := Nat.pow 2 k

/-- A power of ten. -/
def tenTo (k : Nat) : Nat := Nat.pow 10 k

/-- The whole number nearest to `num / den`; a tie goes to the even neighbour. -/
def roundedQuotient (num den : Nat) : Nat :=
  let below := num / den
  let twice := 2 * (num % den)
  if twice < den then below
  else if den < twice then below + 1
  else below + below % 2

/-- The size of a number: `mantissa * 2 ^ exponent`, with the sign kept apart so that a
negative zero is told from a positive one. -/
structure Binary where
  negative : Bool
  mantissa : Nat
  exponent : Int
deriving Repr, BEq, DecidableEq

namespace Binary

/-- The fraction bits of a double, 52 of them. -/
def fractionSize : Nat := twoTo 52

/-- The smallest exponent a mantissa can have. -/
def leastExponent : Int := -1074

/-- The exact value of a finite double. -/
def ofFloat? (x : Float) : Option Binary :=
  let bits := x.toBits.toNat
  let negative := decide (twoTo 63 ≤ bits)
  let biased := bits / fractionSize % 2048
  let fraction := bits % fractionSize
  if biased = 2047 then none
  else if biased = 0 then some ⟨negative, fraction, leastExponent⟩
  else some ⟨negative, fractionSize + fraction, (biased : Int) - 1075⟩

/-- The magnitude as a fraction of two whole numbers. -/
def fraction (b : Binary) : Nat × Nat :=
  if b.exponent < 0 then (b.mantissa, twoTo (-b.exponent).toNat)
  else (b.mantissa * twoTo b.exponent.toNat, 1)

/-- The exponent of the largest power of two that is at most `num / den`. -/
def magnitude (num den : Nat) : Int :=
  let guess : Int := (num.log2 : Int) - den.log2
  let reaches :=
    if guess < 0 then den ≤ num * twoTo (-guess).toNat else den * twoTo guess.toNat ≤ num
  if reaches then guess else guess - 1

/-- The double nearest to `num / den`, infinite where the fraction is beyond all doubles.

The mantissa is rounded once, at the exponent that leaves it 53 bits (or the least exponent),
and since a mantissa that rounds up to `2 ^ 53` carries into the exponent field, adding it to
that field is right in every case. -/
def nearest (negative : Bool) (num den : Nat) : Float :=
  let infinity : Nat := 2047 * fractionSize
  let size :=
    if num = 0 then 0
    else
      let exponent := max (magnitude num den - 52) leastExponent
      let mantissa :=
        if exponent < 0 then roundedQuotient (num * twoTo (-exponent).toNat) den
        else roundedQuotient num (den * twoTo exponent.toNat)
      min ((exponent - leastExponent).toNat * fractionSize + mantissa) infinity
  Float.ofBits (UInt64.ofNat (if negative then twoTo 63 + size else size))

/-- The double nearest to `± mantissa * 2 ^ exponent`. -/
def toFloat (b : Binary) : Float :=
  nearest b.negative b.fraction.1 b.fraction.2

/-- The double nearest to a whole number. -/
def floatOfInt (n : Int) : Float :=
  nearest (decide (n < 0)) n.natAbs 1

/-- The value with its sign, as a fraction with a positive denominator. -/
def signedFraction (b : Binary) : Int × Nat :=
  (if b.negative then -(b.fraction.1 : Int) else b.fraction.1, b.fraction.2)

end Binary

end SixAxis.Decimal
