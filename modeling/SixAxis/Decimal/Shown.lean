import SixAxis.Decimal.Shortest
import SixAxis.Decimal.Fixed

/-!
# The exact text of a double

Messages and serialized data show a double by its shortest digits.  How those digits are laid
out is one record, `Layout.exact`: positional from `0.0001` up to sixteen digits before the
point, with at least one decimal, and in exponent form with a signed exponent of at least two
digits elsewhere.
-/

namespace SixAxis.Decimal

/-- How the digits of a double are written down. -/
structure Layout where
  /-- The least power of the first digit that is written positionally. -/
  leastPositional : Int
  /-- The least power of the first digit that is too large for that. -/
  firstExponential : Int
  /-- How many digits the exponent has at least. -/
  exponentDigits : Nat
deriving Repr

namespace Layout

/-- The layout of doubles in messages and data. -/
def exact : Layout := ⟨-4, 16, 2⟩

/-- Digits with the point behind the digit of power zero. -/
def positional (digits : List Char) (power : Int) : List Char :=
  if 0 ≤ power then digits ++ List.replicate power.toNat '0' ++ ['.', '0']
  else
    let behind := (-power).toNat
    if behind < digits.length then
      digits.take (digits.length - behind) ++ '.' :: digits.drop (digits.length - behind)
    else '0' :: '.' :: (List.replicate (behind - digits.length) '0' ++ digits)

/-- Digits with the point behind the first one, and the exponent. -/
def exponential (l : Layout) (digits : List Char) (leading : Int) : List Char :=
  let mantissa := match digits with
    | [] => []
    | [d] => [d]
    | d :: rest => d :: '.' :: rest
  let exponent := digitsOf leading.natAbs
  mantissa ++ ['e', if leading < 0 then '-' else '+']
    ++ List.replicate (l.exponentDigits - exponent.length) '0' ++ exponent

/-- The text of a finite double. -/
def finite (l : Layout) (b : Binary) : List Char :=
  let d := b.shortest
  let digits := digitsOf d.digits
  let leading : Int := (digits.length : Int) - 1 + d.power
  let body :=
    if l.leastPositional ≤ leading ∧ leading < l.firstExponential then positional digits d.power
    else l.exponential digits leading
  (if b.negative then ['-'] else []) ++ body

end Layout

/-- The exact text of a double. -/
def shown (x : Float) : String :=
  match Binary.ofFloat? x with
  | some b => String.ofList (Layout.exact.finite b)
  | none => if x.isNaN then "nan" else if x < 0.0 then "-inf" else "inf"

end SixAxis.Decimal
