import SixAxis.Decimal.Binary
import SixAxis.Text.Blank
import SixAxis.Text.Digit

/-!
# Reading numbers

Numbers arrive as text in two grammars, one for whole numbers and one for doubles.  Both allow
blanks around the number, a sign, and single underscores between digits, and take the decimal
digits of every script; the second one adds a point, an exponent, and the names of infinity and
of what is not a number.  A decimal is rounded once, to the nearest double.

* `whole` — whole numbers, in any base up to sixteen;
* `float?` — doubles.
-/

namespace SixAxis.Decimal

/-- The value of a run of digits. -/
def natOf (digits : List Nat) (base : Nat := 10) : Nat :=
  digits.foldl (fun n d => base * n + d) 0

/-- The value of a digit in a base up to sixteen: a decimal digit of any script, or a letter. -/
def digitValue? (base : Nat) (c : Char) : Option Nat :=
  let value? := (Text.decimalValue? c).or <|
    if 'a' ≤ c ∧ c ≤ 'f' then some (c.toNat - 87)
    else if 'A' ≤ c ∧ c ≤ 'F' then some (c.toNat - 55)
    else none
  value?.filter (· < base)

/-- The digits at the start of a text, and the rest.  A single underscore is passed over where
it stands behind a digit and before one. -/
def digitRun (base : Nat) (behindDigit : Bool) : List Char → List Nat × List Char
  | [] => ([], [])
  | [c] =>
    match digitValue? base c with
    | some d => ([d], [])
    | none => ([], [c])
  | c :: next :: rest =>
    if c = '_' ∧ behindDigit ∧ (digitValue? base next).isSome then
      digitRun base false (next :: rest)
    else
      match digitValue? base c with
      | some d =>
        let (ds, tail) := digitRun base true (next :: rest)
        (d :: ds, tail)
      | none => ([], c :: next :: rest)

/-- A sign at the start of a text, and the rest. -/
def signOf : List Char → Bool × List Char
  | '-' :: rest => (true, rest)
  | '+' :: rest => (false, rest)
  | cs => (false, cs)

/-- The number of some digits with a sign. -/
def signed (negative : Bool) (n : Nat) : Int := if negative then -(n : Int) else n

/-- The most decimal digits that a whole number is read from. -/
def mostDigits : Nat := 4300

/-- Why a text is no whole number. -/
inductive NotWhole where
  | malformed
  | tooLong (digits : Nat)
deriving Repr

/-- The letter that may stand behind a zero before the digits of a base. -/
def baseLetter? : Nat → Option Char
  | 2 => some 'b'
  | 8 => some 'o'
  | 16 => some 'x'
  | _ => none

/-- The digits behind the mark of a base, if there is one. -/
def behindMark (base : Nat) : List Char → List Char
  | '0' :: letter :: rest =>
    if some letter.toLower = baseLetter? base then
      match rest with
      | '_' :: digits => digits
      | digits => digits
    else '0' :: letter :: rest
  | cs => cs

/-- A whole number in a base.  A decimal one has a limited number of digits, leading zeros
included. -/
def whole (s : String) (base : Nat := 10) : Except NotWhole Int :=
  let (negative, cs) := signOf (Text.trimNumeral s.toList)
  let (digits, rest) := digitRun base false (behindMark base cs)
  if base = 10 ∧ mostDigits < digits.length then .error (.tooLong digits.length)
  else if digits.isEmpty ∨ !rest.isEmpty then .error .malformed
  else .ok (signed negative (natOf digits base))

/-- A decimal whole number. -/
def int? (s : String) : Option Int := (whole s).toOption

/-- The exponent behind a decimal, zero where there is none. -/
def exponentOf? : List Char → Option Int
  | [] => some 0
  | c :: rest =>
    if c = 'e' ∨ c = 'E' then
      let (negative, cs) := signOf rest
      match digitRun 10 false cs with
      | (d :: ds, []) => some (signed negative (natOf (d :: ds)))
      | _ => none
    else none

/-- The double nearest to `± digits * 10 ^ power`.  A power beyond the range of doubles is cut
to one that gives the same result. -/
def nearestDecimal (negative : Bool) (digits : Nat) (power : Int) : Float :=
  let size : Int := (Nat.toDigits 10 digits).length
  if digits = 0 ∨ power + size < -400 then Binary.nearest negative 0 1
  else if 400 < power + size then Binary.nearest negative (tenTo 400) 1
  else if power < 0 then Binary.nearest negative digits (tenTo (-power).toNat)
  else Binary.nearest negative (digits * tenTo power.toNat) 1

/-- A decimal numeral without its sign. -/
def decimal? (negative : Bool) (cs : List Char) : Option Float :=
  let (whole, rest) := digitRun 10 false cs
  let (decimals, rest) := match rest with
    | '.' :: behind => digitRun 10 false behind
    | _ => ([], rest)
  if whole.isEmpty && decimals.isEmpty then none
  else (exponentOf? rest).map fun e =>
    nearestDecimal negative (natOf (whole ++ decimals)) (e - decimals.length)

/-- A double. -/
def float? (s : String) : Option Float :=
  let (negative, cs) := signOf (Text.trimNumeral s.toList)
  let word := (String.ofList cs).toLower
  if word == "inf" || word == "infinity" then some (if negative then -1.0 / 0.0 else 1.0 / 0.0)
  else if word == "nan" then some (0.0 / 0.0)
  else decimal? negative cs

end SixAxis.Decimal
