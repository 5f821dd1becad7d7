import SixAxis.Decimal.Binary

/-!
# The fewest digits that read back

A double stands for every real number that rounds to it.  Its shortest text is found on the
decimal grids of 1, 2, … 17 significant digits: on each grid only the two neighbours of the
exact value can lie in that interval, so the first grid with a neighbour inside has the fewest
digits, and of two neighbours inside the nearer one is taken.

* `Binary.readsBack` — whether a decimal lies in the interval of a double, the ends included
  exactly when the mantissa is even;
* `Binary.shortest` — the digits and the power of ten of the chosen decimal.
-/

namespace SixAxis.Decimal

/-- A decimal number `digits * 10 ^ power`. -/
structure Scientific where
  digits : Nat
  power : Int
deriving Repr, BEq, DecidableEq

namespace Scientific

/-- The decimal as a fraction of two whole numbers. -/
def fraction (d : Scientific) : Nat × Nat :=
  if d.power < 0 then (d.digits, tenTo (-d.power).toNat)
  else (d.digits * tenTo d.power.toNat, 1)

/-- Trailing zeros of the digits, at most `fuel` of them, moved into the power. -/
def strip : Nat → Scientific → Scientific
  | 0, d => d
  | fuel + 1, d =>
    if d.digits ≠ 0 ∧ d.digits % 10 = 0 then strip fuel ⟨d.digits / 10, d.power + 1⟩ else d

end Scientific

namespace Binary

/-- Four times the mantissa minus and plus the half gaps to the neighbouring doubles.  The gap
below is half as wide where the mantissa is the first one of its exponent. -/
def quarterBounds (b : Binary) : Nat × Nat :=
  let below := if b.mantissa = fractionSize ∧ leastExponent < b.exponent then 1 else 2
  (4 * b.mantissa - below, 4 * b.mantissa + 2)

/-- Whether a decimal rounds to this double. -/
def readsBack (b : Binary) (d : Scientific) : Bool :=
  let (num, den) := d.fraction
  let (low, high) := b.quarterBounds
  let unit : Binary := ⟨false, 1, b.exponent - 2⟩
  let (up, down) := unit.fraction
  let left := low * up * den
  let value := num * down
  let right := high * up * den
  if b.mantissa % 2 = 0 then left ≤ value && value ≤ right else left < value && value < right

/-- The power of ten of the first digit: the largest `k` with `10 ^ k ≤ num / den`, searched
downward from an estimate that is never too small. -/
def leadingPower (num den : Nat) : Int :=
  let estimate : Int := (num.log2 + 1 : Int) - den.log2
  let start : Int := estimate * 30103 / 100000 + 1
  let reaches (k : Int) : Bool :=
    if k < 0 then den ≤ num * tenTo (-k).toNat else den * tenTo k.toNat ≤ num
  let rec search : Nat → Int → Int
    | 0, k => k
    | fuel + 1, k => if reaches k then k else search fuel (k - 1)
  search 4 start

/-- The neighbour of the exact value on the grid of `10 ^ power` that reads back, the nearer
one if both do, the even one if they are equally near. -/
def gridPoint? (b : Binary) (power : Int) : Option Scientific :=
  let (num, den) := b.fraction
  let (num, den) :=
    if power < 0 then (num * tenTo (-power).toNat, den) else (num, den * tenTo power.toNat)
  let nearer : Scientific := ⟨roundedQuotient num den, power⟩
  let other : Scientific :=
    ⟨if nearer.digits * den ≤ num then nearer.digits + 1 else nearer.digits - 1, power⟩
  if b.readsBack nearer then some nearer
  else if b.readsBack other then some other
  else none

/-- The shortest decimal that reads back as this double. -/
def shortest (b : Binary) : Scientific :=
  if b.mantissa = 0 then ⟨0, 0⟩
  else
    let (num, den) := b.fraction
    let first := leadingPower num den
    let grids := (List.range 17).map fun (n : Nat) => first - (n : Int)
    match grids.findSome? b.gridPoint? with
    | some d => d.strip 20
    | none =>
      ⟨roundedQuotient (num * tenTo (16 - first).toNat) (den * tenTo (first - 16).toNat),
        first - 16⟩

end Binary

end SixAxis.Decimal
