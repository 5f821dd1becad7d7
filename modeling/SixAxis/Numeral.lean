import SixAxis.Scalar
import SixAxis.Decimal.Remainder
import SixAxis.Decimal.Shown

/-!
# Numbers as they are written

A limit, a duration or a configuration keeps the form it was given in: a truth value, a whole
number or a scalar.  The three are compared by value — a truth value is one or zero — and a
whole number is compared with a scalar without being rounded.

* `Numeral.value` — the scalar that geometry computes with;
* `Numeral.order?` — comparison, `none` beside a value that is not comparable;
* `Number` — a numeral over doubles, with its text in messages.
-/

namespace SixAxis

/-- A number in the form it was given in. -/
inductive Numeral (R : Type) where
  | truth (b : Bool)
  | whole (n : Int)
  | real (x : R)
deriving Repr

namespace Numeral

variable {R : Type}

/-- The whole number that a numeral is, unless it is a scalar. -/
def asWhole? : Numeral R → Option Int
  | truth b => some (if b then 1 else 0)
  | whole n => some n
  | real _ => none

/-- The slot that a whole number is, one of six. -/
def slotOf? (i : Int) : Option (Fin 6) :=
  if i < 0 then none
  else if h : i.toNat < 6 then some ⟨i.toNat, h⟩
  else none

variable [Scalar R]

instance : Inhabited (Numeral R) := ⟨whole 0⟩

/-- The scalar nearest to a numeral. -/
def value : Numeral R → R
  | truth b => Scalar.ofInt (if b then 1 else 0)
  | whole n => Scalar.ofInt n
  | real x => x

/-- Comparison of two scalars. -/
def scalarOrder? (x y : R) : Option Ordering :=
  if x < y then some .lt
  else if y < x then some .gt
  else if x == y then some .eq
  else none

/-- Comparison by value. -/
def order? (a b : Numeral R) : Option Ordering :=
  match a.asWhole?, b.asWhole? with
  | some m, some n => some (compare m n)
  | some m, none => (Scalar.whole? b.value m).map Ordering.swap
  | none, some n => Scalar.whole? a.value n
  | none, none => scalarOrder? a.value b.value

instance : LT (Numeral R) := ⟨fun a b => order? a b = some .lt⟩

instance : LE (Numeral R) := ⟨fun a b => order? a b = some .lt ∨ order? a b = some .eq⟩

instance : DecidableLT (Numeral R) := fun a b =>
  inferInstanceAs (Decidable (order? a b = some .lt))

instance : DecidableLE (Numeral R) := fun a b =>
  inferInstanceAs (Decidable (order? a b = some .lt ∨ order? a b = some .eq))

/-- Whether two numerals have the same value. -/
def same (a b : Numeral R) : Bool := order? a b == some .eq

/-- Whether a numeral is zero. -/
def isZero (a : Numeral R) : Bool := a.same (whole 0)

end Numeral

/-- A number of the program. -/
abbrev Number := Numeral Float

namespace Number

/-- The text of a number in messages. -/
def shown : Number → String
  | .truth b => if b then "True" else "False"
  | .whole n => toString n
  | .real x => Decimal.shown x

end Number

end SixAxis
