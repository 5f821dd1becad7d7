import SixAxis.Datum.Reading

/-!
# The order of data

Numbers are ordered by value, texts by the code points of their characters, and lists by their
first items that differ.  Data of different kinds, and those of other kinds, cannot be compared.

* `Datum.order?` — how two data compare, `none` where they are not ordered;
* `Datum.comparable` — whether asking makes sense.
-/

namespace SixAxis.Datum

mutual

/-- Whether two data can be compared. -/
def comparable : Datum → Datum → Bool
  | number _, number _ | text _, text _ => true
  | list a, list b => comparableItems a b
  | _, _ => false

/-- Whether the first items that differ, if there are any, can be compared. -/
def comparableItems : List Datum → List Datum → Bool
  | a :: as, b :: bs => if a.same b then comparableItems as bs else a.comparable b
  | _, _ => true

end

mutual

/-- How two data compare. -/
def order? : Datum → Datum → Option Ordering
  | number a, number b => a.order? b
  | text a, text b => some (compare a b)
  | list a, list b => orderItems? a b
  | _, _ => none

/-- How two lists compare. -/
def orderItems? : List Datum → List Datum → Option Ordering
  | a :: as, b :: bs => if a.same b then orderItems? as bs else a.order? b
  | [], [] => some .eq
  | [], _ => some .lt
  | _, [] => some .gt

end

instance : LT Datum := ⟨fun a b => order? a b = some .lt⟩

instance : LE Datum := ⟨fun a b => order? a b = some .lt ∨ order? a b = some .eq⟩

instance : DecidableLT Datum := fun a b => inferInstanceAs (Decidable (order? a b = some .lt))

instance : DecidableLE Datum := fun a b =>
  inferInstanceAs (Decidable (order? a b = some .lt ∨ order? a b = some .eq))

/-- Data that are compared have to be comparable. -/
def checkComparable (a b : Datum) : Checked Unit :=
  if a.comparable b then .ok () else .error Misuse.illTyped

end SixAxis.Datum
