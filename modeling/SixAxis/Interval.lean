import SixAxis.Datum.Order

/-!
# Closed intervals

Limits of joints and axes.  The ends of an interval are never in the wrong order; that is part
of the type, and an end that is not comparable counts as in order.

* `Interval.contains` — both ends belong to the interval;
* `Interval.clamp` — the value of the interval nearest to a given one;
* `Interval.ofData` — the interval of two numbers, or two texts, in the form they are given;
* `Interval.ofItems` — the interval of the two numbers in a list;
* `Interval.ofSequence` — the interval of a list of two values that are read as doubles.
-/

namespace SixAxis

/-- A closed interval. -/
structure Interval (α : Type) [LT α] where
  low : α
  high : α
  ordered : ¬ high < low

namespace Interval

variable {α : Type} [LT α]

/-- The interval with the given ends, if they are in order. -/
def of? [DecidableLT α] (low high : α) : Option (Interval α) :=
  if h : high < low then none else some ⟨low, high, h⟩

/-- Whether a value lies between the ends. -/
def contains [LE α] [DecidableLE α] (limits : Interval α) (v : α) : Bool :=
  decide (limits.low ≤ v) && decide (v ≤ limits.high)

/-- A value moved to the nearer end if it lies outside. -/
def clamp [DecidableLT α] (limits : Interval α) (v : α) : α :=
  let raised := if v < limits.low then limits.low else v
  if limits.high < raised then limits.high else raised

/-- The interval of two numbers in the form they are given. -/
def ofNumbers (low high : Number) : Checked (Interval Number) :=
  match of? low high with
  | some limits => .ok limits
  | none => .error (RobotFault.reversedInterval (.number low) (.number high))

/-- The interval of two doubles. -/
def ofReals (low high : Float) : Checked (Interval Float) :=
  match of? low high with
  | some limits => .ok limits
  | none => .error (RobotFault.reversedInterval (.real low) (.real high))

/-- The interval of two data that can be compared. -/
def ofData (low high : Datum) : Checked (Interval Datum) := do
  low.checkComparable high
  match of? low high with
  | some limits => .ok limits
  | none => .error (RobotFault.reversedInterval low high)

/-- The interval of two numbers that are the items of a datum. -/
def ofItems (values : Datum) : Checked (Interval Number) := do
  match ← values.items with
  | [low, high] =>
    let _ ← ofData low high
    ofNumbers (← low.toNumber) (← high.toNumber)
  | _ => .error Misuse.illTyped

/-- A datum that can be compared with the ends of an interval. -/
def checkValue (limits : Interval Datum) (v : Datum) : Checked Unit := do
  limits.low.checkComparable v
  limits.high.checkComparable v

/-- The two ends that a list of values gives. -/
def ends (values : Datum) : Checked (Float × Float) := do
  let items ← values.items
  if items.length ≠ 2 then .error (RobotFault.intervalSize items)
  return (← (← values.at' 0).toReal, ← (← values.at' 1).toReal)

/-- The interval of a list of two values. -/
def ofSequence (values : Datum) : Checked (Interval Float) := do
  let (low, high) ← ends values
  ofReals low high

end Interval

end SixAxis
