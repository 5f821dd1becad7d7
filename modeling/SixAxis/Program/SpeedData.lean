import SixAxis.Program.Identifier
import SixAxis.Datum.Reading
import SixAxis.CodeNumber

/-!
# Speed data

How fast a movement is: the tool centre point in mm/s, its turning in degrees/s, and the linear
and rotational external axes.  The controller knows a number of speeds by name; any other one is
declared.  None of the four speeds is negative.

* `SpeedData.make` — speed data with given parts;
* `SpeedData.predefined?`, `SpeedData.nearest` — the known speed of a value, and the one closest
  to a value;
* `SpeedData.declaration` — the declaration, empty for a known speed.
-/

namespace SixAxis

/-- The smallest of some numbers, the first of equal ones. -/
def leastNumber (first : Number) (rest : List Number) : Number :=
  rest.foldl (fun least n => if n < least then n else least) first

/-- Whether the smallest of some numbers is below zero. -/
def anyNegative : List Number → Bool
  | [] => false
  | n :: rest => leastNumber n rest < .whole 0

/-- The speed of a movement. -/
structure SpeedData where
  name : Identifier
  tcp : Number
  turning : Number
  linearAxes : Number
  rotaryAxes : Number
  /-- Whether the controller knows the speed by its name. -/
  predefined : Datum
  nonnegative : anyNegative [tcp, turning, linearAxes, rotaryAxes] = false

namespace SpeedData

/-- The speeds of the tool centre point that the controller knows. -/
def known : List Nat := [
  5, 10, 20, 30, 40, 50, 60, 80, 100, 150, 200, 300, 400, 500, 600, 800, 1000, 1500, 2000, 2500,
  3000, 4000, 5000, 6000, 7000]

/-- The speed of turning where it is not given. -/
def usualTurning : Datum := .real 500.0

/-- The speed of linear axes where it is not given. -/
def usualLinearAxes : Datum := .real 5000.0

/-- The speed of rotational axes where it is not given. -/
def usualRotaryAxes : Datum := .real 1000.0

/-- The four speeds. -/
def speeds (s : SpeedData) : List Number := [s.tcp, s.turning, s.linearAxes, s.rotaryAxes]

/-- Speed data with the given parts. -/
def make (name tcp : Datum) (turning : Datum := usualTurning)
    (linearAxes : Datum := usualLinearAxes) (rotaryAxes : Datum := usualRotaryAxes)
    (predefined : Datum := .bool false) : Checked SpeedData := do
  let name ← Identifier.ofData name (ActionFault.speedName name)
  let tcp ← tcp.toNumber
  let turning ← turning.toNumber
  let linearAxes ← linearAxes.toNumber
  let rotaryAxes ← rotaryAxes.toNumber
  if h : anyNegative [tcp, turning, linearAxes, rotaryAxes] then
    .error (ActionFault.negativeSpeed name.text)
  else return ⟨name, tcp, turning, linearAxes, rotaryAxes, predefined, by simpa using h⟩

/-- The known speed of a value: its name is `v` and the value as it was given. -/
def ofKnown (v : Datum) : Checked SpeedData :=
  match v with
  | .number n =>
    if known.any fun k => n.same (.whole k) then
      make (.text ("v" ++ n.shown)) (.real n.value) usualTurning usualLinearAxes usualRotaryAxes
        (.bool true)
    else .error (ActionFault.notPredefinedSpeed v known)
  | _ => .error (ActionFault.notPredefinedSpeed v known)

/-- How far a known speed is from a value. -/
def gap (k : Nat) : Number → Number
  | .real x => .real (Float.abs (Scalar.ofInt k - x))
  | n => .whole ((k : Int) - n.asWhole?.getD 0).natAbs

/-- The known speed closest to a value, the slower one of two equally close ones. -/
def closestKnown (n : Number) : Nat :=
  known.foldl (fun best k => if gap k n < gap best n then k else best) 5

/-- The speed data closest to a value. -/
def nearest (v : Datum) : Checked SpeedData := do
  let n ← v.toNumber
  ofKnown (.int (closestKnown n))

/-- The declaration, empty for a speed that the controller knows. -/
def declaration (s : SpeedData) : Checked String := do
  if s.predefined.isTruthy then return ""
  return s!"VAR speeddata {s.name.text} := [{← CodeNumber.ofNumbers s.speeds}];"

end SpeedData

end SixAxis
