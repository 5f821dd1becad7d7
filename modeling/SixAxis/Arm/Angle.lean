import SixAxis.Interval

/-!
# Angles of joints

An angle in degrees stands for the same position as every angle that differs from it by whole
turns.  The solver computes one of them and picks, within the limits of the joint, the one
closest to a reference.

* `normalizeAngle` — the representative above -180 and up to 180;
* `fitAngle` — the representative within limits that is closest to a reference, among the two
  turns to either side.
-/

namespace SixAxis

variable {R : Type} [Scalar R]

/-- The angle with the same position above -180 and up to 180 degrees. -/
def normalizeAngle (v : R) : R :=
  let wrapped := Scalar.remainder (v + 180.0) 360.0 - 180.0
  if wrapped == -180.0 then 180.0 else wrapped

/-- The first value that no other one in the list is before. -/
def leastBy {α : Type} (before : α → α → Bool) : List α → Option α
  | [] => none
  | a :: rest => some (rest.foldl (fun best b => if before b best then b else best) a)

/-- Whether one pair of scalars is before another: by the first parts, or by the second ones
where the first are equal. -/
def pairBefore (a b : R × R) : Bool :=
  if a.1 == b.1 then decide (a.2 < b.2) else decide (a.1 < b.1)

/-- The whole turns that are tried. -/
def turns : List R := [-2.0, -1.0, 0.0, 1.0, 2.0]

/-- The angle with the same position, within the limits, that is closest to the reference and,
of two equally close ones, closest to zero; the normalized angle if none is within the limits. -/
def fitAngle (v : R) (limits : Interval R) (reference : R) : R :=
  let wrapped := normalizeAngle v
  let options := turns.map fun k => wrapped + k * 360.0
  let cost (v : R) : R × R := (Scalar.abs (v - reference), Scalar.abs v)
  (leastBy (fun a b => pairBefore (cost a) (cost b)) (options.filter limits.contains)).getD wrapped

/-- An angle that sine and cosine are defined for. -/
def checkAngle (v : R) : Checked Unit :=
  if Scalar.infinite v then .error (Misuse.unreadable "math domain error") else .ok ()

end SixAxis
