import SixAxis.Space.Frame
import SixAxis.Space.Mesh
import SixAxis.Datum.Reading

/-!
# Points and frames in data

A point or direction is listed by two to four values: a missing third one is zero and a fourth
one has no meaning.  A frame is a record of a point and two axes, each of which may be left out;
they are read in this order, and an axis without a direction is a fault before the next one is
read.  A shape is listed by its corners, and its faces by the numbers of these.
-/

namespace SixAxis

namespace Vec

/-- A point or direction from its listed components. -/
def ofData (d : Datum) : Checked (Vec Float) := do
  match ← d.items with
  | [x, y] => return ⟨← x.toReal, ← y.toReal, 0.0⟩
  | [x, y, z] | [x, y, z, _] => return ⟨← x.toReal, ← y.toReal, ← z.toReal⟩
  | _ => .error Misuse.illTyped

/-- A vector from the first three values of a datum, each of them a number or a text. -/
def ofFirstThree (d : Datum) : Checked (Vec Float) := do
  return ⟨← (← d.at' 0).toReal, ← (← d.at' 1).toReal, ← (← d.at' 2).toReal⟩

/-- A vector from the first three values of a datum, each of them a number. -/
def ofNumbers (d : Datum) : Checked (Vec Float) := do
  let number (i : Nat) : Checked Float := do (← (← d.at' i).toNumber).toReal
  return ⟨← number 0, ← number 1, ← number 2⟩

/-- The listed components of a point or direction. -/
def toData (v : Vec Float) : Datum := .list [.real v.x, .real v.y, .real v.z]

end Vec

namespace Frame

/-- A frame from the data of its parts.  An axis that is null is that of the world. -/
def ofParts (point xaxis yaxis : Datum) : Checked (Frame Float) := do
  let axis (d : Datum) (usual : Vec Float) : Checked (Vec Float) := do
    (← if d matches .null then .ok usual else Vec.ofData d).unit
  let point ← Vec.ofData point
  let x ← axis xaxis .unitX
  let y ← axis yaxis .unitY
  let z ← (x.cross y).unit
  return ⟨point, x, z.cross x⟩

/-- A frame from a record. -/
def ofData (d : Datum) : Checked (Frame Float) :=
  match d with
  | .record _ =>
    ofParts (d.field "point" (Vec.toData .zero)) (d.field "xaxis" (Vec.toData .unitX))
      (d.field "yaxis" (Vec.toData .unitY))
  | _ => .error Misuse.partless

/-- The record of a frame. -/
def toData (f : Frame Float) : Datum :=
  .record [("point", f.point.toData), ("xaxis", f.xaxis.toData), ("yaxis", f.yaxis.toData)]

end Frame

namespace Quaternion

/-- A quaternion from the first four values of a datum, each of them a number. -/
def ofData (d : Datum) : Checked (Quaternion Float) := do
  let number (i : Nat) : Checked Float := do (← (← d.at' i).toNumber).toReal
  return ⟨← number 0, ← number 1, ← number 2, ← number 3⟩

end Quaternion

namespace Mesh

/-- A corner from exactly three numbers. -/
def vertexOfData (d : Datum) : Checked (Vec Float) := do
  match ← d.items with
  | [x, y, z] =>
    return ⟨← (← x.toNumber).toReal, ← (← y.toNumber).toReal, ← (← z.toNumber).toReal⟩
  | _ => .error (Misuse.unreadable "a corner has three coordinates")

/-- A face has to be listed by numbers of corners, counted from zero.  One that lists fewer than
three is passed over; the first corner may be repeated at the end. -/
def checkFace (corners : Nat) (d : Datum) : Checked Unit := do
  let items ← d.items
  let some first := items.head? | .error Misuse.outside
  let items := if items.getLast?.any first.same then items.dropLast else items
  if 3 ≤ items.length then
    for i in items do
      if !i.isKey then .error Misuse.illTyped
      unless (List.range corners).any fun (n : Nat) => i.same (.int n) do
        .error (Misuse.missing i)

/-- A shape from the data of its corners and faces, of which the corners are kept. -/
def ofData (vertices faces : List Datum) : Checked (Mesh Float) := do
  let corners ← vertices.mapM vertexOfData
  for face in faces do checkFace corners.length face
  return ⟨corners⟩

end Mesh

end SixAxis
