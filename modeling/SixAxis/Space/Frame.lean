import SixAxis.Space.Motion

/-!
# Frames

A frame is an origin with two directions at right angles; the third one completes them.  Frames
are built from axes that need not be normalized, from a quaternion or from a normal, and the
constructors fail where the directions are not determined.

* `Frame.ofAxes`, `Frame.ofNormal`, `Frame.ofQuaternion`;
* `Frame.toMotion` — the motion that takes the world frame to this one;
* `Frame.moved`, `Frame.relativeTo`, `Motion.between` — frames under motions;
* `Frame.moved?`, `Frame.relativeTo?` — the same where a frame may be moved out of space;
* `Frame.quaternion` — the orientation with a nonnegative first part.
-/

namespace SixAxis

/-- An origin and two directions; `zaxis` is the third. -/
structure Frame (R : Type) where
  point : Vec R
  xaxis : Vec R
  yaxis : Vec R
deriving Repr

/-- A quaternion, the scalar part first. -/
structure Quaternion (R : Type) where
  w : R
  x : R
  y : R
  z : R
deriving Repr

namespace Quaternion

variable {R : Type}

/-- The parts in order. -/
def toList (q : Quaternion R) : List R := [q.w, q.x, q.y, q.z]

variable [Scalar R]

/-- The sum of the squares of the parts. -/
def squaredNorm (q : Quaternion R) : R := q.w * q.w + q.x * q.x + q.y * q.y + q.z * q.z

/-- Whether the square of a finite part is beyond all scalars. -/
def overflows (q : Quaternion R) : Bool :=
  q.toList.any fun c => Scalar.infinite (c * c) && !Scalar.infinite c

/-- All four signs changed: the same orientation. -/
def negate (q : Quaternion R) : Quaternion R := ⟨-q.w, -q.x, -q.y, -q.z⟩

/-- The same orientation with a first part that is not negative. -/
def canonical (q : Quaternion R) : Quaternion R := if q.w < 0.0 then q.negate else q

end Quaternion

namespace Frame

variable {R : Type} [Scalar R]

/-- The frame of the world axes. -/
def world : Frame R := ⟨.zero, .unitX, .unitY⟩

instance : Inhabited (Frame R) := ⟨world⟩

/-- The third direction. -/
def zaxis (f : Frame R) : Vec R := f.xaxis.cross f.yaxis

/-! ### Constructors -/

/-- The frame with a given first direction, and the second one in the plane of both axes. -/
def ofAxes (point xaxis yaxis : Vec R) : Checked (Frame R) := do
  let x ← xaxis.unit
  let y ← yaxis.unit
  let z ← (x.cross y).unit
  return ⟨point, x, z.cross x⟩

/-- A direction at right angles to a normal: the longest of three candidates, the first of
equally long ones. -/
def across (n : Vec R) : Vec R :=
  let a : Vec R := ⟨-n.y, n.x, 0.0⟩
  let b : Vec R := ⟨0.0, -n.z, n.y⟩
  let c : Vec R := ⟨n.z, 0.0, -n.x⟩
  let longer (u v : Vec R) : Vec R := if u.length < v.length then v else u
  longer (longer a b) c

/-- A frame whose third direction is a normal. -/
def ofNormal (point normal : Vec R) : Checked (Frame R) := do
  let n ← normal.unit
  let x := across n
  ofAxes point x (n.cross x)

/-- The squared norm below which a quaternion counts as zero. -/
def leastSquaredNorm : R := 0.000000000000001

/-- The frame of an orientation. -/
def ofQuaternion (q : Quaternion R) (point : Vec R) : Checked (Frame R) :=
  let n := q.squaredNorm
  if q.overflows then .error Misuse.overflow
  else if n < leastSquaredNorm || !Scalar.isFinite n then
    .error (Misuse.unreadable "no orientation")
  else
    let s := 2.0 / n
    let x : Vec R :=
      ⟨1.0 - (q.y * q.y + q.z * q.z) * s, (q.x * q.y + q.z * q.w) * s, (q.x * q.z - q.y * q.w) * s⟩
    let y : Vec R :=
      ⟨(q.x * q.y - q.z * q.w) * s, 1.0 - (q.x * q.x + q.z * q.z) * s, (q.y * q.z + q.x * q.w) * s⟩
    ofAxes point x y

/-! ### Motions of frames -/

/-- The motion that takes the world frame to this one. -/
def toMotion (f : Frame R) : Motion R := ⟨f.xaxis, f.yaxis, f.zaxis, f.point⟩

/-- The frame carried along by a motion. -/
def moved (f : Frame R) (m : Motion R) : Frame R :=
  ⟨m.apply f.point, m.linear f.xaxis, m.linear f.yaxis⟩

/-- Whether origin and directions are finite. -/
def isFinite (f : Frame R) : Bool := f.toMotion.isFinite

/-- The frame built again from its own parts.  That changes it only where it is not finite. -/
def copied (f : Frame R) : Frame R :=
  if f.isFinite then f else (ofAxes f.point f.xaxis f.yaxis).toOption.getD f

/-- A frame that has to be finite. -/
def inSpace (f : Frame R) : Checked (Frame R) :=
  if f.isFinite then .ok f else .error (Misuse.unreadable "no frame")

/-- How far the length of a direction may be from one. -/
def unitTolerance : R := 0.000001

/-- The frame carried along by a motion.  Only its turn acts on the directions: where it stretches
them, or turns them around, that is taken back. -/
def carried (f : Frame R) (m : Motion R) : Frame R :=
  let g := f.moved m
  let length := g.xaxis.length
  if unitTolerance < Scalar.abs (length - 1.0) then
    let isTurned := decide ((g.xaxis.cross g.yaxis).dot (m.linear f.zaxis) < 0.0)
    let stretch := if isTurned then -length else length
    { g with xaxis := g.xaxis.shrink stretch, yaxis := g.yaxis.shrink stretch }
  else g

/-- The frame carried along by a motion, which must leave it in space. -/
def moved? (f : Frame R) (m : Motion R) : Checked (Frame R) := (f.carried m).inSpace

/-- The frame in the coordinates of another one. -/
def relativeTo (f reference : Frame R) : Frame R := f.moved reference.toMotion.inverse

/-- The frame in the coordinates of another one, if both are in space. -/
def relativeTo? (f reference : Frame R) : Checked (Frame R) := (f.relativeTo reference).inSpace

/-! ### Orientation -/

/-- The orientation as a quaternion.  The part whose square is computed first is one that is
not small: the scalar part if the trace is positive, otherwise that of the largest entry of the
diagonal. -/
def rawQuaternion (f : Frame R) : Quaternion R :=
  let x := f.xaxis
  let y := f.yaxis
  let z := f.zaxis
  let trace := x.x + y.y + z.z
  if 0.0 < trace then
    let s := 0.5 / Scalar.sqrt (trace + 1.0)
    ⟨0.25 / s, (y.z - z.y) * s, (z.x - x.z) * s, (x.y - y.x) * s⟩
  else if y.y < x.x ∧ z.z < x.x then
    let s := 2.0 * Scalar.sqrt (1.0 + x.x - y.y - z.z)
    ⟨(y.z - z.y) / s, 0.25 * s, (y.x + x.y) / s, (z.x + x.z) / s⟩
  else if z.z < y.y then
    let s := 2.0 * Scalar.sqrt (1.0 + y.y - x.x - z.z)
    ⟨(z.x - x.z) / s, (y.x + x.y) / s, 0.25 * s, (z.y + y.z) / s⟩
  else
    let s := 2.0 * Scalar.sqrt (1.0 + z.z - x.x - y.y)
    ⟨(x.y - y.x) / s, (z.x + x.z) / s, (z.y + y.z) / s, 0.25 * s⟩

/-- The orientation as a quaternion whose scalar part is not negative. -/
def quaternion (f : Frame R) : Quaternion R := f.rawQuaternion.canonical

end Frame

namespace Motion

variable {R : Type} [Scalar R]

/-- The motion that takes one frame to another. -/
def between (start goal : Frame R) : Motion R := goal.toMotion * start.toMotion.inverse

end Motion

end SixAxis
