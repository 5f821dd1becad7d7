import SixAxis.Arm.Wrist

/-!
# The first three joints

The wrist centre — where the axes of the last three joints meet — is placed by the first three.
Joint one turns the arm plane toward it, or away from it.  In the plane, joints two and three are
a chain of two rods, the upper arm and the forearm, and the law of cosines gives the two positions
of the elbow.

* `ArmPlane` — what of the home position the computation needs;
* `ArmPlane.turnOfBase` — the angle of joint one;
* `ArmPlane.elbowAngle?` — the angle at the shoulder between the upper arm and the wrist centre,
  and whether the rods reach it;
* `ArmPlane.turnsOfArm` — the angles of joints two and three.
-/

namespace SixAxis

/-- A vector in the arm plane. -/
structure Flat (R : Type) where
  u : R
  v : R
deriving Repr

namespace Flat

variable {R : Type} [Scalar R]

instance : Sub (Flat R) := ⟨fun a b => ⟨a.u - b.u, a.v - b.v⟩⟩

/-- The length of a vector in the plane. -/
def length (a : Flat R) : R := Scalar.sqrt (a.u * a.u + a.v * a.v)

/-- The direction of a vector in the plane, in radians. -/
def angle (a : Flat R) : R := Scalar.atan2 a.v a.u

/-- The vector of a length and a direction. -/
def polar (length angle : R) : Flat R := ⟨length * Scalar.cos angle, length * Scalar.sin angle⟩

end Flat

/-- How far the cosine of an angle may be above one for a point to count as within reach. -/
def reachTolerance {R : Type} [Scalar R] : R := 0.000001

/-- What the first three joints of an arm need of its home position. -/
structure ArmPlane (R : Type) where
  /-- The axis of joint one. -/
  origin : Vec R
  axis : Vec R
  /-- The directions across joint one: toward the wrist centre, and to its side. -/
  forward : Vec R
  side : Vec R
  /-- The origin of joint two. -/
  shoulder : Vec R
  /-- The directions that span the arm plane. -/
  along : Vec R
  across : Vec R
  upperArm : Flat R
  forearm : Flat R
  wristCenter : Vec R

namespace ArmPlane

variable {R : Type} [Scalar R]

/-- The part of a vector at right angles to a direction. -/
def partAcross (direction v : Vec R) : Vec R := v - direction.scale (v.dot direction)

/-- A vector of the arm plane in its two directions. -/
def flatten (along across v : Vec R) : Flat R := ⟨v.dot along, v.dot across⟩

/-- The arm plane of a robot at home. -/
def ofRobot (r : Robot R) : ArmPlane R :=
  let origin := (r.jointFrames.get Joint.first).point
  let axis := Wrist.normalized (r.jointFrames.get Joint.first).zaxis
  let shoulder := (r.jointFrames.get Joint.second).point
  let pitch := Wrist.normalized (r.jointFrames.get Joint.second).zaxis
  let elbow := (r.jointFrames.get Joint.third).point
  let wristCenter := (r.jointFrames.get Joint.fifth).point
  let toward := partAcross axis (wristCenter - origin)
  let forward := Wrist.normalized <|
    if toward.length < epsilon then
      partAcross axis (Wrist.normalized (r.jointFrames.get Joint.second).xaxis)
    else toward
  let along := Wrist.normalized (partAcross pitch axis)
  let across := pitch.cross along
  { origin := origin
    axis := axis
    forward := forward
    side := axis.cross forward
    shoulder := shoulder
    along := along
    across := across
    upperArm := flatten along across (elbow - shoulder)
    forearm := flatten along across (wristCenter - elbow)
    wristCenter := wristCenter }

/-- The angle of joint one that turns the arm plane toward a wrist centre; the reference where the
wrist centre is on the axis. -/
def turnOfBase (p : ArmPlane R) (center : Vec R) (reference : R) : R :=
  let w := partAcross p.axis (center - p.origin)
  if w.length < epsilon then reference else Scalar.atan2 (w.dot p.side) (w.dot p.forward)

/-- The wrist centre seen from the shoulder, in the arm plane, after joint one is undone. -/
def reachedFrom (p : ArmPlane R) (undo : Motion R) (center : Vec R) : Flat R :=
  flatten p.along p.across (undo.apply center - p.shoulder)

/-- The cosine of the angle at the shoulder between the upper arm and the wrist centre. -/
def shoulderCosine (p : ArmPlane R) (reach : R) : R :=
  let upper := p.upperArm.length
  let fore := p.forearm.length
  if reach < epsilon then 1.0
  else (upper * upper + reach * reach - fore * fore) / (2.0 * upper * reach)

/-- Whether the cosine divides by zero. -/
def isDegenerate (p : ArmPlane R) (reach : R) : Bool :=
  !decide (reach < epsilon) && 2.0 * p.upperArm.length * reach == 0.0

/-- Whether an angle with this cosine exists, up to the tolerance. -/
def isReachable (cosine : R) : Bool := decide (Scalar.abs cosine ≤ 1.0 + reachTolerance)

/-- The angle at the shoulder, the cosine moved into its range. -/
def shoulderAngle (cosine : R) : R :=
  Scalar.acos (Scalar.smaller 1.0 (Scalar.larger (-1.0) cosine))

/-- The angles of joints two and three that bring the wrist centre to `w`, for the elbow on the
side that `sign` says. -/
def turnsOfArm (p : ArmPlane R) (w : Flat R) (beta sign : R) : R × R :=
  let toElbow := w.angle + sign * beta
  let second := toElbow - p.upperArm.angle
  let elbow := Flat.polar p.upperArm.length toElbow
  let third := (w - elbow).angle - p.forearm.angle - second
  (second, third)

end ArmPlane

end SixAxis
