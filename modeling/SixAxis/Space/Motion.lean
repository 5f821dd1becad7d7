import SixAxis.Space.Vec

/-!
# Motions

A motion of space is given by what it does to the three unit vectors and to the origin.  All
motions of the program are rigid — they are built from frames, rotations and displacements — and
`inverse` relies on that: it transposes the linear part.

* `Motion.compose f g` moves by `g` first and by `f` after it;
* `Motion.rotation` — rotation about an axis through a point, by Rodrigues' formula;
* `Motion.rotation?` — the same where the axis and the angle may be out of range.
-/

namespace SixAxis

/-- An affine motion: the images of the unit vectors, and the shift of the origin. -/
structure Motion (R : Type) where
  ex : Vec R
  ey : Vec R
  ez : Vec R
  shift : Vec R
deriving Repr

namespace Motion

variable {R : Type} [Scalar R]

/-- The motion that leaves everything in place. -/
def identity : Motion R := ⟨.unitX, .unitY, .unitZ, .zero⟩

instance : Inhabited (Motion R) := ⟨identity⟩

/-- What the motion does to a direction. -/
def linear (m : Motion R) (v : Vec R) : Vec R :=
  m.ex.scale v.x + m.ey.scale v.y + m.ez.scale v.z

/-- What the motion does to a point. -/
def apply (m : Motion R) (p : Vec R) : Vec R := m.linear p + m.shift

/-- One motion after another: `f` after `g`. -/
def compose (f g : Motion R) : Motion R :=
  ⟨f.linear g.ex, f.linear g.ey, f.linear g.ez, f.apply g.shift⟩

instance : Mul (Motion R) := ⟨compose⟩

/-- The linear part with rows and columns exchanged. -/
def transposed (m : Motion R) : Motion R :=
  ⟨⟨m.ex.x, m.ey.x, m.ez.x⟩, ⟨m.ex.y, m.ey.y, m.ez.y⟩, ⟨m.ex.z, m.ey.z, m.ez.z⟩, .zero⟩

/-- The motion that undoes a rigid one. -/
def inverse (m : Motion R) : Motion R :=
  let back := m.transposed
  { back with shift := (back.linear m.shift).scale (-1.0) }

/-- An angle that sine and cosine are defined for. -/
def checkTurn (angle : R) : Checked Unit :=
  if Scalar.infinite angle then .error (Misuse.unreadable "math domain error") else .ok ()

/-- A shift of all points. -/
def displacement (v : Vec R) : Motion R := ⟨.unitX, .unitY, .unitZ, v⟩

/-- The rotation by an angle in radians about an axis through a point.  About an axis of no
length, directions shrink by the cosine. -/
def rotation (axis : Vec R) (angle : R) (center : Vec R) : Motion R :=
  let a := axis.direction
  let c := Scalar.cos angle
  let s := Scalar.sin angle
  let t := 1.0 - c
  let turn : Motion R :=
    ⟨⟨t * a.x * a.x + c, t * a.x * a.y + s * a.z, t * a.x * a.z - s * a.y⟩,
     ⟨t * a.x * a.y - s * a.z, t * a.y * a.y + c, t * a.y * a.z + s * a.x⟩,
     ⟨t * a.x * a.z + s * a.y, t * a.y * a.z - s * a.x, t * a.z * a.z + c⟩,
     .zero⟩
  { turn with shift := center - turn.linear center }

/-- The rotation by an angle in radians about an axis, as far as the length of the axis and the
cosine of the angle can be computed. -/
def rotation? (axis : Vec R) (angle : R) (center : Vec R) : Checked (Motion R) :=
  if axis.overflows then .error Misuse.overflow
  else do
    checkTurn angle
    return rotation axis angle center

/-- Whether everything is moved to places that there are. -/
def isFinite (m : Motion R) : Bool := [m.ex, m.ey, m.ez, m.shift].all Vec.isFinite

/-- The weight of a moved point in homogeneous coordinates: one, as long as its coordinates are
finite. -/
def weight (p : Vec R) : R := 0.0 * p.x + 0.0 * p.y + 0.0 * p.z + 1.0

omit [Scalar R] in
/-- The three rows of the motion as a matrix, each with its shift behind it. -/
def rows (m : Motion R) : List (List R) :=
  [[m.ex.x, m.ey.x, m.ez.x, m.shift.x],
   [m.ex.y, m.ey.y, m.ez.y, m.shift.y],
   [m.ex.z, m.ey.z, m.ez.z, m.shift.z]]

end Motion

end SixAxis
