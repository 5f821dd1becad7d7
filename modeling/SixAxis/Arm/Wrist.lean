import SixAxis.Arm.Robot

/-!
# The spherical wrist

The last three joints turn about axes through one point: the fourth and the sixth in line with
each other at home, the fifth at right angles to both.  In a basis with the fourth axis first and
the fifth one second, a turn of the wrist is a product of turns about the first, the second and
again the first direction, and these three angles are read off its matrix.

* `Wrist.decompose` — the two triples of angles of a turn, the first one with a second angle that
  is not negative;
* `Wrist.angles` — the same for the wrist of a robot.
-/

namespace SixAxis

/-- Lengths and sines below this count as zero. -/
def epsilon {R : Type} [Scalar R] : R := 0.000000001

/-- The values of joints four, five and six, in radians. -/
structure WristAngles (R : Type) where
  first : R
  second : R
  third : R
deriving Repr

namespace Wrist

variable {R : Type} [Scalar R]

/-- The two triples of angles whose turns about the first, second and first direction compose to
a linear part.  Where the first direction stays in line with itself only a sum or a difference of
the outer angles is determined, and the first angle is kept at the reference. -/
def decompose (m : Motion R) (reference : R) : WristAngles R × WristAngles R :=
  let sine := Scalar.sqrt (m.ey.x * m.ey.x + m.ez.x * m.ez.x)
  if sine < epsilon then
    let phi := Scalar.atan2 m.ey.z m.ey.y
    if 0.0 < m.ex.x then
      (⟨reference, 0.0, phi - reference⟩, ⟨reference, 0.0, phi - reference⟩)
    else
      (⟨reference, Scalar.pi, reference - phi⟩, ⟨reference, -Scalar.pi, reference - phi⟩)
  else
    let b := Scalar.atan2 sine m.ex.x
    let a := Scalar.atan2 m.ex.y (-m.ex.z)
    let c := Scalar.atan2 m.ey.x m.ez.x
    (⟨a, b, c⟩, ⟨a + Scalar.pi, -b, c + Scalar.pi⟩)

/-- A vector divided by its length. -/
def normalized (v : Vec R) : Vec R := v.shrink v.length

/-- The basis of a wrist: the fourth axis, the part of the fifth one at right angles to it, and
the direction across both. -/
def basis (fourth fifth : Vec R) : Motion R :=
  let e1 := fourth
  let e2 := normalized (fifth - e1.scale (fifth.dot e1))
  ⟨e1, e2, e1.cross e2, .zero⟩

/-- The angles of joints four, five and six that turn the wrist of a robot by the linear part of a
motion, with a second angle that is not negative and with one that is not positive. -/
def angles (r : Robot R) (turn : Motion R) (reference : R) : WristAngles R × WristAngles R :=
  let fourth := normalized (r.jointFrames.get Joint.fourth).zaxis
  let fifth := normalized (r.jointFrames.get Joint.fifth).zaxis
  let sixth := normalized (r.jointFrames.get Joint.sixth).zaxis
  let basis := basis fourth fifth
  let (u, v) := decompose (basis.transposed * { turn with shift := .zero } * basis) reference
  let sign : R := if 0.0 ≤ sixth.dot fourth then 1.0 else -1.0
  let withSign (w : WristAngles R) : WristAngles R := { w with third := sign * w.third }
  (withSign u, withSign v)

end Wrist

end SixAxis
