import SixAxis.Fault

/-!
# Points and directions

Triples of scalars with the usual products.  A direction is made by dividing by the length;
that has no result for the zero vector, and none where the square of a component is beyond all
scalars, and both are faults.

* `Vec.dot`, `Vec.cross`, `Vec.length`;
* `Vec.unit` — the direction of a vector, or the fault;
* `Vec.direction` — the same, leaving a vector of no length as it is.
-/

namespace SixAxis

/-- A point or direction in space. -/
structure Vec (R : Type) where
  x : R
  y : R
  z : R
deriving Repr, BEq

namespace Vec

variable {R : Type} [Scalar R]

/-- The origin. -/
def zero : Vec R := ⟨0.0, 0.0, 0.0⟩

/-- The directions of the world axes. -/
def unitX : Vec R := ⟨1.0, 0.0, 0.0⟩

@[inherit_doc unitX]
def unitY : Vec R := ⟨0.0, 1.0, 0.0⟩

@[inherit_doc unitX]
def unitZ : Vec R := ⟨0.0, 0.0, 1.0⟩

instance : Inhabited (Vec R) := ⟨zero⟩

instance : Add (Vec R) := ⟨fun a b => ⟨a.x + b.x, a.y + b.y, a.z + b.z⟩⟩

instance : Sub (Vec R) := ⟨fun a b => ⟨a.x - b.x, a.y - b.y, a.z - b.z⟩⟩

/-- A vector stretched by a factor. -/
def scale (a : Vec R) (s : R) : Vec R := ⟨a.x * s, a.y * s, a.z * s⟩

/-- A vector shortened by a divisor. -/
def shrink (a : Vec R) (s : R) : Vec R := ⟨a.x / s, a.y / s, a.z / s⟩

/-- The scalar product. -/
def dot (a b : Vec R) : R := a.x * b.x + a.y * b.y + a.z * b.z

/-- The vector product. -/
def cross (a b : Vec R) : Vec R :=
  ⟨a.y * b.z - a.z * b.y, a.z * b.x - a.x * b.z, a.x * b.y - a.y * b.x⟩

/-- The length of a vector. -/
def length (a : Vec R) : R := Scalar.sqrt (a.dot a)

/-- Whether all components are finite. -/
def isFinite (a : Vec R) : Bool := [a.x, a.y, a.z].all Scalar.isFinite

/-- Whether the square of a finite component is beyond all scalars. -/
def overflows (a : Vec R) : Bool :=
  [a.x, a.y, a.z].any fun c => Scalar.infinite (c * c) && !Scalar.infinite c

/-- The direction of a vector. -/
def unit (a : Vec R) : Checked (Vec R) :=
  if a.overflows then .error Misuse.overflow
  else if a.length == 0.0 then .error (Misuse.zeroDivisor none)
  else .ok (a.shrink a.length)

/-- The direction of a vector; one without length is left as it is. -/
def direction (a : Vec R) : Vec R := if a.length == 0.0 then a else a.shrink a.length

omit [Scalar R] in
/-- The components in order. -/
def toList (a : Vec R) : List R := [a.x, a.y, a.z]

end Vec

end SixAxis
