import SixAxis.Space.Motion

/-!
# Meshes

Links, tools and axes have a shape, which rides along when they move.  Only the corners of a
shape are kept.
-/

namespace SixAxis

/-- The corners of a solid, in order. -/
structure Mesh (R : Type) where
  vertices : List (Vec R)
deriving Repr, Inhabited

namespace Mesh

variable {R : Type}

/-- A solid that is not modelled. -/
def empty : Mesh R := ⟨[]⟩

/-- A solid moved in space. -/
def moved [Scalar R] (mesh : Mesh R) (m : Motion R) : Mesh R :=
  ⟨mesh.vertices.map fun p => (m.apply p).shrink (Motion.weight p)⟩

end Mesh

end SixAxis
