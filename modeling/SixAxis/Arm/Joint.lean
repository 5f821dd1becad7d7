import SixAxis.Scalar

/-!
# Joints

The six joints of an arm, numbered from its base to its flange.  The first three place the wrist
centre, the last three turn the wrist about it.
-/

namespace SixAxis

/-- A joint of an arm. -/
abbrev Joint := Fin 6

namespace Joint

/-- The joint that turns the arm on its base. -/
abbrev first : Joint := ⟨0, by decide⟩

/-- The shoulder. -/
abbrev second : Joint := ⟨1, by decide⟩

/-- The elbow. -/
abbrev third : Joint := ⟨2, by decide⟩

/-- The joint that turns the forearm. -/
abbrev fourth : Joint := ⟨3, by decide⟩

/-- The joint that bends the wrist. -/
abbrev fifth : Joint := ⟨4, by decide⟩

/-- The joint that turns the flange. -/
abbrev sixth : Joint := ⟨5, by decide⟩

end Joint

end SixAxis
