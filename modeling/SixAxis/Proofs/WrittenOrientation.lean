import SixAxis.Proofs.CheckedSteps
import SixAxis.Proofs.LinkChain
import Mathlib.Algebra.Quaternion
import Mathlib.Tactic

/-!
# Orientations as quaternions

The products of the parts of a quaternion are linear in the entries of its rotation matrix, and any
row of them determines the parts up to their common sign.  An orientation is written from the row of
a part that is not small: of the scalar part if the trace is positive, and else of the greatest
entry of the diagonal, where ties do not matter.  So no root is taken of a negative number and
nothing is divided by zero, at half turns as well.

* `Frame.products` — four times the products of the parts, in a symmetric matrix, and
  `Frame.products_mul` — **it has rank one**;
* `Frame.rawQuaternion_eq_ofRow` — an orientation is written from one row of it, and
  `Frame.one_le_products_leading` — **which is not near zero**;
* `Frame.quaternion?` — an orientation, written with every root and every divisor checked;
* `Quaternion.Orients` — the quaternions of a frame;
* `Frame.quaternion_isWritten` — **a frame is read back from its quaternion**.
-/

namespace SixAxis

attribute [ext] Quaternion

/-! ### Products of the parts -/

namespace Quaternion

/-- The parts by their numbers. -/
def parts (q : Quaternion ℝ) : Fin 4 → ℝ := ![q.w, q.x, q.y, q.z]

end Quaternion

namespace Frame

/-- Four times the products of the parts of a quaternion of the frame. -/
noncomputable def products (f : Frame ℝ) : Matrix (Fin 4) (Fin 4) ℝ :=
  let x := f.xaxis
  let y := f.yaxis
  let z := f.zaxis
  !![1 + x.x + y.y + z.z, y.z - z.y, z.x - x.z, x.y - y.x;
     y.z - z.y, 1 + x.x - y.y - z.z, y.x + x.y, z.x + x.z;
     z.x - x.z, y.x + x.y, 1 + y.y - x.x - z.z, z.y + y.z;
     x.y - y.x, z.x + x.z, z.y + y.z, 1 + z.z - x.x - y.y]

/-- **The products have rank one**, as far as they are those of an orthonormal frame: identities of
polynomials in six components, up to the three relations between these. -/
theorem products_mul {f : Frame ℝ} (h : f.IsOrthonormal) (i j k : Fin 4) :
    f.products i j * f.products i k = f.products i i * f.products j k := by
  obtain ⟨p, ⟨a, b, c⟩, ⟨d, e, g⟩⟩ := f
  have hx : a * a + b * b + c * c = 1 := h.xaxis_unit
  have hy : d * d + e * e + g * g = 1 := h.yaxis_unit
  have hxy : a * d + b * e + c * g = 0 := h.square
  have hz : zaxis ⟨p, ⟨a, b, c⟩, ⟨d, e, g⟩⟩ = ⟨b * g - c * e, c * d - a * g, a * e - b * d⟩ := rfl
  simp only [products, hz]
  clear h hz
  fin_cases i <;> fin_cases j <;> fin_cases k <;> simp <;> grind

end Frame

/-! ### The row that an orientation is written from -/

/-- A square root, which a negative number does not have. -/
noncomputable def checkedRoot (x : ℝ) : Checked ℝ :=
  if x < 0 then .error (Misuse.unreadable "math domain error") else .ok (Real.sqrt x)

/-- A quotient, unless the divisor is zero. -/
noncomputable def checkedQuotient (x y : ℝ) : Checked ℝ :=
  if y = 0 then .error (Misuse.zeroDivisor none) else .ok (x / y)

section Large

variable {k : ℝ}

theorem root_pos (h : 1 ≤ k) : 0 < Real.sqrt k := Real.sqrt_pos.2 (by linarith)

theorem checkedRoot_of_large (h : 1 ≤ k) : checkedRoot k = .ok (Real.sqrt k) :=
  if_neg (by linarith)

theorem checkedQuotient_of_pos {y : ℝ} (x : ℝ) (h : 0 < y) : checkedQuotient x y = .ok (x / y) :=
  if_neg h.ne'

theorem checkedQuotient_root (h : 1 ≤ k) (a : ℝ) :
    checkedQuotient a (2 * Real.sqrt k) = .ok (a / (2 * Real.sqrt k)) :=
  checkedQuotient_of_pos a (mul_pos two_pos (root_pos h))

theorem quarter_mul_root (h : 1 ≤ k) : 0.25 * (2 * Real.sqrt k) = k / (2 * Real.sqrt k) := by
  have hsq : Real.sqrt k * Real.sqrt k = k := Real.mul_self_sqrt (by linarith)
  rw [eq_div_iff (mul_pos two_pos (root_pos h)).ne']
  linear_combination hsq

theorem quarter_div_root (h : 1 ≤ k) : 0.25 / (0.5 / Real.sqrt k) = k / (2 * Real.sqrt k) := by
  rw [← quarter_mul_root h, div_div_eq_mul_div, div_eq_iff (by norm_num)]
  ring

theorem mul_half_root (a k : ℝ) : a * (0.5 / Real.sqrt k) = a / (2 * Real.sqrt k) := by
  rw [show (0.5 : ℝ) = 1 / 2 by norm_num]
  ring

end Large

namespace Frame

variable {f : Frame ℝ}

/-- The orientation as a quaternion, with checks. -/
noncomputable def rawQuaternion? (f : Frame ℝ) : Checked (Quaternion ℝ) :=
  let x := f.xaxis
  let y := f.yaxis
  let z := f.zaxis
  let trace := x.x + y.y + z.z
  if 0 < trace then do
    let s ← checkedQuotient 0.5 (← checkedRoot (trace + 1))
    return ⟨← checkedQuotient 0.25 s, (y.z - z.y) * s, (z.x - x.z) * s, (x.y - y.x) * s⟩
  else if y.y < x.x ∧ z.z < x.x then do
    let s := 2 * (← checkedRoot (1 + x.x - y.y - z.z))
    return ⟨← checkedQuotient (y.z - z.y) s, 0.25 * s, ← checkedQuotient (y.x + x.y) s,
      ← checkedQuotient (z.x + x.z) s⟩
  else if z.z < y.y then do
    let s := 2 * (← checkedRoot (1 + y.y - x.x - z.z))
    return ⟨← checkedQuotient (z.x - x.z) s, ← checkedQuotient (y.x + x.y) s, 0.25 * s,
      ← checkedQuotient (z.y + y.z) s⟩
  else do
    let s := 2 * (← checkedRoot (1 + z.z - x.x - y.y))
    return ⟨← checkedQuotient (x.y - y.x) s, ← checkedQuotient (z.x + x.z) s,
      ← checkedQuotient (z.y + y.z) s, 0.25 * s⟩

/-- The orientation as a quaternion whose scalar part is not negative, with checks. -/
noncomputable def quaternion? (f : Frame ℝ) : Checked (Quaternion ℝ) := do
  return (← f.rawQuaternion?).canonical

/-- The part that is computed first. -/
noncomputable def leading (f : Frame ℝ) : Fin 4 :=
  if 0 < f.xaxis.x + f.yaxis.y + f.zaxis.z then 0
  else if f.yaxis.y < f.xaxis.x ∧ f.zaxis.z < f.xaxis.x then 1
  else if f.zaxis.z < f.yaxis.y then 2
  else 3

/-- **The square of the part that is computed first is not near zero.** -/
theorem one_le_products_leading (f : Frame ℝ) : 1 ≤ f.products f.leading f.leading := by
  rw [leading]
  split
  · show 1 ≤ 1 + f.xaxis.x + f.yaxis.y + f.zaxis.z
    linarith
  · split
    · show 1 ≤ 1 + f.xaxis.x - f.yaxis.y - f.zaxis.z
      linarith
    · rename_i hx
      rw [not_and_or, not_lt, not_lt] at hx
      split
      · show 1 ≤ 1 + f.yaxis.y - f.xaxis.x - f.zaxis.z
        rcases hx with hx | hx <;> linarith
      · show 1 ≤ 1 + f.zaxis.z - f.xaxis.x - f.yaxis.y
        rcases hx with hx | hx <;> linarith

/-- The quaternion of a row of the products. -/
noncomputable def ofRow (f : Frame ℝ) (i : Fin 4) : Quaternion ℝ :=
  let s := 2 * Real.sqrt (f.products i i)
  ⟨f.products i 0 / s, f.products i 1 / s, f.products i 2 / s, f.products i 3 / s⟩

theorem trace_add_one (f : Frame ℝ) :
    f.xaxis.x + f.yaxis.y + f.zaxis.z + 1 = f.products 0 0 := by
  show _ = 1 + f.xaxis.x + f.yaxis.y + f.zaxis.z
  ring

/-- **An orientation is written from one row of the products.** -/
theorem rawQuaternion_eq_ofRow (f : Frame ℝ) : f.rawQuaternion = f.ofRow f.leading := by
  have hlarge := f.one_le_products_leading
  rw [leading] at hlarge ⊢
  simp only [rawQuaternion, Scalar.literal_zero, Scalar.literal_one, Scalar.literal_two,
    trace_add_one]
  split_ifs at hlarge ⊢ with htrace hx hy
  · exact Quaternion.ext (quarter_div_root hlarge) (mul_half_root _ _) (mul_half_root _ _)
      (mul_half_root _ _)
  · exact Quaternion.ext rfl (quarter_mul_root hlarge) rfl rfl
  · exact Quaternion.ext rfl rfl (quarter_mul_root hlarge) rfl
  · exact Quaternion.ext rfl rfl rfl (quarter_mul_root hlarge)

/-- **No check fails**, as the square of the part that is computed first is not near zero. -/
theorem rawQuaternion?_eq (f : Frame ℝ) : f.rawQuaternion? = .ok f.rawQuaternion := by
  have hlarge := f.one_le_products_leading
  rw [rawQuaternion_eq_ofRow, rawQuaternion?]
  rw [leading] at hlarge ⊢
  simp only [trace_add_one]
  split_ifs at hlarge ⊢ with htrace hx hy
  · have hhalf : 0 < 0.5 / Real.sqrt (f.products 0 0) := div_pos (by norm_num) (root_pos hlarge)
    refine bind_eq_ok.2 ⟨_, checkedRoot_of_large hlarge, bind_eq_ok.2
      ⟨_, checkedQuotient_of_pos _ (root_pos hlarge), bind_eq_ok.2
        ⟨_, checkedQuotient_of_pos _ hhalf, ?_⟩⟩⟩
    exact congrArg Except.ok (Quaternion.ext (quarter_div_root hlarge) (mul_half_root _ _)
      (mul_half_root _ _) (mul_half_root _ _))
  · refine bind_eq_ok.2 ⟨_, checkedRoot_of_large hlarge, bind_eq_ok.2
      ⟨_, checkedQuotient_root hlarge _, bind_eq_ok.2
        ⟨_, checkedQuotient_root hlarge _, bind_eq_ok.2
          ⟨_, checkedQuotient_root hlarge _, ?_⟩⟩⟩⟩
    exact congrArg Except.ok (Quaternion.ext rfl (quarter_mul_root hlarge) rfl rfl)
  · refine bind_eq_ok.2 ⟨_, checkedRoot_of_large hlarge, bind_eq_ok.2
      ⟨_, checkedQuotient_root hlarge _, bind_eq_ok.2
        ⟨_, checkedQuotient_root hlarge _, bind_eq_ok.2
          ⟨_, checkedQuotient_root hlarge _, ?_⟩⟩⟩⟩
    exact congrArg Except.ok (Quaternion.ext rfl rfl (quarter_mul_root hlarge) rfl)
  · refine bind_eq_ok.2 ⟨_, checkedRoot_of_large hlarge, bind_eq_ok.2
      ⟨_, checkedQuotient_root hlarge _, bind_eq_ok.2
        ⟨_, checkedQuotient_root hlarge _, bind_eq_ok.2
          ⟨_, checkedQuotient_root hlarge _, ?_⟩⟩⟩⟩
    exact congrArg Except.ok (Quaternion.ext rfl rfl rfl (quarter_mul_root hlarge))

theorem parts_ofRow (f : Frame ℝ) (i j : Fin 4) :
    (f.ofRow i).parts j = f.products i j / (2 * Real.sqrt (f.products i i)) := by
  fin_cases j <;> rfl

end Frame

/-! ### Quaternions of a frame -/

namespace Quaternion

variable {q : Quaternion ℝ} {f : Frame ℝ}

/-- Whether the products of the parts are those of a frame. -/
def Orients (q : Quaternion ℝ) (f : Frame ℝ) : Prop :=
  ∀ i j, 4 * (q.parts i * q.parts j) = f.products i j

theorem orients_ofRow (h : f.IsOrthonormal) {i : Fin 4} (hi : 1 ≤ f.products i i) :
    (f.ofRow i).Orients f := by
  intro j k
  have hsq : Real.sqrt (f.products i i) * Real.sqrt (f.products i i) = f.products i i :=
    Real.mul_self_sqrt (by linarith)
  have hroot := (root_pos hi).ne'
  rw [Frame.parts_ofRow, Frame.parts_ofRow, div_mul_div_comm, Frame.products_mul h]
  field_simp
  linear_combination -4 * f.products j k * hsq

theorem Orients.negate (h : q.Orients f) : q.negate.Orients f := by
  have hparts (i : Fin 4) : q.negate.parts i = -q.parts i := by fin_cases i <;> rfl
  intro i j
  rw [hparts, hparts, neg_mul_neg]
  exact h i j

theorem Orients.canonical (h : q.Orients f) : q.canonical.Orients f := by
  rw [Quaternion.canonical]
  split
  · exact h.negate
  · exact h

/-- The scalar part of the quaternion that is written is not negative. -/
theorem canonical_w_nonneg (q : Quaternion ℝ) : 0 ≤ q.canonical.w := by
  rw [canonical, Scalar.literal_zero]
  split
  · rename_i hnegative
    exact (neg_pos.2 hnegative).le
  · rename_i hnonneg
    exact not_lt.1 hnonneg

/-- The rotation of a quaternion: the images of the unit vectors are the columns of its matrix. -/
noncomputable def rotation (q : Quaternion ℝ) : Motion ℝ where
  ex := ⟨1 - 2 * (q.y * q.y + q.z * q.z), 2 * (q.x * q.y + q.z * q.w), 2 * (q.x * q.z - q.y * q.w)⟩
  ey := ⟨2 * (q.x * q.y - q.z * q.w), 1 - 2 * (q.x * q.x + q.z * q.z), 2 * (q.y * q.z + q.x * q.w)⟩
  ez := ⟨2 * (q.x * q.z + q.y * q.w), 2 * (q.y * q.z - q.x * q.w), 1 - 2 * (q.x * q.x + q.y * q.y)⟩
  shift := .zero

/-- A quaternion among Hamilton's. -/
def hamilton (q : Quaternion ℝ) : QuaternionAlgebra ℝ (-1) 0 (-1) := ⟨q.w, q.x, q.y, q.z⟩

end Quaternion

/-- A vector among Hamilton's quaternions. -/
def Vec.hamilton (v : Vec ℝ) : QuaternionAlgebra ℝ (-1) 0 (-1) := ⟨0, v.x, v.y, v.z⟩

namespace Quaternion

variable {q : Quaternion ℝ} {f : Frame ℝ}

/-- The rotation of a quaternion of length one is conjugation by it. -/
theorem hamilton_linear (h : q.squaredNorm = 1) (v : Vec ℝ) :
    (q.rotation.linear v).hamilton = q.hamilton * v.hamilton * star q.hamilton := by
  have hnorm : q.w * q.w + q.x * q.x + q.y * q.y + q.z * q.z = 1 := h
  ext <;> simp [hamilton, Vec.hamilton, rotation, Motion.linear]
  · ring
  · linear_combination (-v.x) * hnorm
  · linear_combination (-v.y) * hnorm
  · linear_combination (-v.z) * hnorm

theorem Orients.squaredNorm (h : q.Orients f) : q.squaredNorm = 1 := by
  have hw : 4 * (q.w * q.w) = 1 + f.xaxis.x + f.yaxis.y + f.zaxis.z := h 0 0
  have hx : 4 * (q.x * q.x) = 1 + f.xaxis.x - f.yaxis.y - f.zaxis.z := h 1 1
  have hy : 4 * (q.y * q.y) = 1 + f.yaxis.y - f.xaxis.x - f.zaxis.z := h 2 2
  have hz : 4 * (q.z * q.z) = 1 + f.zaxis.z - f.xaxis.x - f.yaxis.y := h 3 3
  rw [Quaternion.squaredNorm]
  linarith

theorem Orients.rotation (h : q.Orients f) :
    q.rotation = ⟨f.xaxis, f.yaxis, f.zaxis, .zero⟩ := by
  have hx : 4 * (q.x * q.x) = 1 + f.xaxis.x - f.yaxis.y - f.zaxis.z := h 1 1
  have hy : 4 * (q.y * q.y) = 1 + f.yaxis.y - f.xaxis.x - f.zaxis.z := h 2 2
  have hz : 4 * (q.z * q.z) = 1 + f.zaxis.z - f.xaxis.x - f.yaxis.y := h 3 3
  have hxw : 4 * (q.x * q.w) = f.yaxis.z - f.zaxis.y := h 1 0
  have hyw : 4 * (q.y * q.w) = f.zaxis.x - f.xaxis.z := h 2 0
  have hzw : 4 * (q.z * q.w) = f.xaxis.y - f.yaxis.x := h 3 0
  have hxy : 4 * (q.x * q.y) = f.yaxis.x + f.xaxis.y := h 1 2
  have hxz : 4 * (q.x * q.z) = f.zaxis.x + f.xaxis.z := h 1 3
  have hyz : 4 * (q.y * q.z) = f.zaxis.y + f.yaxis.z := h 2 3
  rw [Quaternion.rotation]
  congr 1 <;> ext <;> dsimp only <;> linarith

end Quaternion

/-! ### Frames that are read back -/

/-- A vector of length one is its own direction. -/
theorem Vec.unit_of_unit {v : Vec ℝ} (h : v.dot v = 1) : v.unit = .ok v := by
  have hfinite : v.overflows = false := by
    simp [overflows]
  rw [unit, if_neg (Bool.eq_false_iff.1 hfinite), length_unit h, shrink_one, if_neg]
  simp

theorem Vec.eq_shrink_of_unit {v u : Vec ℝ} (h : v.unit = .ok u) :
    v.length ≠ 0 ∧ u = v.shrink v.length := by
  rw [unit] at h
  split at h
  · cases h
  · split at h
    · cases h
    · rename_i hlength
      refine ⟨fun hzero => hlength ?_, (Except.ok.inj h).symm⟩
      simp [hzero]

/-- A direction has length one. -/
theorem Vec.dot_of_unit {v u : Vec ℝ} (h : v.unit = .ok u) : u.dot u = 1 := by
  obtain ⟨hlength, rfl⟩ := eq_shrink_of_unit h
  exact dot_shrink_length hlength

/-- The frames that are built, of which every constructor ends in this one, are orthonormal. -/
theorem Frame.isOrthonormal_of_ofAxes {point x y : Vec ℝ} {f : Frame ℝ}
    (h : ofAxes point x y = .ok f) : f.IsOrthonormal := by
  obtain ⟨u, hu, h⟩ := bind_eq_ok.1 h
  obtain ⟨v, hv, h⟩ := bind_eq_ok.1 h
  obtain ⟨w, hw, h⟩ := bind_eq_ok.1 h
  cases h
  have hunit := Vec.dot_of_unit hu
  have hnormal := Vec.dot_of_unit hw
  have hsquare : w.dot u = 0 := by
    rw [(Vec.eq_shrink_of_unit hw).2, Vec.dot_comm, Vec.dot_shrink, Vec.dot_cross_self, zero_div]
  constructor
  · exact hunit
  · show (w.cross u).dot (w.cross u) = 1
    rw [Vec.dot_cross_dot, hnormal, hunit, hsquare]
    ring
  · exact Vec.dot_cross_right w u

/-- The directions of an orthonormal frame stay what they are. -/
theorem Frame.ofAxes_of_isOrthonormal {f : Frame ℝ} (h : f.IsOrthonormal) :
    ofAxes f.point f.xaxis f.yaxis = .ok f := by
  refine bind_eq_ok.2 ⟨_, Vec.unit_of_unit h.xaxis_unit, bind_eq_ok.2
    ⟨_, Vec.unit_of_unit h.yaxis_unit, bind_eq_ok.2 ⟨_, Vec.unit_of_unit h.zaxis_unit, ?_⟩⟩⟩
  exact congrArg (fun y => Except.ok (⟨f.point, f.xaxis, y⟩ : Frame ℝ))
    h.toMotion_isRigid.ez_cross_ex

/-- **A frame is read back from any of its quaternions.** -/
theorem Quaternion.Orients.ofQuaternion {q : Quaternion ℝ} {f : Frame ℝ} (h : q.Orients f)
    (hf : f.IsOrthonormal) : Frame.ofQuaternion q f.point = .ok f := by
  have hcolumns := h.rotation
  rw [Quaternion.rotation, Motion.mk.injEq] at hcolumns
  obtain ⟨hx, hy, -⟩ := hcolumns
  have hoverflows : q.overflows = false := by
    simp [Quaternion.overflows, Quaternion.toList]
  have hlarge :
      ¬ (decide ((1 : ℝ) < Frame.leastSquaredNorm) || !Scalar.isFinite (1 : ℝ)) = true := by
    have hleast : ¬ (1 : ℝ) < Frame.leastSquaredNorm := by
      norm_num [Frame.leastSquaredNorm]
    have hfinite : Scalar.isFinite (1 : ℝ) = true := by
      rw [Scalar.isFinite, beq_self_eq_true]
      rfl
    rw [hfinite, decide_eq_false hleast]
    exact Bool.false_ne_true
  rw [Frame.ofQuaternion, hoverflows, h.squaredNorm, ← Frame.ofAxes_of_isOrthonormal hf, ← hx,
    ← hy]
  simp only [if_neg hlarge, if_neg Bool.false_ne_true, Scalar.literal_one, Scalar.literal_two,
    div_one, mul_comm _ (2 : ℝ)]

namespace Frame

/-- What is written of a frame for its orientation. -/
structure IsWrittenAs (f : Frame ℝ) (q : Quaternion ℝ) : Prop where
  /-- No negative number has a root taken, and nothing is divided by zero. -/
  checked : f.quaternion? = .ok q
  norm : q.squaredNorm = 1
  scalar_nonneg : 0 ≤ q.w
  /-- The columns of the rotation matrix are the directions of the frame, -/
  columns : q.rotation = ⟨f.xaxis, f.yaxis, f.zaxis, .zero⟩
  /-- and the rotation is that of Hamilton's quaternions. -/
  turns : ∀ v : Vec ℝ,
    (f.toMotion.linear v).hamilton = q.hamilton * v.hamilton * star q.hamilton
  readBack : ofQuaternion q f.point = .ok f

/-- **A frame is read back from its quaternion**, which is written without a fault. -/
theorem quaternion_isWritten {f : Frame ℝ} (h : f.IsOrthonormal) : f.IsWrittenAs f.quaternion := by
  have horients : f.quaternion.Orients f := by
    rw [quaternion, rawQuaternion_eq_ofRow]
    exact (Quaternion.orients_ofRow h f.one_le_products_leading).canonical
  refine ⟨bind_eq_ok.2 ⟨_, f.rawQuaternion?_eq, rfl⟩, horients.squaredNorm,
    f.rawQuaternion.canonical_w_nonneg, horients.rotation, fun v => ?_, horients.ofQuaternion h⟩
  rw [← Quaternion.hamilton_linear horients.squaredNorm, horients.rotation]
  rfl

end Frame

/-- A half turn that swaps the first two directions: no entry of the diagonal is the greatest. -/
noncomputable def swappedFrame : Frame ℝ := ⟨.zero, .unitY, .unitX⟩

theorem swappedFrame_isWritten :
    swappedFrame.IsOrthonormal ∧ swappedFrame.IsWrittenAs swappedFrame.quaternion := by
  have h : swappedFrame.IsOrthonormal := by
    constructor <;> simp [swappedFrame, Vec.unitX_eq, Vec.unitY_eq, Vec.dot_eq]
  exact ⟨h, Frame.quaternion_isWritten h⟩

end SixAxis
