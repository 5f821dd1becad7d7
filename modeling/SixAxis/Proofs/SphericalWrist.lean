import SixAxis.Proofs.ElbowArm

/-!
# The wrist of a robot in exact arithmetic

The last three joints leave the wrist centre where it is, so their motion is known from its linear
part, and in the basis of the wrist that is a product of turns about the first, the second and again
the first direction.

* `Motion.linearPart` — a motion without its shift;
* `Robot.euler_eq_wristView_iff` — **when the last three joints make a turn about the wrist
  centre**;
* `Robot.angles_eq`, `Robot.euler_angles` — the angles of the solver, by the turn seen from the
  wrist, and that **they compose to it**.
-/

namespace SixAxis

namespace Motion

/-! ### Linear parts of motions -/

/-- A motion without its shift. -/
noncomputable def linearPart (m : Motion ℝ) : Motion ℝ := { m with shift := .zero }

theorem linear_zero (m : Motion ℝ) : m.linear .zero = .zero := by
  rw [Vec.zero_eq]
  ext <;> simp

theorem linearPart_mul (f g : Motion ℝ) : (f * g).linearPart = f.linearPart * g.linearPart := by
  have hshift : f.linearPart.apply Vec.zero = Vec.zero := by
    rw [apply_eq, linear_zero, linearPart, Vec.zero_eq]
    ext <;> simp
  show (⟨f.linear g.ex, f.linear g.ey, f.linear g.ez, Vec.zero⟩ : Motion ℝ) =
    ⟨f.linear g.ex, f.linear g.ey, f.linear g.ez, f.linearPart.apply Vec.zero⟩
  rw [hshift]

theorem linearPart_rotation (n : Vec ℝ) (θ : ℝ) (c : Vec ℝ) :
    (rotation n θ c).linearPart = rotation n θ .zero := by
  have hshift : (rotation n θ .zero).shift = .zero := by
    rw [Vec.zero_eq]
    ext <;> simp [rotation, Vec.zero_eq]
  show _ = (⟨(rotation n θ c).ex, (rotation n θ c).ey, (rotation n θ c).ez,
    (rotation n θ .zero).shift⟩ : Motion ℝ)
  rw [hshift]
  rfl

theorem IsRigid.linearPart {m : Motion ℝ} (h : m.IsRigid) : m.linearPart.IsRigid :=
  ⟨h.ex_unit, h.ey_unit, h.ex_ey, h.ez_eq⟩

/-- Motions that leave the same point in place are known from their linear parts. -/
theorem eq_iff_linearPart_eq {f g : Motion ℝ} {p : Vec ℝ} (hf : f.apply p = p)
    (hg : g.apply p = p) : f = g ↔ f.linearPart = g.linearPart := by
  constructor
  · rintro rfl
    rfl
  · intro heq
    have hlinear (v : Vec ℝ) : f.linear v = g.linear v := congrArg (fun m => m.linear v) heq
    refine ext_apply fun q => ?_
    have hf' := apply_sub_apply f q p
    have hg' := apply_sub_apply g q p
    rw [hf] at hf'
    rw [hg, ← hlinear, ← hf'] at hg'
    simp only [Vec.ext_iff, Vec.sub_x, Vec.sub_y, Vec.sub_z] at hg'
    ext
    · linarith [hg'.1]
    · linarith [hg'.2.1]
    · linarith [hg'.2.2]

/-- A rotation about the opposite direction is one by the opposite angle. -/
theorem rotation_scale_neg_one {n : Vec ℝ} (hn : n.dot n = 1) (θ : ℝ) (c : Vec ℝ) :
    rotation (n.scale (-1)) θ c = rotation n (-θ) c := by
  have hneg : (n.scale (-1)).dot (n.scale (-1)) = 1 := by
    rw [Vec.dot_scale, Vec.dot_comm, Vec.dot_scale, hn]
    ring
  refine ext_apply fun p => ?_
  rw [rotation_apply, rotation_apply, rotation_linear hneg, rotation_linear hn, Real.cos_neg,
    Real.sin_neg]
  ext <;> simp [Vec.dot_eq] <;> ring

end Motion

namespace Robot

variable {r : Robot ℝ}

/-! ### The basis of the wrist -/

/-- A wrist whose fifth axis is at right angles to the fourth one, and whose sixth axis is in line
with it, in the same direction or the opposite one. -/
structure HasSquareWrist (r : Robot ℝ) : Prop where
  fourth_unit : (r.axisOf Joint.fourth).dot (r.axisOf Joint.fourth) = 1
  fifth_unit : (r.axisOf Joint.fifth).dot (r.axisOf Joint.fifth) = 1
  sixth_unit : (r.axisOf Joint.sixth).dot (r.axisOf Joint.sixth) = 1
  fifth_across_fourth : (r.axisOf Joint.fifth).dot (r.axisOf Joint.fourth) = 0
  sixth_along_fourth : (r.axisOf Joint.sixth).cross (r.axisOf Joint.fourth) = .zero

theorem IsElbowArm.hasSquareWrist (h : r.IsElbowArm) : r.HasSquareWrist where
  fourth_unit := axisOf_unit h.toIsExact _
  fifth_unit := axisOf_unit h.toIsExact _
  sixth_unit := axisOf_unit h.toIsExact _
  fifth_across_fourth := h.fifth_across_fourth
  sixth_along_fourth := h.sixth_along_fourth

/-- The basis of the wrist at home. -/
noncomputable def wristBasis (r : Robot ℝ) : Motion ℝ :=
  ⟨r.axisOf Joint.fourth, r.axisOf Joint.fifth,
    (r.axisOf Joint.fourth).cross (r.axisOf Joint.fifth), .zero⟩

theorem wristBasis_isRigid (h : r.HasSquareWrist) : r.wristBasis.IsRigid where
  ex_unit := h.fourth_unit
  ey_unit := h.fifth_unit
  ex_ey := by
    rw [Vec.dot_comm]
    exact h.fifth_across_fourth
  ez_eq := rfl

theorem basis_eq (h : r.HasSquareWrist) :
    Wrist.basis (r.axisOf Joint.fourth) (r.axisOf Joint.fifth) = r.wristBasis := by
  have hpart : r.axisOf Joint.fifth - (r.axisOf Joint.fourth).scale
      ((r.axisOf Joint.fifth).dot (r.axisOf Joint.fourth)) = r.axisOf Joint.fifth := by
    rw [h.fifth_across_fourth]
    ext <;> simp
  simp only [Wrist.basis, hpart, normalized_unit h.fifth_unit]
  rfl

/-- Whether the sixth axis points like the fourth one or against it. -/
noncomputable def outerSign (r : Robot ℝ) : ℝ :=
  if 0 ≤ (r.axisOf Joint.sixth).dot (r.axisOf Joint.fourth) then 1 else -1

theorem outerSign_mul_self (r : Robot ℝ) : r.outerSign * r.outerSign = 1 := by
  rw [outerSign]
  split_ifs <;> norm_num

theorem axisOf_sixth (h : r.HasSquareWrist) :
    r.axisOf Joint.sixth = (r.axisOf Joint.fourth).scale r.outerSign := by
  have h4 := h.fourth_unit
  have h6 := h.sixth_unit
  -- the vector product is zero, so the scalar product is one or minus one
  have hsq := Vec.dot_cross_dot (r.axisOf Joint.sixth) (r.axisOf Joint.fourth)
    (r.axisOf Joint.sixth) (r.axisOf Joint.fourth)
  have hparts := Vec.cross_cross (r.axisOf Joint.fourth) (r.axisOf Joint.sixth)
    (r.axisOf Joint.fourth)
  rw [h.sixth_along_fourth, h4, h6, Vec.dot_comm (r.axisOf Joint.fourth), Vec.zero_eq] at hsq
  rw [h.sixth_along_fourth, h4, Vec.dot_comm (r.axisOf Joint.fourth), Vec.zero_eq] at hparts
  simp only [Vec.dot_eq (⟨0, 0, 0⟩ : Vec ℝ)] at hsq
  have hsign : (r.axisOf Joint.sixth).dot (r.axisOf Joint.fourth) = r.outerSign := by
    rw [outerSign]
    split_ifs with hpos
    · nlinarith
    · nlinarith [not_le.1 hpos]
  rw [hsign] at hparts
  simp only [Vec.ext_iff, Vec.cross_x, Vec.cross_y, Vec.cross_z, Vec.sub_x, Vec.sub_y, Vec.sub_z,
    Vec.scale_x, Vec.scale_y, Vec.scale_z] at hparts ⊢
  exact ⟨by linarith [hparts.1], by linarith [hparts.2.1], by linarith [hparts.2.2]⟩

/-! ### The last three joints -/

theorem homeTurn_linearPart (r : Robot ℝ) (i : Joint) (θ : ℝ) :
    (r.homeTurn i θ).linearPart = Motion.rotation (r.axisOf i) θ .zero :=
  Motion.linearPart_rotation _ _ _

theorem wristBasis_mul_turn (h : r.HasSquareWrist) {n : Vec ℝ} (hn : n.dot n = 1) (θ : ℝ) :
    Motion.rotation (r.wristBasis.linear n) θ .zero * r.wristBasis =
      r.wristBasis * Motion.rotation n θ .zero := by
  have hzero : r.wristBasis.apply .zero = .zero := by
    rw [Motion.apply_eq, Motion.linear_zero, wristBasis, Vec.zero_eq]
    ext <;> simp
  have hcarried := Motion.rotation_mul_of_rigid (wristBasis_isRigid h) hn θ .zero
  rwa [hzero] at hcarried

theorem fourth_mul_wristBasis (h : r.HasSquareWrist) (θ : ℝ) :
    Motion.rotation (r.axisOf Joint.fourth) θ .zero * r.wristBasis =
      r.wristBasis * Wrist.turnX θ := by
  have hx : r.wristBasis.linear .unitX = r.axisOf Joint.fourth := by
    rw [Vec.unitX_eq]
    ext <;> simp [wristBasis]
  rw [← hx]
  exact wristBasis_mul_turn h Wrist.unitX_unit θ

theorem fifth_mul_wristBasis (h : r.HasSquareWrist) (θ : ℝ) :
    Motion.rotation (r.axisOf Joint.fifth) θ .zero * r.wristBasis =
      r.wristBasis * Wrist.turnY θ := by
  have hy : r.wristBasis.linear .unitY = r.axisOf Joint.fifth := by
    rw [Vec.unitY_eq]
    ext <;> simp [wristBasis]
  rw [← hy]
  exact wristBasis_mul_turn h Wrist.unitY_unit θ

theorem sixth_mul_wristBasis (h : r.HasSquareWrist) (θ : ℝ) :
    Motion.rotation (r.axisOf Joint.sixth) θ .zero * r.wristBasis =
      r.wristBasis * Wrist.turnX (r.outerSign * θ) := by
  rw [axisOf_sixth h, ← fourth_mul_wristBasis h, outerSign]
  split_ifs
  · have hone : (r.axisOf Joint.fourth).scale 1 = r.axisOf Joint.fourth := by
      ext <;> simp
    rw [hone, one_mul]
  · rw [Motion.rotation_scale_neg_one h.fourth_unit, neg_one_mul]

/-- The last three joints turn by a product of three turns in the basis of the wrist. -/
theorem wristTurn_linearPart_mul (h : r.HasSquareWrist) (a b c : ℝ) :
    (r.wristTurn a b c).linearPart * r.wristBasis =
      r.wristBasis * Wrist.euler a b (r.outerSign * c) := by
  rw [wristTurn, Motion.linearPart_mul, Motion.linearPart_mul, homeTurn_linearPart,
    homeTurn_linearPart, homeTurn_linearPart, mul_assoc, sixth_mul_wristBasis h, mul_assoc,
    ← mul_assoc _ r.wristBasis, fifth_mul_wristBasis h, ← mul_assoc, ← mul_assoc,
    fourth_mul_wristBasis h, Wrist.euler, mul_assoc, mul_assoc, mul_assoc]

/-- The wrist centre stays where it is when the last three joints turn. -/
theorem wristTurn_apply_wrist (h : r.IsElbowArm) (a b c : ℝ) :
    (r.wristTurn a b c).apply (r.originOf Joint.fifth) = r.originOf Joint.fifth := by
  have hfourth : (r.homeTurn Joint.fourth a).apply (r.originOf Joint.fifth) = _ :=
    Motion.rotation_apply_of_on_axis (axisOf_unit h.toIsExact Joint.fourth) a h.wrist_on_fourth
  have hsixth : (r.homeTurn Joint.sixth c).apply (r.originOf Joint.fifth) = _ :=
    Motion.rotation_apply_of_on_axis (axisOf_unit h.toIsExact Joint.sixth) c h.wrist_on_sixth
  rw [wristTurn, Motion.mul_apply, Motion.mul_apply, hsixth, homeTurn_apply_origin,
    hfourth]

/-! ### Turns seen from the wrist -/

/-- A turn in the basis of the wrist. -/
noncomputable def wristView (r : Robot ℝ) (turn : Motion ℝ) : Motion ℝ :=
  r.wristBasis.inverse * turn.linearPart * r.wristBasis

theorem wristView_isRigid (h : r.HasSquareWrist) {turn : Motion ℝ} (hturn : turn.IsRigid) :
    (r.wristView turn).IsRigid :=
  ((wristBasis_isRigid h).inverse.mul hturn.linearPart).mul (wristBasis_isRigid h)

theorem wristBasis_inverse (r : Robot ℝ) : r.wristBasis.inverse = r.wristBasis.transposed := by
  have hshift : r.wristBasis.inverse.shift = .zero := by
    rw [Motion.IsRigid.inverse_shift, wristBasis, Motion.linear_zero, Vec.zero_eq]
    ext <;> simp
  show ({ r.wristBasis.transposed with shift := r.wristBasis.inverse.shift } : Motion ℝ) = _
  rw [hshift]
  rfl

theorem wristView_shift (r : Robot ℝ) (turn : Motion ℝ) : (r.wristView turn).shift = .zero := by
  have hpart : r.wristView turn = (r.wristView turn).linearPart := by
    have hbasis : r.wristBasis = r.wristBasis.linearPart := rfl
    have hback : r.wristBasis.inverse = r.wristBasis.inverse.linearPart := by
      rw [wristBasis_inverse]
      rfl
    have hturn : turn.linearPart.linearPart = turn.linearPart := rfl
    conv_lhs => rw [wristView, hback, hbasis]
    conv_rhs => rw [wristView, Motion.linearPart_mul, Motion.linearPart_mul, hturn]
    rw [← hbasis]
  rw [hpart]
  rfl

/-- **When the last three joints turn directions like a motion**: their angles compose to the motion
seen from the wrist. -/
theorem euler_eq_wristView_iff_linearPart (h : r.HasSquareWrist) (turn : Motion ℝ) (a b c : ℝ) :
    Wrist.euler a b (r.outerSign * c) = r.wristView turn ↔
      (r.wristTurn a b c).linearPart = turn.linearPart := by
  have hbasis := wristBasis_isRigid h
  rw [wristView, mul_assoc, eq_comm, hbasis.inverse_mul_eq_iff, ← wristTurn_linearPart_mul h]
  constructor
  · intro heq
    have hcancel := congrArg (· * r.wristBasis.inverse) heq
    simp only [mul_assoc, hbasis.mul_inverse, mul_one] at hcancel
    exact hcancel.symm
  · intro heq
    rw [heq]

/-- **When the last three joints make a turn about the wrist centre.** -/
theorem euler_eq_wristView_iff (h : r.IsElbowArm) {turn : Motion ℝ}
    (hfix : turn.apply (r.originOf Joint.fifth) = r.originOf Joint.fifth) (a b c : ℝ) :
    Wrist.euler a b (r.outerSign * c) = r.wristView turn ↔ r.wristTurn a b c = turn := by
  rw [Motion.eq_iff_linearPart_eq (wristTurn_apply_wrist h a b c) hfix]
  exact euler_eq_wristView_iff_linearPart h.hasSquareWrist turn a b c

/-- The angles of the solver, by the turn seen from the wrist. -/
theorem angles_eq (h : r.HasSquareWrist) (turn : Motion ℝ) (reference : ℝ) :
    Wrist.angles r turn reference =
      ({ (Wrist.decompose (r.wristView turn) reference).1 with
          third := r.outerSign * (Wrist.decompose (r.wristView turn) reference).1.third },
       { (Wrist.decompose (r.wristView turn) reference).2 with
          third := r.outerSign * (Wrist.decompose (r.wristView turn) reference).2.third }) := by
  have h4 : Wrist.normalized (r.jointFrames.get Joint.fourth).zaxis = r.axisOf Joint.fourth :=
    normalized_unit h.fourth_unit
  have h5 : Wrist.normalized (r.jointFrames.get Joint.fifth).zaxis = r.axisOf Joint.fifth :=
    normalized_unit h.fifth_unit
  have h6 : Wrist.normalized (r.jointFrames.get Joint.sixth).zaxis = r.axisOf Joint.sixth :=
    normalized_unit h.sixth_unit
  simp only [Wrist.angles, h4, h5, h6, basis_eq h, ← wristBasis_inverse, Scalar.literal_zero,
    Scalar.literal_one]
  rfl

/-- Both triples of angles of the solver compose to the turn seen from the wrist, unless that is
rounded to a singularity. -/
theorem euler_angles (h : r.HasSquareWrist) {turn : Motion ℝ} (hturn : turn.IsRigid)
    (hsine : Wrist.sine (r.wristView turn) = 0 ∨ epsilon ≤ Wrist.sine (r.wristView turn))
    (reference : ℝ) :
    let both := Wrist.angles r turn reference
    Wrist.euler both.1.first both.1.second (r.outerSign * both.1.third) = r.wristView turn
      ∧ Wrist.euler both.2.first both.2.second (r.outerSign * both.2.third) =
        r.wristView turn := by
  intro both
  simp only [both, angles_eq h, ← mul_assoc, outerSign_mul_self, one_mul]
  exact Wrist.turnOf_decompose (wristView_isRigid h hturn) (wristView_shift r turn) hsine reference

end Robot

end SixAxis
