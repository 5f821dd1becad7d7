import SixAxis.Arm.Solution
import SixAxis.Proofs.CheckedSteps
import SixAxis.Proofs.Doubles

/-!
# The wrist on the shoulder

Only one of the checks before a target is solved involves sines and cosines: that nothing is
divided by the reach of an arm whose upper arm has no length.  Where the wrist centre comes to lie
on the shoulder, and both are at the origin of joint one, the reach is nought whatever these
functions give, and the arm passes the check.

* `IsNought` — a double that is zero or no number; sums of such doubles, and products with one of
  them, are nought again;
* `Robot.reached_isNought` — the reach of a wrist centre on the shoulder;
* `Robot.solve_eq_ok` — a target that passes all checks is solved;
* `Robot.solve_of_wristOnShoulder` — **a target that brings the wrist there is solved**.
-/

namespace SixAxis

/-! ### Doubles that are nought -/

/-- A double that is zero or no number. -/
def IsNought (x : Float) : Prop := x.isNaN = true ∨ (x == 0.0) = true

instance (x : Float) : Decidable (IsNought x) := inferInstanceAs (Decidable (_ ∨ _))

namespace IsNought

open Float.Model

variable {x y : Float}

theorem unpack_zero : (0.0 : Float).toModel.unpack = .zero .positive := by
  have h : ((0.0 : Float).toModel.unpack == .zero .positive) = true := by decide +kernel
  revert h
  cases (0.0 : Float).toModel.unpack with
  | zero sign =>
    cases sign with
    | positive => exact fun _ => rfl
    | negative => exact fun h => nomatch h
  | notANumber => exact fun h => nomatch h
  | infinity sign => exact fun h => nomatch h
  | finite sign m e hm => exact fun h => nomatch h

theorem unpack (hx : IsNought x) :
    x.toModel.unpack = .notANumber ∨ ∃ sign, x.toModel.unpack = .zero sign := by
  have hbits : x.toModel.unpack.isNaN = true ∨
      x.toModel.unpack.beq (0.0 : Float).toModel.unpack = true := hx
  rw [unpack_zero] at hbits
  revert hbits
  cases x.toModel.unpack with
  | notANumber => exact fun _ => .inl rfl
  | zero sign => exact fun _ => .inr ⟨sign, rfl⟩
  | infinity sign =>
    cases sign with
    | _ => rintro (h | h) <;> cases h
  | finite sign m e hm =>
    cases sign with
    | _ => rintro (h | h) <;> cases h

theorem of_pack {u : UnpackedFloat} (hu : u = .notANumber ∨ ∃ sign, u = .zero sign) :
    IsNought (.ofModel (.pack u)) := by
  rcases hu with rfl | ⟨sign, rfl⟩
  · exact .inl (by decide +kernel)
  · cases sign with
    | positive => exact .inr (by decide +kernel)
    | negative => exact .inr (by decide +kernel)

theorem mul_right (x : Float) (hy : IsNought y) : IsNought (x * y) := by
  refine of_pack ?_
  rcases hy.unpack with hy | ⟨sign, hy⟩
  · rw [hy]
    cases x.toModel.unpack with
    | _ => exact .inl rfl
  · rw [hy]
    cases x.toModel.unpack with
    | infinity s => exact .inl rfl
    | notANumber => exact .inl rfl
    | zero s => exact .inr ⟨s * sign, rfl⟩
    | finite s m e h => exact .inr ⟨s * sign, rfl⟩

theorem mul_left (hx : IsNought x) (y : Float) : IsNought (x * y) := by
  refine of_pack ?_
  rcases hx.unpack with hx | ⟨sign, hx⟩
  · rw [hx]
    exact .inl rfl
  · rw [hx]
    cases y.toModel.unpack with
    | infinity s => exact .inl rfl
    | notANumber => exact .inl rfl
    | zero s => exact .inr ⟨sign * s, rfl⟩
    | finite s m e h => exact .inr ⟨sign * s, rfl⟩

theorem add (hx : IsNought x) (hy : IsNought y) : IsNought (x + y) := by
  refine of_pack ?_
  rcases hx.unpack with hx | ⟨s, hx⟩
  · rw [hx]
    exact .inl rfl
  · rcases hy.unpack with hy | ⟨t, hy⟩
    · rw [hx, hy]
      exact .inl rfl
    · rw [hx, hy]
      cases s <;> cases t <;> exact .inr ⟨_, rfl⟩

theorem sub (hx : IsNought x) (hy : IsNought y) : IsNought (x - y) := by
  refine of_pack ?_
  rcases hx.unpack with hx | ⟨s, hx⟩
  · rw [hx]
    exact .inl rfl
  · rcases hy.unpack with hy | ⟨t, hy⟩
    · rw [hx, hy]
      exact .inl rfl
    · rw [hx, hy]
      cases s <;> cases t <;> exact .inr ⟨_, rfl⟩

theorem sqrt (hx : IsNought x) : IsNought x.sqrt := by
  refine of_pack ?_
  rcases hx.unpack with hx | ⟨s, hx⟩
  · rw [hx]
    exact .inl rfl
  · rw [hx]
    exact .inr ⟨s, rfl⟩

/-- What is nought is below any positive double, or is no number. -/
theorem lt_or_isNaN (hx : IsNought x) (hy : (0.0 : Float) < y) : x < y ∨ x.isNaN = true := by
  rcases hx with hnan | hzero
  · exact .inr hnan
  · rcases (show IsNought x from .inr hzero).unpack with hx | ⟨sign, hx⟩
    · exact .inr (congrArg UnpackedFloat.isNaN hx)
    · rw [Double.lt_iff, unpack_zero] at hy
      rw [Double.lt_iff, hx]
      left
      revert hy
      cases y.toModel.unpack with
      | notANumber => exact id
      | zero s => exact fun h => nomatch h
      | infinity s =>
        cases s with
        | _ => exact id
      | finite s m e hm =>
        cases s with
        | _ => exact id

theorem isNaN_mul (x : Float) (hy : y.isNaN = true) : (x * y).isNaN = true := by
  have hy : y.toModel.unpack = .notANumber := by
    have hbits : y.toModel.unpack.isNaN = true := hy
    revert hbits
    cases y.toModel.unpack with
    | notANumber => exact fun _ => rfl
    | _ => exact fun h => nomatch h
  show (Float.Model.pack _).unpack.isNaN = true
  rw [hy]
  cases x.toModel.unpack with
  | _ => exact (by decide +kernel : (Float.Model.pack .notANumber).unpack.isNaN = true)

theorem beq_zero_of_isNaN (hx : x.isNaN = true) : (x == 0.0) = false := by
  have hbits : x.toModel.unpack.isNaN = true := hx
  show x.toModel.unpack.beq _ = false
  revert hbits
  cases x.toModel.unpack with
  | notANumber => exact fun _ => rfl
  | _ => exact fun h => nomatch h

end IsNought

/-! ### Vectors that are nought -/

/-- A vector whose components are nought. -/
def Vec.IsNought (v : Vec Float) : Prop :=
  SixAxis.IsNought v.x ∧ SixAxis.IsNought v.y ∧ SixAxis.IsNought v.z

instance (v : Vec Float) : Decidable v.IsNought := inferInstanceAs (Decidable (_ ∧ _ ∧ _))

namespace Vec.IsNought

variable {v w : Vec Float}

theorem add (hv : v.IsNought) (hw : w.IsNought) : (v + w).IsNought :=
  ⟨hv.1.add hw.1, hv.2.1.add hw.2.1, hv.2.2.add hw.2.2⟩

theorem sub (hv : v.IsNought) (hw : w.IsNought) : (v - w).IsNought :=
  ⟨hv.1.sub hw.1, hv.2.1.sub hw.2.1, hv.2.2.sub hw.2.2⟩

theorem scale (v : Vec Float) {s : Float} (hs : SixAxis.IsNought s) : (v.scale s).IsNought :=
  ⟨hs.mul_right _, hs.mul_right _, hs.mul_right _⟩

theorem dot (hv : v.IsNought) (w : Vec Float) : SixAxis.IsNought (v.dot w) :=
  ((hv.1.mul_left _).add (hv.2.1.mul_left _)).add (hv.2.2.mul_left _)

theorem linear (m : Motion Float) (hv : v.IsNought) : (m.linear v).IsNought :=
  ((scale _ hv.1).add (scale _ hv.2.1)).add (scale _ hv.2.2)

theorem apply {m : Motion Float} (hv : v.IsNought) (hshift : m.shift.IsNought) :
    (m.apply v).IsNought :=
  (linear m hv).add hshift

/-- A turn about an axis through a point that is nought. -/
theorem rotation_shift (axis : Vec Float) (angle : Float) (hv : v.IsNought) :
    (Motion.rotation axis angle v).shift.IsNought :=
  hv.sub (linear _ hv)

end Vec.IsNought

/-! ### The reach of the arm -/

namespace ArmPlane

theorem not_isDegenerate_of_isNought (p : ArmPlane Float) {reach : Float} (h : IsNought reach) :
    p.isDegenerate reach = false := by
  have hepsilon : (0.0 : Float) < epsilon := by decide +kernel
  rcases h.lt_or_isNaN hepsilon with hlt | hnan
  · rw [isDegenerate, decide_eq_true hlt]
    rfl
  · have hproduct := IsNought.isNaN_mul (2.0 * p.upperArm.length) hnan
    rw [isDegenerate, Bool.and_eq_false_iff]
    exact .inr (IsNought.beq_zero_of_isNaN hproduct)

end ArmPlane

namespace Robot

variable {r : Robot Float} {reference : RobotJoints Float} {target : Frame Float}

/-- The reach of a wrist centre on the shoulder is nought, for both branches of joint one. -/
theorem reached_isNought (hfirst : (r.jointFrames.get Joint.first).point.IsNought)
    (hsecond : (r.jointFrames.get Joint.second).point.IsNought)
    (hwrist : (r.wristCenter target).IsNought) (behind : Bool) :
    IsNought (r.reached reference target behind).length := by
  have hback : ((r.homeTurn Joint.first (-r.baseTurn reference target behind)).apply
      (r.wristCenter target) - (ArmPlane.ofRobot r).shoulder).IsNought :=
    (hwrist.apply (Vec.IsNought.rotation_shift _ _ hfirst)).sub hsecond
  have hu := hback.dot (ArmPlane.ofRobot r).along
  have hv := hback.dot (ArmPlane.ofRobot r).across
  exact ((hu.mul_left _).add (hv.mul_left _)).sqrt

theorem checkConfiguration_ofConfiguration (c : Configuration) :
    checkConfiguration (some (.whole c.val)) = .ok () := by
  have hrange : ∀ c : Configuration, (.whole 0 : Number) ≤ .whole c.val ∧
      (.whole c.val : Number) ≤ .whole 7 := by decide +kernel
  rw [checkConfiguration, if_pos (hrange c)]

theorem configurationOf?_ofConfiguration (c : Configuration) :
    configurationOf? (.whole c.val) = some c := by
  revert c
  decide +kernel

/-- The arm passes the check for a wrist centre on the shoulder. -/
theorem isDegenerateFor_of_wristOnShoulder (hfirst : (r.jointFrames.get Joint.first).point.IsNought)
    (hsecond : (r.jointFrames.get Joint.second).point.IsNought)
    (hwrist : (r.wristCenter target).IsNought) : r.isDegenerateFor target reference = false := by
  rw [isDegenerateFor, List.any_eq_false]
  intro behind _
  rw [(ArmPlane.ofRobot r).not_isDegenerate_of_isNought
    (reached_isNought hfirst hsecond hwrist behind)]
  decide

/-- A target that passes all checks is solved. -/
theorem solve_eq_ok {external : ExternalJoints Float} {seen : Frame Float}
    (fixed : Option Configuration) (hresolved : r.checkResolved external target.copied = .ok ())
    (hseen : target.copied.moved? (r.baseChange (r.resolve external target.copied)).inverse =
      .ok seen)
    (hturn : Scalar.infinite (r.baseTurn reference seen false) = false)
    (hdegenerate : r.isDegenerateFor seen reference = false) :
    r.solve target external (fixed.map fun c => .whole c.val) reference =
      .ok (r.solution target.copied external fixed reference) := by
  have hcheck : Motion.checkTurn (r.baseTurn reference seen false) = .ok () := by
    rw [Motion.checkTurn, hturn]
    rfl
  have hrange : checkConfiguration (fixed.map fun c => .whole c.val) = .ok () := by
    cases fixed with
    | none => rfl
    | some c => exact checkConfiguration_ofConfiguration c
  rw [solve, hrange]
  show (r.checkResolved external target.copied >>= fun _ => _) = _
  rw [hresolved]
  show (target.copied.moved? (r.baseChange (r.resolve external target.copied)).inverse >>=
    fun _ => _) = _
  rw [hseen]
  show (Motion.checkTurn (r.baseTurn reference seen false) >>= fun _ => _) = _
  rw [hcheck]
  show (if r.isDegenerateFor seen reference then _ else _) = _
  rw [hdegenerate]
  cases fixed with
  | none => rfl
  | some c =>
    simp only [Option.map_some, configurationOf?_ofConfiguration, Bool.false_eq_true, if_false]
    rfl

/-- A target as a robot that no axis carries sees it from its base. -/
def seenUncarried (target : Frame Float) : Frame Float :=
  target.copied.carried Motion.identity.inverse

/-- Only the axis that carries a robot is brought to a target, so there is nothing to check without
one. -/
theorem checkResolved_uncarried (hcarrier : r.carrier = none) (external : ExternalJoints Float)
    (target : Frame Float) : r.checkResolved external target = .ok () := by
  refine bind_eq_ok.2 ⟨⟨⟩, forIn_checkWhere_eq_ok_iff.2 fun a ha hcarries => ?_, rfl⟩
  have hnot := List.find?_eq_none.1 hcarrier a ha
  exact absurd (Bool.and_eq_true_iff.1 hcarries).2 hnot

/-- Without an axis that carries the robot, what is left to check is that the target is in space,
and how the arm turns to it. -/
theorem solve_uncarried {external : ExternalJoints Float} (fixed : Option Configuration)
    (hcarrier : r.carrier = none) (hfinite : (seenUncarried target).isFinite = true)
    (hturn : Scalar.infinite (r.baseTurn reference (seenUncarried target) false) = false)
    (hdegenerate : r.isDegenerateFor (seenUncarried target) reference = false) :
    r.solve target external (fixed.map fun c => .whole c.val) reference =
      .ok (r.solution target.copied external fixed reference) := by
  have hbase : r.baseChange (r.resolve external target.copied) = .identity := by
    rw [baseChange, hcarrier]
  have hseen : target.copied.moved? (r.baseChange (r.resolve external target.copied)).inverse =
      .ok (seenUncarried target) := by
    rw [hbase]
    exact if_pos hfinite
  exact solve_eq_ok fixed (checkResolved_uncarried hcarrier _ _) hseen hturn hdegenerate

/-- **A target that brings the wrist centre onto the shoulder is solved**, if both are at the
origin of joint one, and no axis carries the robot. -/
theorem solve_of_wristOnShoulder {external : ExternalJoints Float}
    (fixed : Option Configuration) (hcarrier : r.carrier = none)
    (hfirst : (r.jointFrames.get Joint.first).point.IsNought)
    (hsecond : (r.jointFrames.get Joint.second).point.IsNought)
    (hfinite : (seenUncarried target).isFinite = true)
    (hwrist : (r.wristCenter (seenUncarried target)).IsNought)
    (hturn : Scalar.infinite (r.baseTurn reference (seenUncarried target) false) = false) :
    r.solve target external (fixed.map fun c => .whole c.val) reference =
      .ok (r.solution target.copied external fixed reference) :=
  solve_uncarried fixed hcarrier hfinite hturn
    (isDegenerateFor_of_wristOnShoulder hfirst hsecond hwrist)

end Robot

/-! ### An arm that can be tucked in -/

/-- A frame at a point whose third direction is up. -/
def upright (p : Vec Float) : Frame Float := ⟨p, .unitX, .unitY⟩

/-- A frame at a point whose third direction is to the side. -/
def sideways (p : Vec Float) : Frame Float := ⟨p, .unitZ, .unitX⟩

/-- A frame at a point whose third direction is to the front. -/
def forward (p : Vec Float) : Frame Float := ⟨p, .unitY, .unitZ⟩

theorem AttachedAxis.nodup_slots_nil : (([] : List (AttachedAxis Float)).map (·.slot)).Nodup :=
  List.nodup_nil

/-- An arm with an upright upper arm and a level forearm of the same length, whose flange is at the
wrist centre. -/
def tuckedArm : Robot Float where
  name := "tucked arm"
  manufacturer := .null
  base := .world
  jointFrames :=
    #v[upright .zero, sideways .zero, sideways ⟨0, 0, 500⟩, forward ⟨0, 0, 500⟩,
      sideways ⟨500, 0, 500⟩, forward ⟨500, 0, 500⟩]
  jointLimits := Vector.replicate 6 ⟨-360, 360, by decide +kernel⟩
  flange := forward ⟨500, 0, 500⟩
  linkMeshes := Vector.replicate 7 .empty
  tool := .standard
  axes := []
  slots_nodup := AttachedAxis.nodup_slots_nil

end SixAxis
