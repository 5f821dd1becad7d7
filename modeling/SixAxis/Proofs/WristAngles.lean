import SixAxis.Proofs.SphericalWrist

/-!
# The angles of the wrist in exact arithmetic

A turn is taken apart into turns about the first, the second and again the first direction, and in
the basis of a wrist these are turns about its three axes.  Nothing is lost by it, in all three
cases: a bend, none, and a bend by half a turn, whatever way the sixth axis points.

* `Wrist.second_decompose_mem` — one triple bends forward and the other one backward, by half a turn
  at most;
* `Wrist.first_decompose_of_straight` — at a singularity the first angle stays at the reference;
* `Robot.wristTurn_angles` — **the last three joints turn as they were asked to**;
* `Wrist.decompose_composes` — all of it.
-/

namespace SixAxis

namespace Wrist

variable {m : Motion ℝ}

/-! ### The two triples -/

/-- One triple bends forward and the other one backward, by half a turn at most. -/
theorem second_decompose_mem (m : Motion ℝ) (reference : ℝ) :
    (decompose m reference).1.second ∈ Set.Icc 0 Real.pi
      ∧ (decompose m reference).2.second ∈ Set.Icc (-Real.pi) 0 := by
  have hpi := Real.pi_pos.le
  rcases lt_or_ge (sine m) epsilon with hstraight | hbend
  · rw [decompose_of_straight hstraight]
    split_ifs
    · exact ⟨⟨le_refl 0, hpi⟩, neg_nonpos.2 hpi, le_refl 0⟩
    · exact ⟨⟨hpi, le_refl _⟩, le_refl _, neg_nonpos.2 hpi⟩
  · have hlow : 0 ≤ Complex.arg ⟨m.ex.x, sine m⟩ := Complex.arg_nonneg_iff.2 (sine_nonneg m)
    have hhigh := Complex.arg_le_pi ⟨m.ex.x, sine m⟩
    rw [decompose_of_bend hbend]
    exact ⟨⟨hlow, hhigh⟩, neg_le_neg hhigh, neg_nonpos.2 hlow⟩

/-- At a singularity the first angle stays at the reference. -/
theorem first_decompose_of_straight (h : sine m < epsilon) (reference : ℝ) :
    (decompose m reference).1.first = reference ∧ (decompose m reference).2.first = reference := by
  rw [decompose_of_straight h]
  split_ifs <;> exact ⟨rfl, rfl⟩

/-- Two triples of angles that a turn is taken apart into. -/
structure AreComposed (m : Motion ℝ) (reference : ℝ) (both : WristAngles ℝ × WristAngles ℝ) :
    Prop where
  /-- Turned about the first direction, the second one and the first one again. -/
  forward : turnX both.1.first * turnY both.1.second * turnX both.1.third = m.linearPart
  backward : turnX both.2.first * turnY both.2.second * turnX both.2.third = m.linearPart
  forward_mem : both.1.second ∈ Set.Icc 0 Real.pi
  backward_mem : both.2.second ∈ Set.Icc (-Real.pi) 0
  singular : sine m < epsilon → both.1.first = reference ∧ both.2.first = reference

theorem decompose_areComposed (hm : m.IsRigid) (h : sine m = 0 ∨ epsilon ≤ sine m)
    (reference : ℝ) : AreComposed m reference (decompose m reference) := by
  obtain ⟨hforward, hbackward⟩ := turnOf_decompose hm.linearPart rfl h reference
  obtain ⟨hforward_mem, hbackward_mem⟩ := second_decompose_mem m reference
  exact ⟨hforward, hbackward, hforward_mem, hbackward_mem,
    fun hstraight => first_decompose_of_straight hstraight reference⟩

end Wrist

/-! ### The joints of a wrist -/

namespace Robot

variable {r : Robot ℝ} {turn : Motion ℝ}

/-- Whether the last three joints, at these angles, turn all directions like a motion. -/
def TurnsLike (r : Robot ℝ) (w : WristAngles ℝ) (turn : Motion ℝ) : Prop :=
  (r.homeTurn Joint.fourth w.first * r.homeTurn Joint.fifth w.second
    * r.homeTurn Joint.sixth w.third).linearPart = turn.linearPart

/-- **The last three joints turn as they were asked to**, with either bend. -/
theorem wristTurn_angles (h : r.HasSquareWrist) (hturn : turn.IsRigid)
    (hsine : Wrist.sine (r.wristView turn) = 0 ∨ epsilon ≤ Wrist.sine (r.wristView turn))
    (reference : ℝ) :
    r.TurnsLike (Wrist.angles r turn reference).1 turn
      ∧ r.TurnsLike (Wrist.angles r turn reference).2 turn := by
  obtain ⟨hforward, hbackward⟩ := euler_angles h hturn hsine reference
  exact ⟨(euler_eq_wristView_iff_linearPart h turn _ _ _).1 hforward,
    (euler_eq_wristView_iff_linearPart h turn _ _ _).1 hbackward⟩

end Robot

/-- **A turn is composed of the angles that are read off it**, and so is the turn of every wrist
that it is the view of. -/
theorem Wrist.decompose_composes {m : Motion ℝ} (hm : m.IsRigid)
    (h : sine m = 0 ∨ epsilon ≤ sine m) (reference : ℝ) :
    AreComposed m reference (decompose m reference) ∧
      ∀ (r : Robot ℝ) (turn : Motion ℝ), r.HasSquareWrist → turn.IsRigid →
        r.wristView turn = m.linearPart →
          r.TurnsLike (angles r turn reference).1 turn
            ∧ r.TurnsLike (angles r turn reference).2 turn := by
  refine ⟨decompose_areComposed hm h reference, fun r turn hr hturn hview => ?_⟩
  have hsine : sine (r.wristView turn) = sine m := by
    rw [hview]
    rfl
  rw [← hsine] at h
  exact Robot.wristTurn_angles hr hturn h reference

/-! ### A sixth axis that points back -/

/-- The small arm with its sixth axis turned around. -/
noncomputable def Robot.reversedArm : Robot ℝ :=
  let sixth := smallArm.jointFrames.get Joint.sixth
  { smallArm with
    jointFrames :=
      smallArm.jointFrames.setIfInBounds Joint.sixth ⟨sixth.point, sixth.yaxis, sixth.xaxis⟩ }

theorem Robot.reversedArm_axes :
    reversedArm.axisOf Joint.fourth = ⟨1, 0, 0⟩ ∧ reversedArm.axisOf Joint.fifth = ⟨0, 1, 0⟩
      ∧ reversedArm.axisOf Joint.sixth = ⟨-1, 0, 0⟩ := by
  refine ⟨zaxis_forwardFrame _, zaxis_levelFrame _, ?_⟩
  show Frame.zaxis ⟨⟨70, 0, 40⟩, ⟨0, 0, 1⟩, ⟨0, 1, 0⟩⟩ = _
  ext <;> simp [Frame.zaxis]

theorem Robot.reversedArm_hasSquareWrist : reversedArm.HasSquareWrist := by
  obtain ⟨h4, h5, h6⟩ := reversedArm_axes
  constructor
  · simp [h4, Vec.dot_eq]
  · simp [h5, Vec.dot_eq]
  · simp [h6, Vec.dot_eq]
  · simp [h4, h5, Vec.dot_eq]
  · rw [h4, h6, Vec.zero_eq]
    ext <;> simp

/-- Half a turn about the second direction and a quarter about the first one. -/
noncomputable def Wrist.foldedTurn : Motion ℝ := ⟨⟨-1, 0, 0⟩, ⟨0, 0, 1⟩, ⟨0, 1, 0⟩, .zero⟩

theorem Wrist.foldedTurn_isRigid : foldedTurn.IsRigid := by
  constructor <;> simp [foldedTurn, Vec.dot_eq, Vec.ext_iff]

theorem Wrist.sine_foldedTurn : sine foldedTurn = 0 := by
  simp [sine, foldedTurn]

/-- The wrist of the reversed arm has the directions of the world. -/
theorem Robot.wristView_reversedArm (turn : Motion ℝ) :
    reversedArm.wristView turn = turn.linearPart := by
  obtain ⟨h4, h5, -⟩ := reversedArm_axes
  have hbasis : reversedArm.wristBasis = 1 := by
    rw [wristBasis, h4, h5, ← Motion.identity_eq_one, Motion.identity, Vec.unitX_eq, Vec.unitY_eq,
      Vec.unitZ_eq]
    congr 1
    ext <;> simp
  rw [wristView, hbasis, Motion.IsRigid.inverse_one, one_mul, mul_one]

/-- The wrist is folded back by half a turn, and its sixth axis points against the fourth one. -/
theorem Wrist.decompose_composes_foldedTurn :
    foldedTurn.IsRigid ∧ sine foldedTurn = 0 ∧ AreComposed foldedTurn 1 (decompose foldedTurn 1) ∧
      Robot.reversedArm.HasSquareWrist ∧
      Robot.reversedArm.TurnsLike (angles Robot.reversedArm foldedTurn 1).1 foldedTurn ∧
      Robot.reversedArm.TurnsLike (angles Robot.reversedArm foldedTurn 1).2 foldedTurn := by
  obtain ⟨hcomposed, hwrist⟩ := decompose_composes foldedTurn_isRigid (Or.inl sine_foldedTurn) 1
  exact ⟨foldedTurn_isRigid, sine_foldedTurn, hcomposed, Robot.reversedArm_hasSquareWrist,
    hwrist _ _ Robot.reversedArm_hasSquareWrist foldedTurn_isRigid
      (Robot.wristView_reversedArm foldedTurn)⟩

end SixAxis
