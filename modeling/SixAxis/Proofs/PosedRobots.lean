import SixAxis.Arm.Posture
import SixAxis.Proofs.CheckedSteps

/-!
# When a robot can be posed

A posture is computed for all joint values, but some of them are refused before: an angle that no
sine is defined for, and values that bring a frame out of space.  Limits are not among the reasons.

* `Robot.IsPosable` — what is asked of the values;
* `Robot.pose_eq_ok_iff` — **the posture is returned exactly then**.
-/

namespace SixAxis

namespace Robot

variable {R : Type} [Scalar R]

/-- Whether the values keep a robot in space: unless the shapes are hidden, every turntable has an
angle; so has every joint, the frames that the chain turns about stay in space, and so do the tool
centre point and the joint frames in the end. -/
structure IsPosable (r : Robot R) (q : RobotJoints R) (external : ExternalJoints R)
    (hideMeshes : Bool) : Prop where
  turntables : hideMeshes = false → ∀ a ∈ r.axes, a.axis.motion = .rotational →
    Scalar.infinite (external.valueOrZero a.slot) = false
  chain : checkChainFrom .identity (r.jointFrames.toList.zip q.toList) = .ok ()
  frames : ∀ f ∈ (r.posture q external hideMeshes).tcp
    :: (r.posture q external hideMeshes).jointFrames, f.isFinite = true

theorem checkAngle_eq_ok_iff (v : R) : checkAngle v = .ok () ↔ Scalar.infinite v = false := by
  rw [checkAngle]
  cases Scalar.infinite v with
  | true => exact ⟨fun h => (nomatch h), fun h => (nomatch h)⟩
  | false => exact ⟨fun _ => rfl, fun _ => rfl⟩

theorem inSpace_eq_ok_iff (f : Frame R) : (∃ g, f.inSpace = .ok g) ↔ f.isFinite = true := by
  rw [Frame.inSpace]
  cases f.isFinite with
  | true => exact ⟨fun _ => rfl, fun _ => ⟨f, rfl⟩⟩
  | false => exact ⟨fun ⟨g, h⟩ => (nomatch h), fun h => nomatch h⟩

/-- **The posture is returned exactly when the values keep the robot in space.** -/
theorem pose_eq_ok_iff {r : Robot R} {q : RobotJoints R} {external : ExternalJoints R}
    {hideMeshes : Bool} {p : Posture R} :
    r.pose q external hideMeshes = .ok p ↔
      r.IsPosable q external hideMeshes ∧ p = r.posture q external hideMeshes := by
  let computed := r.posture q external hideMeshes
  let frames := computed.tcp :: computed.jointFrames
  let kept : Checked (Posture R) := do
    let _ ← chain? r.jointFrames.toList q.toList
    for f in frames do
      let _ ← f.inSpace
    return computed
  have hframes : (forIn frames PUnit.unit fun f _ => (do
      let _ ← f.inSpace
      pure (ForInStep.yield PUnit.unit) : Checked (ForInStep PUnit))) = .ok ⟨⟩ ↔
      ∀ f ∈ frames, f.isFinite = true := by
    rw [forIn_check_eq_ok_iff]
    exact forall₂_congr fun f _ => inSpace_eq_ok_iff f
  have hkept : kept = .ok p ↔
      (checkChainFrom .identity (r.jointFrames.toList.zip q.toList) = .ok ()
        ∧ ∀ f ∈ frames, f.isFinite = true) ∧ p = computed := by
    constructor
    · intro h
      obtain ⟨_, hchain, h⟩ := bind_eq_ok.1 h
      obtain ⟨_, hchain, -⟩ := bind_eq_ok.1 hchain
      obtain ⟨_, hloop, h⟩ := bind_eq_ok.1 h
      exact ⟨⟨hchain, hframes.1 hloop⟩, (Except.ok.inj h).symm⟩
    · rintro ⟨⟨hchain, hfinite⟩, hp⟩
      rw [hp]
      exact bind_eq_ok.2 ⟨_, bind_eq_ok.2 ⟨_, hchain, rfl⟩,
        bind_eq_ok.2 ⟨_, hframes.2 hfinite, rfl⟩⟩
  cases hideMeshes with
  | true =>
    show kept = .ok p ↔ _
    rw [hkept]
    exact ⟨fun ⟨⟨hchain, hfinite⟩, hp⟩ => ⟨⟨fun h => (nomatch h), hchain, hfinite⟩, hp⟩,
      fun ⟨h, hp⟩ => ⟨⟨h.chain, h.frames⟩, hp⟩⟩
  | false =>
    show (forIn r.axes PUnit.unit _ >>= fun _ => kept) = .ok p ↔ _
    rw [bind_eq_ok]
    constructor
    · rintro ⟨_, hturntables, h⟩
      obtain ⟨⟨hchain, hfinite⟩, hp⟩ := hkept.1 h
      refine ⟨⟨fun _ a ha hrotational => ?_, hchain, hfinite⟩, hp⟩
      obtain ⟨_, hangle⟩ := forIn_checkWhere_eq_ok_iff.1 hturntables a ha hrotational
      exact (checkAngle_eq_ok_iff _).1 hangle
    · rintro ⟨h, hp⟩
      refine ⟨⟨⟩, forIn_checkWhere_eq_ok_iff.2 fun a ha hrotational => ?_,
        hkept.2 ⟨⟨h.chain, h.frames⟩, hp⟩⟩
      exact ⟨⟨⟩, (checkAngle_eq_ok_iff _).2 (h.turntables rfl a ha hrotational)⟩

end Robot

end SixAxis
