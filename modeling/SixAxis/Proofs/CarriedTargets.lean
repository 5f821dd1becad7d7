import SixAxis.Proofs.MovementTool
import SixAxis.Proofs.SerializedActions
import SixAxis.Proofs.TargetDeclarations

/-!
# Targets on external axes

A target on a work object that an external axis moves is posed by a value of that axis, and the
solution has a value for it that the declaration writes.  Both are the value that the target gives.
Where it gives none, the target is posed with the axis at zero, while the solution keeps an axis at
zero only if it does not carry the robot: the one that does goes as close to the target as it can.

* `Movement.worldTarget_of_axis` — the value that a target is posed with;
* `Movement.declarationOf_external` — the declaration writes the values of the solution;
* `Movement.axisValue_of_solution` — **the two values of the axis of a work object**, and when they
  agree.
-/

namespace SixAxis

/-! ### The value that poses a target -/

theorem Frame.isFinite_of_moved? {f g : Frame Float} {m : Motion Float}
    (h : f.moved? m = .ok g) : g.isFinite = true := by
  rw [moved?, inSpace] at h
  by_cases hfinite : (f.carried m).isFinite = true
  · rw [if_pos hfinite] at h
    cases h
    exact hfinite
  · rw [if_neg hfinite] at h
    cases h

theorem ExternalAxis.eq_motionAt_of_motionAt? {a : ExternalAxis Float} {v : Float}
    {m : Motion Float} (h : a.motionAt? v = .ok m) : m = a.motionAt v := by
  rw [motionAt?] at h
  by_cases hrotary : a.motion = .rotational
  · rw [if_pos hrotary] at h
    cases hangle : checkAngle v with
    | error f =>
      rw [hangle] at h
      cases h
    | ok u =>
      rw [hangle] at h
      cases h
      rfl
  · rw [if_neg hrotary] at h
    cases h
    rfl

namespace Movement

variable {m : Movement} {r : Robot Float} {a : ExternalAxis Float} {b : AttachedAxis Float}

/-- A target on an external axis is that on the work object at home, moved by the axis at the value
that the target gives, or else at zero. -/
theorem worldTarget_of_axis {posed : Frame Float} (haxis : m.workObject.axis = some a)
    (hnamed : r.axisNamed a.name = some b) (h : m.worldTarget r = .ok posed) :
    ∃ target, m.globalTarget? = .ok target ∧
      target.moved? (b.axis.motionAt (m.target.external.valueOrZero b.slot)) = .ok posed := by
  rw [worldTarget] at h
  obtain ⟨target, htarget, h⟩ := bind_eq_ok.1 h
  rw [haxis] at h
  simp only [hnamed] at h
  obtain ⟨motion, hmotion, h⟩ := bind_eq_ok.1 h
  rw [ExternalAxis.eq_motionAt_of_motionAt? hmotion] at h
  exact ⟨target, htarget, h⟩

/-! ### What the declaration writes -/

/-- The array of external values is one part of the declaration, and nothing else of it depends on
them. -/
theorem declarationOf_external (m : Movement) (s : Solution Float) :
    ∃ start rest, ∀ e : ExternalJoints Float,
      m.declarationOf { s with external := e } = start ++ e.code ++ rest := by
  by_cases habsolute : m.isAbsolute = true
  · refine ⟨s!"CONST jointtarget {m.target.jointName} := [{s.joints.code}, ", "];", fun e => ?_⟩
    rw [declarationOf, if_pos habsolute]
    rfl
  · let position := CodeNumber.list m.target.frame.point.toList
    let orientation := CodeNumber.list m.target.frame.quaternion.toList CodeNumber.unitDecimals
    let pose := s!"VAR robtarget {m.target.poseName} := [[{position}], [{orientation}], "
    have hgrouped (a b c d : String) : a ++ b ++ c ++ d = a ++ (b ++ c ++ d) := by
      simp only [String.append_assoc]
    cases hconfiguration : m.target.configuration with
    | some n =>
      refine ⟨pose ++ s!"[0, 0, 0, {n.shown}], ", "];", fun e => ?_⟩
      rw [declarationOf, if_neg habsolute, hconfiguration]
      exact (hgrouped pose _ e.code "];").symm
    | none =>
      refine ⟨pose ++ s!"[0, 0, 0, {s.chosen.configuration.val}], ", "];", fun e => ?_⟩
      rw [declarationOf, if_neg habsolute, hconfiguration]
      exact (hgrouped pose _ e.code "];").symm

/-- The array lists the values in the order of their slots. -/
theorem externalCode_eq (e : ExternalJoints Float) : e.code =
    "[" ++ ", ".intercalate ((List.finRange 6).map fun i => CodeNumber.text (e.get i)) ++ "]" := by
  rw [Joints.code, CodeNumber.list, Joints.toList_eq, List.map_map]
  rfl

/-! ### The two values of an axis -/

/-- What a solved movement does with the axis of its work object, given the target at home and the
posed target. -/
structure FollowsAxis (m : Movement) (r : Robot Float) (b : AttachedAxis Float)
    (s : Solution Float) (target posed : Frame Float) : Prop where
  home : m.globalTarget? = .ok target
  world : m.worldTarget r = .ok posed
  /-- The target is posed with the value that it gives, or else with zero. -/
  posed_at : target.moved? (b.axis.motionAt (m.target.external.valueOrZero b.slot)) = .ok posed
  /-- The solution has the value that the target gives, or else the default one. -/
  resolved : s.external.get b.slot =
    if m.target.external.isDefined b.slot then m.target.external.get b.slot
    else if b.axis.carriesRobot then b.axis.closest posed.point
    else 0.0
  /-- The two values agree but for an axis that carries the robot and is given none. -/
  agrees : m.target.external.isDefined b.slot = true ∨ b.axis.carriesRobot = false →
    s.external.get b.slot = m.target.external.valueOrZero b.slot
  declared : m.declaration (some r) = .ok (m.declarationOf s)
  /-- The declaration writes the value of the solution in its slot. -/
  written : ∃ start rest, ∀ e : ExternalJoints Float, m.declarationOf { s with external := e } =
    start ++ ("[" ++ ", ".intercalate ((List.finRange 6).map fun i => CodeNumber.text (e.get i))
      ++ "]") ++ rest

/-- **The value of the axis of a work object** in a solved movement: the target is posed with the
value in its slot or with zero, and so it is solved and declared, but that an axis that carries the
robot, where its slot is undefined, goes to the value closest to the posed target. -/
theorem axisValue_of_solution (m : Movement) (r : Robot Float) {a : ExternalAxis Float}
    {b : AttachedAxis Float} {s : Solution Float} (haxis : m.workObject.axis = some a)
    (hnamed : r.axisNamed a.name = some b) (hs : m.solution r = .ok s) :
    ∃ target posed, m.FollowsAxis r b s target posed := by
  obtain ⟨posed, hposed, hsolve⟩ := bind_eq_ok.1 hs
  obtain ⟨target, htarget, hmoved⟩ := worldTarget_of_axis haxis hnamed hposed
  have hcopied : posed.copied = posed := if_pos (Frame.isFinite_of_moved? hmoved)
  have hvalue : s.external.get b.slot = Robot.axisValue b m.target.external posed := by
    rw [Robot.external_of_solve hsolve, hcopied]
    exact Robot.get_resolve (List.mem_of_find?_eq_some hnamed)
  refine ⟨target, posed, htarget, hposed, hmoved, hvalue, fun hagree => ?_, ?_, ?_⟩
  · rw [hvalue, Robot.axisValue, Robot.defaultValue, Joints.valueOrZero]
    rcases hagree with hdefined | hstays
    · rw [if_pos hdefined, if_pos hdefined]
    · rw [hstays]
      rfl
  · rw [declaration, hs]
    rfl
  · obtain ⟨start, rest, hwritten⟩ := m.declarationOf_external s
    exact ⟨start, rest, fun e => by rw [hwritten, externalCode_eq]⟩

end Movement

/-! ### Targets on a track -/

/-- A track along the front of the robot, which may carry it. -/
def track (carriesRobot : Bool) : ExternalAxis Float where
  name := "track"
  motion := .linear
  attachment := .world
  axis := forward .zero
  limits := ⟨.whole 0, .whole 1000, by decide +kernel⟩
  baseMesh := .empty
  linkMesh := .empty
  carriesRobot := carriesRobot
  number := none
  named := by decide
  carrier_linear := fun _ => rfl

/-- The track as it is attached. -/
def attachedTrack (carriesRobot : Bool) : AttachedAxis Float := ⟨track carriesRobot, Joint.first⟩

/-- The tucked arm with the track. -/
def trackArm (carriesRobot : Bool) : Robot Float :=
  { tuckedArm with axes := [attachedTrack carriesRobot], slots_nodup := List.nodup_singleton _ }

/-- A movement to a frame on the track, with values of the external axes. -/
def trackMovement (carriesRobot : Bool) (f : Frame Float) (external : ExternalJoints Float) :
    Movement :=
  { usualMovement ⟨⟨"p", isIdentifier_p⟩, f, none, external, Target.inRange_none⟩ with
    workObject :=
      ⟨⟨"part", isIdentifier_part⟩, .world, .world, some (track carriesRobot), .bool false⟩ }

theorem axisNamed_track (carriesRobot : Bool) :
    (trackArm carriesRobot).axisNamed (track carriesRobot).name =
      some (attachedTrack carriesRobot) :=
  List.find?_cons_of_pos (by decide +kernel : (Datum.text "track").same "track" = true)

section Track

variable {carriesRobot : Bool} {f : Frame Float} {external : ExternalJoints Float}

theorem axis_trackMovement :
    (trackMovement carriesRobot f external).workObject.axis = some (track carriesRobot) := rfl

/-- A frame on the track, in the world, with the track at a value. -/
def Frame.onTrack (f : Frame Float) (v : Float) : Frame Float :=
  f.onWorldObject.carried ((track true).motionAt v)

theorem globalTarget?_track (hspace : f.onWorldObject.isFinite = true) :
    (trackMovement carriesRobot f external).globalTarget? = .ok f.onWorldObject := by
  have hobject : (trackMovement carriesRobot f external).workObject.globalFrame? =
      .ok worldObjectFrame := if_pos worldObjectFrame_isFinite
  rw [Movement.globalTarget?, hobject]
  exact if_pos hspace

theorem worldTarget_track (hspace : f.onWorldObject.isFinite = true)
    (hposed : (f.onTrack (external.valueOrZero Joint.first)).isFinite = true) :
    (trackMovement carriesRobot f external).worldTarget (trackArm carriesRobot) =
      .ok (f.onTrack (external.valueOrZero Joint.first)) := by
  have hnamed : (trackArm carriesRobot).axisNamed (Datum.text "track") =
      some (attachedTrack carriesRobot) := axisNamed_track carriesRobot
  have haxis : (trackMovement carriesRobot f external).workObject.axis =
      some (track carriesRobot) := rfl
  rw [Movement.worldTarget, globalTarget?_track hspace, haxis]
  refine bind_eq_ok.2 ⟨_, rfl, ?_⟩
  have hname : (track carriesRobot).name = "track" := rfl
  simp only [hname, hnamed]
  exact if_pos hposed

/-- A frame on the track, as the base sees it when all axes are where the solution has them. -/
def seenOnTrack (carriesRobot : Bool) (f : Frame Float) (external : ExternalJoints Float) :
    Frame Float :=
  let r := trackArm carriesRobot
  let posed := (f.onTrack (external.valueOrZero Joint.first)).copied
  posed.carried (r.baseChange (r.resolve external posed)).inverse

/-- A movement on the track is solved if the base sees its target where the wrist centre is on the
shoulder. -/
theorem solution_track (hspace : f.onWorldObject.isFinite = true)
    (hposed : (f.onTrack (external.valueOrZero Joint.first)).isFinite = true)
    (hresolved : ((trackArm carriesRobot).checkResolved external
      (f.onTrack (external.valueOrZero Joint.first)).copied).toBool = true)
    (hseen : (seenOnTrack carriesRobot f external).isFinite = true)
    (hturn : Scalar.infinite ((trackArm carriesRobot).baseTurn default
      (seenOnTrack carriesRobot f external) false) = false)
    (hwrist : ((trackArm carriesRobot).wristCenter
      (seenOnTrack carriesRobot f external)).IsNought) :
    (trackMovement carriesRobot f external).solution (trackArm carriesRobot) =
      .ok ((trackArm carriesRobot).solution
        (f.onTrack (external.valueOrZero Joint.first)).copied external none default) := by
  obtain ⟨⟨⟩, hresolved⟩ := exists_ok_of_toBool hresolved
  have hfirst : (tuckedArm.jointFrames.get Joint.first).point.IsNought := by decide +kernel
  have hsecond : (tuckedArm.jointFrames.get Joint.second).point.IsNought := by decide +kernel
  rw [Movement.solution, worldTarget_track hspace hposed]
  exact Robot.solve_eq_ok none hresolved (if_pos hseen) hturn
    (Robot.isDegenerateFor_of_wristOnShoulder hfirst hsecond hwrist)

end Track

/-- A frame beside the origin, along the track. -/
def alongTrack (x : Float) : Frame Float := ⟨⟨x, 0, 0⟩, .unitX, .unitY⟩

/-- Values of the external axes with the track at a hundred millimetres. -/
def hundred : ExternalJoints Float := .ofValues [100]

/-- The solution of a movement whose target gives the track a value. -/
theorem solution_slidTarget :
    (trackMovement false (alongTrack (-100)) hundred).solution (trackArm false) =
      .ok ((trackArm false).solution ((alongTrack (-100)).onTrack 100).copied hundred none
        default) :=
  solution_track (by decide +kernel) (by decide +kernel) (by decide +kernel) (by decide +kernel)
    (by decide +kernel) (by decide +kernel)

theorem axisValue_of_solution_slidTarget :
    ∃ target posed,
      (trackMovement false (alongTrack (-100)) hundred).FollowsAxis (trackArm false)
        (attachedTrack false)
        ((trackArm false).solution ((alongTrack (-100)).onTrack 100).copied hundred none default)
        target posed :=
  Movement.axisValue_of_solution _ _ axis_trackMovement (axisNamed_track false) solution_slidTarget

/-- The solution of a movement whose target leaves the value of the track open, which carries the
robot. -/
theorem solution_carriedTarget :
    (trackMovement true (alongTrack 100) default).solution (trackArm true) =
      .ok ((trackArm true).solution ((alongTrack 100).onTrack 0).copied default none default) :=
  solution_track (by decide +kernel) (by decide +kernel) (by decide +kernel) (by decide +kernel)
    (by decide +kernel) (by decide +kernel)

/-- The two values differ where the track carries the robot and the target gives it none: the target
is posed with the track at zero, and the track goes to a hundred millimetres. -/
theorem posed_carriedTarget :
    ∃ s target posed,
      (trackMovement true (alongTrack 100) default).workObject.axis = some (track true) ∧
      (trackArm true).axes = [attachedTrack true] ∧
      (trackMovement true (alongTrack 100) default).solution (trackArm true) = .ok s ∧
      (trackMovement true (alongTrack 100) default).globalTarget? = .ok target ∧
      (trackMovement true (alongTrack 100) default).worldTarget (trackArm true) = .ok posed ∧
      target.moved? ((track true).motionAt 0) = .ok posed ∧
      s.external.get (attachedTrack true).slot = 100 ∧
      target.moved? ((track true).motionAt (s.external.get (attachedTrack true).slot)) ≠
        .ok posed := by
  have hspace : (alongTrack 100).onWorldObject.isFinite = true := by decide +kernel
  have hposed : ((alongTrack 100).onTrack 0).isFinite = true := by decide +kernel
  have hworld : (trackMovement true (alongTrack 100) default).worldTarget (trackArm true) =
      .ok ((alongTrack 100).onTrack 0) := by
    have hzero : (default : ExternalJoints Float).valueOrZero Joint.first = 0 := by decide +kernel
    have hworld := @worldTarget_track true _ _ hspace (hzero.symm ▸ hposed)
    rwa [hzero] at hworld
  have hat (v : Float) (hv : ((alongTrack 100).onTrack v).isFinite = true) :
      (alongTrack 100).onWorldObject.moved? ((track true).motionAt v) =
        .ok ((alongTrack 100).onTrack v) := if_pos hv
  have hvalue : ((trackArm true).solution ((alongTrack 100).onTrack 0).copied default none
      default).external.get (attachedTrack true).slot = 100 := by
    rw [Robot.external_solution]
    decide +kernel
  refine ⟨_, _, _, axis_trackMovement, rfl, solution_carriedTarget,
    globalTarget?_track hspace, hworld, hat 0 hposed, hvalue, ?_⟩
  intro hmoved
  have hsame : (alongTrack 100).onTrack 100 = (alongTrack 100).onTrack 0 := by
    rw [hvalue, hat 100 (by decide +kernel)] at hmoved
    exact Except.ok.inj hmoved
  exact absurd hsame (by decide +kernel)

end SixAxis
