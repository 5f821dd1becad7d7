import SixAxis.Proofs.Doubles
import SixAxis.Proofs.PosedRobots
import SixAxis.Proofs.SolvedTargets
import SixAxis.Proofs.TargetDeclarations
import SixAxis.Proofs.UnconnectedSlots

/-!
# Limits of solutions and postures

The solver checks the limits of the values that it has found, and a posture those of the values that
it is computed for.  The solver looks at every attached axis, a posture only at slots with a value.
In a solution every attached axis has one: that of the target, or zero, or for the track that
carries the robot the one within its limits that is closest to the target.  That is a value unless
one within the limits counts as the marker of an unconnected axis.

So the same values are out of limits for both.  But a posture is refused at some values that the
solver only reports, such as an infinite one of a turntable.

* `Interval.contains_clamp` — a number that is moved into proper limits lies within them;
* `Robot.isDefined_resolve` — every attached axis has a value in a solution;
* `Robot.posture_judgesAlike` — the posture of a solution has the same values out of limits;
* `Robot.pose_judgesAlike` — **a solution and its posture judge limits alike**, where there is a
  posture;
* `pose_spinning` — a solution without a posture.
-/

namespace SixAxis

/-! ### Numbers within limits -/

/-- Limits whose ends are numbers. -/
structure Interval.IsProper (limits : Interval Number) : Prop where
  low : limits.low.same limits.low = true
  high : limits.high.same limits.high = true

/-- No number within the limits counts as the marker of an unconnected axis. -/
def Interval.AvoidsMarker (limits : Interval Number) : Prop :=
  ∀ v : Number, limits.contains v = true → isUnconnected v.value = false

namespace Interval

variable {limits : Interval Number}

theorem contains_iff {v : Number} :
    limits.contains v = true ↔ limits.low ≤ v ∧ v ≤ limits.high := by
  rw [contains, Bool.and_eq_true, decide_eq_true_iff, decide_eq_true_iff]

/-- A number that is moved into proper limits lies within them; what is no number stays as it
is. -/
theorem contains_clamp (hproper : limits.IsProper) (v : Number) :
    limits.contains (limits.clamp v) = true ∨
      ∃ x : Float, x.isNaN = true ∧ limits.clamp v = .real x := by
  have hordered : limits.low ≤ limits.high :=
    Number.le_of_not_lt hproper.low hproper.high limits.ordered
  rw [contains_iff, clamp]
  by_cases hlow : v < limits.low
  · rw [if_pos hlow, if_neg limits.ordered]
    exact .inl ⟨Number.le_self hproper.low, hordered⟩
  · rw [if_neg hlow]
    by_cases hhigh : limits.high < v
    · rw [if_pos hhigh]
      exact .inl ⟨hordered, Number.le_self hproper.high⟩
    · rw [if_neg hhigh]
      rcases v.same_self_or_isNaN with hv | ⟨x, rfl, hx⟩
      · exact .inl ⟨Number.le_of_not_lt hproper.low hv hlow,
          Number.le_of_not_lt hv hproper.high hhigh⟩
      · exact .inr ⟨x, hx, rfl⟩

theorem isUnconnected_of_isNaN {x : Float} (h : x.isNaN = true) : isUnconnected x = false := by
  have hnan : (0.0 / 0.0 : Float).isNaN = true := by decide +kernel
  rw [Double.eq_of_isNaN h hnan]
  decide +kernel

/-- A number that is moved into limits does not count as the marker if none within them does. -/
theorem isUnconnected_clamp (hproper : limits.IsProper) (hmarker : limits.AvoidsMarker)
    (v : Number) : isUnconnected (limits.clamp v).value = false := by
  rcases contains_clamp hproper v with hin | ⟨x, hx, hclamp⟩
  · exact hmarker _ hin
  · rw [hclamp]
    exact isUnconnected_of_isNaN hx

end Interval

/-! ### The values of a solution -/

namespace Robot

/-- The track that carries the robot, if there is one, has proper limits, and no value within them
counts as the marker. -/
structure HasClearTrack (r : Robot Float) : Prop where
  proper : ∀ a ∈ r.axes, a.axis.carriesRobot = true → a.axis.limits.IsProper
  marker : ∀ a ∈ r.axes, a.axis.carriesRobot = true → a.axis.limits.AvoidsMarker

variable {r : Robot Float}

/-- Every attached axis has a value in a solution. -/
theorem isDefined_resolve (hclear : r.HasClearTrack) {a : AttachedAxis Float} (ha : a ∈ r.axes)
    (external : ExternalJoints Float) (target : Frame Float) :
    (r.resolve external target).isDefined a.slot = true := by
  rw [Joints.isDefined, get_resolve ha, axisValue, Bool.not_eq_true']
  by_cases hdefined : external.isDefined a.slot = true
  · rw [if_pos hdefined]
    exact Bool.not_eq_true' _ ▸ hdefined
  · rw [if_neg hdefined, defaultValue]
    by_cases hcarries : a.axis.carriesRobot = true
    · rw [if_pos hcarries]
      exact Interval.isUnconnected_clamp (hclear.proper a ha hcarries)
        (hclear.marker a ha hcarries) _
    · rw [if_neg hcarries]
      decide +kernel

/-- Where all attached axes have a value, a check that looks only at values looks at all of them. -/
theorem misfits_of_isDefined {external : ExternalJoints Float}
    (h : ∀ a ∈ r.axes, external.isDefined a.slot = true) :
    r.misfits external true = r.misfits external false :=
  List.filter_congr fun a ha => by rw [h a ha]; rfl

end Robot

/-! ### Two judgements -/

/-- A solution and a posture with the same values out of limits, and with the same reports but for
those of the selection, which a posture has none of. -/
structure JudgesAlike (s : Solution Float) (p : Posture Float) : Prop where
  internalFlags_eq : p.internalFlags = s.chosen.flags
  externalFlags_eq : p.externalFlags = s.externalFlags
  inLimits_eq : p.inLimits = s.inLimits
  texts_eq : p.reports.map Report.text = (s.reports.map Report.text).filter fun text =>
    text != Report.noConfiguration.text && text != Report.outOfReach.text

/-- The texts of the reports on a selection are told from all others. -/
theorem Report.isOfSelection_eq (report : Report) :
    (report.text != noConfiguration.text && report.text != outOfReach.text) =
      !report.isOfSelection := by
  have hinternal : ∀ i : Fin 6, ((internal i).text != noConfiguration.text
      && (internal i).text != outOfReach.text) = true := by decide +kernel
  have hexternal : ∀ i : Fin 6, ((external i).text != noConfiguration.text
      && (external i).text != outOfReach.text) = true := by decide +kernel
  cases report with
  | internal i => exact hinternal i
  | external i => exact hexternal i
  | noConfiguration => decide +kernel
  | outOfReach => decide +kernel

namespace Robot

variable {r : Robot Float} {target : Frame Float} {external : ExternalJoints Float}
  {fixed : Option Number} {reference : RobotJoints Float} {s : Solution Float}

/-- Of the reports of a solution, those on values are left when those on the selection are left
out. -/
theorem texts_of_values (r : Robot Float) (target : Frame Float) (external : ExternalJoints Float)
    (configuration : Option Configuration) (reference : RobotJoints Float) :
    let s := r.solution target external configuration reference
    (s.reports.map Report.text).filter (fun text =>
        text != Report.noConfiguration.text && text != Report.outOfReach.text) =
      (internalReports s.chosen.flags ++ externalReports (r.misfits s.external false)).map
        Report.text := by
  intro s
  obtain ⟨ofSelection, hselection, hreports⟩ :=
    r.reports_solution target external configuration reference
  let ofValues := internalReports s.chosen.flags ++ externalReports (r.misfits s.external false)
  have hdropped : ofSelection.filter (fun report => !report.isOfSelection) = [] := by
    refine List.filter_eq_nil_iff.2 fun report hreport => ?_
    rw [hselection report hreport]
    decide
  have hkept : ofValues.filter (fun report => !report.isOfSelection) = ofValues := by
    refine List.filter_eq_self.2 fun report hreport => ?_
    rcases List.mem_append.1 hreport with h | h
    · obtain ⟨i, -, rfl⟩ := List.mem_map.1 h
      rfl
    · obtain ⟨a, -, rfl⟩ := List.mem_map.1 h
      rfl
  have hreports : s.reports = ofSelection ++ ofValues := hreports
  rw [List.filter_map]
  simp only [Function.comp_def, Report.isOfSelection_eq]
  rw [hreports, List.filter_append, hdropped, hkept, List.nil_append]

/-- The posture of a solution has the same values out of limits. -/
theorem posture_judgesAlike (hclear : r.HasClearTrack)
    (h : r.solve target external fixed reference = .ok s) (hideMeshes : Bool) :
    JudgesAlike s (r.posture s.joints s.external hideMeshes) := by
  obtain ⟨configuration, rfl⟩ := exists_solution_of_solve h
  have hmisfits := misfits_of_isDefined fun a ha =>
    isDefined_resolve hclear ha external target.copied
  have hinternal := r.flags_chosen target.copied external configuration reference
  have hexternal := r.externalFlags_solution target.copied external configuration reference
  have htexts := r.texts_of_values target.copied external configuration reference
  rw [← external_solution r target.copied external configuration reference] at hmisfits
  generalize r.solution target.copied external configuration reference = s at *
  have hflags : (r.posture s.joints s.external hideMeshes).externalFlags = s.externalFlags := by
    rw [hexternal, ← hmisfits]
    rfl
  refine ⟨hinternal.symm, hflags, ?_, ?_⟩
  · rw [Posture.inLimits, hflags, Solution.inLimits, Candidate.inLimits, hinternal]
    rfl
  · rw [htexts, ← hmisfits, hinternal]
    rfl

/-- **A solution and its posture judge limits alike** where there is a posture, which is when the
values of the solution keep the robot in space. -/
theorem pose_judgesAlike (r : Robot Float) {target : Frame Float}
    {external : ExternalJoints Float} {fixed : Option Number} {reference : RobotJoints Float}
    {s : Solution Float} (hclear : r.HasClearTrack)
    (h : r.solve target external fixed reference = .ok s) (hideMeshes : Bool) :
    (∀ p, r.pose s.joints s.external hideMeshes = .ok p → JudgesAlike s p) ∧
      ((∃ p, r.pose s.joints s.external hideMeshes = .ok p) ↔
        r.IsPosable s.joints s.external hideMeshes) := by
  refine ⟨fun p hp => ?_, fun ⟨p, hp⟩ => (pose_eq_ok_iff.1 hp).1, fun hposable =>
    ⟨_, pose_eq_ok_iff.2 ⟨hposable, rfl⟩⟩⟩
  rw [(pose_eq_ok_iff.1 hp).2]
  exact posture_judgesAlike hclear h hideMeshes

end Robot

/-! ### A turntable beside a lift -/

/-- The limits of an axis that cannot move. -/
def lockedLimits : Interval Number := ⟨.real 0.0, .real 0.0, by decide +kernel⟩

theorem lockedLimits_isProper : lockedLimits.IsProper := ⟨by decide +kernel, by decide +kernel⟩

theorem eq_zero_of_compareWhole? {n : Int} (h : Decimal.compareWhole? 0.0 n = some .eq) :
    n = 0 := by
  have hzero : (Decimal.Binary.ofFloat? 0.0).any (fun b =>
      b.signedFraction.1 == 0 && b.signedFraction.2 != 0) = true := by decide +kernel
  rw [Decimal.compareWhole?] at h
  cases hb : Decimal.Binary.ofFloat? 0.0 with
  | none =>
    rw [hb] at hzero
    cases hzero
  | some b =>
    rw [hb] at h hzero
    rw [Option.any_some, Bool.and_eq_true, beq_iff_eq, bne_iff_ne] at hzero
    have hequal := Std.compare_eq_iff_eq.1 (Option.some.inj h)
    rw [hzero.1] at hequal
    exact (Int.mul_eq_zero.1 hequal.symm).resolve_right fun hd =>
      hzero.2 (Int.ofNat_eq_zero.1 hd)

section Zero

open Float.Model

variable {x : Float}

theorem exists_unpack_zero (h : Numeral.scalarOrder? 0.0 x = some .eq) :
    ∃ sign, x.toModel.unpack = .zero sign := by
  rw [Numeral.scalarOrder?_eq, IsNought.unpack_zero] at h
  revert h
  cases x.toModel.unpack with
  | zero sign => exact fun _ => ⟨sign, rfl⟩
  | notANumber => exact nofun
  | infinity sign => cases sign <;> exact nofun
  | finite sign => cases sign <;> exact nofun

/-- Whether a double counts as the marker depends on its parts only. -/
theorem isUnconnected_of_unpack_zero {sign : UnpackedFloat.Sign}
    (h : x.toModel.unpack = .zero sign) : isUnconnected x = false := by
  let marker : Float := unconnected
  let gap (u : UnpackedFloat) : Float :=
    Float.abs (.ofModel (.pack (.sub .binary64 marker.toModel.unpack u)))
  let scaled (u : UnpackedFloat) : Float :=
    Float.abs (.ofModel (.pack (.mul .binary64 (markerTolerance : Float).toModel.unpack u)))
  let counts (u : UnpackedFloat) : Bool :=
    (u.compare marker.toModel.unpack == some .eq) || (!u.isInf &&
      (decide (gap u ≤ Float.abs (markerTolerance * marker)) || decide (gap u ≤ scaled u)))
  have hcounts : isUnconnected x = counts x.toModel.unpack := rfl
  rw [hcounts, h]
  cases sign <;> decide +kernel

end Zero

theorem lockedLimits_avoidsMarker : lockedLimits.AvoidsMarker := by
  intro v hv
  obtain ⟨hlow, hhigh⟩ := Interval.contains_iff.1 hv
  have hzero : Numeral.order? (.real 0.0) v = some .eq := Number.order?_eq_of_le hlow hhigh
  have hwhole {n : Int} (h : Decimal.compareWhole? 0.0 n = some .eq) :
      isUnconnected (Scalar.ofInt n : Float) = false := by
    rw [eq_zero_of_compareWhole? h]
    decide +kernel
  cases v with
  | truth b => exact hwhole hzero
  | whole n => exact hwhole hzero
  | real x =>
    obtain ⟨sign, hx⟩ := exists_unpack_zero hzero
    exact isUnconnected_of_unpack_zero hx

/-- A lift that carries the robot and cannot move. -/
def lockedLift : ExternalAxis Float :=
  { turntable with
    name := "lift"
    motion := .linear
    limits := lockedLimits
    carriesRobot := true
    named := by decide
    carrier_linear := fun _ => rfl }

/-- The tucked arm on the lift, with a turntable beside it. -/
def liftedArm : Robot Float :=
  { tuckedArm with
    axes := [⟨lockedLift, Joint.first⟩, ⟨turntable, Joint.second⟩]
    slots_nodup := by decide }

theorem hasClearTrack_liftedArm : liftedArm.HasClearTrack := by
  have hlift : ∀ a ∈ liftedArm.axes, a.axis.carriesRobot = true → a.axis.limits = lockedLimits := by
    intro a ha hcarries
    rcases List.mem_cons.1 ha with rfl | ha
    · rfl
    · cases List.mem_singleton.1 ha
      cases hcarries
  refine ⟨fun a ha hcarries => ?_, fun a ha hcarries => ?_⟩
  · rw [hlift a ha hcarries]
    exact lockedLimits_isProper
  · rw [hlift a ha hcarries]
    exact lockedLimits_avoidsMarker

/-- Values of the external axes with one for the turntable and none for the lift. -/
def turnedTo (v : Float) : ExternalJoints Float := .ofValues [unconnected, v]

/-- The frame of the world as the lifted arm sees it. -/
def seenFromLift (v : Float) : Frame Float :=
  Frame.world.copied.carried
    (liftedArm.baseChange (liftedArm.resolve (turnedTo v) Frame.world.copied)).inverse

theorem solve_turnedTo {v : Float}
    (hresolved : (liftedArm.checkResolved (turnedTo v) Frame.world.copied).toBool = true)
    (hseen : (seenFromLift v).isFinite = true)
    (hturn : Scalar.infinite (liftedArm.baseTurn default (seenFromLift v) false) = false)
    (hwrist : (liftedArm.wristCenter (seenFromLift v)).IsNought) :
    liftedArm.solve .world (turnedTo v) (some (.whole 0)) default =
      .ok (liftedArm.solution Frame.world.copied (turnedTo v) (some 0) default) := by
  have hfirst : (liftedArm.jointFrames.get Joint.first).point.IsNought := by decide +kernel
  have hsecond : (liftedArm.jointFrames.get Joint.second).point.IsNought := by decide +kernel
  obtain ⟨⟨⟩, hresolved⟩ := exists_ok_of_toBool hresolved
  exact Robot.solve_eq_ok (some 0) hresolved (if_pos hseen) hturn
    (Robot.isDegenerateFor_of_wristOnShoulder hfirst hsecond hwrist)

/-- A value beyond the limits of the turntable. -/
theorem solve_overturned :
    liftedArm.solve .world (turnedTo 1000) (some (.whole 0)) default =
      .ok (liftedArm.solution Frame.world.copied (turnedTo 1000) (some 0) default) :=
  solve_turnedTo (by decide +kernel) (by decide +kernel) (by decide +kernel) (by decide +kernel)

theorem pose_judgesAlike_liftedArm : ∃ s,
    liftedArm.HasClearTrack ∧
    liftedArm.solve .world (turnedTo 1000) (some (.whole 0)) default = .ok s ∧
    (∀ p, liftedArm.pose s.joints s.external = .ok p → JudgesAlike s p) ∧
      ((∃ p, liftedArm.pose s.joints s.external = .ok p) ↔
        liftedArm.IsPosable s.joints s.external false) :=
  ⟨_, hasClearTrack_liftedArm, solve_overturned,
    liftedArm.pose_judgesAlike hasClearTrack_liftedArm solve_overturned false⟩

/-- Not every solution has a posture: an infinite value of a turntable is only reported by the
solver, but the turntable cannot be posed at it. -/
theorem pose_spinning : ∃ s,
    liftedArm.solve .world (turnedTo (1.0 / 0.0)) (some (.whole 0)) default = .ok s ∧
      s.reports.getLast? = some (.external Joint.second) ∧
      ∀ p, liftedArm.pose s.joints s.external ≠ .ok p := by
  refine ⟨_, solve_turnedTo (by decide +kernel) (by decide +kernel) (by decide +kernel)
    (by decide +kernel), ?_, fun p hp => ?_⟩
  · have hout : Robot.externalReports (liftedArm.misfits
        (liftedArm.resolve (turnedTo (1.0 / 0.0)) Frame.world.copied) false) =
          [Report.external Joint.second] := by
      decide +kernel
    rw [Robot.reports_eq, Robot.external_solution, hout]
    exact List.getLast?_concat ..
  · have hposable := (Robot.pose_eq_ok_iff.1 hp).1
    have hangle := hposable.turntables rfl ⟨turntable, Joint.second⟩
      (List.mem_cons_of_mem _ (List.mem_singleton.2 rfl)) rfl
    have hinfinite : Scalar.infinite ((liftedArm.resolve (turnedTo (1.0 / 0.0))
        Frame.world.copied).valueOrZero Joint.second) = true := by
      decide +kernel
    rw [Robot.external_solution, hinfinite] at hangle
    cases hangle

end SixAxis
