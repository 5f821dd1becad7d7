import SixAxis.Arm.Solution
import SixAxis.Joints.Text
import SixAxis.Proofs.CheckedSteps

/-!
# Unconnected slots

Any value near enough to the marker stands for a slot without an axis.  Which of these values a slot
holds makes no difference: the solver fills the slots of the attached axes before it computes with
them, and all other slots are only written, with one token for all such values.

* `Joints.Alike` — two vectors that differ only in what stands for unconnected slots;
* `Robot.get_resolve` — the value that an attached axis takes for a target;
* `Robot.resolve_alike` — attached axes take the same values for both;
* `Robot.solve_alike` — **a target is solved alike**, but for the slots without an axis;
* `Joints.Alike.code_eq` — both are written alike.
-/

namespace SixAxis

/-! ### Vectors that are alike -/

section Alike

variable {R : Type} [Scalar R] {kind : JointKind} {a b : Joints kind R}

/-- Two vectors have the same value in every slot, or none. -/
def Joints.Alike (a b : Joints kind R) : Prop :=
  ∀ i, a.get i = b.get i ∨ (a.isDefined i = false ∧ b.isDefined i = false)

theorem Joints.isDefined_congr {i : Fin 6} (h : a.get i = b.get i) :
    a.isDefined i = b.isDefined i := by
  rw [isDefined, isDefined, h]

theorem Joints.valueOrZero_congr {i : Fin 6} (h : a.get i = b.get i) :
    a.valueOrZero i = b.valueOrZero i := by
  rw [valueOrZero, valueOrZero, isDefined_congr h, h]

namespace Joints.Alike

theorem isDefined_eq (h : a.Alike b) (i : Fin 6) : a.isDefined i = b.isDefined i := by
  rcases h i with hsame | ⟨ha, hb⟩
  · exact isDefined_congr hsame
  · rw [ha, hb]

theorem get_eq_of_isDefined (h : a.Alike b) {i : Fin 6} (hi : a.isDefined i = true) :
    a.get i = b.get i := by
  rcases h i with hsame | ⟨ha, -⟩
  · exact hsame
  · rw [ha] at hi
    cases hi

theorem valueOrZero_eq (h : a.Alike b) (i : Fin 6) : a.valueOrZero i = b.valueOrZero i := by
  rcases h i with hsame | ⟨ha, hb⟩
  · exact valueOrZero_congr hsame
  · rw [valueOrZero, valueOrZero, ha, hb]
    rfl

/-- Setting a slot of both to one value keeps them alike. -/
theorem set (h : a.Alike b) (i : Fin 6) (v : R) : (a.set i v).Alike (b.set i v) := by
  intro k
  rw [isDefined, isDefined, get_set, get_set]
  by_cases hk : k = i
  · rw [if_pos hk, if_pos hk]
    exact .inl rfl
  · rw [if_neg hk, if_neg hk]
    exact h k

end Joints.Alike

end Alike

/-! ### External axes -/

namespace Robot

section Resolve

variable {R : Type} [Scalar R] {r : Robot R} {a : AttachedAxis R} {axes : List (AttachedAxis R)}
  {target : Frame R} {e e' : ExternalJoints R} {i : Fin 6}

/-- The values with the slot of one axis filled in. -/
def filled (target : Frame R) (values : ExternalJoints R) (a : AttachedAxis R) : ExternalJoints R :=
  if values.isDefined a.slot then values else values.set a.slot (defaultValue a target)

/-- The value that an axis takes for a target: the one in its slot, or else the default one. -/
def axisValue (a : AttachedAxis R) (e : ExternalJoints R) (target : Frame R) : R :=
  if e.isDefined a.slot then e.get a.slot else defaultValue a target

theorem get_filled_slot : (filled target e a).get a.slot = axisValue a e target := by
  rw [filled, axisValue]
  by_cases hdefined : e.isDefined a.slot = true
  · rw [if_pos hdefined, if_pos hdefined]
  · rw [if_neg hdefined, if_neg hdefined, Joints.get_set, if_pos rfl]

theorem get_filled_of_ne (hi : i ≠ a.slot) : (filled target e a).get i = e.get i := by
  rw [filled]
  by_cases hdefined : e.isDefined a.slot = true
  · rw [if_pos hdefined]
  · rw [if_neg hdefined, Joints.get_set, if_neg hi]

/-- Filling in the slots of other axes leaves a slot as it is. -/
theorem get_foldl_filled_of_not_mem (hi : i ∉ axes.map (·.slot)) :
    (axes.foldl (filled target) e).get i = e.get i := by
  induction axes generalizing e with
  | nil => rfl
  | cons first rest ih =>
    rw [List.map_cons, List.mem_cons, not_or] at hi
    rw [List.foldl_cons, ih hi.2, get_filled_of_ne hi.1]

/-- Of axes in slots of their own, each takes its own value. -/
theorem get_foldl_filled (hslots : (axes.map (·.slot)).Nodup) (ha : a ∈ axes) :
    (axes.foldl (filled target) e).get a.slot = axisValue a e target := by
  induction axes generalizing e with
  | nil => cases ha
  | cons first rest ih =>
    rw [List.map_cons, List.nodup_cons] at hslots
    rw [List.foldl_cons]
    rcases List.mem_cons.1 ha with rfl | ha
    · rw [get_foldl_filled_of_not_mem hslots.1, get_filled_slot]
    · -- the first axis is in another slot, so the value that is looked for is still the same
      have hother : a.slot ≠ first.slot := fun hsame =>
        hslots.1 (hsame ▸ List.mem_map_of_mem ha)
      have hsame : (filled target e first).get a.slot = e.get a.slot := get_filled_of_ne hother
      rw [ih hslots.2 ha, axisValue, axisValue, Joints.isDefined_congr hsame, hsame]

/-- The value of an attached axis in a solution. -/
theorem get_resolve (ha : a ∈ r.axes) :
    (r.resolve e target).get a.slot = axisValue a e target :=
  get_foldl_filled r.slots_nodup ha

/-- Once an axis is looked at, both have the same value in its slot, and where they had before. -/
theorem filled_alike (h : e.Alike e') (target : Frame R) (a : AttachedAxis R) :
    (filled target e a).Alike (filled target e' a) ∧
      (filled target e a).get a.slot = (filled target e' a).get a.slot ∧
      ∀ i, e.get i = e'.get i → (filled target e a).get i = (filled target e' a).get i := by
  rw [filled, filled, ← h.isDefined_eq]
  by_cases hdefined : e.isDefined a.slot = true
  · rw [if_pos hdefined, if_pos hdefined]
    exact ⟨h, h.get_eq_of_isDefined hdefined, fun _ hi => hi⟩
  · rw [if_neg hdefined, if_neg hdefined]
    refine ⟨h.set _ _, ?_, fun i hi => ?_⟩
    · rw [Joints.get_set, Joints.get_set, if_pos rfl, if_pos rfl]
    · rw [Joints.get_set, Joints.get_set, hi]

theorem foldl_filled_alike (axes : List (AttachedAxis R)) (h : e.Alike e') (target : Frame R) :
    (axes.foldl (filled target) e).Alike (axes.foldl (filled target) e') ∧
      (∀ a ∈ axes, (axes.foldl (filled target) e).get a.slot =
        (axes.foldl (filled target) e').get a.slot) ∧
      ∀ i, e.get i = e'.get i →
        (axes.foldl (filled target) e).get i = (axes.foldl (filled target) e').get i := by
  induction axes generalizing e e' with
  | nil => exact ⟨h, fun _ ha => (List.not_mem_nil ha).elim, fun _ hi => hi⟩
  | cons first rest ih =>
    obtain ⟨halike, hslot, hsame⟩ := filled_alike h target first
    obtain ⟨hall, hslots, hkept⟩ := ih halike
    refine ⟨hall, fun a ha => ?_, fun i hi => hkept i (hsame i hi)⟩
    rcases List.mem_cons.1 ha with rfl | ha
    · exact hkept _ hslot
    · exact hslots a ha

/-- Attached axes take the same values for vectors that are alike. -/
theorem resolve_alike (r : Robot R) (h : e.Alike e') (target : Frame R) :
    (r.resolve e target).Alike (r.resolve e' target) ∧
      ∀ a ∈ r.axes, (r.resolve e target).get a.slot = (r.resolve e' target).get a.slot := by
  obtain ⟨halike, hslots, -⟩ := foldl_filled_alike r.axes h target
  exact ⟨halike, hslots⟩

theorem baseChange_congr (h : ∀ a ∈ r.axes, e.get a.slot = e'.get a.slot) :
    r.baseChange e = r.baseChange e' := by
  rw [baseChange, baseChange, carrier]
  cases hcarrier : r.axes.find? (·.axis.carriesRobot) with
  | none => rfl
  | some a =>
    have ha : a ∈ r.axes := List.mem_of_find?_eq_some hcarrier
    exact congrArg a.axis.motionAt (Joints.valueOrZero_congr (h a ha))

theorem misfits_congr (h : ∀ a ∈ r.axes, e.get a.slot = e'.get a.slot) (definedOnly : Bool) :
    r.misfits e definedOnly = r.misfits e' definedOnly := by
  refine List.filter_congr fun a ha => ?_
  rw [axisFits, axisFits, Joints.isDefined_congr (h a ha), h a ha]

/-- Vectors that are alike have the same solution, but for the slots without an axis. -/
theorem solution_alike (r : Robot R) (h : e.Alike e') (target : Frame R)
    (fixed : Option Configuration) (reference : RobotJoints R) :
    r.solution target e fixed reference =
      { r.solution target e' fixed reference with external := r.resolve e target } := by
  obtain ⟨-, hslots⟩ := r.resolve_alike h target
  simp only [solution, baseChange_congr hslots, misfits_congr hslots]

end Resolve

section Solve

variable {e e' : ExternalJoints Float}

theorem checkResolved_alike (r : Robot Float) (h : e.Alike e') (target : Frame Float) :
    r.checkResolved e target = r.checkResolved e' target := by
  have hdefined : e.isDefined = e'.isDefined := funext h.isDefined_eq
  rw [checkResolved, checkResolved, hdefined]

/-- **A target is solved alike** for vectors that are alike. -/
theorem solve_alike (r : Robot Float) (h : e.Alike e') (target : Frame Float)
    (fixed : Option Number) (reference : RobotJoints Float) :
    r.solve target e fixed reference =
      (r.solve target e' fixed reference).map fun s =>
        { s with external := r.resolve e target.copied } := by
  obtain ⟨-, hslots⟩ := r.resolve_alike h target.copied
  simp only [solve, checkResolved_alike r h, baseChange_congr hslots, solution_alike r h]
  refine bind_eq_map fun _ => bind_eq_map fun _ => bind_eq_map fun seen => bind_eq_map fun _ => ?_
  by_cases hdegenerate : r.isDegenerateFor seen reference = true
  · rw [if_pos hdegenerate, if_pos hdegenerate]
    rfl
  · rw [if_neg hdegenerate, if_neg hdegenerate]
    cases fixed with
    | none => rfl
    | some n =>
      simp only
      cases configurationOf? n with
      | none => rfl
      | some c => rfl

end Solve

end Robot

/-! ### Text -/

namespace CodeNumber

/-- All values that count as the marker are written as one token. -/
theorem text_of_isUnconnected {x : Float} (h : isUnconnected x = true) (decimals : Nat) :
    text x decimals = unconnectedToken := by
  rw [text, if_pos h]

end CodeNumber

namespace Joints

variable {kind : JointKind} {a b : Joints kind Float}

theorem toList_eq (j : Joints kind Float) : j.toList = (List.finRange 6).map j.get := by
  refine List.ext_getElem (by simp [toList]) fun i _ _ => ?_
  simp [toList, get, Vector.get]

/-- Vectors that are alike are written alike. -/
theorem Alike.code_eq (h : a.Alike b) (decimals : Nat) : a.code decimals = b.code decimals := by
  have htext : ∀ i, CodeNumber.text (a.get i) decimals = CodeNumber.text (b.get i) decimals := by
    intro i
    rcases h i with hsame | ⟨ha, hb⟩
    · rw [hsame]
    · rw [isDefined, Bool.not_eq_eq_eq_not, Bool.not_false] at ha hb
      rw [CodeNumber.text_of_isUnconnected ha, CodeNumber.text_of_isUnconnected hb]
  rw [code, code, CodeNumber.list, CodeNumber.list, toList_eq, toList_eq, List.map_map,
    List.map_map]
  simp only [Function.comp_def, htext]

/-- The vector with the marker itself in all unconnected slots. -/
def marked (j : Joints kind Float) : Joints kind Float :=
  ⟨j.slots.map fun v => if isUnconnected v then unconnected else v⟩

theorem get_marked (j : Joints kind Float) (i : Fin 6) :
    j.marked.get i = if isUnconnected (j.get i) then unconnected else j.get i := by
  simp [get, marked, Vector.get]
  rfl

theorem isUnconnected_marker : isUnconnected (unconnected : Float) = true := by decide +kernel

theorem marked_alike (j : Joints kind Float) : j.marked.Alike j := by
  intro i
  rw [isDefined, isDefined, get_marked]
  by_cases hi : isUnconnected (j.get i) = true
  · rw [if_pos hi, isUnconnected_marker, hi]
    exact .inr ⟨rfl, rfl⟩
  · rw [if_neg hi]
    exact .inl rfl

end Joints

end SixAxis
