import SixAxis.Proofs.DeclarationItems
import SixAxis.Proofs.NumericFaults

/-!
# Faults in writing a program

What a program is written from can fail at many places: a number can be beyond all doubles, a
frame can leave space, the arm can be degenerate.  None of these is a fault of an action.  Those
come from the names of the program only, and from work objects whose axis is not attached.

* `SolvingFault`, `Movement.faultsIn_solution` — **the faults of solving a target**, which are none
  of an action if the axis of the work object is attached;
* `Comment.faultsIn_codeIn`, `Action.faultsIn_instruction` — the faults of other texts;
* `noActionFault_of_mem_itemsOf` — no text of an item written has a fault of an action;
* `Action.noActionFault_instruction` — and no instruction has.
-/

namespace SixAxis

/-! ### Speeds and zones -/

theorem SpeedData.faultsInNumbers_declaration (s : SpeedData) : FaultsInNumbers s.declaration :=
  .ite (fun _ => .ok _) fun _ => (CodeNumber.faultsInNumbers_ofNumbers _).bind fun _ _ => .ok _

theorem ZoneData.faultsInNumbers_declaration (z : ZoneData) : FaultsInNumbers z.declaration :=
  .ite (fun _ => .ok _) fun _ => (CodeNumber.faultsInNumbers_ofNumbers _).bind fun _ _ => .ok _

/-! ### Solving -/

/-- The faults of solving a target with a configuration that may be asked for, where an axis may be
unattached. -/
inductive SolvingFault (fixed : Option Number) (unattached : Prop) : Fault → Prop where
  | numeric {m : Misuse} (h : m.isNumeric = true) : SolvingFault fixed unattached (.misuse m)
  /-- The axis that carries the robot is no track. -/
  | robot (f : RobotFault) : SolvingFault fixed unattached (.robot f)
  /-- The configuration is between two whole ones. -/
  | configuration {n : Number} (hn : fixed = some n) (h : Robot.configurationOf? n = none) :
    SolvingFault fixed unattached (.misuse (.missing (.number n)))
  | unattached (h : unattached) (f : ActionFault) : SolvingFault fixed unattached (.action f)

section Solving

variable {fixed : Option Number} {unattached : Prop}

theorem FaultsInNumbers.solving {α : Type} {x : Checked α} (hx : FaultsInNumbers x) :
    FaultsIn (SolvingFault fixed unattached) x := hx.among fun _ => .numeric

theorem ExternalAxis.faultsInNumbers_motionAt? (a : ExternalAxis Float) (v : Float) :
    FaultsInNumbers (a.motionAt? v) := by
  rw [motionAt?]
  refine .ite (fun _ => FaultsIn.bind ?_ fun _ _ => .ok _) fun _ => .ok _
  exact .ite (fun _ => .error (.misuse rfl)) (fun _ => .ok _)

theorem Robot.faultsIn_checkResolved (r : Robot Float) (external : ExternalJoints Float)
    (target : Frame Float) :
    FaultsIn (SolvingFault fixed unattached) (r.checkResolved external target) := by
  refine FaultsIn.bind (.forIn (fun a _ _ => ?_) _) fun _ _ => .ok _
  refine .ite (fun _ => FaultsIn.bind ?_ fun _ _ => .ok _) fun _ => .ok _
  rw [ExternalAxis.closest?]
  cases a.axis.motion with
  | linear => exact (Number.faultsInNumbers_toReal _).solving
  | rotational => exact .error (.robot _)

theorem Robot.faultsIn_solve (r : Robot Float) (target : Frame Float)
    (external : ExternalJoints Float) (hfixed : fixed.all isConfiguration = true)
    (reference : RobotJoints Float) :
    FaultsIn (SolvingFault fixed unattached) (r.solve target external fixed reference) := by
  have hrange : checkConfiguration fixed = .ok () := by
    cases fixed with
    | none => rfl
    | some n => exact if_pos (of_decide_eq_true hfixed)
  rw [solve, hrange]
  refine (FaultsIn.ok ()).bind fun _ _ => (r.faultsIn_checkResolved _ _).bind fun _ _ => ?_
  refine (Frame.faultsInNumbers_moved? _ _).solving.bind fun seen _ => ?_
  refine FaultsIn.bind (.ite (fun _ => .error (.numeric rfl)) fun _ => .ok ()) fun _ _ => ?_
  refine .ite (fun _ => .error (.numeric rfl)) fun _ => ?_
  cases fixed with
  | none => exact .ok _
  | some n =>
    simp only
    cases hn : configurationOf? n with
    | some c => exact .ok _
    | none => exact .error (.configuration rfl hn)

end Solving

/-- The axis of the work object of a movement is not attached to a robot. -/
def Movement.IsUnattached (m : Movement) (r : Robot Float) : Prop :=
  ∃ a, m.workObject.axis = some a ∧ r.axisNamed a.name = none

theorem Movement.faultsIn_worldTarget {fixed : Option Number} (m : Movement) (r : Robot Float) :
    FaultsIn (SolvingFault fixed (m.IsUnattached r)) (m.worldTarget r) := by
  have hglobal : FaultsInNumbers m.globalTarget? :=
    (Frame.faultsInNumbers_moved? _ _).bind fun _ _ => Frame.faultsInNumbers_moved? _ _
  refine hglobal.solving.bind fun target _ => ?_
  cases haxis : m.workObject.axis with
  | none => exact .ok target
  | some a =>
    simp only
    cases hnamed : r.axisNamed a.name with
    | none => exact .error (.unattached ⟨a, haxis, hnamed⟩ _)
    | some b =>
      refine (b.axis.faultsInNumbers_motionAt? _).solving.bind fun motion _ => ?_
      exact (Frame.faultsInNumbers_moved? _ _).solving

/-- **The faults of solving a target.** -/
theorem Movement.faultsIn_solution (m : Movement) (r : Robot Float) :
    FaultsIn (SolvingFault m.target.configuration (m.IsUnattached r)) (m.solution r) :=
  (m.faultsIn_worldTarget r).bind fun _ _ => r.faultsIn_solve _ _ m.target.inRange _

/-- Solving a target is no fault of an action if the axis of the work object is attached. -/
theorem Movement.noActionFault_solution (m : Movement) (r : Robot Float)
    (hattached : ∀ a, m.workObject.axis = some a → r.isAttached a = true) :
    NoActionFault (m.solution r) := by
  intro f hf
  cases m.faultsIn_solution r _ hf with
  | unattached h =>
    obtain ⟨a, haxis, hnamed⟩ := h
    obtain ⟨b, hb, hsame⟩ := List.any_eq_true.1 (hattached a haxis)
    exact absurd hsame (List.find?_eq_none.1 hnamed b hb)

/-! ### Texts -/

/-- The axes of the work objects of all movements are attached to a robot. -/
def AxesAttached (r : Robot Float) (actions : List Action) : Prop :=
  ∀ m, .movement m ∈ actions → ∀ a, m.workObject.axis = some a → r.isAttached a = true

/-- The fault of a remark that is no text. -/
inductive RemarkFault (c : Comment) : Fault → Prop where
  | partless (h : ∀ s, c.text ≠ .text s) : RemarkFault c (.misuse .partless)

theorem Comment.faultsIn_codeIn (c : Comment) (place : Section) :
    FaultsIn (RemarkFault c) (c.codeIn place) := by
  refine .ite (fun _ => ?_) fun _ => .ok _
  rw [code]
  split
  · exact .ok _
  · rename_i hshape
    exact .error (.partless hshape)

theorem Comment.noActionFault_codeIn (c : Comment) (place : Section) :
    NoActionFault (c.codeIn place) := by
  intro f hf
  cases c.faultsIn_codeIn place _ hf

/-- **The text of an item** is no fault of an action. -/
theorem noActionFault_of_mem_itemsOf {r : Robot Float} {actions : List Action}
    (hattached : AxesAttached r actions) {i : Item} (hi : i ∈ itemsOf actions r) :
    NoActionFault i.code := by
  obtain ⟨action, haction, hitem⟩ := List.mem_flatMap.1 hi
  cases action with
  | movement m =>
    simp only [Action.items, Movement.items, List.mem_cons, List.not_mem_nil, or_false] at hitem
    rcases hitem with rfl | rfl | rfl | rfl
    · exact m.speed.faultsInNumbers_declaration.noActionFault
    · exact m.zone.faultsInNumbers_declaration.noActionFault
    · exact .ok _
    · exact (m.noActionFault_solution r (hattached m haction)).bind fun _ _ => .ok _
  | joints j =>
    cases List.mem_singleton.1 hitem
    exact .ok _
  | comment c =>
    cases List.mem_singleton.1 hitem
    exact c.noActionFault_codeIn _
  | _ =>
    cases List.mem_singleton.1 hitem
    exact .ok _

/-- An instruction is a computation, or that of a remark. -/
theorem Action.faultsIn_instruction (a : Action) (r : Option (Robot Float)) :
    FaultsIn (fun f => NumericFault f ∨ ∃ c, a = .comment c ∧ RemarkFault c f)
      (a.instruction r) := by
  cases a with
  | comment c => exact (c.faultsIn_codeIn _).mono fun f hf => .inr ⟨c, rfl, hf⟩
  | timer t =>
    have htime : FaultsInNumbers t.instruction :=
      (CodeNumber.faultsInNumbers_ofNumber _ _).bind fun _ _ => .ok _
    exact htime.mono fun _ => .inl
  | _ => exact .ok _

theorem Action.noActionFault_instruction (a : Action) (r : Option (Robot Float)) :
    NoActionFault (a.instruction r) := by
  intro f hf
  rcases a.faultsIn_instruction r _ hf with hnumeric | ⟨c, -, hremark⟩
  · cases hnumeric
  · cases hremark

end SixAxis
