import SixAxis.Proofs.DeclarationSection
import SixAxis.Proofs.MovementTool
import SixAxis.Proofs.SerializedActions

/-!
# Programs of actions read back

The program of actions that were written as records and read back is that of the actions
themselves.  What they have lost shows nowhere: of the tool of a movement only the name is written,
an attached axis is looked up by its name, and unconnected slots are filled in or written as one
token.

* `Movement.solution_restored` — the target of a movement is solved alike;
* `Action.items_restored`, `Action.instruction_restored` — **what an action contributes** is the
  same;
* `Generator.createProgram_restored` — **the program is the same**, or fails in the same way.
-/

namespace SixAxis

/-! ### Solving -/

section Solving

variable {m : Movement} {r : Robot Float}

/-- A robot finds an attached axis again under the name of the axis that it found. -/
theorem Robot.HasAxis.axisNamed_toAxis {a : ExternalAxis Float} (h : r.HasAxis a) :
    ∃ b, r.axisNamed a.name = some b ∧ r.axisNamed b.toAxis.name = some b := by
  obtain ⟨b, hb, hname⟩ := h
  refine ⟨b, hb, ?_⟩
  rw [show b.toAxis.name = a.name from hname, hb]

theorem Datum.eq_text_of_same {d : Datum} {s : String} (h : d.same (.text s) = true) :
    d = .text s := by
  cases d with
  | text s' =>
    rw [same, beq_iff_eq] at h
    rw [h]
  | _ => simp [same] at h

/-- A robot with an axis of the same name has an axis under that very name, if the name is a
text. -/
theorem Robot.hasAxis_of_isAttached {a : ExternalAxis Float} {name : String}
    (hname : a.name = .text name) (h : r.isAttached a = true) : r.HasAxis a := by
  obtain ⟨b, hb⟩ := Option.isSome_iff_exists.1 (List.find?_isSome.2 (List.any_eq_true.1 h))
  refine ⟨b, hb, ?_⟩
  have hsame := List.find?_some hb
  rw [hname] at hsame ⊢
  exact Datum.eq_text_of_same hsame

theorem Movement.worldTarget_restored (h : m.Restorable r) :
    (m.restored r).worldTarget r = m.worldTarget r := by
  have hglobal : (m.restored r).globalTarget? = m.globalTarget? := rfl
  rw [worldTarget, worldTarget, hglobal]
  cases haxis : m.workObject.axis with
  | none =>
    have hnone : (m.restored r).workObject.axis = none := by
      rw [restored, WorkObject.reattached, haxis]
      rfl
    rw [hnone]
  | some a =>
    obtain ⟨b, hb, hfound⟩ := (h.attached a haxis).axisNamed_toAxis
    have hsome : (m.restored r).workObject.axis = some b.toAxis := by
      rw [restored, WorkObject.reattached, haxis, Option.bind_some, hb]
      rfl
    have hvalue : (m.restored r).target.external.valueOrZero b.slot =
        m.target.external.valueOrZero b.slot :=
      (Joints.marked_alike m.target.external).valueOrZero_eq b.slot
    simp only [hsome, hb, hfound, hvalue]

/-- The target of a movement is solved alike, but for the slots without an axis. -/
theorem Movement.solution_restored (h : m.Restorable r) :
    ∃ e : ExternalJoints Float, (∀ s, m.solution r = .ok s → e.Alike s.external) ∧
      (m.restored r).solution r = (m.solution r).map fun s => { s with external := e } := by
  have halike := Joints.marked_alike m.target.external
  rw [solution, solution, worldTarget_restored h]
  cases m.worldTarget r with
  | error f =>
    refine ⟨default, fun s hs => ?_, rfl⟩
    cases hs
  | ok target =>
    refine ⟨r.resolve m.target.external.marked target.copied, fun s hs => ?_,
      r.solve_alike halike target m.target.configuration default⟩
    rw [Robot.external_of_solve (show r.solve target m.target.external _ _ = .ok s from hs)]
    exact (r.resolve_alike halike target.copied).1

theorem Movement.declarationOf_restored {s : Solution Float} {e : ExternalJoints Float}
    (h : e.Alike s.external) :
    (m.restored r).declarationOf { s with external := e } = m.declarationOf s := by
  have hcode : e.code CodeNumber.lengthDecimals = s.external.code CodeNumber.lengthDecimals :=
    h.code_eq _
  show m.declarationOf { s with external := e } = m.declarationOf s
  simp only [declarationOf, hcode]
  rfl

end Solving

/-! ### What an action contributes -/

section Contributions

variable {m : Movement} {r : Robot Float}

theorem WorkObject.declaration_reattached {w : WorkObject}
    (h : ∀ a, w.axis = some a → r.HasAxis a) : (w.reattached r).declaration = w.declaration := by
  obtain ⟨name, userFrame, objectFrame, axis, held⟩ := w
  cases axis with
  | none => rfl
  | some a =>
    obtain ⟨b, hb, hname⟩ := h a rfl
    simp only [declaration, reattached, Option.bind_some, hb, Option.map_some]
    rw [show b.toAxis.name = a.name from hname]
    rfl

/-- The target of a movement is the same item. -/
theorem Movement.targetItem_restored (h : m.Restorable r) :
    (m.restored r).targetItem r = m.targetItem r := by
  obtain ⟨e, halike, hsolution⟩ := m.solution_restored h
  have hcode : (m.restored r).declaration (some r) = m.declaration (some r) := by
    rw [declaration, declaration, hsolution]
    cases hs : m.solution r with
    | error f => rfl
    | ok s => exact congrArg Except.ok (declarationOf_restored (halike s hs))
  have hwarnings : ((m.restored r).solution r).toOption.map (m.restored r).warningsOf =
      (m.solution r).toOption.map m.warningsOf := by
    rw [hsolution]
    cases m.solution r with
    | error f => rfl
    | ok s => rfl
  exact Item.ext rfl hcode (congrArg (·.getD []) hwarnings)

theorem Movement.items_restored (h : m.Restorable r) : (m.restored r).items r = m.items r := by
  have hobject : (m.restored r).workObject.declaration = m.workObject.declaration :=
    WorkObject.declaration_reattached h.attached
  rw [items, items, targetItem_restored h]
  exact congrArg (fun i => [_, _, i, _]) (Item.ofData_congr (congrArg Except.ok hobject))

theorem JointDeclaration.item_restored (j : JointDeclaration) :
    { j with position := j.position.restored }.item = j.item := by
  obtain ⟨name, kind, joints⟩ := j
  cases kind with
  | robot => rfl
  | external =>
    have hcode : joints.marked.code CodeNumber.lengthDecimals =
        joints.code CodeNumber.lengthDecimals := (Joints.marked_alike joints).code_eq _
    have hdeclaration : declaration ⟨name, ⟨.external, joints.marked⟩⟩ =
        declaration ⟨name, ⟨.external, joints⟩⟩ := by
      simp only [declaration, hcode]
      rfl
    exact Item.ofData_congr (congrArg Except.ok hdeclaration)

/-- The declarations of an action are the same when it is read back. -/
theorem Action.items_restored {a : Action} (h : ∀ m, a = .movement m → m.Restorable r) :
    (a.restored r).items r = a.items r := by
  cases a with
  | movement m => exact Movement.items_restored (h m rfl)
  | joints j => exact congrArg (fun i => [i]) j.item_restored
  | _ => rfl

theorem Movement.instruction_restored (m : Movement) (r : Robot Float) :
    (m.restored r).instruction (some r) = m.instruction (some r) := by
  obtain ⟨target, speed, kind, zone, tool, workObject, output⟩ := m
  cases tool with
  | none => rfl
  | some t => rfl

/-- The instruction of an action is the same when it is read back. -/
theorem Action.instruction_restored (a : Action) (r : Robot Float) :
    (a.restored r).instruction (some r) = a.instruction (some r) := by
  cases a with
  | movement m => exact congrArg Except.ok (m.instruction_restored r)
  | _ => rfl

end Contributions

/-! ### Programs -/

section Programs

variable {actions : List Action} {r : Robot Float}

theorem itemsOf_restored (h : Restorable actions r) :
    itemsOf (actions.map (·.restored r)) r = itemsOf actions r := by
  rw [itemsOf, itemsOf, List.flatMap_map]
  refine List.flatMap_congr fun a ha => ?_
  exact Action.items_restored fun m hm => h m (hm ▸ ha)

theorem programBody_restored (actions : List Action) (r : Robot Float) :
    programBody (actions.map (·.restored r)) r = programBody actions r := by
  rw [programBody, programBody, List.mapM_map]
  simp only [Function.comp_def, Action.instruction_restored]

end Programs

/-- **Programs of actions read back**: where the axes of the work objects are attached to the robot
and all frames are the same when they are built again, actions that were written as records are
read back, and their program is that of the actions themselves: the same text or the same fault,
with the same declared names and the same warnings. -/
theorem Generator.createProgram_restored (g : Generator) (actions : List Action)
    (moduleName : Option String) (tools : List (Tool Float))
    (hattached : ∀ m, .movement m ∈ actions → ∀ a, m.workObject.axis = some a → g.robot.HasAxis a)
    (hrebuilt : ∀ m, .movement m ∈ actions → ∀ f ∈ m.frames, f.IsRebuilt) :
    ∃ restored,
      Decoder.readAll ⟨some g.robot, tools⟩ (actions.map Action.toData) = .ok restored ∧
      (g.createProgram restored moduleName).2 =
        (g.createProgram (programOf actions) moduleName).2 ∧
      (g.createProgram restored moduleName).1.declared =
        (g.createProgram (programOf actions) moduleName).1.declared ∧
      (g.createProgram restored moduleName).1.warnings =
        (g.createProgram (programOf actions) moduleName).1.warnings := by
  have h : Restorable actions g.robot := fun m hm => ⟨hattached m hm, hrebuilt m hm⟩
  refine ⟨_, Decoder.readAll_toData rfl h, ?_, ?_, ?_⟩
  · rw [text_createProgram, text_createProgram, itemsOf_restored h, programBody_restored]
  · rw [declared_createProgram, declared_createProgram, itemsOf_restored h]
  · rw [warnings_createProgram, warnings_createProgram, itemsOf_restored h]

theorem isTruthy_pin : (Datum.text "pin").isTruthy = true := by decide

/-- A tool at the flange, with a shape. -/
def pinTool : Tool Float where
  name := "pin"
  attachment := .world
  tcp := .world
  mesh := ⟨[.zero, .unitZ]⟩
  mass := Tool.standardMass
  named := isTruthy_pin
  heavy := Tool.standardMass_heavy

/-- Values of the external axes where nothing is connected, one slot a little beside the marker. -/
def nearMarker : ExternalJoints Float := (default : ExternalJoints Float).set 1 9000000000.001

/-- A movement on the turntable with the tool. -/
def pinMovement : Movement :=
  { usualMovement ⟨⟨"p", isIdentifier_p⟩, .world, none, nearMarker, Target.inRange_none⟩ with
    tool := some pinTool
    workObject := ⟨⟨"part", isIdentifier_part⟩, .world, .world, some turntable, .bool false⟩ }

/-- The movement, after a declaration of the values. -/
def pinActions : List Action :=
  [.joints ⟨⟨"clear", by decide⟩, ⟨.external, nearMarker⟩⟩, .movement pinMovement]

theorem createProgram_restored_pin :
    ∃ restored,
      Decoder.readAll ⟨some tableGenerator.robot, []⟩ (pinActions.map Action.toData) =
        .ok restored ∧
      (tableGenerator.createProgram restored none).2 =
        (tableGenerator.createProgram (programOf pinActions) none).2 ∧
      (tableGenerator.createProgram restored none).1.declared =
        (tableGenerator.createProgram (programOf pinActions) none).1.declared ∧
      (tableGenerator.createProgram restored none).1.warnings =
        (tableGenerator.createProgram (programOf pinActions) none).1.warnings := by
  have hmovement : ∀ m, .movement m ∈ pinActions → m = pinMovement := by
    intro m hm
    simp only [pinActions, List.mem_cons, reduceCtorEq, Action.movement.injEq, false_or,
      List.not_mem_nil, or_false] at hm
    exact hm
  refine tableGenerator.createProgram_restored pinActions none [] ?_ ?_
  · intro m hm a ha
    rw [hmovement m hm] at ha
    cases ha
    exact Robot.hasAxis_of_isAttached rfl (by decide +kernel)
  · intro m hm
    rw [hmovement m hm]
    decide +kernel

end SixAxis
