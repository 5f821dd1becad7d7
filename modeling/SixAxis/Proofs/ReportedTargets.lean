import SixAxis.Proofs.SolvedTargets
import SixAxis.Proofs.TargetDeclarations

/-!
# Warnings of a program

A generator keeps what the solver reports while it declares targets, and a target is declared when
the first movement names its variable.  So the reports of these movements are all kept, in order,
and a program without warnings has all its declared targets within reach and limits.  A later
movement to a variable goes where the first one does, and is not solved.

* `firstMovements` — the movements that declare the variables of a program;
* `KeepsReports` — what is kept of the reports;
* `Generator.createProgram_keepsReports` — **no report of a declared target is lost**;
* `createProgram_overturned` — a program in which a movement would have a report of its own.
-/

namespace SixAxis

/-! ### Movements that declare a variable -/

/-- The movement of an action. -/
def Action.movement? : Action → Option Movement
  | .movement m => some m
  | _ => none

/-- The movements that are the first to name their variable, in order. -/
def firstMovements (actions : List Action) : List Movement :=
  (actions.filterMap Action.movement?).eraseDupsBy fun later earlier =>
    later.variableName == earlier.variableName

theorem mem_movements_iff {actions : List Action} {m : Movement} :
    m ∈ actions.filterMap Action.movement? ↔ .movement m ∈ actions := by
  rw [List.mem_filterMap]
  constructor
  · rintro ⟨a, ha, hm⟩
    cases a with
    | movement m' =>
      cases hm
      exact ha
    | _ => cases hm
  · intro hm
    exact ⟨_, hm, rfl⟩

theorem exists_firstMovement {actions : List Action} {m : Movement} (hm : .movement m ∈ actions) :
    ∃ first ∈ firstMovements actions, first.variableName = m.variableName := by
  obtain ⟨first, hfirst, rfl | hname⟩ := exists_mem_eraseDupsBy
    (r := fun later earlier : Movement => later.variableName == earlier.variableName)
    (mem_movements_iff.2 hm)
  · exact ⟨m, hfirst, rfl⟩
  · exact ⟨first, hfirst, (beq_iff_eq.1 hname).symm⟩

/-- Whether an item is the target of a movement. -/
def Item.isTarget (i : Item) : Bool := decide (i.kind? = some .target)

theorem Item.isTarget_ofData {l : Label} {code : Checked String}
    (hdata : l.type.kind ≠ .target) (opens : ∀ text, code = .ok text → text ≠ "" → l.Opens text) :
    (Item.ofData l code hdata opens).isTarget = false :=
  decide_eq_false (Item.kind?_ofData hdata opens)

section Targets

variable {r : Robot Float}

theorem Movement.isTarget_targetItem (m : Movement) : (m.targetItem r).isTarget = true :=
  decide_eq_true m.kind?_targetItem

theorem targets_used_items (a : Action) :
    (used (a.items r)).filter Item.isTarget = (a.movement?.map (·.targetItem r)).toList := by
  rw [used, List.filter_filter]
  cases a with
  | movement m =>
    have htarget : (m.targetItem r).isBlank = false := Item.isBlank_of_target rfl m.kind_label
    simp only [Action.items, Movement.items, List.filter_cons, Movement.isTarget_targetItem,
      htarget]
    rfl
  | joints j =>
    simp only [Action.items, JointDeclaration.item, List.filter_cons, Item.isTarget_ofData]
    rfl
  | _ => rfl

/-- The targets among the items of some actions are those of their movements. -/
theorem targets_used_itemsOf (actions : List Action) :
    (used (itemsOf actions r)).filter Item.isTarget =
      (actions.filterMap Action.movement?).map (·.targetItem r) := by
  induction actions with
  | nil => rfl
  | cons a rest ih =>
    rw [itemsOf, List.flatMap_cons, used_append, List.filter_append, targets_used_items,
      List.filterMap_cons]
    rw [itemsOf] at ih
    rw [ih]
    cases a.movement? with
    | none => rfl
    | some m => rfl

/-- The targets that a program declares are those of the movements that are the first to name their
variable. -/
theorem targets_firstUses {actions : List Action} (hclear : Clear (used (itemsOf actions r))) :
    (firstUses (itemsOf actions r)).filter Item.isTarget =
      (firstMovements actions).map (·.targetItem r) := by
  have halike : ∀ a ∈ used (itemsOf actions r), ∀ b ∈ used (itemsOf actions r),
      a.sameName b = true → a.isTarget = b.isTarget := by
    intro a ha b hb hname
    rw [Item.isTarget, Item.isTarget, hclear.kind?_eq ha hb hname]
  rw [firstUses, filter_eraseDupsBy halike, targets_used_itemsOf, eraseDupsBy_map]
  rfl

/-- Only targets have anything to report. -/
theorem warnings_eq_nil {actions : List Action} {i : Item} (hi : i ∈ itemsOf actions r)
    (htarget : i.isTarget = false) : i.warnings = [] := by
  obtain ⟨a, -, hi⟩ := List.mem_flatMap.1 hi
  cases a with
  | movement m =>
    simp only [Action.items, Movement.items, List.mem_cons, List.not_mem_nil, or_false] at hi
    rcases hi with rfl | rfl | rfl | rfl
    · rfl
    · rfl
    · rfl
    · rw [Movement.isTarget_targetItem] at htarget
      cases htarget
  | _ =>
    rw [List.mem_singleton.1 hi]
    rfl

end Targets

theorem flatMap_filter {α β : Type} {p : α → Bool} {f : α → List β} {l : List α}
    (h : ∀ a ∈ l, p a = false → f a = []) : (l.filter p).flatMap f = l.flatMap f := by
  induction l with
  | nil => rfl
  | cons a rest ih =>
    rw [List.flatMap_cons, ← ih fun b hb => h b (List.mem_cons_of_mem a hb)]
    cases hp : p a with
    | true => rw [List.filter_cons_of_pos hp, List.flatMap_cons]
    | false =>
      rw [List.filter_cons_of_neg (Bool.eq_false_iff.1 hp), h a List.mem_cons_self hp,
        List.nil_append]

/-! ### What is kept of the reports -/

/-- What is kept of the reports on the targets of a program. -/
structure KeepsReports (r : Robot Float) (actions : List Action) (warnings : List String) :
    Prop where
  /-- The first movement to each variable is solved. -/
  solved : ∀ m ∈ firstMovements actions, ∃ s, m.solution r = .ok s
  /-- The warnings are the reports on these movements, in order. -/
  warnings_eq : warnings = (firstMovements actions).flatMap fun m => (m.targetItem r).warnings
  /-- Each report is among them, behind the name of the target. -/
  kept : ∀ m ∈ firstMovements actions, ∀ s, m.solution r = .ok s → ∀ report ∈ s.reports,
    m.target.name.text ++ ": " ++ report.text ∈ warnings
  /-- There is nothing else among them. -/
  only : ∀ warning ∈ warnings, ∃ m ∈ firstMovements actions, ∃ s, m.solution r = .ok s ∧
    warning ∈ m.warningsOf s
  /-- There are none exactly if the targets of these movements are within reach and limits. -/
  empty_iff : warnings = [] ↔ ∀ m ∈ firstMovements actions, ∀ s, m.solution r = .ok s →
    s.chosen.reachable = true ∧ s.inLimits = true
  /-- A movement has all its reports kept if the first one to its variable is to the same target on
  the same work object. -/
  later : ∀ m, .movement m ∈ actions → ∃ first ∈ firstMovements actions,
    first.variableName = m.variableName ∧
      (first.target = m.target → first.workObject = m.workObject → ∃ s, m.solution r = .ok s ∧
        ∀ report ∈ s.reports, m.target.name.text ++ ": " ++ report.text ∈ warnings)

/-- Nothing is reported exactly of a movement whose target is within reach and all limits. -/
theorem Movement.warningsOf_eq_nil_iff {m : Movement} {r : Robot Float} {s : Solution Float}
    (h : m.solution r = .ok s) :
    m.warningsOf s = [] ↔ s.chosen.reachable = true ∧ s.inLimits = true := by
  obtain ⟨target, -, hsolve⟩ := bind_eq_ok.1 h
  obtain ⟨configuration, rfl⟩ := Robot.exists_solution_of_solve hsolve
  rw [Movement.warningsOf, List.map_eq_nil_iff, Robot.reports_eq_nil_iff]

theorem Movement.warnings_targetItem {m : Movement} {r : Robot Float} {s : Solution Float}
    (h : m.solution r = .ok s) : (m.targetItem r).warnings = m.warningsOf s := by
  rw [targetItem, h]
  rfl

namespace Generator

variable {g : Generator} {actions : List Action} {moduleName : Option String} {program : String}

/-- The first movement to each variable of a program is solved. -/
theorem solved_of_firstMovements
    (h : (g.createProgram (programOf actions) moduleName).2 = .ok program) {m : Movement}
    (hm : m ∈ firstMovements actions) : ∃ s, m.solution g.robot = .ok s := by
  obtain ⟨hclear, hlegible, -⟩ := createProgram_ok_iff.1 h
  have htarget : m.targetItem g.robot ∈
      (firstUses (itemsOf actions g.robot)).filter Item.isTarget := by
    rw [targets_firstUses hclear]
    exact List.mem_map_of_mem hm
  obtain ⟨text, htext⟩ := legible_firstUses hlegible _ (List.mem_filter.1 htarget).1
  obtain ⟨s, hs, -⟩ := bind_eq_ok.1 htext
  exact ⟨s, hs⟩

/-- The warnings of a program are the reports on these movements. -/
theorem warnings_of_firstMovements
    (h : (g.createProgram (programOf actions) moduleName).2 = .ok program) :
    (g.createProgram (programOf actions) moduleName).1.warnings =
      (firstMovements actions).flatMap fun m => (m.targetItem g.robot).warnings := by
  obtain ⟨hclear, -⟩ := createProgram_ok_iff.1 h
  have hsilent : ∀ i ∈ firstUses (itemsOf actions g.robot), i.isTarget = false →
      i.warnings = [] := fun i hi =>
    warnings_eq_nil (mem_used_iff.1 (mem_of_mem_eraseDupsBy hi)).1
  rw [warnings_of_ok h, ← flatMap_filter hsilent, targets_firstUses hclear, List.flatMap_map]

theorem mem_warnings_iff
    (h : (g.createProgram (programOf actions) moduleName).2 = .ok program) {warning : String} :
    warning ∈ (g.createProgram (programOf actions) moduleName).1.warnings ↔
      ∃ m ∈ firstMovements actions, ∃ s, m.solution g.robot = .ok s ∧
        warning ∈ m.warningsOf s := by
  rw [warnings_of_firstMovements h, List.mem_flatMap]
  refine exists_congr fun m => and_congr_right fun hm => ?_
  obtain ⟨s, hs⟩ := solved_of_firstMovements h hm
  rw [Movement.warnings_targetItem hs]
  constructor
  · intro hwarning
    exact ⟨s, hs, hwarning⟩
  · rintro ⟨s', hs', hwarning⟩
    cases hs.symm.trans hs'
    exact hwarning

/-- **No report of a declared target is lost.** -/
theorem createProgram_keepsReports (g : Generator) (actions : List Action)
    (moduleName : Option String) {program : String}
    (h : (g.createProgram (programOf actions) moduleName).2 = .ok program) :
    KeepsReports g.robot actions (g.createProgram (programOf actions) moduleName).1.warnings where
  solved m hm := solved_of_firstMovements h hm
  warnings_eq := warnings_of_firstMovements h
  kept m hm s hs report hreport :=
    (mem_warnings_iff h).2 ⟨m, hm, s, hs, List.mem_map_of_mem hreport⟩
  only warning hwarning := (mem_warnings_iff h).1 hwarning
  empty_iff := by
    rw [warnings_of_firstMovements h, List.flatMap_eq_nil_iff]
    refine forall₂_congr fun m hm => ?_
    obtain ⟨s, hs⟩ := solved_of_firstMovements h hm
    rw [Movement.warnings_targetItem hs, Movement.warningsOf_eq_nil_iff hs]
    constructor
    · intro hgood s' hs'
      cases hs.symm.trans hs'
      exact hgood
    · intro hgood
      exact hgood s hs
  later m hm := by
    obtain ⟨first, hfirst, hvariable⟩ := exists_firstMovement hm
    refine ⟨first, hfirst, hvariable, fun htarget hobject => ?_⟩
    obtain ⟨s, hs⟩ := solved_of_firstMovements h hfirst
    rw [← Movement.solution_congr htarget hobject, ← htarget]
    exact ⟨s, hs, fun report hreport =>
      (mem_warnings_iff h).2 ⟨first, hfirst, s, hs, List.mem_map_of_mem hreport⟩⟩

end Generator

/-! ### A movement whose report is not kept -/

/-- A movement to the docked target with the turntable at some value. -/
def swungMovement (external : ExternalJoints Float) : Movement :=
  usualMovement { dockedTarget .world with external := external }

/-- A value beyond the limits of the turntable. -/
def overturned : ExternalJoints Float := .ofValues [1000]

/-- Two movements to one variable, the second one with the turntable out of its limits. -/
def swungMovements : List Movement := [swungMovement default, swungMovement overturned]

theorem solution_swung (external : ExternalJoints Float) :
    (swungMovement external).solution tableGenerator.robot =
      .ok (tableGenerator.robot.solution (Frame.world.onWorldObject).copied external (some 0)
        default) := by
  have hspace : Frame.world.onWorldObject.isFinite = true := by decide +kernel
  have hfinite : (Robot.seenUncarried Frame.world.onWorldObject).isFinite = true := by
    decide +kernel
  have hwrist : (tableGenerator.robot.wristCenter
      (Robot.seenUncarried Frame.world.onWorldObject)).IsNought := by
    decide +kernel
  have hturn : Scalar.infinite (tableGenerator.robot.baseTurn default
      (Robot.seenUncarried Frame.world.onWorldObject) false) = false := by
    decide +kernel
  exact Movement.solution_wristOnShoulder (some 0) rfl rfl (by decide +kernel) (by decide +kernel)
    hspace hfinite hwrist hturn

theorem used_swung : used (itemsOf (swungMovements.map .movement) tableGenerator.robot) =
    [(swungMovement default).targetItem tableGenerator.robot,
      (swungMovement overturned).targetItem tableGenerator.robot] := by
  rw [swungMovements, List.map_cons, List.map_singleton, itemsOf, List.flatMap_cons,
    List.flatMap_singleton, used_append, Action.items, Action.items, swungMovement, swungMovement,
    used_usualMovement, used_usualMovement]
  rfl

theorem exists_program_swung : ∃ program, (tableGenerator.createProgram
    (programOf (swungMovements.map .movement)) none).2 = .ok program := by
  refine Generator.exists_program ?_ fun i hi => ?_
  · rw [used_swung]
    refine List.pairwise_pair.2 fun hclash => hclash.2 ?_
    rw [Movement.kind?_targetItem, Movement.kind?_targetItem]
  · have hcode (external : ExternalJoints Float) :
        ∃ text, ((swungMovement external).targetItem tableGenerator.robot).code = .ok text :=
      ⟨_, bind_eq_ok.2 ⟨_, solution_swung external, rfl⟩⟩
    rw [used_swung, List.mem_cons, List.mem_singleton] at hi
    rcases hi with rfl | rfl
    · exact hcode default
    · exact hcode overturned

theorem createProgram_keepsReports_swung : ∃ program,
    (tableGenerator.createProgram (programOf (swungMovements.map .movement)) none).2 = .ok program ∧
      KeepsReports tableGenerator.robot (swungMovements.map .movement)
        (tableGenerator.createProgram
          (programOf (swungMovements.map .movement)) none).1.warnings := by
  obtain ⟨program, hprogram⟩ := exists_program_swung
  exact ⟨program, hprogram, tableGenerator.createProgram_keepsReports _ none hprogram⟩

theorem firstMovements_swung :
    firstMovements (swungMovements.map .movement) = [swungMovement default] := rfl

/-- Some reports are not kept: that on the second of two movements to one variable is lost. -/
theorem createProgram_overturned :
    (∃ program, (tableGenerator.createProgram
      (programOf (swungMovements.map .movement)) none).2 = .ok program) ∧
      ¬ ∀ m, .movement m ∈ swungMovements.map Action.movement → ∀ s,
        m.solution tableGenerator.robot = .ok s → ∀ report ∈ s.reports,
          m.target.name.text ++ ": " ++ report.text ∈ (tableGenerator.createProgram
            (programOf (swungMovements.map .movement)) none).1.warnings := by
  obtain ⟨program, hprogram⟩ := exists_program_swung
  refine ⟨⟨program, hprogram⟩, fun hall => ?_⟩
  have hout : Robot.externalReports (tableGenerator.robot.misfits (tableGenerator.robot.resolve
      overturned Frame.world.onWorldObject.copied) false) = [Report.external 0] := by
    decide +kernel
  have hin : Robot.externalReports (tableGenerator.robot.misfits (tableGenerator.robot.resolve
      default Frame.world.onWorldObject.copied) false) = [] := by
    decide +kernel
  have hreport : Report.external 0 ∈ (tableGenerator.robot.solution
      Frame.world.onWorldObject.copied overturned (some 0) default).reports := by
    rw [Robot.reports_eq, Robot.external_solution, hout]
    exact List.mem_append_right _ (List.mem_singleton.2 rfl)
  have hlost := hall _ (List.mem_cons_of_mem _ List.mem_cons_self) _ (solution_swung overturned) _
    hreport
  obtain ⟨m, hm, s, hs, hkept⟩ := (Generator.mem_warnings_iff hprogram).1 hlost
  rw [firstMovements_swung, List.mem_singleton] at hm
  rw [hm] at hs hkept
  cases hs.symm.trans (solution_swung default)
  obtain ⟨report, hof, htext⟩ := List.mem_map.1 hkept
  have hsame : report = .external 0 := Report.text_injective ((String.append_right_inj _).1 htext)
  obtain ⟨ofSelection, hselection, hreports⟩ := Robot.reports_solution tableGenerator.robot
    Frame.world.onWorldObject.copied default (some 0) default
  rw [hreports, Robot.external_solution, hin, List.append_nil, hsame, List.mem_append] at hof
  rcases hof with hof | hof
  · cases hselection _ hof
  · obtain ⟨i, -, hi⟩ := List.mem_map.1 hof
    cases hi

end SixAxis
