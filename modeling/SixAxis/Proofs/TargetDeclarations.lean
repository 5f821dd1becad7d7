import SixAxis.Proofs.DeclaredTypes

/-!
# Declarations of targets

The instruction of a movement names a variable, after the target and after whether joint values or
a pose is meant.  The variable is declared with the literal of the first movement that names it.
Later movements to the variable are not solved, whatever their own targets are, and go there too.

* `Action.movementTo?` — the movement of an action, if it names a variable;
* `find?_used_itemsOf` — the first item of a variable is the target of the first movement to it;
* `Generator.declaration_of_variable` — **the declaration of a variable** is the literal of the
  first movement that names it;
* `createProgram_docked` — a program in which a movement goes to the target of another one.
-/

namespace SixAxis

/-- The movement of an action, if its instruction names a given variable. -/
def Action.movementTo? (name : String) : Action → Option Movement
  | .movement m => if m.variableName = name then some m else none
  | _ => none

/-! ### The first movement to a variable -/

section FirstMovement

variable {r : Robot Float} {name : String}

/-- If all data of some name are targets, an item of other data is passed over. -/
theorem find?_used_cons {i : Item} {rest : List Item} (hkind : i.kind? ≠ some .target)
    (htargets : ∀ j ∈ used (i :: rest), j.isNamed name = true → j.kind? = some .target) :
    (used (i :: rest)).find? (Item.isNamed name) = (used rest).find? (Item.isNamed name) := by
  by_cases hblank : i.isBlank = true
  · rw [used_cons_of_blank hblank]
  · have hused : i ∈ used (i :: rest) :=
      mem_used_iff.2 ⟨List.mem_cons_self, Bool.eq_false_iff.2 hblank⟩
    rw [used_cons (Bool.eq_false_iff.2 hblank),
      List.find?_cons_of_neg fun hname => hkind (htargets i hused hname)]

theorem used_tail {i j : Item} {rest : List Item} (h : j ∈ used rest) : j ∈ used (i :: rest) :=
  mem_used_iff.2 ⟨List.mem_cons_of_mem i (mem_used_iff.1 h).1, (mem_used_iff.1 h).2⟩

theorem Movement.kind?_targetItem (m : Movement) : (m.targetItem r).kind? = some .target :=
  congrArg some m.kind_label

theorem find?_used_movement (m : Movement)
    (htargets : ∀ i ∈ used (m.items r), i.isNamed name = true → i.kind? = some .target) :
    (used (m.items r)).find? (Item.isNamed name) =
      if m.variableName = name then some (m.targetItem r) else none := by
  rw [Movement.items] at htargets ⊢
  rw [find?_used_cons (Item.kind?_ofData _ _) htargets]
  replace htargets := fun i hi => htargets i (used_tail hi)
  rw [find?_used_cons (Item.kind?_ofData _ _) htargets]
  replace htargets := fun i hi => htargets i (used_tail hi)
  rw [find?_used_cons (Item.kind?_ofData _ _) htargets,
    used_cons (Item.isBlank_of_target rfl m.kind_label)]
  by_cases hname : m.variableName = name
  · rw [if_pos hname, List.find?_cons_of_pos]
    exact Item.isNamed_iff.2 ⟨m.label, rfl, hname⟩
  · rw [if_neg hname, List.find?_cons_of_neg]
    · rfl
    · intro hnamed
      obtain ⟨l, hl, hln⟩ := Item.isNamed_iff.1 hnamed
      cases hl
      exact hname hln

theorem find?_used_items (a : Action)
    (htargets : ∀ i ∈ used (a.items r), i.isNamed name = true → i.kind? = some .target) :
    (used (a.items r)).find? (Item.isNamed name) =
      (a.movementTo? name).map (·.targetItem r) := by
  have hnone {i : Item} (hi : a.items r = [i]) (hkind : i.kind? ≠ some .target) :
      (used (a.items r)).find? (Item.isNamed name) = none := by
    rw [hi] at htargets ⊢
    exact find?_used_cons hkind htargets
  cases a with
  | movement m =>
    rw [Action.movementTo?, apply_ite (Option.map _)]
    exact find?_used_movement m htargets
  | joints j => exact hnone rfl (Item.kind?_ofData _ _)
  | _ => exact hnone rfl (Item.kind?_ofLine _)

/-- If all data of some name are targets, the first item of the name is the target of the first
movement to it. -/
theorem find?_used_itemsOf (actions : List Action)
    (htargets : ∀ i ∈ used (itemsOf actions r), i.isNamed name = true → i.kind? = some .target) :
    (used (itemsOf actions r)).find? (Item.isNamed name) =
      (actions.findSome? (·.movementTo? name)).map (·.targetItem r) := by
  induction actions with
  | nil => rfl
  | cons a rest ih =>
    rw [itemsOf, List.flatMap_cons, used_append] at htargets ⊢
    rw [List.find?_append, find?_used_items a fun i hi => htargets i (List.mem_append_left _ hi),
      List.findSome?_cons]
    cases a.movementTo? name with
    | some m => rfl
    | none => exact ih fun i hi => htargets i (List.mem_append_right _ hi)

end FirstMovement

/-! ### The literal of the first movement -/

/-- Movements to one target on one work object are solved alike. -/
theorem Movement.solution_congr {m n : Movement} (htarget : m.target = n.target)
    (hobject : m.workObject = n.workObject) (r : Robot Float) : m.solution r = n.solution r := by
  have hworld : m.worldTarget r = n.worldTarget r := by
    simp only [Movement.worldTarget, Movement.globalTarget?, htarget, hobject]
  rw [Movement.solution, Movement.solution, hworld, htarget]

/-- Movements of one type to one target on one work object declare the same. -/
theorem Movement.declaration_congr {m n : Movement} (htarget : m.target = n.target)
    (htype : m.isAbsolute = n.isAbsolute) (hobject : m.workObject = n.workObject)
    (r : Option (Robot Float)) : m.declaration r = n.declaration r := by
  cases r with
  | none =>
    rw [Movement.declaration, Movement.declaration, htarget]
  | some r =>
    have hliteral : m.declarationOf = n.declarationOf := by
      funext s
      rw [Movement.declarationOf, Movement.declarationOf, htype, htarget]
    rw [Movement.declaration, Movement.declaration, Movement.solution_congr htarget hobject r,
      hliteral]

/-- **The declaration of a variable** is the literal of the first movement that names it.  This is
that of a movement itself if the first one is of the same type, to the same target, and on the same
work object. -/
theorem Generator.declaration_of_variable (g : Generator) (actions : List Action)
    (moduleName : Option String) {program : String}
    (h : (g.createProgram (programOf actions) moduleName).2 = .ok program) {m : Movement}
    (hm : .movement m ∈ actions) :
    ∃ first literal body,
      actions.findSome? (·.movementTo? m.variableName) = some first ∧
      first.declaration (some g.robot) = .ok literal ∧
      (firstUses (itemsOf actions g.robot)).filter (Item.isNamed m.variableName) =
        [first.targetItem g.robot] ∧
      (first.targetItem g.robot).written = literal ∧
      program = joinLines g.settings (ProgramModule.lines g.settings
        (ProgramModule.nameOr g.settings moduleName)
        ((firstUses (itemsOf actions g.robot)).map Item.written) body) ∧
      (first.target = m.target → first.isAbsolute = m.isAbsolute →
        first.workObject = m.workObject → m.declaration (some g.robot) = .ok literal) := by
  obtain ⟨hclear, hlegible, body, -, htext⟩ := createProgram_ok_iff.1 h
  have hused := Movement.targetItem_mem_used hm g.robot
  have htargets : ∀ i ∈ used (itemsOf actions g.robot), i.isNamed m.variableName = true →
      i.kind? = some .target := by
    intro i hi hname
    have hsame : (m.targetItem g.robot).sameName i = true := by
      rw [Item.isNamed_label (i := m.targetItem g.robot) (l := m.label) rfl]
      exact hname
    rw [← hclear.kind?_eq hused hi hsame, Movement.kind?_targetItem]
  obtain ⟨item, e, hdeclared, -⟩ := exists_declaredBy hclear hlegible hused rfl
  have hfind := find?_used_itemsOf actions htargets
  rw [show m.variableName = m.label.name from rfl, hdeclared.first_eq] at hfind
  obtain ⟨first, hfirst, hitem⟩ := Option.map_eq_some_iff.1 hfind.symm
  obtain ⟨literal, hliteral, -⟩ := hdeclared.opens
  rw [← hitem] at hliteral
  refine ⟨first, literal, body, hfirst, hliteral, hitem ▸ hdeclared.filter_eq,
    Item.written_of_ok hliteral, htext, fun htarget htype hobject => ?_⟩
  rw [← Movement.declaration_congr htarget htype hobject]
  exact hliteral

/-! ### Two movements to one variable -/

/-- A target at the origin of the arm, to be reached in the first configuration. -/
def dockedTarget (frame : Frame Float) : Target :=
  ⟨⟨"dock", by decide⟩, frame, some (.whole 0), default, rfl⟩

/-- A movement to such a target. -/
def dockedMovement (frame : Frame Float) : Movement := usualMovement (dockedTarget frame)

/-- The frame of the world after a quarter turn. -/
def quarterTurn : Frame Float := ⟨.zero, .unitY, ⟨-1, 0, 0⟩⟩

/-- Two movements whose targets have the same name and different frames. -/
def dockedActions : List Action :=
  [.movement (dockedMovement .world), .movement (dockedMovement quarterTurn)]

theorem mem_dockedActions : .movement (dockedMovement quarterTurn) ∈ dockedActions :=
  List.mem_cons_of_mem _ List.mem_cons_self

/-- A generator for the tucked arm. -/
def tuckedGenerator : Generator := .fresh tuckedArm .usual

/-- The work object that every controller has, in the world. -/
def worldObjectFrame : Frame Float := Frame.world.carried Frame.world.toMotion

theorem worldObjectFrame_isFinite : worldObjectFrame.isFinite = true := by decide +kernel

/-- A frame on this work object, in the world. -/
def Frame.onWorldObject (f : Frame Float) : Frame Float := f.carried worldObjectFrame.toMotion

/-- A movement on this work object is solved if the wrist centre comes to lie on the shoulder, both
at the origin of joint one, and no axis carries the robot. -/
theorem Movement.solution_wristOnShoulder {r : Robot Float} {t : Target}
    (fixed : Option Configuration) (hfixed : t.configuration = fixed.map fun c => .whole c.val)
    (hcarrier : r.carrier = none) (hfirst : (r.jointFrames.get Joint.first).point.IsNought)
    (hsecond : (r.jointFrames.get Joint.second).point.IsNought)
    (hspace : t.frame.onWorldObject.isFinite = true)
    (hfinite : (Robot.seenUncarried t.frame.onWorldObject).isFinite = true)
    (hwrist : (r.wristCenter (Robot.seenUncarried t.frame.onWorldObject)).IsNought)
    (hturn : Scalar.infinite (r.baseTurn default
      (Robot.seenUncarried t.frame.onWorldObject) false) = false) :
    (usualMovement t).solution r =
      .ok (r.solution t.frame.onWorldObject.copied t.external fixed default) := by
  have hobject : (usualMovement t).workObject.globalFrame? = .ok worldObjectFrame :=
    if_pos worldObjectFrame_isFinite
  have hglobal : (usualMovement t).globalTarget? = .ok t.frame.onWorldObject := by
    rw [Movement.globalTarget?, hobject]
    exact if_pos hspace
  have hworld : (usualMovement t).worldTarget r = .ok t.frame.onWorldObject := by
    rw [Movement.worldTarget, hglobal]
    rfl
  have hasked : (none <|> (usualMovement t).target.configuration) =
      fixed.map fun c => Numeral.whole c.val := hfixed
  rw [Movement.solution, hworld, hasked]
  exact Robot.solve_of_wristOnShoulder fixed hcarrier hfirst hsecond hfinite hwrist hturn

section Docked

variable {f : Frame Float} (hspace : f.onWorldObject.isFinite = true)
  (hfinite : (Robot.seenUncarried f.onWorldObject).isFinite = true)
  (hwrist : (tuckedArm.wristCenter (Robot.seenUncarried f.onWorldObject)).IsNought)
  (hturn : Scalar.infinite (tuckedArm.baseTurn default
    (Robot.seenUncarried f.onWorldObject) false) = false)

include hspace hfinite hwrist hturn

theorem solution_docked : (dockedMovement f).solution tuckedArm =
    .ok (tuckedArm.solution f.onWorldObject.copied default (some 0) default) :=
  Movement.solution_wristOnShoulder (some 0) rfl rfl (by decide +kernel) (by decide +kernel) hspace
    hfinite hwrist hturn

theorem declaration_docked {literal : String}
    (hliteral : (dockedMovement f).declarationOf
      (tuckedArm.solution f.onWorldObject.copied default (some 0) default) = literal) :
    (dockedMovement f).declaration (some tuckedArm) = .ok literal := by
  rw [Movement.declaration, solution_docked hspace hfinite hwrist hturn]
  exact congrArg Except.ok hliteral

end Docked

/-- The literal of the first of the two movements. -/
def dockedLiteral : String :=
  "VAR robtarget dock := [[0, 0, 0], [1, 0, 0, 0], [0, 0, 0, 0], [9E9, 9E9, 9E9, 9E9, 9E9, 9E9]];"

/-- The literal of the second one. -/
def turnedLiteral : String :=
  "VAR robtarget dock := [[0, 0, 0], [0.707107, 0, 0, 0.707107], [0, 0, 0, 0], "
    ++ "[9E9, 9E9, 9E9, 9E9, 9E9, 9E9]];"

theorem declaration_dockedMovement :
    (dockedMovement .world).declaration (some tuckedArm) = .ok dockedLiteral :=
  declaration_docked (by decide +kernel) (by decide +kernel) (by decide +kernel) (by decide +kernel)
    (by decide +kernel)

theorem declaration_turnedMovement :
    (dockedMovement quarterTurn).declaration (some tuckedArm) = .ok turnedLiteral :=
  declaration_docked (by decide +kernel) (by decide +kernel) (by decide +kernel) (by decide +kernel)
    (by decide +kernel)

/-- With a speed, a zone and a work object that the controller knows, a movement declares only its
target. -/
theorem used_usualMovement (t : Target) (r : Robot Float) :
    used ((usualMovement t).items r) = [(usualMovement t).targetItem r] := by
  rw [Movement.items, used_cons_of_blank (Item.isBlank_iff.2 rfl),
    used_cons_of_blank (Item.isBlank_iff.2 rfl), used_cons_of_blank (Item.isBlank_iff.2 rfl),
    used_cons (Item.isBlank_of_target rfl (Movement.kind_label _))]
  rfl

theorem used_docked : used (itemsOf dockedActions tuckedArm) =
    [(dockedMovement .world).targetItem tuckedArm,
      (dockedMovement quarterTurn).targetItem tuckedArm] := by
  rw [dockedActions, itemsOf, List.flatMap_cons, List.flatMap_cons, List.flatMap_nil, used_append,
    used_append, Action.items, Action.items, dockedMovement, dockedMovement, used_usualMovement,
    used_usualMovement]
  rfl

theorem firstUses_docked : firstUses (itemsOf dockedActions tuckedArm) =
    [(dockedMovement .world).targetItem tuckedArm] := by
  rw [firstUses, used_docked]
  rfl

/-- The instruction of both movements. -/
def dockedInstruction : String := "MoveL dock, v5, z0, tool0\\WObj:=wobj0;"

/-- The program of the two movements. -/
def dockedProgram : String :=
  joinLines .usual (ProgramModule.lines .usual "MainModule" [dockedLiteral]
    [dockedInstruction, dockedInstruction])

theorem programBody_docked :
    programBody dockedActions tuckedArm = .ok [dockedInstruction, dockedInstruction] := by
  have hinstruction (f : Frame Float) :
      (Action.movement (dockedMovement f)).instruction (some tuckedArm) =
        .ok dockedInstruction := by
    rfl
  rw [programBody, dockedActions, List.mapM_cons, List.mapM_cons, List.mapM_nil, hinstruction,
    hinstruction]
  rfl

theorem text_docked :
    (tuckedGenerator.createProgram (programOf dockedActions) none).2 = .ok dockedProgram := by
  have hwritten : ((dockedMovement .world).targetItem tuckedArm).written = dockedLiteral :=
    Item.written_of_ok declaration_dockedMovement
  refine Generator.createProgram_ok_iff.2 ⟨?_, ?_, _, programBody_docked, ?_⟩
  · rw [show tuckedGenerator.robot = tuckedArm from rfl, used_docked]
    refine List.pairwise_pair.2 fun hclash => hclash.2 ?_
    rw [Movement.kind?_targetItem, Movement.kind?_targetItem]
  · rw [show tuckedGenerator.robot = tuckedArm from rfl, used_docked]
    rintro before i after hsplit -
    have hi : i ∈ before ++ i :: after := List.mem_append_right _ List.mem_cons_self
    rw [← hsplit, List.mem_cons, List.mem_singleton] at hi
    rcases hi with rfl | rfl
    · exact ⟨_, declaration_dockedMovement⟩
    · exact ⟨_, declaration_turnedMovement⟩
  · rw [show tuckedGenerator.robot = tuckedArm from rfl, firstUses_docked, List.map_singleton,
      hwritten]
    rfl

theorem declaration_of_variable_docked :
    ∃ first literal body,
      dockedActions.findSome? (·.movementTo? (dockedMovement quarterTurn).variableName) =
        some first ∧
      first.declaration (some tuckedGenerator.robot) = .ok literal ∧
      (firstUses (itemsOf dockedActions tuckedGenerator.robot)).filter
          (Item.isNamed (dockedMovement quarterTurn).variableName) =
        [first.targetItem tuckedGenerator.robot] ∧
      (first.targetItem tuckedGenerator.robot).written = literal ∧
      dockedProgram = joinLines tuckedGenerator.settings
        (ProgramModule.lines tuckedGenerator.settings
          (ProgramModule.nameOr tuckedGenerator.settings none)
          ((firstUses (itemsOf dockedActions tuckedGenerator.robot)).map Item.written) body) ∧
      (first.target = (dockedMovement quarterTurn).target →
        first.isAbsolute = (dockedMovement quarterTurn).isAbsolute →
        first.workObject = (dockedMovement quarterTurn).workObject →
        (dockedMovement quarterTurn).declaration (some tuckedGenerator.robot) = .ok literal) :=
  tuckedGenerator.declaration_of_variable dockedActions none text_docked mem_dockedActions

/-- A movement does not always go to its own target: the second one goes to that of the first. -/
theorem createProgram_docked :
    (tuckedGenerator.createProgram (programOf dockedActions) none).2 = .ok dockedProgram ∧
      (dockedMovement quarterTurn).declaration (some tuckedGenerator.robot) = .ok turnedLiteral ∧
      ¬ ∀ m, .movement m ∈ dockedActions →
        ((firstUses (itemsOf dockedActions tuckedGenerator.robot)).filter
          (Item.isNamed m.variableName)).map Item.code =
            [m.declaration (some tuckedGenerator.robot)] := by
  refine ⟨text_docked, declaration_turnedMovement, fun hown => ?_⟩
  have hturned := hown _ mem_dockedActions
  rw [show tuckedGenerator.robot = tuckedArm from rfl, firstUses_docked,
    declaration_turnedMovement] at hturned
  have hliterals : [Except.ok dockedLiteral] = [(Except.ok turnedLiteral : Checked String)] := by
    rw [← declaration_dockedMovement, ← hturned]
    rfl
  have hsame : dockedLiteral = turnedLiteral := Except.ok.inj (List.singleton_inj.1 hliterals)
  exact absurd hsame (by decide +kernel)

end SixAxis
