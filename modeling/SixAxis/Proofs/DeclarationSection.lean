import SixAxis.Proofs.FirstUses
import SixAxis.Proofs.ProgramFaults
import SixAxis.Proofs.WristOnShoulder

/-!
# The declaration section of a program

What a generator makes of some actions, in terms of their items.  The program has one declaration
for each name, that of the first item of the name, in order of first use; comments and lines of
code stay at their places.  It is refused for a clash of names exactly where an item has the name
of an earlier one of another kind and everything that is written before can be written.

* `programBody` — the instructions of a program;
* `generate_text` — the text of a program from its items and instructions;
* `Generator.createProgram_ok_iff` — **when a program is made**, and what it consists of;
* `FollowsItems` — what is specified for a program;
* `Generator.createProgram_followsItems` — **every program follows its items**.
-/

namespace SixAxis

/-! ### Both passes -/

/-- The instructions of some actions, without the empty ones. -/
def programBody (actions : List Action) (r : Robot Float) : Checked (List String) := do
  let codes ← actions.mapM (·.instruction (some r))
  return codes.filter (!·.isEmpty)

namespace ProgramModule

/-- The instruction of an action stands before those of the rest. -/
theorem instructions_action (r : Robot Float) (a : Action) (rest : List (Option Entity))
    (first : Option Bool) (codes : List String) :
    ∃ later, instructions r (some (.action a) :: rest) first codes =
      match a.instruction (some r) with
      | .error f => (later, .error f)
      | .ok code => instructions r rest later (if code.isEmpty then codes else codes ++ [code]) :=
  ⟨_, rfl⟩

theorem instructions_eq (actions : List Action) (r : Robot Float) (first : Option Bool)
    (codes : List String) :
    (instructions r (programOf actions) first codes).2 =
      (programBody actions r).map (codes ++ ·) := by
  induction actions generalizing first codes with
  | nil =>
    rw [programBody, List.mapM_nil]
    exact congrArg Except.ok (List.append_nil codes).symm
  | cons a rest ih =>
    obtain ⟨later, hstep⟩ := instructions_action r a (programOf rest) first codes
    have hcons : programOf (a :: rest) = some (.action a) :: programOf rest := rfl
    rw [programBody, List.mapM_cons, hcons, hstep]
    cases a.instruction (some r) with
    | error f => rfl
    | ok code =>
      simp only [ih, programBody]
      cases rest.mapM (·.instruction (some r)) with
      | error f => rfl
      | ok all =>
        show Except.ok _ = Except.ok (codes ++ List.filter _ (code :: all))
        by_cases hcode : code.isEmpty = true
        · rw [if_pos hcode, List.filter_cons_of_neg (by rw [hcode]; decide)]
        · rw [if_neg hcode, List.filter_cons_of_pos (by rw [Bool.eq_false_iff.2 hcode]; rfl)]
          exact congrArg Except.ok (List.append_assoc codes [code] _)

/-- The draft of a program is that of its items. -/
theorem generate_draft (actions : List Action) (r : Robot Float) (settings : Settings)
    (moduleName : Option String) :
    (generate r settings (programOf actions) moduleName).draft.outline =
      (drawUp (itemsOf actions r) .empty).2 := by
  have hpass := Drafting.outlined_all actions r .empty
  rw [show Draft.empty.outline = .empty from rfl] at hpass
  rw [← hpass, generate, outlined]
  rcases (Drafting.all (programOf actions) r).run.run .empty with ⟨f | u, d⟩
  · rfl
  · simp only
    cases (instructions r (programOf actions) none []).2 with
    | error f => rfl
    | ok codes => rfl

/-- The text of a program, from its items and its instructions. -/
theorem generate_text (actions : List Action) (r : Robot Float) (settings : Settings)
    (moduleName : Option String) :
    (generate r settings (programOf actions) moduleName).text =
      match drawUp (itemsOf actions r) .empty with
      | (.error f, _) => .error f
      | (.ok (), d) => (programBody actions r).map fun body =>
          joinLines settings (lines settings (nameOr settings moduleName) d.declarations body) := by
  have hpass := Drafting.outlined_all actions r .empty
  have hbody := instructions_eq actions r none []
  rw [show Draft.empty.outline = .empty from rfl] at hpass
  rw [← hpass, generate, outlined]
  rcases (Drafting.all (programOf actions) r).run.run .empty with ⟨f | u, d⟩
  · rfl
  · simp only [hbody]
    cases programBody actions r with
    | error f => rfl
    | ok body => rfl

end ProgramModule

/-! ### What a program comes to -/

/-- Some item has the name of an earlier one of another kind, and every text that is asked for up to
it can be written. -/
def ClashesFirst (items : List Item) : Prop :=
  ∃ before later after, items = before ++ later :: after ∧ Legible (before ++ [later]) ∧
    ∃ earlier ∈ before, later.ClashesWith earlier

theorem programBody_noActionFault (actions : List Action) (r : Robot Float) :
    NoActionFault (programBody actions r) :=
  (NoActionFault.mapM (fun a => a.noActionFault_instruction (some r)) actions).bind
    fun _ _ => .ok _

/-- The pass stops at a clash that comes first. -/
theorem drawUp_of_clashesFirst {items : List Item} (h : ClashesFirst (used items)) :
    ∃ f : ActionFault, (drawUp items .empty).1 = .error f := by
  obtain ⟨before, later, after, hsplit, hlegible, earlier, hearlier, hclash⟩ := h
  rcases drawUp_spec items with
    ⟨pre, i, post, f, hstop_split, hclear, -, hstop, hf⟩ | ⟨-, hclear, -⟩
  · cases hstop with
    | clash => exact ⟨_, congrArg Prod.fst hf⟩
    | illegible hasked hcode =>
      exfalso
      -- that text would come up to the clash, or behind it, where the pass never is
      have hbehind {rest : List Item} (hpre : pre = before ++ later :: rest) : False := by
        rw [hpre] at hclear
        exact hclear.not_clashesWith hearlier hclash
      rw [hsplit, List.append_cons] at hstop_split
      rcases List.append_eq_append_iff.1 hstop_split with ⟨rest, hpre, -⟩ | ⟨rest, hupto, hrest⟩
      · exact hbehind (by rw [hpre, List.append_assoc, List.singleton_append])
      · cases rest with
        | nil => exact hbehind (by rw [← List.append_nil pre, ← hupto])
        | cons j rest =>
          cases hrest
          obtain ⟨text, htext⟩ := hlegible pre i rest hupto hasked
          rw [hcode] at htext
          cases htext
  · rw [hsplit] at hclear
    exact absurd hclash (hclear.not_clashesWith hearlier)

theorem legible_firstUses {items : List Item} (h : Legible (used items)) :
    ∀ i ∈ firstUses items, ∃ text, i.code = .ok text := by
  intro i hi
  obtain ⟨before, after, hsplit, hnew⟩ := exists_first_of_mem hi
  exact h before i after hsplit fun _ => hnew

/-- The declarations of items that can all be written. -/
theorem map_code_eq {items : List Item} (h : ∀ i ∈ items, ∃ text, i.code = .ok text) :
    items.map Item.code = (items.map Item.written).map .ok := by
  rw [List.map_map]
  refine List.map_congr_left fun i hi => ?_
  obtain ⟨text, htext⟩ := h i hi
  rw [Function.comp_apply, Item.written_of_ok htext, htext]

namespace Generator

variable {g : Generator} {actions : List Action} {moduleName : Option String}

theorem declared_createProgram (g : Generator) (actions : List Action)
    (moduleName : Option String) :
    (g.createProgram (programOf actions) moduleName).1.declared =
      (drawUp (itemsOf actions g.robot) .empty).2.declared := by
  rw [← ProgramModule.generate_draft actions g.robot g.settings moduleName]
  rfl

theorem warnings_createProgram (g : Generator) (actions : List Action)
    (moduleName : Option String) :
    (g.createProgram (programOf actions) moduleName).1.warnings =
      (drawUp (itemsOf actions g.robot) .empty).2.warnings := by
  rw [← ProgramModule.generate_draft actions g.robot g.settings moduleName]
  rfl

theorem text_createProgram (g : Generator) (actions : List Action) (moduleName : Option String) :
    (g.createProgram (programOf actions) moduleName).2 =
      match drawUp (itemsOf actions g.robot) .empty with
      | (.error f, _) => .error f
      | (.ok (), d) => (programBody actions g.robot).map fun body =>
          joinLines g.settings (ProgramModule.lines g.settings
            (ProgramModule.nameOr g.settings moduleName) d.declarations body) :=
  ProgramModule.generate_text actions g.robot g.settings moduleName

/-- A program is made exactly if no names clash and everything can be written, and it consists of
the first uses and the instructions. -/
theorem createProgram_ok_iff {program : String} :
    (g.createProgram (programOf actions) moduleName).2 = .ok program ↔
      Clear (used (itemsOf actions g.robot)) ∧ Legible (used (itemsOf actions g.robot)) ∧
        ∃ body, programBody actions g.robot = .ok body ∧
          program = joinLines g.settings (ProgramModule.lines g.settings
            (ProgramModule.nameOr g.settings moduleName)
            ((firstUses (itemsOf actions g.robot)).map Item.written) body) := by
  rw [text_createProgram]
  rcases drawUp_spec (itemsOf actions g.robot) with
    ⟨pre, i, post, f, hsplit, -, -, hstop, hdraft⟩ | ⟨hdraft, hclear, hlegible⟩
  · rw [hdraft]
    constructor
    · intro h
      cases h
    · rintro ⟨hclear, hlegible, -⟩
      exact absurd ⟨hsplit ▸ hclear, hsplit ▸ hlegible⟩ hstop.not_clear_or_legible
  · rw [hdraft]
    simp only [hclear, hlegible, true_and]
    cases programBody actions g.robot with
    | error f =>
      constructor
      · intro h
        cases h
      · rintro ⟨body, hbody, -⟩
        cases hbody
    | ok body =>
      constructor
      · intro h
        exact ⟨body, rfl, (Except.ok.inj h).symm⟩
      · rintro ⟨body, hbody, rfl⟩
        cases hbody
        rfl

/-- Movements have instructions, so a program of them is made if no names clash and everything can
be written. -/
theorem exists_program {movements : List Movement}
    (hclear : Clear (used (itemsOf (movements.map .movement) g.robot)))
    (hcodes : ∀ i ∈ used (itemsOf (movements.map .movement) g.robot), ∃ text, i.code = .ok text) :
    ∃ program,
      (g.createProgram (programOf (movements.map .movement)) none).2 = .ok program := by
  have hinstructions : (movements.map Action.movement).mapM (·.instruction (some g.robot)) =
      .ok (movements.map (·.instruction (some g.robot))) := by
    refine mapM_eq_ok_iff.2 ?_
    rw [List.forall₂_map_left_iff, List.forall₂_map_right_iff]
    exact List.forall₂_same.2 fun m _ => rfl
  have hlegible : Legible (used (itemsOf (movements.map .movement) g.robot)) := by
    rintro before i after hsplit -
    exact hcodes i (hsplit ▸ List.mem_append_right _ List.mem_cons_self)
  have hbody : programBody (movements.map .movement) g.robot =
      .ok ((movements.map (·.instruction (some g.robot))).filter (!·.isEmpty)) := by
    rw [programBody, hinstructions]
    rfl
  exact ⟨_, createProgram_ok_iff.2 ⟨hclear, hlegible, _, hbody, rfl⟩⟩

/-- The draft of a program that is made is that of the first uses. -/
theorem drawUp_of_ok {program : String}
    (h : (g.createProgram (programOf actions) moduleName).2 = .ok program) :
    drawUp (itemsOf actions g.robot) .empty =
      (.ok (), .ofUses (firstUses (itemsOf actions g.robot))) := by
  obtain ⟨hclear, hlegible, -⟩ := createProgram_ok_iff.1 h
  rcases drawUp_spec (itemsOf actions g.robot) with
    ⟨pre, i, post, f, hsplit, -, -, hstop, -⟩ | ⟨hdraft, -, -⟩
  · exact absurd ⟨hsplit ▸ hclear, hsplit ▸ hlegible⟩ hstop.not_clear_or_legible
  · exact hdraft

/-- The names that are declared by a program are those of the first uses. -/
theorem declared_of_ok {program : String}
    (h : (g.createProgram (programOf actions) moduleName).2 = .ok program) :
    (g.createProgram (programOf actions) moduleName).1.declared =
      (firstUses (itemsOf actions g.robot)).filterMap Item.entry := by
  rw [declared_createProgram, drawUp_of_ok h]
  rfl

/-- The warnings of a program are those of the first uses. -/
theorem warnings_of_ok {program : String}
    (h : (g.createProgram (programOf actions) moduleName).2 = .ok program) :
    (g.createProgram (programOf actions) moduleName).1.warnings =
      (firstUses (itemsOf actions g.robot)).flatMap Item.warnings := by
  rw [warnings_createProgram, drawUp_of_ok h]
  rfl

/-- No name is declared again, whatever the pass comes to. -/
theorem nodup_declared (g : Generator) (actions : List Action) (moduleName : Option String) :
    ((g.createProgram (programOf actions) moduleName).1.declared.map (·.1)).Nodup := by
  rw [declared_createProgram]
  rcases drawUp_spec (itemsOf actions g.robot) with
    ⟨pre, _, _, _, _, _, _, _, hdraft⟩ | ⟨hdraft, -, -⟩
  · rw [hdraft]
    exact nodup_names_eraseDupsBy pre
  · rw [hdraft]
    exact nodup_names_eraseDupsBy _

/-- A program is refused as an action exactly where a clash of names comes first. -/
theorem createProgram_refused_iff (hattached : AxesAttached g.robot actions) :
    (∃ f, (g.createProgram (programOf actions) moduleName).2 = .error (.action f)) ↔
      ClashesFirst (used (itemsOf actions g.robot)) := by
  rw [text_createProgram]
  constructor
  · rintro ⟨fault, hfault⟩
    rcases drawUp_spec (itemsOf actions g.robot) with
      ⟨pre, i, post, f, hsplit, -, hlegible, hstop, hdraft⟩ | ⟨hdraft, -, -⟩
    · rw [hdraft] at hfault
      cases hfault
      cases hstop with
      | illegible hasked hcode =>
        have hmem : i ∈ used (itemsOf actions g.robot) := by
          rw [hsplit]
          exact List.mem_append_right _ List.mem_cons_self
        exact absurd hcode
          (noActionFault_of_mem_itemsOf hattached (List.mem_filter.1 hmem).1 fault)
      | clash htexts hearlier hl he hname hkind =>
        exact ⟨pre, i, post, hsplit, legible_concat_iff.2 ⟨hlegible, htexts⟩, _, hearlier,
          Item.clashesWith_of_labels hl he hname hkind⟩
    · rw [hdraft] at hfault
      exact absurd hfault ((programBody_noActionFault actions g.robot).map _ fault)
  · intro hfirst
    obtain ⟨fault, hfault⟩ := drawUp_of_clashesFirst hfirst
    refine ⟨fault, ?_⟩
    generalize drawUp (itemsOf actions g.robot) .empty = outcome at hfault
    obtain ⟨outcome, d⟩ := outcome
    cases hfault
    rfl

end Generator

/-- What is specified for the program of some actions, and for what a generator knows about it
afterwards. -/
structure FollowsItems (g : Generator) (actions : List Action) (moduleName : Option String)
    (after : Generator) (text : Checked String) : Prop where
  /-- It is refused as an action exactly where a clash of names comes first. -/
  refused_iff : (∃ f, text = .error (.action f)) ↔ ClashesFirst (used (itemsOf actions g.robot))
  /-- It is made exactly if no names clash, and everything can be written. -/
  made_iff : (∃ program, text = .ok program) ↔
    Clear (used (itemsOf actions g.robot)) ∧ Legible (used (itemsOf actions g.robot)) ∧
      ∃ body, programBody actions g.robot = .ok body
  /-- Its declarations are those of the first uses. -/
  declarations_eq : ∀ program, text = .ok program → ∃ declarations body,
    (firstUses (itemsOf actions g.robot)).map Item.code = declarations.map .ok ∧
      programBody actions g.robot = .ok body ∧
      program = joinLines g.settings (ProgramModule.lines g.settings
        (ProgramModule.nameOr g.settings moduleName) declarations body)
  /-- The names are those of the first uses. -/
  declared_eq : ∀ program, text = .ok program →
    after.declared = (firstUses (itemsOf actions g.robot)).filterMap Item.entry
  /-- No name is declared again. -/
  declared_nodup : (after.declared.map (·.1)).Nodup

/-- **Every program follows its items**, if the axes of its work objects are attached. -/
theorem Generator.createProgram_followsItems (g : Generator) (actions : List Action)
    (moduleName : Option String) (hattached : AxesAttached g.robot actions) :
    FollowsItems g actions moduleName (g.createProgram (programOf actions) moduleName).1
      (g.createProgram (programOf actions) moduleName).2 where
  refused_iff := createProgram_refused_iff hattached
  made_iff := by
    constructor
    · rintro ⟨program, hprogram⟩
      obtain ⟨hclear, hlegible, body, hbody, -⟩ := createProgram_ok_iff.1 hprogram
      exact ⟨hclear, hlegible, body, hbody⟩
    · rintro ⟨hclear, hlegible, body, hbody⟩
      exact ⟨_, createProgram_ok_iff.2 ⟨hclear, hlegible, body, hbody, rfl⟩⟩
  declarations_eq program hprogram := by
    obtain ⟨-, hlegible, body, hbody, htext⟩ := createProgram_ok_iff.1 hprogram
    exact ⟨_, body, map_code_eq (legible_firstUses hlegible), hbody, htext⟩
  declared_eq _ hprogram := declared_of_ok hprogram
  declared_nodup := nodup_declared g actions moduleName

/-- A turntable in the middle of the world. -/
def turntable : ExternalAxis Float where
  name := "table"
  motion := .rotational
  attachment := .world
  axis := .world
  limits := ⟨.whole (-360), .whole 360, by decide +kernel⟩
  baseMesh := .empty
  linkMesh := .empty
  carriesRobot := false
  number := none
  named := by decide
  carrier_linear := nofun

/-- The speed of movements where none is given. -/
def usualSpeed : SpeedData :=
  ⟨⟨"v5", by decide⟩, .real 5, .real 500, .real 5000, .real 1000, .bool true, by decide +kernel⟩

/-- The zone of movements where none is given. -/
def usualZone : ZoneData :=
  ⟨⟨"z0", by decide⟩, .bool false, .ofThree (.real 0.3) (.real 0.3) (.real 0.03), .bool true,
    by decide +kernel⟩

/-- The work object that every controller has. -/
def worldObject : WorkObject := ⟨⟨"wobj0", by decide⟩, .world, .world, none, .bool false⟩

/-- A linear movement to a target, with the usual speed and zone. -/
def usualMovement (target : Target) : Movement :=
  ⟨target, usualSpeed, .linear, usualZone, none, worldObject, none⟩

/-- The tucked arm with a turntable beside it. -/
def tableGenerator : Generator :=
  .fresh { tuckedArm with axes := [⟨turntable, Joint.first⟩], slots_nodup := by decide } .usual

/-- A constant with all joints at zero. -/
def homeConstant : JointDeclaration := ⟨⟨"home", by decide⟩, ⟨.robot, default⟩⟩

theorem isIdentifier_p : isIdentifier "p" = true := by decide

theorem isIdentifier_part : isIdentifier "part" = true := by decide

/-- Any configuration is in range where none is asked for. -/
theorem Target.inRange_none : (none : Option Number).all isConfiguration = true := rfl

/-- A movement on the turntable, between two declarations of the same constant. -/
def tableActions : List Action := [
  .joints homeConstant,
  .movement { usualMovement ⟨⟨"p", isIdentifier_p⟩, .world, none, default, Target.inRange_none⟩ with
    workObject := ⟨⟨"part", isIdentifier_part⟩, .world, .world, some turntable, .bool false⟩ },
  .joints homeConstant]

theorem createProgram_followsItems_table :
    AxesAttached tableGenerator.robot tableActions ∧
      FollowsItems tableGenerator tableActions none
        (tableGenerator.createProgram (programOf tableActions) none).1
        (tableGenerator.createProgram (programOf tableActions) none).2 := by
  have hattached : AxesAttached tableGenerator.robot tableActions := by
    intro m hm a ha
    simp only [tableActions, List.mem_cons, reduceCtorEq, Action.movement.injEq, false_or,
      List.not_mem_nil, or_false] at hm
    subst hm
    cases ha
    decide +kernel
  exact ⟨hattached, tableGenerator.createProgram_followsItems tableActions none hattached⟩

/-- A speed beyond all doubles. -/
def hugeSpeed : SpeedData :=
  ⟨⟨"huge", by decide⟩, .whole (10 ^ 400), .real 500, .real 5000, .real 1000, .bool false,
    by decide +kernel⟩

/-- A movement with a speed that cannot be written, to a target of the name of a constant. -/
def hugeMovement : Movement :=
  { usualMovement ⟨⟨"home", by decide⟩, .world, none, default, Target.inRange_none⟩ with
    speed := hugeSpeed }

/-- A constant, and a movement to a target of the same name. -/
def hugeActions : List Action := [.joints homeConstant, .movement hugeMovement]

theorem eq_overflow_of_matches {x : Checked String}
    (h : (match x with
      | .error (.misuse .overflow) => true
      | _ => false) = true) : x = .error Misuse.overflow := by
  split at h
  · rfl
  · cases h

/-- A clash of names alone does not refuse a program as an action: here the pass stops before. -/
theorem createProgram_hugeSpeed :
    AxesAttached tableGenerator.robot hugeActions ∧
      ¬ Clear (used (itemsOf hugeActions tableGenerator.robot)) ∧
      (tableGenerator.createProgram (programOf hugeActions) none).2 = .error Misuse.overflow := by
  refine ⟨?_, ?_, ?_⟩
  · intro m hm a ha
    simp only [hugeActions, List.mem_cons, reduceCtorEq, Action.movement.injEq, false_or,
      List.not_mem_nil, or_false] at hm
    subst hm
    cases ha
  · intro hclear
    have hhome : homeConstant.item ∈ used (itemsOf hugeActions tableGenerator.robot) :=
      JointDeclaration.item_mem_used List.mem_cons_self _
    have htarget : hugeMovement.targetItem tableGenerator.robot ∈
        used (itemsOf hugeActions tableGenerator.robot) :=
      Movement.targetItem_mem_used (List.mem_cons_of_mem _ (List.mem_singleton.2 rfl)) _
    cases hclear.kind?_eq hhome htarget rfl
  · exact eq_overflow_of_matches (by decide +kernel)

end SixAxis
