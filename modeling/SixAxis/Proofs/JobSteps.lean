import SixAxis.Job.Build
import SixAxis.Proofs.CheckedSteps

/-!
# Jobs without their journal

What a job comes to does not depend on the journal that is kept meanwhile.  So the steps of a job
are those of a checked computation: its tools, its robot, its actions, and the two modules.

* `Work.Yields` — a computation with a journal has the result of a checked one;
* `Job.toolTable`, `RobotSection.built`, `Job.modules` — the steps without the journal;
* `Job.result_generate` — **the result of a job** is that of its steps.
-/

namespace SixAxis

variable {α β : Type}

namespace Work

/-- A computation with a journal has the result of a checked one, whatever was recorded before. -/
def Yields (w : Work α) (x : Checked α) : Prop :=
  ∀ entries, ((ExceptT.run w).run entries).1 = x

namespace Yields

theorem ofChecked (x : Checked α) : (Work.ofChecked x).Yields x := fun _ => rfl

theorem pure (a : α) : (Pure.pure a : Work α).Yields (.ok a) := fun _ => rfl

theorem record (e : Event) (during : Option Generating := none) :
    (Work.record e during).Yields (.ok ()) := fun _ => rfl

theorem bind {w : Work α} {x : Checked α} {f : α → Work β} {g : α → Checked β} (hw : w.Yields x)
    (hf : ∀ a, (f a).Yields (g a)) : (w >>= f).Yields (x >>= g) := by
  intro entries
  have hresult := hw entries
  rw [ExceptT.run_bind, StateT.run_bind]
  obtain ⟨y, after, hrun⟩ : ∃ y after, (ExceptT.run w).run entries = (y, after) := ⟨_, _, rfl⟩
  rw [hrun] at hresult ⊢
  subst hresult
  cases y with
  | error e => rfl
  | ok a => exact hf a after

/-- A step that always comes to the same result leaves only the rest. -/
theorem after {w : Work α} {a : α} {f : α → Work β} {x : Checked β} (hw : w.Yields (.ok a))
    (hf : (f a).Yields x) : (w >>= f).Yields x := by
  intro entries
  have hresult := hw entries
  rw [ExceptT.run_bind, StateT.run_bind]
  obtain ⟨y, rest, hrun⟩ : ∃ y rest, (ExceptT.run w).run entries = (y, rest) := ⟨_, _, rfl⟩
  rw [hrun] at hresult ⊢
  subst hresult
  exact hf rest

theorem mapM {f : α → Work β} {g : α → Checked β} (hf : ∀ a, (f a).Yields (g a)) (as : List α) :
    (as.mapM f).Yields (as.mapM g) := by
  induction as with
  | nil => exact pure []
  | cons a as ih =>
    rw [List.mapM_cons, List.mapM_cons]
    exact (hf a).bind fun b => ih.bind fun bs => pure (b :: bs)

theorem foldlM {f : β → α → Work β} {g : β → α → Checked β} (hf : ∀ b a, (f b a).Yields (g b a))
    (as : List α) (b : β) : (as.foldlM f b).Yields (as.foldlM g b) := by
  induction as generalizing b with
  | nil => exact pure b
  | cons a as ih =>
    rw [List.foldlM_cons, List.foldlM_cons]
    exact (hf b a).bind ih

/-- Events recorded one after another leave no result. -/
theorem forIn_record (events : List Event) (during : Option Generating) :
    (forIn events PUnit.unit fun e _ => do
      Work.record e during
      Pure.pure (ForInStep.yield PUnit.unit) : Work PUnit).Yields (.ok ()) := by
  induction events with
  | nil => exact pure ()
  | cons e events ih =>
    rw [List.forIn_cons]
    exact ((record e during).bind fun _ => pure (ForInStep.yield PUnit.unit)).bind fun _ => ih

end Yields

end Work

/-! ### The steps of a job -/

theorem ToolSection.name_of_build {s : ToolSection} {t : Tool Float} (h : s.build = .ok t) :
    t.name = .text s.name := by
  obtain ⟨attachment, -, h⟩ := bind_eq_ok.1 h
  obtain ⟨tcp, -, h⟩ := bind_eq_ok.1 h
  rw [Tool.make] at h
  split at h
  · split at h
    · cases h
    · cases h
      rfl
  · cases h

/-- Only sections of the job are found by name. -/
theorem RobotSection.mem_of_mem_toolsByName {tools : List ToolSection} {s : ToolSection}
    (h : s ∈ toolsByName tools) : s ∈ tools := by
  have hknown : ∀ k ∈ toolsByName tools, k ∈ tools := by
    refine @List.foldlRecOn _ _ (fun known => ∀ k ∈ known, k ∈ tools) tools _ []
      (fun k hk => absurd hk List.not_mem_nil) fun known hknown t ht k hk => ?_
    split at hk
    · obtain ⟨k', hk', rfl⟩ := List.mem_map.1 hk
      split
      · exact ht
      · exact hknown k' hk'
    · rcases List.mem_append.1 hk with hk | hk
      · exact hknown k hk
      · rwa [List.mem_singleton.1 hk]
  exact hknown s h

/-- The robot of a section. -/
def RobotSection.built (r : RobotSection) (tools : List ToolSection) : Checked (Robot Float) := do
  let tool ← r.chooseTool tools
  let position ← r.position.build
  let axes ← r.axes.mapM AxisSection.build
  let model ← Model.named r.model
  model.robot position tool axes

namespace Job

/-- The tools of a job in a table. -/
def toolTable (j : Job) (owner : String) : Checked ToolTable :=
  j.tools.foldlM (fun table t => do table.register (← t.build)) (ToolTable.empty owner)

/-- The program of a job: the generator that has made it, and its text. -/
def createProgram (j : Job) (r : Robot Float) (values : List (Option Entity)) :
    Generator × Checked String :=
  (Generator.fresh r j.settings).createProgram values none

/-- Both modules of a job. -/
def modules (j : Job) (owner : String) : Checked Modules := do
  let table ← j.toolTable owner
  let robot ← j.robot.built j.tools
  let values ← Decoder.readAll ⟨some robot, table.tools⟩ (j.actions.map .record)
  let program ← (j.createProgram robot values).2
  return ⟨(j.createProgram robot values).1, program,
    ← (j.createProgram robot values).1.systemModule table.tools⟩

end Job

namespace Work

theorem register_yields (table : ToolTable) (tool : Tool Float) :
    (Work.register table tool).Yields (table.register tool) := by
  rw [← bind_pure (table.register tool)]
  exact (Yields.ofChecked _).bind fun t => (Yields.record _).after (Yields.pure t)

theorem created_yields (r : Robot Float) : (Work.created r).Yields (.ok r) :=
  (Yields.record _).after (Yields.pure r)

theorem moved_yields (r : Robot Float) (m : Motion Float) :
    (Work.moved r m).Yields (r.moved? m) := by
  rw [← bind_pure (r.moved? m)]
  exact (Yields.ofChecked _).bind created_yields

theorem ofModel_yields (name : Datum) (position : Frame Float) (tool : Tool Float)
    (axes : List (ExternalAxis Float)) :
    (Work.ofModel name position tool axes).Yields
      (Model.named name >>= fun model => model.robot position tool axes) := by
  refine (Yields.ofChecked _).bind fun model => ?_
  refine (Yields.ofChecked (model.atBase tool axes none)).bind fun atBase => ?_
  refine (created_yields atBase).after ?_
  rw [← bind_pure (atBase.moved? (Model.standing position axes).toMotion)]
  refine (moved_yields atBase _).bind fun robot => ?_
  exact (Yields.record _).after (Yields.pure robot)

theorem call_yields (g : Generator) (values : List (Option Entity)) :
    (Work.call g (.program values none)).Yields (.ok (g.createProgram values none)) :=
  (Yields.forIn_record _ _).after (Yields.pure _)

end Work

theorem RobotSection.build_yields (r : RobotSection) (tools : List ToolSection) :
    (r.build tools).Yields (r.built tools) := by
  refine (Work.Yields.ofChecked _).bind fun tool => ?_
  refine (Work.Yields.ofChecked _).bind fun position => ?_
  refine (Work.Yields.mapM (fun a => Work.Yields.ofChecked a.build) r.axes).bind fun axes => ?_
  exact Work.ofModel_yields _ _ _ _

namespace Job

theorem buildTools_yields (j : Job) (owner : String) :
    (j.buildTools owner).Yields (j.toolTable owner) := by
  refine Work.Yields.foldlM (fun table t => ?_) j.tools _
  exact (Work.Yields.ofChecked t.build).bind fun tool => Work.register_yields table tool

/-- The steps of a job have the result of the job. -/
theorem generate_yields (j : Job) (owner : String) :
    (j.generate owner).Yields (j.modules owner) := by
  refine (j.buildTools_yields owner).bind fun table => ?_
  refine (j.robot.build_yields j.tools).bind fun robot => ?_
  refine (Work.Yields.ofChecked _).bind fun values => ?_
  refine (Work.call_yields _ values).after ?_
  refine (Work.Yields.ofChecked (j.createProgram robot values).2).bind fun program => ?_
  refine (Work.Yields.ofChecked _).bind fun system => ?_
  exact Work.Yields.pure _

/-- **The result of a job** is that of its steps. -/
theorem result_generate (j : Job) (owner : String) :
    (j.generate owner).result.1 = j.modules owner :=
  j.generate_yields owner []

end Job

end SixAxis
