import SixAxis.Proofs.DeclarationPass

/-!
# One call of a generator after another

A generator tells what it knows about the program it made last: which names are declared, what the
warnings are, and how the first movement goes.  It can also be seen as taking *notes* while it
writes, on whatever notes it finds: those of a program before, or the unfinished ones of a program
that could not be made.  It only has to wipe them first.  Both views agree, so no call depends on
the calls before it.

* `Notes`, `NoteTaking` — the notes, and computations that take them as they go;
* `NoteTaking.run_instructions`, `NoteTaking.run_program` — **one program**: whatever notes there
  are before, the text and the notes are those of `ProgramModule.generate`;
* `Generator.after` — a generator after any history of calls;
* `Generator.carriesNothing` — **no call depends on the history before it**.
-/

namespace SixAxis

/-! ### Notes -/

/-- What a generator notes while it writes a program. -/
structure Notes where
  draft : Draft
  /-- Whether the first movement, if one was reached, is one of the joints. -/
  startsWithJoints : Option Bool

/-- Computations that take notes.  What was noted before a fault stays. -/
abbrev NoteTaking (α : Type) := ExceptT Fault (StateM Notes) α

namespace NoteTaking

variable {α β : Type}

/-- A result that leaves the notes alone. -/
def ofChecked (x : Checked α) : NoteTaking α := ExceptT.mk (pure x)

/-- Adds to the draft in the notes. -/
def drafting (x : Drafting α) : NoteTaking α :=
  ExceptT.mk fun n =>
    let (result, draft) := x.run.run n.draft
    (result, { n with draft := draft })

/-- Wipes the notes. -/
def wipe : NoteTaking Unit :=
  modify fun n => { n with draft := .empty, startsWithJoints := none }

/-- Notes how a movement goes, if it is the first one. -/
def noteFirst (m : Movement) : NoteTaking Unit := do
  if (← get).startsWithJoints.isNone then
    modify fun n => { n with startsWithJoints := some !m.isLinear }

/-- The instruction of a value, which has to be an action. -/
def instruction (r : Robot Float) (v : Option Entity) : NoteTaking String :=
  match v with
  | some (.action (.movement m)) => do
    noteFirst m
    ofChecked ((Action.movement m).instruction (some r))
  | some (.action a) => ofChecked (a.instruction (some r))
  | _ => ofChecked (.error Misuse.partless)

/-- The instructions of some values behind those there are, without the empty ones. -/
def instructions (r : Robot Float) (values : List (Option Entity)) (codes : List String) :
    NoteTaking (List String) :=
  values.foldlM (fun codes v => do
    let code ← instruction r v
    return if code.isEmpty then codes else codes ++ [code]) codes

/-- The text of a program, in two passes over its values. -/
def program (r : Robot Float) (settings : Settings) (values : List (Option Entity))
    (moduleName : Option String) : NoteTaking String := do
  wipe
  drafting (Drafting.all values r)
  let codes ← instructions r values []
  return joinLines settings (ProgramModule.lines settings
    (ProgramModule.nameOr settings moduleName) (← get).draft.declarations codes)

/-- The answer to a call. -/
def call (r : Robot Float) (settings : Settings) : Generator.Call → NoteTaking String
  | .program values moduleName => program r settings values moduleName
  | .system tools => ofChecked (SystemModule.text settings tools)

/-! ### One program -/

theorem run_wipe (n : Notes) : wipe.run.run n = (.ok (), ⟨.empty, none⟩) := rfl

theorem run_drafting (x : Drafting α) (n : Notes) :
    (drafting x).run.run n =
      ((x.run.run n.draft).1, { n with draft := (x.run.run n.draft).2 }) := rfl

theorem run_noteFirst (m : Movement) (n : Notes) :
    (noteFirst m).run.run n =
      (.ok (), { n with startsWithJoints := n.startsWithJoints <|> some !m.isLinear }) := by
  obtain ⟨draft, first⟩ := n
  cases first <;> rfl

/-- How the first movement goes, after an action. -/
def firstAfter (a : Action) (first : Option Bool) : Option Bool :=
  match a, first with
  | .movement m, none => some !m.isLinear
  | _, first => first

theorem run_instruction (r : Robot Float) (a : Action) (n : Notes) :
    (instruction r (some (.action a))).run.run n =
      (a.instruction (some r),
        { n with startsWithJoints := firstAfter a n.startsWithJoints }) := by
  cases a with
  | movement m =>
    rw [instruction, run_bind, run_noteFirst]
    obtain ⟨draft, first⟩ := n
    cases first <;> rfl
  | _ => rfl

/-- The second pass adds to the notes how the first movement goes, and nothing else. -/
theorem run_instructions (r : Robot Float) (values : List (Option Entity)) (codes : List String)
    (n : Notes) :
    (instructions r values codes).run.run n =
      ((ProgramModule.instructions r values n.startsWithJoints codes).2,
        { n with
          startsWithJoints :=
            (ProgramModule.instructions r values n.startsWithJoints codes).1 }) := by
  induction values generalizing codes n with
  | nil => rfl
  | cons v rest ih =>
    rw [instructions, List.foldlM_cons, bind_assoc, run_bind]
    cases v with
    | none => rfl
    | some e =>
      cases e with
      | action a =>
        rw [run_instruction]
        unfold ProgramModule.instructions
        cases a.instruction (some r) with
        | error f => rfl
        | ok code => exact ih _ _
      | _ => rfl

/-- **One program**: the text and the notes do not depend on the notes before. -/
theorem run_program (r : Robot Float) (settings : Settings) (values : List (Option Entity))
    (moduleName : Option String) (n : Notes) :
    (program r settings values moduleName).run.run n =
      let made := ProgramModule.generate r settings values moduleName
      (made.text, ⟨made.draft, made.startsWithJoints⟩) := by
  rw [program, run_bind, run_wipe]
  show (drafting (Drafting.all values r) >>= _ : NoteTaking String).run.run _ = _
  rw [run_bind, run_drafting, ProgramModule.generate]
  rcases (Drafting.all values r).run.run Draft.empty with ⟨f | u, draft⟩
  · rfl
  · simp only
    rw [run_bind, run_instructions]
    rcases ProgramModule.instructions r values none [] with ⟨first, f | codes⟩
    · rfl
    · rfl

end NoteTaking

/-! ### Histories -/

/-- What a call shows: its answer, and what there is to tell about the last program after it. -/
structure Shown where
  answer : Checked String
  declared : List (String × DataKind)
  warnings : List String
  startsWithJoints : Option Bool

namespace Notes

/-- The notes after some calls, whatever these came to. -/
def after (n : Notes) (r : Robot Float) (settings : Settings) (history : List Generator.Call) :
    Notes :=
  history.foldl (fun n c => ((NoteTaking.call r settings c).run.run n).2) n

/-- What a call on these notes shows. -/
def shown (n : Notes) (r : Robot Float) (settings : Settings) (c : Generator.Call) : Shown :=
  let (answer, next) := (NoteTaking.call r settings c).run.run n
  ⟨answer, next.draft.declared, next.draft.warnings, next.startsWithJoints⟩

end Notes

namespace Generator

/-- A generator after some calls, whatever these came to. -/
def after (g : Generator) (history : List Call) : Generator :=
  history.foldl (fun g c => (g.call c).1) g

/-- What a call of a generator shows. -/
def shown (g : Generator) (c : Call) : Shown :=
  let (next, answer) := g.call c
  ⟨answer, next.declared, next.warnings, next.startsWithJoints⟩

/-- A generator tells what is in the notes. -/
structure Tells (g : Generator) (n : Notes) : Prop where
  declared : g.declared = n.draft.declared
  warnings : g.warnings = n.draft.warnings
  startsWithJoints : g.startsWithJoints = n.startsWithJoints

variable {g : Generator} {n : Notes}

theorem robot_call (g : Generator) (c : Call) : (g.call c).1.robot = g.robot := by
  cases c <;> rfl

theorem settings_call (g : Generator) (c : Call) : (g.call c).1.settings = g.settings := by
  cases c <;> rfl

theorem robot_after (g : Generator) (history : List Call) : (g.after history).robot = g.robot := by
  induction history generalizing g with
  | nil => rfl
  | cons c rest ih => exact (ih (g.call c).1).trans (g.robot_call c)

theorem settings_after (g : Generator) (history : List Call) :
    (g.after history).settings = g.settings := by
  induction history generalizing g with
  | nil => rfl
  | cons c rest ih => exact (ih (g.call c).1).trans (g.settings_call c)

/-- **One call** leaves a generator that tells what is in the notes after it. -/
theorem Tells.call (h : g.Tells n) (c : Call) :
    (g.call c).1.Tells ((NoteTaking.call g.robot g.settings c).run.run n).2 := by
  cases c with
  | program values moduleName =>
    rw [NoteTaking.call, NoteTaking.run_program]
    exact ⟨rfl, rfl, rfl⟩
  | system tools => exact h

/-- **A history** leaves a generator that tells what is in the notes after it. -/
theorem Tells.after (h : g.Tells n) (history : List Call) :
    (g.after history).Tells (n.after g.robot g.settings history) := by
  induction history generalizing g n with
  | nil => exact h
  | cons c rest ih =>
    have hrest := ih (h.call c)
    rw [robot_call, settings_call] at hrest
    exact hrest

/-- A program on any notes shows what it shows on a fresh generator. -/
theorem shown_program_notes (r : Robot Float) (settings : Settings) (n : Notes)
    (values : List (Option Entity)) (moduleName : Option String) :
    n.shown r settings (.program values moduleName) =
      (fresh r settings).shown (.program values moduleName) := by
  rw [Notes.shown, NoteTaking.call, NoteTaking.run_program]
  rfl

/-- A program of any generator shows what it shows on a fresh one. -/
theorem shown_program (g : Generator) (values : List (Option Entity))
    (moduleName : Option String) :
    g.shown (.program values moduleName) =
      (fresh g.robot g.settings).shown (.program values moduleName) := rfl

/-- What it means that a history carries nothing over to the next call. -/
structure CarriesNothing (g : Generator) (history : List Call) : Prop where
  /-- A program has the text or the fault that it has on a fresh generator, and leaves the same
  names, warnings and first movement. -/
  program_eq : ∀ values moduleName,
    (g.after history).shown (.program values moduleName) =
      (fresh g.robot g.settings).shown (.program values moduleName)
  /-- The same holds where the notes are taken in place, on whatever notes the history leaves. -/
  in_place : ∀ (n : Notes) values moduleName,
    (n.after g.robot g.settings history).shown g.robot g.settings (.program values moduleName) =
      (fresh g.robot g.settings).shown (.program values moduleName)
  /-- What the generator tells after the history is what is in the notes. -/
  tells : ∀ n, g.Tells n → (g.after history).Tells (n.after g.robot g.settings history)
  /-- A system module leaves the generator as it is, and nothing but the settings and the tools
  decide its text. -/
  system_eq : ∀ tools, (g.after history).call (.system tools) =
    (g.after history, SystemModule.text g.settings tools)

/-- **No call depends on the history before it.** -/
theorem carriesNothing (g : Generator) (history : List Call) : g.CarriesNothing history where
  program_eq values moduleName := by
    rw [shown_program, robot_after, settings_after]
  in_place n values moduleName := shown_program_notes g.robot g.settings _ values moduleName
  tells n h := h.after history
  system_eq tools := by
    rw [call, systemModule, settings_after]

end Generator

end SixAxis
