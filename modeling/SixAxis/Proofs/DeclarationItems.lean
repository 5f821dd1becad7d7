import SixAxis.Program.Generator
import SixAxis.Proofs.CheckedSteps

/-!
# What the declaration pass comes to

The first pass over a program looks at one thing after another: for a movement at its speed, its
zone, its work object and its target, for a joint position at the constant, and for a comment or a
line of code at its text.  Such a thing is an *item*.  Data have a *label*, the name that is
declared with the type that it gets, and a declaration starts with both.

* `DataType` — the types of declared data; the pass compares only their kinds, `DataType.kind`;
* `Label.Opens` — what a declaration starts with;
* `Item` — what the pass looks at, with the declaration if it can be written;
* `Action.items` — the items of an action, in the order they are looked at.
-/

namespace SixAxis

/-! ### Types of declared data -/

/-- The types that a declaration can give a name. -/
inductive DataType where
  | speeddata
  | zonedata
  | wobjdata
  | robtarget
  | jointtarget
  | robjoint
  | extjoint
deriving Repr, DecidableEq

namespace DataType

/-- The kind that the pass compares: targets of both types are of one kind, and so are joint
positions. -/
def kind : DataType → DataKind
  | speeddata => .speed
  | zonedata => .zone
  | wobjdata => .workObject
  | robtarget | jointtarget => .target
  | robjoint | extjoint => .jointPosition

/-- The words in front of the name in a declaration. -/
def opening : DataType → String
  | speeddata => "VAR speeddata "
  | zonedata => "VAR zonedata "
  | wobjdata => "PERS wobjdata "
  | robtarget => "VAR robtarget "
  | jointtarget => "CONST jointtarget "
  | robjoint => "CONST robjoint "
  | extjoint => "CONST extjoint "

end DataType

/-- A name with the type it is to have. -/
@[ext]
structure Label where
  name : String
  type : DataType
deriving Repr, DecidableEq

/-- A label as the draft keeps it. -/
def Label.entry (l : Label) : String × DataKind := (l.name, l.type.kind)

/-! ### What a declaration starts with -/

/-- Whether some code declares a label: its type and its name come first. -/
def Label.Opens (l : Label) (code : String) : Prop :=
  ∃ value, code = l.type.opening ++ l.name ++ " := " ++ value

theorem DataType.opening_ne_empty (t : DataType) : t.opening ≠ "" := by
  cases t <;> decide

theorem Label.Opens.ne_empty {l : Label} {code : String} (h : l.Opens code) : code ≠ "" := by
  obtain ⟨value, rfl⟩ := h
  simp only [ne_eq, String.append_eq_empty_iff, l.type.opening_ne_empty, false_and,
    not_false_eq_true]

/-- A value in brackets behind a name. -/
theorem assign_bracket (value : String) : " := [" ++ value = " := " ++ ("[" ++ value) := by
  rw [← String.append_assoc]
  rfl

/-- Two brackets behind a name. -/
theorem assign_brackets (value : String) : " := [[" ++ value = " := " ++ ("[[" ++ value) := by
  rw [← String.append_assoc]
  rfl

namespace SpeedData

/-- The label of speed data. -/
def label (s : SpeedData) : Label := ⟨s.name.text, .speeddata⟩

theorem opens_of_declaration {s : SpeedData} {code : String} (h : s.declaration = .ok code)
    (hcode : code ≠ "") : s.label.Opens code := by
  simp only [declaration] at h
  split at h
  · cases h
    exact absurd rfl hcode
  · obtain ⟨values, -, h⟩ := bind_eq_ok.1 h
    cases h
    exact ⟨_, by
      simp only [toString, label, DataType.opening, String.append_assoc, assign_bracket]
      rfl⟩

end SpeedData

namespace ZoneData

/-- The label of zone data. -/
def label (z : ZoneData) : Label := ⟨z.name.text, .zonedata⟩

theorem opens_of_declaration {z : ZoneData} {code : String} (h : z.declaration = .ok code)
    (hcode : code ≠ "") : z.label.Opens code := by
  simp only [declaration] at h
  split at h
  · cases h
    exact absurd rfl hcode
  · obtain ⟨values, -, h⟩ := bind_eq_ok.1 h
    cases h
    exact ⟨_, by
      simp only [toString, label, DataType.opening, String.append_assoc, assign_bracket]
      rfl⟩

end ZoneData

namespace WorkObject

/-- The label of a work object. -/
def label (w : WorkObject) : Label := ⟨w.name.text, .wobjdata⟩

theorem opens_of_declaration {w : WorkObject} (h : w.declaration ≠ "") :
    w.label.Opens w.declaration := by
  by_cases hpredefined : w.isPredefined = true
  · rw [declaration, if_pos hpredefined] at h
    exact absurd rfl h
  · rw [declaration, if_neg hpredefined]
    exact ⟨_, by
      simp only [toString, label, DataType.opening, String.append_assoc, assign_bracket]
      rfl⟩

end WorkObject

namespace Movement

/-- The label of the declared target. -/
def label (m : Movement) : Label :=
  ⟨m.variableName, if m.isAbsolute then .jointtarget else .robtarget⟩

theorem kind_label (m : Movement) : m.label.type.kind = .target := by
  rw [label]
  by_cases habsolute : m.isAbsolute = true
  · rw [if_pos habsolute]
    rfl
  · rw [if_neg habsolute]
    rfl

theorem opens_declarationOf (m : Movement) (s : Solution Float) :
    m.label.Opens (m.declarationOf s) := by
  rw [Label.Opens, declarationOf, label, variableName]
  by_cases habsolute : m.isAbsolute = true
  · rw [if_pos habsolute, if_pos habsolute, if_pos habsolute]
    exact ⟨_, by
      simp only [toString, DataType.opening, String.append_assoc, assign_bracket]
      rfl⟩
  · rw [if_neg habsolute, if_neg habsolute, if_neg habsolute]
    exact ⟨_, by
      simp only [toString, DataType.opening, String.append_assoc, assign_brackets]
      rfl⟩

end Movement

namespace JointDeclaration

/-- The label of a joint position. -/
def label (j : JointDeclaration) : Label :=
  ⟨j.name.text, match j.position.kind with
    | .robot => .robjoint
    | .external => .extjoint⟩

theorem kind_label (j : JointDeclaration) : j.label.type.kind = .jointPosition := by
  obtain ⟨name, kind, joints⟩ := j
  cases kind with
  | robot => rfl
  | external => rfl

theorem opening_label (j : JointDeclaration) :
    j.label.type.opening = "CONST " ++ j.type ++ " " := by
  obtain ⟨name, kind, joints⟩ := j
  cases kind with
  | robot => rfl
  | external => rfl

theorem opens_declaration (j : JointDeclaration) : j.label.Opens j.declaration := by
  refine ⟨j.position.joints.code ++ ";", ?_⟩
  rw [opening_label]
  simp only [declaration, toString, String.append_assoc]
  rfl

end JointDeclaration

/-! ### Items -/

/-- One thing that the declaration pass comes to.  Comments and lines of code have no label. -/
@[ext]
structure Item where
  label : Option Label
  /-- The declaration, if it can be written. -/
  code : Checked String
  /-- What the solver reports along with it. -/
  warnings : List String
  /-- A declaration that is not empty declares the label. -/
  opens : ∀ l, label = some l → ∀ text, code = .ok text → text ≠ "" → l.Opens text
  /-- Only what a movement or a program can do without is ever left out, a target is not. -/
  target_written : ∀ l, label = some l → l.type.kind = .target → code ≠ .ok ""

namespace Item

/-- The item of data whose declaration is known before its name is looked up. -/
def ofData (l : Label) (code : Checked String) (hdata : l.type.kind ≠ .target)
    (opens : ∀ text, code = .ok text → text ≠ "" → l.Opens text) : Item where
  label := some l
  code := code
  warnings := []
  opens := fun _ h => Option.some.inj h ▸ opens
  target_written := fun _ h htarget => absurd htarget (Option.some.inj h ▸ hdata)

theorem ofData_congr {l : Label} {code code' : Checked String} {hdata : l.type.kind ≠ .target}
    {opens : ∀ text, code = .ok text → text ≠ "" → l.Opens text}
    {opens' : ∀ text, code' = .ok text → text ≠ "" → l.Opens text} (h : code = code') :
    Item.ofData l code hdata opens = Item.ofData l code' hdata opens' := by
  cases h
  rfl

/-- The item of a comment or a line of code. -/
def ofLine (code : Checked String) : Item where
  label := none
  code := code
  warnings := []
  opens := nofun
  target_written := nofun

/-- Whether there is nothing to declare: the controller knows the data by its name. -/
def isBlank (i : Item) : Bool :=
  match i.code with
  | .ok code => code.isEmpty
  | .error _ => false

theorem isBlank_iff {i : Item} : i.isBlank = true ↔ i.code = .ok "" := by
  rw [isBlank]
  cases i.code with
  | error f => exact ⟨nofun, nofun⟩
  | ok text =>
    rw [Except.ok.injEq]
    exact String.isEmpty_iff

theorem isBlank_eq_false_iff {i : Item} : i.isBlank = false ↔ i.code ≠ .ok "" := by
  rw [← Bool.not_eq_true, isBlank_iff]

/-- Targets are never blank. -/
theorem isBlank_of_target {i : Item} {l : Label} (hl : i.label = some l)
    (htarget : l.type.kind = .target) : i.isBlank = false :=
  isBlank_eq_false_iff.2 (i.target_written l hl htarget)

/-- The data that an item is about, as the draft keeps it. -/
def entry (i : Item) : Option (String × DataKind) := i.label.map Label.entry

end Item

/-- What the solver reports about the target of a movement, under the name of the target. -/
def Movement.warningsOf (m : Movement) (s : Solution Float) : List String :=
  s.reports.map fun report => m.target.name.text ++ ": " ++ report.text

/-- The item of the target of a movement. -/
def Movement.targetItem (m : Movement) (r : Robot Float) : Item where
  label := some m.label
  code := m.declaration (some r)
  warnings := ((m.solution r).toOption.map m.warningsOf).getD []
  opens := by
    rintro l hl text htext -
    cases hl
    obtain ⟨s, -, hs⟩ := bind_eq_ok.1 htext
    cases hs
    exact m.opens_declarationOf s
  target_written := by
    rintro l - - hempty
    obtain ⟨s, -, hs⟩ := bind_eq_ok.1 hempty
    exact (m.opens_declarationOf s).ne_empty (Except.ok.inj hs)

/-- The items of a movement: its speed, its zone, its work object, and its target. -/
def Movement.items (m : Movement) (r : Robot Float) : List Item := [
  .ofData m.speed.label m.speed.declaration (show DataType.speeddata.kind ≠ .target by decide)
    fun _ => SpeedData.opens_of_declaration,
  .ofData m.zone.label m.zone.declaration (show DataType.zonedata.kind ≠ .target by decide)
    fun _ => ZoneData.opens_of_declaration,
  .ofData m.workObject.label (.ok m.workObject.declaration)
    (show DataType.wobjdata.kind ≠ .target by decide)
    fun _ h hne => Except.ok.inj h ▸ m.workObject.opens_of_declaration (Except.ok.inj h ▸ hne),
  m.targetItem r]

/-- The item of a joint position. -/
def JointDeclaration.item (j : JointDeclaration) : Item :=
  .ofData j.label (.ok j.declaration) (by rw [j.kind_label]; decide) fun _ h _ =>
    Except.ok.inj h ▸ j.opens_declaration

/-- The items of an action, in the order they are looked at. -/
def Action.items (a : Action) (r : Robot Float) : List Item :=
  match a with
  | .movement m => m.items r
  | .joints j => [j.item]
  | a => [.ofLine (a.declaration (some r))]

/-- The items of some actions, one action after another. -/
def itemsOf (actions : List Action) (r : Robot Float) : List Item := actions.flatMap (·.items r)

/-- Actions as the values of a program. -/
def programOf (actions : List Action) : List (Option Entity) :=
  actions.map fun a => some (.action a)

end SixAxis
