import SixAxis.Program.Identifier

/-!
# Signals

Digital inputs and outputs of the controller.  Their names are identifiers; their values are
flags, and any datum counts as a flag.
-/

namespace SixAxis

/-- The level of a flag on a signal. -/
def levelOf (flag : Datum) : Nat := if flag.isTruthy then 1 else 0

/-- The identifier of something with a kind of name. -/
def signalName (name : Datum) (kind : String) : Checked Identifier :=
  Identifier.ofData name (ActionFault.signalName kind name)

/-- Setting a digital output. -/
structure DigitalOutput where
  name : Identifier
  active : Datum

namespace DigitalOutput

/-- The setting of a named output. -/
def make (name active : Datum) : Checked DigitalOutput := do
  return ⟨← signalName name "digital output", active⟩

/-- The level that the output is set to. -/
def level (d : DigitalOutput) : Nat := levelOf d.active

/-- The instruction. -/
def instruction (d : DigitalOutput) : String := s!"SetDO {d.name.text}, {d.level};"

end DigitalOutput

/-- Waiting for a digital input. -/
structure InputWait where
  name : Identifier
  value : Datum

namespace InputWait

/-- Waiting for a named input. -/
def make (name value : Datum) : Checked InputWait := do
  return ⟨← signalName name "digital input", value⟩

/-- The instruction. -/
def instruction (w : InputWait) : String := s!"WaitDI {w.name.text}, {levelOf w.value};"

end InputWait

end SixAxis
