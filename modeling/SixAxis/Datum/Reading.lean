import SixAxis.Fault
import SixAxis.Decimal.Read

/-!
# Reading values out of data

What a datum stands for where a number, a list of values or a field is expected.  Numbers may
be given as text; a text or a record counts as a list of its characters or names where values
are listed.
-/

namespace SixAxis

/-- The double nearest to a number; one beyond the range of doubles is a fault. -/
def Number.toReal (n : Number) : Checked Float :=
  match n with
  | .whole _ => if n.value.isInf then .error Misuse.overflow else .ok n.value
  | _ => .ok n.value

namespace Datum

/-- The double that a text reads as. -/
def realOfText (s : String) : Checked Float :=
  match Decimal.float? s with
  | some x => .ok x
  | none => .error (Misuse.notReal s)

/-- The double that a datum stands for: a number, or a text that reads as one. -/
def toReal : Datum → Checked Float
  | number n => n.toReal
  | text s => realOfText s
  | bytes octets => realOfText (String.ofList (octets.map Char.ofNat))
  | _ => .error Misuse.illTyped

/-- A datum that has to be a number. -/
def toNumber : Datum → Checked Number
  | number n => .ok n
  | _ => .error Misuse.illTyped

/-- The values that a datum lists. -/
def items : Datum → Checked (List Datum)
  | list xs | tuple xs | set xs => .ok xs
  | text s => .ok (s.toList.map fun c => text (String.singleton c))
  | bytes octets => .ok (octets.map fun (n : Nat) => int n)
  | record fields => .ok (fields.map (·.1))
  | _ => .error Misuse.illTyped

/-- The value at a place, counted from zero, of a datum that lists values. -/
def at' (i : Nat) (d : Datum) : Checked Datum :=
  match d with
  | record fields =>
    match fields.find? (·.1.same (int i)) with
    | some f => .ok f.2
    | none => .error (Misuse.missing (int i))
  | enclosing true => .error (Misuse.missing (int i))
  | enclosing false => .ok d
  | set _ => .error Misuse.illTyped
  | d => do
    match (← d.items)[i]? with
    | some v => .ok v
    | none => .error Misuse.outside

/-- A field that has to be there. -/
def required (d : Datum) (name : String) : Checked Datum :=
  match d.get? name with
  | some v => .ok v
  | none => .error (Misuse.missing (text name))

/-- A field, or what stands for it where it is absent. -/
def field (d : Datum) (name : String) (absent : Datum) : Datum := (d.get? name).getD absent

/-- An optional field; null counts as absent. -/
def optional? (d : Datum) (name : String) : Option Datum :=
  match d.get? name with
  | none | some null => none
  | some v => some v

end Datum

end SixAxis
