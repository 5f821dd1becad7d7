import SixAxis.Fault

/-!
# Data with a serialized form

Null, numbers, texts, lists and records have a serialized form.  Moments, bytes and sets have
none, and neither has a list or a record that is inside of itself.

* `Datum.checkSerial` — whether a datum has a serialized form, and why it has none.
-/

namespace SixAxis.Datum

mutual

/-- Whether a list or a record is inside of itself. -/
def isEndless : Datum → Bool
  | enclosing _ => true
  | list items | tuple items | set items => anyEndless items
  | record fields => anyFieldEndless fields
  | _ => false

/-- Whether one of some items is endless. -/
def anyEndless : List Datum → Bool
  | [] => false
  | d :: rest => d.isEndless || anyEndless rest

/-- Whether the value of one of some fields is endless. -/
def anyFieldEndless : List (Datum × Datum) → Bool
  | [] => false
  | (_, d) :: rest => d.isEndless || anyFieldEndless rest

end

mutual

/-- The first kind within a datum that has no serialized form. -/
def unserialKind? : Datum → Option String
  | list items | tuple items => firstUnserial? items
  | record fields => firstUnserialField? fields
  | null | number _ | text _ => none
  | d => some d.kind

/-- The first kind within some items that has no serialized form. -/
def firstUnserial? : List Datum → Option String
  | [] => none
  | d :: rest => d.unserialKind?.or (firstUnserial? rest)

/-- The first kind within the values of some fields that has no serialized form. -/
def firstUnserialField? : List (Datum × Datum) → Option String
  | [] => none
  | (_, d) :: rest => d.unserialKind?.or (firstUnserialField? rest)

end

/-- A datum that has a serialized form. -/
def checkSerial (d : Datum) : Checked Unit :=
  if d.isEndless then .error (Misuse.unreadable "a list or a record is inside of itself")
  else match d.unserialKind? with
    | some kind => .error (ConfigurationFault.unserializable kind)
    | none => .ok ()

end SixAxis.Datum
