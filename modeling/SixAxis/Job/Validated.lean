import SixAxis.Datum.Reading
import SixAxis.Job.Numeral

/-!
# Checking data against a schema

A section of a job is checked as a whole: every place that does not fit is an issue, and the
issues come in the order of the schema.  So checks are combined, not chained — the second one is
made whether or not the first one fails.

* `Validated` — the outcome of a check, and how outcomes combine;
* `Validated.text`, `Validated.real`, `Validated.integer` — the simple values of a schema;
* `Validated.listOf`, `Validated.pairOf`, `Validated.field` — its compound ones.
-/

namespace SixAxis

/-- The outcome of a check: a value, or the issues that were found. -/
structure Validated (α : Type) where
  outcome : Except (List Issue) α

namespace Validated

variable {α β : Type}

/-- A value that fits. -/
def fits (a : α) : Validated α := ⟨.ok a⟩

/-- A value that does not fit, and why. -/
def misfit (kind : String) : Validated α := ⟨.error [⟨[], kind, none⟩]⟩

/-- A value that a rule of its section rejects. -/
def against (rule : String) : Validated α :=
  ⟨.error [⟨[], "value_error", some ("Value error, " ++ rule)⟩]⟩

/-- Two outcomes: the issues of both, those of the first one first. -/
def both (a : Validated α) (b : Validated β) : Validated (α × β) :=
  match a.outcome, b.outcome with
  | .ok a, .ok b => ⟨.ok (a, b)⟩
  | .ok _, .error issues => ⟨.error issues⟩
  | .error issues, .ok _ => ⟨.error issues⟩
  | .error first, .error second => ⟨.error (first ++ second)⟩

/-- An outcome with its value changed. -/
def map (f : α → β) (a : Validated α) : Validated β := ⟨a.outcome.map f⟩

instance : Applicative Validated where
  pure := fits
  map := map
  seq f a := (f.both (a ())).map fun (f, a) => f a

/-- A further check of a value that fits. -/
def andThen (a : Validated α) (check : α → Validated β) : Validated β :=
  match a.outcome with
  | .ok a => check a
  | .error issues => ⟨.error issues⟩

/-- The outcome of the check of an inner place. -/
def inside (place : Datum) (a : Validated α) : Validated α :=
  ⟨a.outcome.mapError fun issues =>
    issues.map fun issue => { issue with place := place :: issue.place }⟩

/-! ### Simple values -/

/-- A text that can be written, or octets that encode one. -/
def text : Datum → Validated String
  | .text s => if Text.isEncodable s then fits s else misfit "string_unicode"
  | .bytes octets =>
    match String.fromUTF8? ⟨(octets.map UInt8.ofNat).toArray⟩ with
    | some s => fits s
    | none => misfit "string_unicode"
  | _ => misfit "string_type"

/-- A double that a text reads as. -/
def realOfText (s : String) : Validated Float :=
  match JobNumeral.real? s with
  | some x => fits x
  | none => misfit "float_parsing"

/-- A number in the range of doubles, or a text that reads as one. -/
def real : Datum → Validated Float
  | .number n =>
    match n.toReal with
    | .ok x => fits x
    | .error _ => misfit "float_type"
  | .text s => realOfText s
  | .bytes octets => realOfText (String.ofList (octets.map Char.ofNat))
  | _ => misfit "float_type"

/-- A whole number that a text reads as. -/
def integerOfText (s : String) : Validated Int :=
  match JobNumeral.whole s with
  | .ok n => fits n
  | .error (.tooLong _) => misfit "int_parsing_size"
  | .error .malformed => misfit "int_parsing"

/-- A whole number, a double that is one and fits in 64 bits, or a text that reads as one. -/
def integer : Datum → Validated Int
  | .number (.truth b) => fits (if b then 1 else 0)
  | .number (.whole n) => fits n
  | .number (.real x) =>
    match Decimal.Binary.ofFloat? x with
    | none => misfit "finite_number"
    | some b =>
      let (num, den) := b.signedFraction
      if num % den ≠ 0 then misfit "int_from_float"
      else if num.natAbs < Decimal.twoTo 63 * den then fits (num / den)
      else misfit "int_parsing_size"
  | .text s => integerOfText s
  | .bytes octets => integerOfText (String.ofList (octets.map Char.ofNat))
  | _ => misfit "int_type"

/-- Null, or a value that fits. -/
def nullable (check : Datum → Validated α) : Datum → Validated (Option α)
  | .null => fits none
  | d => (check d).map some

/-! ### Compound values -/

/-- The items of a list, from position `i` on. -/
def itemsFrom (check : Datum → Validated α) (i : Nat) : List Datum → Validated (List α)
  | [] => fits []
  | d :: rest =>
    ((check d).inside (.int i)).both (itemsFrom check (i + 1) rest) |>.map fun (a, as) => a :: as

/-- A list of values. -/
def listOf (check : Datum → Validated α) : Datum → Validated (List α)
  | .list items | .tuple items | .set items => itemsFrom check 0 items
  | _ => misfit "list_type"

/-- Two values in a list. -/
def pairOf (check : Datum → Validated α) : Datum → Validated (α × α)
  | .list items | .tuple items | .set items =>
    let item (i : Nat) : Validated α := inside (.int i) <|
      match items[i]? with
      | some d => check d
      | none => misfit "missing"
    if 2 < items.length then misfit "too_long" else (item 0).both (item 1)
  | _ => misfit "tuple_type"

/-- A field of a section, with the value that stands for it where it is absent. -/
def field (fields : Datum.Fields) (name : String) (check : Datum → Validated α)
    (absent : Option α := none) : Validated α :=
  inside (.text name) <|
    match Datum.lookup fields name, absent with
    | some d, _ => check d
    | none, some a => fits a
    | none, none => misfit "missing"

/-- A section: a record with fields of its own. -/
def asSection (check : Datum.Fields → Validated α) : Datum → Validated α
  | .record fields => check fields
  | _ => misfit "model_type"

/-- A record whose names are all texts. -/
def namedFields : Datum → Validated Datum.Fields
  | .record fields => fields.foldl (fun (known : Validated Datum.Fields) (key, d) =>
      (known.both (((text key).inside "[key]").inside key)).map fun (known, name) =>
        Datum.insert known (.text name) d) (fits [])
  | _ => misfit "dict_type"

/-- The value that fits, or the issues as one fault. -/
def toChecked (a : Validated α) : Checked α := a.outcome.mapError .invalid

end Validated

end SixAxis
