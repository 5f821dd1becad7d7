import SixAxis.Calendar
import SixAxis.Numeral
import SixAxis.Text.Quoted

/-!
# Data

Jobs, actions and serialized values are nested data of the kinds that a data file can hold.
A record keeps its fields in the order they were given, each name once.  Names are texts as a rule;
a data file can also name fields by numbers and other simple data, which are told apart by value.

* `Datum.isTruthy` — how a datum counts where a flag is expected;
* `Datum.display` and `Datum.shown` — a datum as text in a message, bare and quoted;
* `Datum.same` — equality by value;
* `Datum.get?` — a field of a record.
-/

namespace SixAxis

/-- A value of a data file. -/
inductive Datum where
  | null
  | number (n : Number)
  | text (s : String)
  | list (items : List Datum)
  | record (fields : List (Datum × Datum))
  | moment (m : Moment)
  | bytes (octets : List Nat)
  /-- A fixed number of values, such as a name with its value. -/
  | tuple (items : List Datum)
  | set (items : List Datum)
  /-- A list or a record that this place is inside of. -/
  | enclosing (isRecord : Bool)
deriving Repr, Inhabited

instance : Coe String Datum := ⟨.text⟩

namespace Datum

/-- The fields of a record. -/
abbrev Fields := List (Datum × Datum)

/-- The datum of a truth value. -/
def bool (b : Bool) : Datum := .number (.truth b)

/-- The datum of a whole number. -/
def int (n : Int) : Datum := .number (.whole n)

/-- The datum of a double. -/
def real (x : Float) : Datum := .number (.real x)

/-- The datum of a list of names. -/
def names (xs : List String) : Datum := .list (xs.map .text)

/-- The name that messages give to the kind of a datum. -/
def kind : Datum → String
  | null => "NoneType"
  | number (.truth _) => "bool"
  | number (.whole _) => "int"
  | number (.real _) => "float"
  | text _ => "str"
  | list _ | enclosing false => "list"
  | record _ | enclosing true => "dict"
  | moment m => if m.clock.isSome then "datetime" else "date"
  | bytes _ => "bytes"
  | tuple _ => "tuple"
  | set _ => "set"

/-- Nothing, false, zero and what is empty count as no. -/
def isTruthy : Datum → Bool
  | null => false
  | number n => !n.isZero
  | text s => !s.isEmpty
  | list items | tuple items | set items => !items.isEmpty
  | record fields => !fields.isEmpty
  | bytes octets => !octets.isEmpty
  | moment _ | enclosing _ => true

/-- One octet inside the quote `quote`. -/
def shownOctet (quote : Char) (n : Nat) : List Char :=
  let c := Char.ofNat n
  if n < 127 ∧ (32 ≤ n ∨ c = '\n' ∨ c = '\t' ∨ c = '\r') then Text.quotedChar quote c
  else '\\' :: 'x' :: Text.hex 2 n

/-- Octets in quotes. -/
def shownOctets (octets : List Nat) : String :=
  let quote := Text.quoteFor (String.ofList (octets.map Char.ofNat))
  String.ofList ('b' :: quote :: octets.flatMap (shownOctet quote) ++ [quote])

mutual

/-- A datum as a message shows it inside another one. -/
def shown : Datum → String
  | null => "None"
  | number n => n.shown
  | text s => Text.quoted s
  | list items => "[" ++ ", ".intercalate (shownItems items) ++ "]"
  | record fields => "\x7b" ++ ", ".intercalate (shownFields fields) ++ "\x7d"
  | moment m => m.expression
  | bytes octets => shownOctets octets
  | tuple items =>
    match shownItems items with
    | [item] => "(" ++ item ++ ",)"
    | items => "(" ++ ", ".intercalate items ++ ")"
  | set items =>
    match shownItems items with
    | [] => "set()"
    | items => "\x7b" ++ ", ".intercalate items ++ "\x7d"
  | enclosing false => "[...]"
  | enclosing true => "\x7b...\x7d"

/-- The items of a list, one text each. -/
def shownItems : List Datum → List String
  | [] => []
  | d :: rest => d.shown :: shownItems rest

/-- The fields of a record, one text each. -/
def shownFields : List (Datum × Datum) → List String
  | [] => []
  | (key, d) :: rest => (key.shown ++ ": " ++ d.shown) :: shownFields rest

end

/-- A datum as a message shows it by itself: a text without quotes. -/
def display : Datum → String
  | text s => s
  | moment m => m.text
  | d => d.shown

mutual

/-- Whether two data are equal: numbers by value, records whatever the order of their fields. -/
def same : Datum → Datum → Bool
  | null, null => true
  | number a, number b => a.same b
  | text a, text b => a == b
  | list a, list b | tuple a, tuple b => sameItems a b
  | record a, record b => a.length == b.length && sameFields a b
  | moment a, moment b => a == b
  | bytes a, bytes b => a == b
  | set a, set b => a.length == b.length && allAmong a b
  | _, _ => false

/-- Whether two lists are equal item by item. -/
def sameItems : List Datum → List Datum → Bool
  | [], [] => true
  | a :: as, b :: bs => a.same b && sameItems as bs
  | _, _ => false

/-- Whether every item of the first list is among those of the second. -/
def allAmong : List Datum → List Datum → Bool
  | [], _ => true
  | a :: as, bs => bs.any (fun b => a.same b) && allAmong as bs

/-- Whether every field of the first record is in the second with an equal value. -/
def sameFields : List (Datum × Datum) → List (Datum × Datum) → Bool
  | [], _ => true
  | (key, a) :: rest, fields =>
    fields.any (fun f => key.same f.1 && a.same f.2) && sameFields rest fields

end

mutual

/-- Whether a datum can name a field: a list, a record or a set cannot. -/
def isKey : Datum → Bool
  | list _ | record _ | set _ | enclosing _ => false
  | tuple items => areKeys items
  | _ => true

/-- Whether all items can name fields. -/
def areKeys : List Datum → Bool
  | [] => true
  | d :: rest => d.isKey && areKeys rest

end

/-- Whether a datum is a given text. -/
def isText (name : String) : Datum → Bool
  | text s => s == name
  | _ => false

/-- The value of a name in a list of fields. -/
def lookup (fields : Fields) (name : String) : Option Datum :=
  (fields.find? (·.1.isText name)).map (·.2)

/-- The fields with one of them set, in its place or else at the end. -/
def insert (fields : Fields) (key d : Datum) : Fields :=
  if fields.any (·.1.same key) then fields.map fun f => if f.1.same key then (f.1, d) else f
  else fields ++ [(key, d)]

/-- A field of a record. -/
def get? : Datum → String → Option Datum
  | record fields, name => lookup fields name
  | _, _ => none

end Datum

end SixAxis
