import SixAxis.Datum
import SixAxis.Decimal.Read

/-!
# Data as JSON text

Log lines are written as JSON, one object a line, with every character outside ASCII escaped.
The reader takes the same format; a number without point and exponent is a whole number, any
other one a double.

* `Datum.toJson` — the text of a datum;
* `Datum.ofJson?` — the datum of a text.
-/

namespace SixAxis.Json

/-! ### Writing -/

/-- The escape of a UTF-16 unit. -/
def escapedUnit (n : Nat) : List Char := '\\' :: 'u' :: Text.hex 4 n

/-- One character inside a string. -/
def escapedChar (c : Char) : List Char :=
  if c = '\x22' ∨ c = '\\' then ['\\', c]
  else if c = '\n' then ['\\', 'n']
  else if c = '\t' then ['\\', 't']
  else if c = '\r' then ['\\', 'r']
  else if c = '\x08' then ['\\', 'b']
  else if c = '\x0c' then ['\\', 'f']
  else if 32 ≤ c.toNat ∧ c.toNat < 127 then [c]
  else if Text.codeOf c < 65536 then escapedUnit (Text.codeOf c)
  else
    let above := c.toNat - 65536
    escapedUnit (55296 + above / 1024) ++ escapedUnit (56320 + above % 1024)

/-- A string in quotes. -/
def escaped (s : String) : String :=
  String.ofList ('\x22' :: s.toList.flatMap escapedChar ++ ['\x22'])

/-- The text of a number. -/
def number : Number → String
  | .truth b => if b then "true" else "false"
  | .whole n => toString n
  | .real x =>
    if x.isNaN then "NaN"
    else if x.isInf then (if x < 0.0 then "-Infinity" else "Infinity")
    else Decimal.shown x

/-- The name of a field, which is always a text. -/
def key : Datum → String
  | .text s => escaped s
  | .null => escaped "null"
  | .number n => escaped (number n)
  | d => escaped d.shown

mutual

/-- The text of a datum; what the format has no form for is written as a message shows it. -/
def write : Datum → String
  | .null => "null"
  | .number n => number n
  | .text s => escaped s
  | .list items | .tuple items => "[" ++ ", ".intercalate (writeItems items) ++ "]"
  | .record fields => "\x7b" ++ ", ".intercalate (writeFields fields) ++ "\x7d"
  | d => escaped d.shown

/-- The texts of the items of a list. -/
def writeItems : List Datum → List String
  | [] => []
  | d :: rest => write d :: writeItems rest

/-- The texts of the fields of a record. -/
def writeFields : List (Datum × Datum) → List String
  | [] => []
  | (name, d) :: rest => (key name ++ ": " ++ write d) :: writeFields rest

end

/-! ### Reading -/

/-- Without the blanks at the start. -/
def skipBlanks (cs : List Char) : List Char :=
  cs.dropWhile fun c => c = ' ' || c = '\n' || c = '\t' || c = '\r'

/-- The value of a hexadecimal digit. -/
def hexValue? (c : Char) : Option Nat :=
  if c.isDigit then some (c.toNat - 48)
  else if 'a' ≤ c ∧ c ≤ 'f' then some (c.toNat - 87)
  else if 'A' ≤ c ∧ c ≤ 'F' then some (c.toNat - 55)
  else none

/-- The UTF-16 unit of an escape, and the rest. -/
def unit? : List Char → Option (Nat × List Char)
  | a :: b :: c :: d :: rest => do
    let a ← hexValue? a
    let b ← hexValue? b
    let c ← hexValue? c
    let d ← hexValue? d
    return (((a * 16 + b) * 16 + c) * 16 + d, rest)
  | _ => none

/-- The character of an escape by code point; two surrogate escapes make one character, and one
by itself stays alone. -/
def unicode? (cs : List Char) : Option (Char × List Char) := do
  let (high, rest) ← unit? cs
  let pair? : Option (Char × List Char) :=
    match rest with
    | '\\' :: 'u' :: behind => do
      let (low, behind) ← unit? behind
      if 55296 ≤ high ∧ high < 56320 ∧ 56320 ≤ low ∧ low < 57344 then
        return (Char.ofNat (65536 + (high - 55296) * 1024 + (low - 56320)), behind)
      else none
    | _ => none
  return pair?.getD (Text.charOfCode high, rest)

/-- The characters of a string up to its closing quote, and the rest; `fuel` bounds the length. -/
def string? : Nat → List Char → List Char → Option (String × List Char)
  | 0, _, _ => none
  | fuel + 1, done, cs =>
    match cs with
    | [] => none
    | '\x22' :: rest => some (String.ofList done.reverse, rest)
    | '\\' :: 'u' :: rest => do
      let (c, rest) ← unicode? rest
      string? fuel (c :: done) rest
    | '\\' :: c :: rest =>
      match c with
      | 'n' => string? fuel ('\n' :: done) rest
      | 't' => string? fuel ('\t' :: done) rest
      | 'r' => string? fuel ('\r' :: done) rest
      | 'b' => string? fuel ('\x08' :: done) rest
      | 'f' => string? fuel ('\x0c' :: done) rest
      | _ => string? fuel (c :: done) rest
    | c :: rest => string? fuel (c :: done) rest

/-- A number at the start of a text, and the rest. -/
def number? (cs : List Char) : Option (Number × List Char) :=
  let isPart (c : Char) : Bool := c.isDigit || c = '-' || c = '+' || c = '.' || c = 'e' || c = 'E'
  let token := cs.takeWhile isPart
  let rest := cs.dropWhile isPart
  let s := String.ofList token
  if token.any fun c => c = '.' || c = 'e' || c = 'E' then
    (Decimal.float? s).map fun x => (.real x, rest)
  else (Decimal.int? s).map fun n => (.whole n, rest)

mutual

/-- A datum at the start of a text, and the rest; `fuel` bounds the depth and length. -/
def read? : Nat → List Char → Option (Datum × List Char)
  | 0, _ => none
  | fuel + 1, cs =>
    match skipBlanks cs with
    | 'n' :: 'u' :: 'l' :: 'l' :: rest => some (.null, rest)
    | 't' :: 'r' :: 'u' :: 'e' :: rest => some (.bool true, rest)
    | 'f' :: 'a' :: 'l' :: 's' :: 'e' :: rest => some (.bool false, rest)
    | '\x22' :: rest => (string? (rest.length + 1) [] rest).map fun (s, rest) => (.text s, rest)
    | '[' :: rest =>
      match skipBlanks rest with
      | ']' :: rest => some (.list [], rest)
      | rest => (readItems? fuel rest).map fun (items, rest) => (.list items, rest)
    | '\x7b' :: rest =>
      match skipBlanks rest with
      | '\x7d' :: rest => some (.record [], rest)
      | rest => (readFields? fuel [] rest).map fun (fields, rest) => (.record fields, rest)
    | rest => (number? rest).map fun (n, rest) => (.number n, rest)

/-- The items of a list up to its closing bracket, and the rest. -/
def readItems? : Nat → List Char → Option (List Datum × List Char)
  | 0, _ => none
  | fuel + 1, cs => do
    let (d, rest) ← read? fuel cs
    match skipBlanks rest with
    | ',' :: rest =>
      let (items, rest) ← readItems? fuel rest
      return (d :: items, rest)
    | ']' :: rest => return ([d], rest)
    | _ => none

/-- The fields of a record up to its closing brace, added to those read before, and the rest. -/
def readFields? : Nat → Datum.Fields → List Char → Option (Datum.Fields × List Char)
  | 0, _, _ => none
  | fuel + 1, fields, cs => do
    match skipBlanks cs with
    | '\x22' :: rest =>
      let (name, rest) ← string? (rest.length + 1) [] rest
      match skipBlanks rest with
      | ':' :: rest =>
        let (d, rest) ← read? fuel rest
        let fields := Datum.insert fields name d
        match skipBlanks rest with
        | ',' :: rest => readFields? fuel fields rest
        | '\x7d' :: rest => return (fields, rest)
        | _ => none
      | _ => none
    | _ => none

end

end SixAxis.Json

namespace SixAxis.Datum

/-- The JSON text of a datum. -/
def toJson (d : Datum) : String := Json.write d

/-- The datum of a JSON text. -/
def ofJson? (s : String) : Option Datum := do
  let cs := s.toList
  let (d, rest) ← Json.read? (cs.length + 1) cs
  if (Json.skipBlanks rest).isEmpty then return d else none

end SixAxis.Datum
