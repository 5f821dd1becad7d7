import SixAxis.Datum.Yaml.Flaw
import SixAxis.Datum.Yaml.Kind
import SixAxis.Datum.Reading

/-!
# What YAML scalars denote

The datum of a scalar of a kind.  A kind that is named by a tag takes more than what has the form
of that kind: blanks around a number, words in any case, sixtieths beyond sixty.  What it does not
take is a flaw of the text.

* `Kind.datum` — the datum of a scalar.
-/

namespace SixAxis.Yaml

/-- A scalar that is no number. -/
def noNumber {α : Type} (why : String) : Except Flaw α := .error (.misfit (.unreadable why))

/-! ### Numbers -/

/-- A whole number in a base. -/
def wholeIn (base : Nat) (cs : List Char) : Except Flaw Int :=
  let s := String.ofList cs
  (Decimal.whole s base).mapError fun why => .misfit (Misuse.notWhole s why)

/-- The whole number of a scalar without underscores and sign. -/
def magnitude (cs : List Char) : Except Flaw Int :=
  match cs with
  | [] => .error (.misfit .outside)
  | ['0'] => .ok 0
  | '0' :: 'b' :: ds => wholeIn 2 ds
  | '0' :: 'x' :: ds => wholeIn 16 ds
  | '0' :: _ => wholeIn 8 cs
  | _ => do
    let parts ← (partsAt ':' cs).mapM (wholeIn 10)
    return parts.foldl (fun n part => 60 * n + part) 0

/-- The whole number of a scalar. -/
def wholeOf (s : String) : Except Flaw Int := do
  let cs := withoutUnderscores s.toList
  if cs.isEmpty then .error (.misfit .outside)
  let (sign, cs) := signAndRest cs
  let n ← magnitude cs
  return if sign = some '-' then -n else n

/-- The double of a decimal. -/
def decimalOf (cs : List Char) : Except Flaw Float :=
  match Decimal.float? (String.ofList cs) with
  | some x => .ok x
  | none => noNumber "no double"

/-- The sum of doubles that each count sixty times as much as the one before; `weight` is what
the first one counts. -/
def sixtiethsSum (sum : Float) (weight : Nat) : List Float → Except Flaw Float
  | [] => .ok sum
  | x :: rest => do
    let w : Float := Scalar.ofInt weight
    if w.isInf then .error (.misfit .overflow)
    sixtiethsSum (sum + x * w) (60 * weight) rest

/-- The double of a scalar. -/
def doubleOf (s : String) : Except Flaw Float := do
  let cs := withoutUnderscores s.toLower.toList
  if cs.isEmpty then .error (.misfit .outside)
  let (sign, cs) := signAndRest cs
  let word := String.ofList cs
  let x : Float ←
    if word == ".inf" then .ok (1.0 / 0.0)
    else if word == ".nan" then .ok (0.0 / 0.0)
    else if cs.contains ':' then do
      let parts ← (partsAt ':' cs).mapM decimalOf
      sixtiethsSum 0.0 1 parts.reverse
    else decimalOf cs
  return if sign = some '-' then -x else x

/-! ### Other scalars -/

/-- The truth value of a word. -/
def boolOf (s : String) : Except Flaw Bool :=
  let word := s.toLower
  if yesWords.contains word then .ok true
  else if noWords.contains word then .ok false
  else .error (.misfit (.missing (.text word)))

/-- The value of decimal digits. -/
def digitsOf (cs : List Char) : Nat := Decimal.natOf (cs.map fun c => c.toNat - 48)

/-- The time of day of its parts; a fraction counts to its sixth digit. -/
def clockOf (t : TimeParts) : Clock where
  hour := digitsOf t.hour
  minute := digitsOf t.minute
  second := digitsOf t.second
  microsecond := digitsOf ((t.fraction ++ List.replicate 6 '0').take 6)
  ahead := t.ahead.map fun (sign, hours, minutes) =>
    Decimal.signed (sign = '-') (60 * digitsOf hours + digitsOf minutes)

/-- The date of a scalar, alone or with a time. -/
def momentOf (s : String) : Except Flaw Moment :=
  match momentParts? false (formOf s) with
  | none => .error (.misfit .partless)
  | some (date, time) =>
    match Moment.of? (digitsOf date.year) (digitsOf date.month) (digitsOf date.day)
        (time.map clockOf) with
    | some m => .ok m
    | none => noNumber "no such day or time"

/-- The value of six bits that a character stands for. -/
def sextet? (c : Char) : Option Nat :=
  if c.isUpper then some (c.toNat - 65)
  else if c.isLower then some (c.toNat - 71)
  else if c.isDigit then some (c.toNat + 4)
  else if c = '+' then some 62
  else if c = '/' then some 63
  else none

/-- The octets of characters for six bits each, in groups of four.  `place` counts the characters
of a group so far, `left` are the bits that no octet holds yet, and `fill` counts the equals signs
in a row.  A group that is filled up with these ends the octets; other characters are passed
over. -/
def octetsFrom? (place left fill : Nat) : List Char → Option (List Nat)
  | [] => if place = 0 then some [] else none
  | c :: rest =>
    if c = '=' then
      if 2 ≤ place ∧ 4 ≤ place + fill + 1 then some []
      else octetsFrom? place left (if 2 ≤ place then fill + 1 else fill) rest
    else
      match sextet? c with
      | none => octetsFrom? place left fill rest
      | some n =>
        match place with
        | 0 => octetsFrom? 1 n 0 rest
        | 1 => (octetsFrom? 2 (n % 16) 0 rest).map ((4 * left + n / 16) :: ·)
        | 2 => (octetsFrom? 3 (n % 4) 0 rest).map ((16 * left + n / 4) :: ·)
        | _ => (octetsFrom? 0 0 0 rest).map ((64 * left + n) :: ·)

/-- The octets of a scalar. -/
def octetsOf (s : String) : Except Flaw (List Nat) :=
  if !s.toList.all fun c => c.toNat < 128 then .error .malformed
  else match octetsFrom? 0 0 0 s.toList with
    | some octets => .ok octets
    | none => .error .malformed

namespace Kind

/-- The datum of a scalar of a kind; kinds with parts have none. -/
def datum (k : Kind) (s : String) : Except Flaw Datum :=
  match k with
  | null => .ok .null
  | bool => (boolOf s).map .bool
  | whole => (wholeOf s).map .int
  | double => (doubleOf s).map .real
  | bytes => (octetsOf s).map .bytes
  | moment => (momentOf s).map .moment
  | text => .ok (.text s)
  | _ => .error .malformed

end Kind

end SixAxis.Yaml
