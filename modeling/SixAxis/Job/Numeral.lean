import SixAxis.Decimal.Read

/-!
# Numbers written as text in a job

Where a section of a job expects a number, a text can stand for it.  The digits are those of the
basic alphabet.  Underscores may part them, though none may stand at an end or beside another one;
a whole number may also have a plus sign, zeros in front, and a point with zeros behind it.

* `JobNumeral.real?` — a double;
* `JobNumeral.whole` — a whole number.
-/

namespace SixAxis.JobNumeral

/-- A text without underscores that part its characters; none where there is nothing to leave out,
or an underscore that parts nothing. -/
def withoutUnderscores? (cs : List Char) : Option (List Char) :=
  let isDouble : Bool := (cs.zip cs.tail).any fun (a, b) => a = '_' && b = '_'
  if !cs.contains '_' || cs.head? == some '_' || cs.getLast? == some '_' || isDouble then none
  else some (cs.filter (· ≠ '_'))

/-- A double in plain characters. -/
def plainReal? (cs : List Char) : Option Float :=
  if cs.all fun c => c.toNat < 128 && c ≠ '_' && !Text.isBlank c then
    Decimal.float? (String.ofList cs)
  else none

/-- A double, blanks around it left out, or with underscores in it. -/
def real? (s : String) : Option Float :=
  (plainReal? (Text.trimNumeral s.toList)).or ((withoutUnderscores? s.toList).bind plainReal?)

/-- A whole number in plain characters: a hyphen or none, and digits without a zero in front. -/
def plainWhole (cs : List Char) : Except Decimal.NotWhole Int :=
  let digits := match cs with
    | '-' :: rest => rest
    | cs => cs
  if !digits.all Char.isDigit || (digits.head? == some '0' && 1 < digits.length) then
    .error .malformed
  else Decimal.whole (String.ofList cs)

/-- The characters of a numeral without zeros and underscores in front of its first other digit; a
zero before the point stays. -/
def behindZeros (zero : List Char) : List Char → Option (List Char)
  | [] => some zero
  | c :: rest =>
    if c = '0' ∨ c = '_' then behindZeros [c] rest
    else if c = '.' then some (zero ++ c :: rest)
    else if c.isDigit then some (c :: rest)
    else none

/-- A numeral without zeros in front. -/
def withoutLeadingZeros? : List Char → Option (List Char)
  | [] => none
  | c :: rest =>
    if c = '0' then behindZeros ['0'] rest
    else if c.isDigit ∨ c = '-' then some (c :: rest)
    else none

/-- A numeral without a point and the zeros behind it. -/
def withoutDecimals? (cs : List Char) : Option (List Char) :=
  let (whole, behind) := cs.span (· ≠ '.')
  match behind with
  | [] => some cs
  | _ :: zeros => if !zeros.isEmpty && zeros.all (· = '0') then some whole else none

/-- The plain form of a numeral, if it has one other than itself. -/
def plainForm? (cs : List Char) : Option (List Char) := do
  let trimmed := Text.trimNumeral cs
  let unsigned := match trimmed with
    | '+' :: rest => rest
    | cs => cs
  let plain ← withoutDecimals? (← withoutLeadingZeros? unsigned)
  match withoutUnderscores? plain with
  | some digits => return digits
  | none => if plain.length = cs.length then none else return plain

/-- A whole number. -/
def whole (s : String) : Except Decimal.NotWhole Int :=
  match plainWhole s.toList with
  | .error .malformed =>
    match (plainForm? s.toList).map plainWhole with
    | some (.ok n) => .ok n
    | _ => .error .malformed
  | answer => answer

end SixAxis.JobNumeral
