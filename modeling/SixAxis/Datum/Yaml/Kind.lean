import SixAxis.Text.Ranges

/-!
# Kinds of YAML nodes

A node is of a kind: one that its tag names, or else a list, a record, a text, or for a scalar
without quotes the kind that its characters have the form of.  Whole numbers are written in base
ten, two, eight, sixteen and in sixtieths, with underscores between their digits; a double has a
point and, where it has an exponent, a sign in it.

* `Kind.ofTag` — the kind that a tag names;
* `Kind.ofUnquoted` — the kind that the form of a scalar shows.
-/

namespace SixAxis.Yaml

/-- What a node is said to be. -/
inductive Kind where
  | null
  | bool
  | whole
  | double
  | bytes
  | moment
  /-- A list of pairs, each of them written as a record with one field. -/
  | pairs
  | set
  | text
  | list
  | record
  /-- A key that brings in the fields of other records. -/
  | merge
  /-- A key whose value stands for its record where a scalar is expected. -/
  | value
  | other
deriving Repr, DecidableEq, BEq

namespace Kind

/-- What the tags of the known kinds begin with. -/
def tagStart : String := "tag:yaml.org,2002:"

/-- The known kinds by the last part of their tags. -/
def tags : List (String × Kind) := [
  ("null", null), ("bool", bool), ("int", whole), ("float", double), ("binary", bytes),
  ("timestamp", moment), ("omap", pairs), ("pairs", pairs), ("set", set), ("str", text),
  ("seq", list), ("map", record), ("merge", merge), ("value", value)]

/-- The kind that a tag names. -/
def ofTag (tag : String) : Kind :=
  ((tags.find? fun p => tagStart ++ p.1 == tag).map (·.2)).getD other

/-- Whether nodes of a kind have parts that are read after the node itself. -/
def hasParts (k : Kind) : Bool := [pairs, set, list, record].contains k

end Kind

/-! ### Words -/

/-- A word in lower case, in upper case, and with one capital. -/
def spellings (word : String) : List String := [word, word.toUpper, word.capitalize]

/-- Whether a text is one of some words, in one of their spellings. -/
def isOneOf (words : List String) (s : String) : Bool := (words.flatMap spellings).contains s

/-- The words for yes. -/
def yesWords : List String := ["yes", "true", "on"]

/-- The words for no. -/
def noWords : List String := ["no", "false", "off"]

/-! ### Numbers -/

/-- The characters without underscores. -/
def withoutUnderscores (cs : List Char) : List Char := cs.filter (· ≠ '_')

/-- Whether a character is a decimal digit or an underscore. -/
def isDigitOrUnderscore (c : Char) : Bool := c.isDigit || c = '_'

/-- A sign at the start of a scalar, if there is one, and the rest. -/
def signAndRest : List Char → Option Char × List Char
  | c :: rest => if c = '-' ∨ c = '+' then (some c, rest) else (none, c :: rest)
  | [] => (none, [])

/-- The parts of a scalar between some character. -/
def partsAt (separator : Char) : List Char → List (List Char)
  | [] => [[]]
  | c :: rest =>
    match partsAt separator rest with
    | part :: parts => if c = separator then [] :: part :: parts else (c :: part) :: parts
    | [] => [[c]]

/-- Whether a part is a number of sixtieths: one or two digits below sixty. -/
def isSixtieth : List Char → Bool
  | [c] => c.isDigit
  | [c, d] => '0' ≤ c && c ≤ '5' && d.isDigit
  | _ => false

/-- Whether numbers of sixtieths follow, each behind a colon, and at least one of them. -/
def areSixtieths (cs : List Char) : Bool :=
  match partsAt ':' cs with
  | [] :: part :: parts => (part :: parts).all isSixtieth
  | _ => false

/-- Whether a character is a digit of a number in base sixteen. -/
def isHexDigit (c : Char) : Bool :=
  c.isDigit || ('a' ≤ c && c ≤ 'f') || ('A' ≤ c && c ≤ 'F')

/-- Whether digits of a kind, or underscores, follow, and at least one of them. -/
def areDigits (isOne : Char → Bool) (cs : List Char) : Bool :=
  !cs.isEmpty && cs.all fun c => isOne c || c = '_'

/-- Whether a scalar has the form of a whole number. -/
def isWhole (cs : List Char) : Bool :=
  match (signAndRest cs).2 with
  | ['0'] => true
  | '0' :: 'b' :: ds => areDigits (fun c => c = '0' || c = '1') ds
  | '0' :: 'x' :: ds => areDigits isHexDigit ds
  | '0' :: ds => areDigits (fun c => '0' ≤ c && c ≤ '7') ds
  | c :: ds =>
    let behind := ds.dropWhile isDigitOrUnderscore
    c.isDigit && (behind.isEmpty || areSixtieths behind)
  | [] => false

/-- Whether what stands behind the decimals is an exponent with a sign, or nothing. -/
def isExponent : List Char → Bool
  | [] => true
  | e :: s :: ds =>
    (e = 'e' || e = 'E') && (s = '-' || s = '+') && !ds.isEmpty && ds.all Char.isDigit
  | _ => false

/-- Whether a scalar has the form of a double.  One that begins with its point bears no sign. -/
def isDouble (cs : List Char) : Bool :=
  let (sign, unsigned) := signAndRest cs
  match unsigned with
  | '.' :: behind =>
    let word := String.ofList behind
    if ["inf", "Inf", "INF"].contains word then true
    else
      sign.isNone && (["nan", "NaN", "NAN"].contains word
        || ((behind.head?.map Char.isDigit).getD false
          && isExponent (behind.dropWhile isDigitOrUnderscore)))
  | c :: _ =>
    let behind := unsigned.dropWhile isDigitOrUnderscore
    let (sixtieths, decimals) := behind.span (· ≠ '.')
    c.isDigit && match sixtieths, decimals with
      | [], '.' :: decimals => isExponent (decimals.dropWhile isDigitOrUnderscore)
      | _, '.' :: decimals => areSixtieths sixtieths && decimals.all isDigitOrUnderscore
      | _, _ => false
  | [] => false

/-! ### Dates -/

/-- A run of so many digits, and the rest. -/
def digits? (least most : Nat) (cs : List Char) : Option (List Char × List Char) :=
  let (digits, rest) := cs.span Char.isDigit
  if least ≤ digits.length ∧ digits.length ≤ most then some (digits, rest) else none

/-- The scalar behind some character. -/
def after? (c : Char) : List Char → Option (List Char)
  | d :: rest => if c = d then some rest else none
  | [] => none

/-- The parts of a date, in digits. -/
structure DateParts where
  year : List Char
  month : List Char
  day : List Char

/-- The parts of a time of day, in digits. -/
structure TimeParts where
  hour : List Char
  minute : List Char
  second : List Char
  fraction : List Char
  /-- The sign, the hours and the minutes that the clock is ahead. -/
  ahead : Option (Char × List Char × List Char)

/-- A date with at least so many digits for its month and its day, and the rest. -/
def datePart? (least : Nat) (cs : List Char) : Option (DateParts × List Char) := do
  let (year, cs) ← digits? 4 4 cs
  let (month, cs) ← digits? least 2 (← after? '-' cs)
  let (day, cs) ← digits? least 2 (← after? '-' cs)
  return (⟨year, month, day⟩, cs)

/-- Whether a character is a blank inside a line. -/
def isBlankInLine (c : Char) : Bool := c = ' ' || c = '\t'

/-- How far the clock is ahead, as all that follows a time of day; nothing if that is not told. -/
def aheadPart? (cs : List Char) : Option (Option (Char × List Char × List Char)) :=
  match cs.dropWhile isBlankInLine with
  | [] => if cs.isEmpty then some none else none
  | ['Z'] => some (some ('+', [], []))
  | c :: rest =>
    if c = '+' ∨ c = '-' then do
      let (hours, rest) ← digits? 1 2 rest
      if rest.isEmpty then return some (c, hours, [])
      let (minutes, rest) ← digits? 2 2 (← after? ':' rest)
      if rest.isEmpty then return some (c, hours, minutes) else none
    else none

/-- A time of day as all that follows a date. -/
def timePart? (cs : List Char) : Option TimeParts := do
  let behind ← match cs with
    | 'T' :: rest | 't' :: rest => some rest
    | c :: rest => if isBlankInLine c then some (rest.dropWhile isBlankInLine) else none
    | [] => none
  let (hour, cs) ← digits? 1 2 behind
  let (minute, cs) ← digits? 2 2 (← after? ':' cs)
  let (second, cs) ← digits? 2 2 (← after? ':' cs)
  let (fraction, cs) := match cs with
    | '.' :: rest => rest.span Char.isDigit
    | cs => ([], cs)
  return ⟨hour, minute, second, fraction, ← aheadPart? cs⟩

/-- A date, alone or with a time.  A date alone has two digits for its month and its day where
`strict`. -/
def momentParts? (strict : Bool) (cs : List Char) : Option (DateParts × Option TimeParts) := do
  let (date, rest) ← datePart? 1 cs
  if rest.isEmpty then
    if strict then let _ ← datePart? 2 cs
    return (date, none)
  return (date, some (← timePart? rest))

/-! ### Scalars -/

/-- A scalar without a line feed at its end, where its form is looked at. -/
def formOf (s : String) : List Char :=
  let cs := s.toList
  if cs.getLast? = some '\n' then cs.dropLast else cs

/-- The kind that an unquoted scalar has the form of. -/
def Kind.ofUnquoted (s : String) : Kind :=
  let cs := formOf s
  let form := String.ofList cs
  if s.isEmpty || form == "~" || isOneOf ["null"] form then .null
  else if isOneOf (yesWords ++ noWords) form then .bool
  else if isDouble cs then .double
  else if isWhole cs then .whole
  else if form == "<<" then .merge
  else if (momentParts? true cs).isSome then .moment
  else if form == "=" then .value
  else if ["!", "&", "*"].contains form then .other
  else .text

end SixAxis.Yaml
