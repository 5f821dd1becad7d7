import SixAxis.Datum.Yaml.Kind
import SixAxis.Datum.Yaml.Mark
import SixAxis.Decimal.Read

/-!
# Tags, anchors and directives

A node can bear a tag, which names its kind, and an anchor, which names the node.  A tag is written
in full between angle brackets, or with a handle that stands for its beginning; directives in front
of a document say what further handles stand for.

* `anchorName?`, `tag?` — what is written behind `&` or `*`, and behind `!`;
* `Directives.read?` — the directives in front of a document.
-/

namespace SixAxis.Yaml

/-! ### Words -/

/-- Whether a character can be part of a name. -/
def isWordChar (c : Char) : Bool := c.isAlphanum || c = '-' || c = '_'

/-- The characters of a kind at the start of a text, and the rest. -/
def run (isOne : Char → Bool) (ms : List Mark) : String × List Mark :=
  let (w, rest) := ms.span (isOne ·.char)
  (String.ofList (w.map (·.char)), rest)

/-- A word of at least one character, and the rest. -/
def word? (ms : List Mark) : Option (String × List Mark) :=
  let (w, rest) := run isWordChar ms
  if w.isEmpty then none else some (w, rest)

/-- Whether a text ends here or a space or a line end follows. -/
def endsTag (ms : List Mark) : Bool := (ms.head?.map fun m => m.char = ' ' || isBreak m.char).getD true

/-! ### Anchors -/

/-- The characters that can stand right behind the name of an anchor. -/
def anchorEnds : List Char := ['?', ':', ',', ']', '\x7d', '%', '@', Char.ofNat 96]

/-- The name of an anchor, and the rest. -/
def anchorName? (ms : List Mark) : Option (String × List Mark) := do
  let (name, rest) ← word? ms
  if endsWord rest || rest.head?.any (anchorEnds.contains ·.char) then return (name, rest) else none

/-! ### Tags -/

/-- The character, in one octet or more, of a resource name; a percent sign stands before an octet
in base sixteen. -/
def octets? : List Char → Option (List UInt8)
  | [] => some []
  | '%' :: high :: low :: rest => do
    let values ← [high, low].mapM fun c => if isHexDigit c then Decimal.digitValue? 16 c else none
    return UInt8.ofNat (Decimal.natOf values 16) :: (← octets? rest)
  | '%' :: _ => none
  | c :: rest => do return UInt8.ofNat c.toNat :: (← octets? rest)

/-- Whether a character can be part of a resource name. -/
def isResourceChar (c : Char) : Bool :=
  isWordChar c || ";/?:@&=+$,.!~*'()[]%".toList.contains c

/-- A resource name of at least one character, and the rest. -/
def resource? (ms : List Mark) : Option (String × List Mark) := do
  let (name, rest) := run isResourceChar ms
  let octets ← octets? name.toList
  if octets.isEmpty then none
  return (← String.fromUTF8? ⟨octets.toArray⟩, rest)

/-- Handles of tags and what they stand for. -/
abbrev Handles := List (String × String)

/-- The handles that every document has. -/
def usualHandles : Handles := [("!", "!"), ("!!", Kind.tagStart)]

/-- The tag of a node that only says that it has one. -/
def bareTag : String := "!"

/-- A handle behind its first exclamation mark: nothing more, or a word between two. -/
def handle? (ms : List Mark) : Option (String × List Mark) :=
  let (w, rest) := run isWordChar ms
  if rest.head?.any (·.char = '!') then some ("!" ++ w ++ "!", rest.drop 1) else none

/-- A tag with a handle, behind its first exclamation mark, and the rest.  A second exclamation
mark before the next space or line end tells that the handle has a name. -/
def shortTag? (handles : Handles) (ms : List Mark) : Option (String × List Mark) := do
  let isNamed := (ms.takeWhile fun m => m.char ≠ ' ' && !isBreak m.char).any (·.char = '!')
  let (handle, rest) ← if isNamed then handle? ms else some ("!", ms)
  let (name, rest) ← resource? rest
  return ((← handles.lookup handle) ++ name, rest)

/-- The tag behind an exclamation mark, and the rest. -/
def tag? (handles : Handles) (ms : List Mark) : Option (String × List Mark) := do
  let (tag, rest) ←
    if ms.head?.any (·.char = '<') then do
      let (name, rest) ← resource? (ms.drop 1)
      if rest.head?.any (·.char = '>') then some (name, rest.drop 1) else none
    else if endsWord ms then some (bareTag, ms)
    else shortTag? handles ms
  if endsTag rest then return (tag, rest) else none

/-! ### Directives -/

/-- What the directives in front of a document say. -/
structure Directives where
  /-- Whether there are any. -/
  any : Bool := false
  hasVersion : Bool := false
  handles : Handles := []

namespace Directives

/-- The text behind spaces. -/
def behindSpaces (ms : List Mark) : List Mark := ms.dropWhile (·.char = ' ')

/-- A number and the rest. -/
def number? (ms : List Mark) : Option (Nat × List Mark) :=
  let (digits, rest) := run Char.isDigit ms
  if digits.isEmpty then none
  else some (Decimal.natOf (digits.toList.filterMap (Decimal.digitValue? 10)), rest)

/-- What follows a version with two numbers, of which the first one has to be one. -/
def version? (ms : List Mark) : Option (List Mark) := do
  let (major, rest) ← number? (behindSpaces ms)
  if !rest.head?.any (·.char = '.') then none
  let (_, rest) ← number? (rest.drop 1)
  if major = 1 && endsTag rest then return rest else none

/-- A handle, what it stands for, and the rest. -/
def handle? (ms : List Mark) : Option ((String × String) × List Mark) := do
  let ms := behindSpaces ms
  if !ms.head?.any (·.char = '!') then none
  let behind := ms.drop 1
  let (handle, rest) ←
    if behind.head?.any (·.char = ' ') then some ("!", behind) else Yaml.handle? behind
  if !rest.head?.any (·.char = ' ') then none
  let (start, rest) ← resource? (behindSpaces rest)
  if endsTag rest then return ((handle, start), rest) else none

/-- The line behind the one that ends here, perhaps with a comment. -/
def nextLine? (ms : List Mark) : Option (List Mark) :=
  let rest := behindSpaces ms
  match rest with
  | [] => some []
  | m :: lines =>
    if isBreak m.char then some lines
    else if m.char = '#' then some ((rest.dropWhile fun m => !isBreak m.char).drop 1)
    else none

/-- The directives with one more, behind its percent sign, and the lines behind it.  A version and
each handle are given once; directives with other names say nothing. -/
def add? (d : Directives) (ms : List Mark) : Option (Directives × List Mark) := do
  let (name, rest) ← word? ms
  if !endsTag rest then none
  let d := { d with any := true }
  if name == "YAML" then
    let rest ← version? rest
    if d.hasVersion then none
    return ({ d with hasVersion := true }, ← nextLine? rest)
  else if name == "TAG" then
    let (handle, rest) ← handle? rest
    if d.handles.any (·.1 == handle.1) then none
    return ({ d with handles := handle :: d.handles }, ← nextLine? rest)
  else return (d, (rest.dropWhile fun m => !isBreak m.char).drop 1)

/-- The directives in front of a document, and the document behind its mark, which can be left out
where there are no directives.  `fuel` bounds their number. -/
def read? : Nat → Directives → List Mark → Option (Directives × List Mark)
  | 0, _, _ => none
  | fuel + 1, d, ms =>
    match skip false ms with
    | [] => if d.any then none else some (d, [])
    | m :: rest =>
      if m.char = '%' && m.column = 0 then do
        let (d, rest) ← d.add? rest
        read? fuel d rest
      else if startsBoundary (m :: rest) && m.char = '-' then some (d, rest.drop 2)
      else if d.any then none
      else some (d, m :: rest)

/-- All handles of a document. -/
def allHandles (d : Directives) : Handles := d.handles ++ usualHandles

end Directives

end SixAxis.Yaml
