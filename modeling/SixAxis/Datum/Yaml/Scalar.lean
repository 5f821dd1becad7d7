import SixAxis.Datum.Yaml.Flaw
import SixAxis.Datum.Yaml.Kind
import SixAxis.Datum.Yaml.Mark
import SixAxis.Text.Surrogate

/-!
# Scalars of a YAML text

A scalar is written without quotes, in single or double quotes, or as a block of lines.  Where
one runs over several lines the line ends are folded: a single one becomes a space, and of
several the first one is dropped.

* `unquoted?`, `singleQuoted?`, `doubleQuoted`, `block?` — a scalar at the start of a text, and
  the rest of the text.
-/

namespace SixAxis.Yaml

/-! ### Folding -/

/-- The line ends at the start of a text, blanks of a kind between them, and the rest.  A mark
between documents at the start of a line ends the search. -/
def lineEnds (isBlank : Char → Bool) : List Mark → List Char × List Mark
  | [] => ([], [])
  | m :: rest =>
    if isBreak m.char then
      if startsBoundary rest then ([m.char], rest)
      else
        let (ends, rest) := lineEnds isBlank rest
        (m.char :: ends, rest)
    else if isBlank m.char then lineEnds isBlank rest
    else ([], m :: rest)

/-- What line ends amount to when they are folded. -/
def folded : List Char → List Char
  | [] => []
  | first :: more =>
    if first ≠ '\n' then first :: more else if more.isEmpty then [' '] else more

/-! ### Without quotes -/

/-- Whether a character has a meaning of its own in brackets and braces. -/
def isFlowIndicator (c : Char) : Bool := [',', '[', ']', '\x7b', '\x7d'].contains c

/-- Whether an unquoted scalar can start here. -/
def startsUnquoted (inFlow : Bool) : List Mark → Bool
  | [] => false
  | m :: rest =>
    let c := m.char
    let special := ['-', '?', ':', ',', '[', ']', '\x7b', '\x7d', '#', '&', '*', '!', '|', '>',
      '\'', '\x22', '%', '@', Char.ofNat 96]
    !(isGap c || special.contains c)
      || (!endsWord rest && (c = '-' || (!inFlow && (c = '?' || c = ':'))))

/-- A run of the characters of an unquoted scalar, and the rest. -/
def unquotedRun (inFlow : Bool) : List Mark → List Char × List Mark
  | [] => ([], [])
  | m :: rest =>
    let c := m.char
    let endsAtColon := c = ':' &&
      (endsWord rest || (inFlow && (rest.head?.map fun n => isFlowIndicator n.char).getD false))
    if isGap c || endsAtColon || (inFlow && (c = '?' || isFlowIndicator c)) then ([], m :: rest)
    else
      let (run, rest) := unquotedRun inFlow rest
      (c :: run, rest)

/-- The further runs of an unquoted scalar, with what parts them.  Outside of brackets and braces
its lines stand at column `indent` or to the right of it.  `fuel` bounds the number of runs. -/
def unquotedMore (inFlow : Bool) (indent : Int) : Nat → List Mark → List Char × List Mark
  | 0, ms => ([], ms)
  | fuel + 1, ms =>
    let (spaces, next) := ms.span (·.char = ' ')
    let (ends, next) := lineEnds (· = ' ') next
    let gap := if ends.isEmpty then spaces.map (·.char) else folded ends
    match next with
    | [] => ([], ms)
    | m :: _ =>
      if gap.isEmpty || m.char = '#' || (!ends.isEmpty && startsBoundary next)
          || (!inFlow && (m.column : Int) < indent) then ([], ms)
      else
        match unquotedRun inFlow next with
        | ([], _) => ([], ms)
        | (run, rest) =>
          let (more, rest) := unquotedMore inFlow indent fuel rest
          (gap ++ run ++ more, rest)

/-- An unquoted scalar. -/
def unquoted? (inFlow : Bool) (indent : Int) (ms : List Mark) : Option (String × List Mark) :=
  if !startsUnquoted inFlow ms then none
  else
    let (run, rest) := unquotedRun inFlow ms
    let (more, rest) := unquotedMore inFlow indent rest.length rest
    if run.isEmpty then none else some (String.ofList (run ++ more), rest)

/-! ### In quotes -/

/-- The blanks inside quotes, folded if there is a line end among them, and the rest. -/
def quotedGap? (ms : List Mark) : Option (List Char × List Mark) :=
  let isBlank (c : Char) : Bool := c = ' ' || c = '\t'
  let (blanks, next) := ms.span fun m => isBlank m.char
  let (ends, next) := lineEnds isBlank next
  if ends.isEmpty then some (blanks.map (·.char), next)
  else if startsBoundary next then none
  else some (folded ends, next)

/-- The characters up to a closing single quote, and the rest; `fuel` bounds the length. -/
def singleQuotedFrom? : Nat → List Mark → Option (List Char × List Mark)
  | 0, _ => none
  | fuel + 1, ms =>
    match ms with
    | [] => none
    | m :: rest =>
      if isGap m.char then do
        let (gap, rest) ← quotedGap? ms
        let (more, rest) ← singleQuotedFrom? fuel rest
        return (gap ++ more, rest)
      else if m.char ≠ '\'' then do
        let (more, rest) ← singleQuotedFrom? fuel rest
        return (m.char :: more, rest)
      else
        match rest with
        | n :: rest' =>
          if n.char = '\'' then do
            let (more, rest) ← singleQuotedFrom? fuel rest'
            return ('\'' :: more, rest)
          else some ([], rest)
        | [] => some ([], [])

/-- A scalar in single quotes, behind the opening one. -/
def singleQuoted? (ms : List Mark) : Option (String × List Mark) :=
  (singleQuotedFrom? (ms.length + 1) ms).map fun (cs, rest) => (String.ofList cs, rest)

/-- The character of an escape with one letter. -/
def escapeOf? (c : Char) : Option Char :=
  match c with
  | '0' => some '\x00'
  | 'a' => some '\x07'
  | 'b' => some '\x08'
  | 't' | '\t' => some '\t'
  | 'n' => some '\n'
  | 'v' => some '\x0b'
  | 'f' => some '\x0c'
  | 'r' => some '\r'
  | 'e' => some '\x1b'
  | ' ' | '\x22' | '\\' | '/' => some c
  | 'N' => some '\u0085'
  | '_' => some '\u00a0'
  | 'L' => some '\u2028'
  | 'P' => some '\u2029'
  | _ => none

/-- The number of hexadecimal digits of an escape by code point. -/
def codeLength? : Char → Option Nat
  | 'x' => some 2
  | 'u' => some 4
  | 'U' => some 8
  | _ => none

/-- The character of a code point. -/
def charOfCode (code : Nat) : Except Flaw Char :=
  if code < 1114112 then .ok (Text.charOfCode code)
  else if code ≤ 2147483647 then .error (.misfit (.unreadable "no character"))
  else .error (.misfit .overflow)

/-- The character of an escape, behind the backslash, and the rest. -/
def escaped (ms : List Mark) : Except Flaw (Char × List Mark) :=
  match ms with
  | [] => .error .malformed
  | e :: behind =>
    match escapeOf? e.char, codeLength? e.char with
    | some c, _ => .ok (c, behind)
    | none, some n => do
      let digits := (behind.take n).map (·.char)
      if digits.length < n || !digits.all isHexDigit then .error .malformed
      let values := digits.filterMap (Decimal.digitValue? 16)
      return (← charOfCode (Decimal.natOf values 16), behind.drop n)
    | none, none => .error .malformed

/-- The characters up to a closing double quote, and the rest; `fuel` bounds the length. -/
def doubleQuotedFrom : Nat → List Mark → Except Flaw (List Char × List Mark)
  | 0, _ => .error .malformed
  | fuel + 1, ms =>
    match ms with
    | [] => .error .malformed
    | m :: rest =>
      if isGap m.char then
        match quotedGap? ms with
        | none => .error .malformed
        | some (gap, rest) => do
          let (more, rest) ← doubleQuotedFrom fuel rest
          return (gap ++ more, rest)
      else if m.char = '\x22' then .ok ([], rest)
      else if m.char ≠ '\\' then do
        let (more, rest) ← doubleQuotedFrom fuel rest
        return (m.char :: more, rest)
      else if rest.head?.any fun e => isBreak e.char then
        let (ends, next) := lineEnds (fun c => c = ' ' || c = '\t') rest
        if startsBoundary next then .error .malformed
        else do
          let (more, rest) ← doubleQuotedFrom fuel next
          return (ends.drop 1 ++ more, rest)
      else do
        let (c, rest) ← escaped rest
        let (more, rest) ← doubleQuotedFrom fuel rest
        return (c :: more, rest)

/-- A scalar in double quotes, behind the opening one. -/
def doubleQuoted (ms : List Mark) : Except Flaw (String × List Mark) := do
  let (cs, rest) ← doubleQuotedFrom (ms.length + 1) ms
  return (String.ofList cs, rest)

/-! ### As a block of lines -/

/-- What becomes of the line ends at the end of a block. -/
inductive Chomping where
  | strip
  | clip
  | keep
deriving DecidableEq

/-- How a block is to be read: whether its lines are folded, its further indentation if that is
given, and its line ends. -/
structure BlockHeader where
  fold : Bool
  further : Option Nat := none
  chomping : Chomping := .clip

namespace BlockHeader

/-- The header with one indicator more, which must be the first one of its kind. -/
def add? (h : BlockHeader) (c : Char) (seen : List Bool) : Option (BlockHeader × List Bool) :=
  if c = '+' ∨ c = '-' then
    if seen.contains true then none
    else some ({ h with chomping := if c = '+' then .keep else .strip }, true :: seen)
  else if '1' ≤ c ∧ c ≤ '9' then
    if seen.contains false then none else some ({ h with further := Decimal.digitValue? 10 c }, false :: seen)
  else none

/-- The indicators behind `|` or `>`, then a comment or nothing up to the end of the line, and the
lines behind it. -/
def read? (h : BlockHeader) (ms : List Mark) : Option (BlockHeader × List Mark) := do
  let indicators := ms.takeWhile fun m => !isGap m.char
  let rest := ms.dropWhile fun m => !isGap m.char
  let (h, _) ← indicators.foldlM (fun (h, seen) m => h.add? m.char seen) (h, [])
  let behind := rest.dropWhile (·.char = ' ')
  match behind with
  | [] => return (h, [])
  | m :: lines =>
    if isBreak m.char then return (h, lines)
    else if m.char = '#' then return (h, (behind.dropWhile fun m => !isBreak m.char).drop 1)
    else none

end BlockHeader

/-- The empty lines before a line of a block with its indentation, as line ends, and the rest. -/
def emptyLines (indent : Nat) : List Mark → List Char × List Mark
  | [] => ([], [])
  | m :: rest =>
    if isBreak m.char then
      let (ends, rest) := emptyLines indent rest
      (m.char :: ends, rest)
    else if m.char = ' ' ∧ m.column < indent then emptyLines indent rest
    else ([], m :: rest)

/-- The greatest column of the spaces before the first line of a block that holds anything else. -/
def deepestSpace : List Mark → Nat
  | [] => 0
  | m :: rest =>
    if m.char = ' ' then max (m.column + 1) (deepestSpace rest)
    else if isBreak m.char then deepestSpace rest
    else 0

/-- The lines of a block behind the line ends `before`; the line ends that are left at its end,
and the rest.  `fuel` bounds the number of lines. -/
def blockLines (fold : Bool) (indent : Nat) :
    Nat → List Char → List Mark → List Char × List Char × List Char × List Mark
  | 0, before, ms => ([], [], before, ms)
  | fuel + 1, before, ms =>
    match ms with
    | [] => ([], [], before, [])
    | m :: _ =>
      if m.column ≠ indent then ([], [], before, ms)
      else
        let (line, rest) := ms.span fun m => !isBreak m.char
        let (last, rest) := rest.splitAt 1
        let last := last.map (·.char)
        let (ends, rest) := emptyLines indent rest
        let isBlank (m : Mark) : Bool := m.char = ' ' || m.char = '\t'
        match rest with
        | n :: _ =>
          if n.column = indent then
            let joint :=
              if fold && last == ['\n'] && !isBlank m && !isBlank n then
                if ends.isEmpty then [' '] else []
              else last
            let (more, last, left, rest) := blockLines fold indent fuel ends rest
            (before ++ line.map (·.char) ++ joint ++ more, last, left, rest)
          else (before ++ line.map (·.char), last, ends, rest)
        | [] => (before ++ line.map (·.char), last, ends, [])

/-- A scalar as a block of lines to the right of column `parent`, behind its `|` or `>`. -/
def block? (fold : Bool) (parent : Int) (ms : List Mark) : Option (String × List Mark) := do
  let (h, ms) ← BlockHeader.read? { fold := fold } ms
  let least := (max (parent + 1) 1).toNat
  let indent := match h.further with
    | some n => least + n - 1
    | none => max least (deepestSpace ms)
  let (before, ms) := emptyLines indent ms
  let (text, last, left, rest) := blockLines fold indent (ms.length + 1) before ms
  let ending := match h.chomping with
    | .strip => []
    | .clip => last
    | .keep => last ++ left
  return (String.ofList (text ++ ending), rest)

end SixAxis.Yaml
