import SixAxis.Datum.Yaml.Node
import SixAxis.Datum.Yaml.Property
import SixAxis.Datum.Yaml.Scalar

/-!
# Reading a YAML text

The nodes of a text are nested by indentation or, inside brackets and braces, by these.  A key
stands on one line together with its colon and not too far from it, unless a question mark
announces it.  A node may bear a tag and an anchor, by which later nodes refer to it.

* `Node.ofText` — the tree of a text with one document.
-/

namespace SixAxis.Yaml

/-- What is known where a node is read: the handles of its document, and the nodes named so far. -/
structure Known where
  handles : Handles
  nodes : List (String × Node) := []

/-- A reader of nodes. -/
abbrev Reading (α : Type) := StateT Known (Except Flaw) α

/-- No node is written here. -/
def refused {α : Type} : Reading α := throw .malformed

/-- A result that there has to be. -/
def ofOption {α : Type} : Option α → Reading α
  | some a => pure a
  | none => refused

/-! ### Tags and anchors -/

/-- What is written before a node. -/
structure Properties where
  anchor : Option String := none
  tag : Option String := none

namespace Properties

/-- Whether nothing is written before a node. -/
def isEmpty (p : Properties) : Bool := p.anchor.isNone && p.tag.isNone

/-- The kind of a node: that of its tag, if this names one. -/
def kindOr (p : Properties) (untagged : Kind) : Kind :=
  match p.tag with
  | none => untagged
  | some tag => if tag == bareTag then untagged else Kind.ofTag tag

/-- The properties with an anchor, behind the ampersand, and the rest. -/
def withAnchor (p : Properties) (ms : List Mark) : Reading (Properties × List Mark) := do
  let (name, rest) ← ofOption (anchorName? ms)
  return ({ p with anchor := some name }, rest)

/-- The properties with a tag, behind the exclamation mark, and the rest. -/
def withTag (p : Properties) (ms : List Mark) : Reading (Properties × List Mark) := do
  let (tag, rest) ← ofOption (tag? (← get).handles ms)
  return ({ p with tag := some tag }, rest)

/-- Makes a node known by the anchor that is written before it, which must be new. -/
def register (p : Properties) (node : Node) : Reading Unit := do
  match p.anchor with
  | none => return
  | some name =>
    if (← get).nodes.any (·.1 == name) then refused
    else modify fun known => { known with nodes := (name, node) :: known.nodes }

/-- A scalar with what is written before it.  Without quotes, and also where its tag says nothing,
its form shows its kind. -/
def scalar (p : Properties) (s : String) (unquoted : Bool) : Reading Node := do
  let byForm := unquoted || p.tag == some bareTag
  let node := Node.scalar (p.kindOr (if byForm then .ofUnquoted s else .text)) s
  p.register node
  return node

/-- Nothing but what is written before it. -/
def absent (p : Properties) : Reading Node := p.scalar "" true

/-- A list or a record with what is written before it.  Inside of it, its anchor stands for
itself. -/
def around {α : Type} (p : Properties) (isRecord : Bool) (make : α → Node)
    (parts : Reading (α × List Mark)) : Reading (Node × List Mark) := do
  p.register (.enclosing isRecord)
  let (a, rest) ← parts
  let node := make a
  if let some name := p.anchor then
    modify fun known =>
      { known with nodes := known.nodes.map fun n => if n.1 == name then (name, node) else n }
  return (node, rest)

/-- A list with what is written before it. -/
def list (p : Properties) (items : Reading (List Node × List Mark)) :
    Reading (Node × List Mark) :=
  p.around false (.list (p.kindOr .list)) items

/-- A record with what is written before it. -/
def record (p : Properties) (fields : Reading (List (Node × Node) × List Mark)) :
    Reading (Node × List Mark) :=
  p.around true (.record (p.kindOr .record)) fields

end Properties

/-- The node that a name stands for. -/
def named (name : String) : Reading Node := do ofOption ((← get).nodes.lookup name)

/-! ### Keys -/

/-- Whether a text starts with some character. -/
def startsOn (c : Char) (ms : List Mark) : Bool := (ms.head?.map (·.char)) == some c

/-- The line of the start of a text. -/
def lineOf (ms : List Mark) : Option Nat := ms.head?.map (·.line)

/-- The most characters from the start of a key to its colon. -/
def longestKey : Nat := 1024

/-- Whether a key at the start of a text can have its colon at the start of another one. -/
def reaches (key colon : List Mark) : Bool :=
  lineOf key == lineOf colon && key.length ≤ colon.length + longestKey

/-! ### Inside brackets and braces -/

/-- Whether an entry in brackets or braces ends here. -/
def endsEntry (ms : List Mark) : Bool :=
  ms.isEmpty || startsOn ',' ms || startsOn ']' ms || startsOn '\x7d' ms

mutual

/-- A scalar, or nodes in brackets or braces, behind its properties.  Outside of these an unquoted
scalar keeps to the right of column `indent`. -/
def flowNode : Nat → (inFlow : Bool) → (indent : Int) → Properties → List Mark →
    Reading (Node × List Mark)
  | 0, _, _, _, _ => refused
  | fuel + 1, inFlow, indent, p, ms => do
    let inner := ms.drop 1
    if inFlow && startsBoundary ms then refused
    else if startsOn '*' ms then
      if !p.isEmpty then refused
      let (name, rest) ← ofOption (anchorName? inner)
      return (← named name, rest)
    else if startsOn '&' ms && p.anchor.isNone then
      let (p, rest) ← p.withAnchor inner
      flowNode fuel inFlow indent p (skip false rest)
    else if startsOn '!' ms && p.tag.isNone then
      let (p, rest) ← p.withTag inner
      flowNode fuel inFlow indent p (skip false rest)
    else if startsOn '[' ms then p.list (flowItems fuel inner)
    else if startsOn '\x7b' ms then p.record (flowFields fuel inner)
    else if startsOn '\'' ms then
      let (s, rest) ← ofOption (singleQuoted? inner)
      return (← p.scalar s false, rest)
    else if startsOn '\x22' ms then
      let (s, rest) ← doubleQuoted inner
      return (← p.scalar s false, rest)
    else if startsUnquoted inFlow ms then
      let (s, rest) ← ofOption (unquoted? inFlow indent ms)
      return (← p.scalar s true, rest)
    else if p.isEmpty then refused
    else return (← p.absent, ms)

/-- A node in brackets or braces, and its value if it is a key.  Only a key that a question mark
announces can be left out. -/
def flowEntry : Nat → List Mark → Reading (Node × Option Node × List Mark)
  | 0, _ => refused
  | fuel + 1, ms => do
    let announced := startsOn '?' ms
    let ms := if announced then skip false (ms.drop 1) else ms
    let hasKey := !(announced && (startsOn ':' ms || endsEntry ms))
    let (key, rest) ← if hasKey then flowNode fuel true 0 {} ms else pure (.absent, ms)
    let next := skip false rest
    if !startsOn ':' next then
      return (key, if announced then some .absent else none, next)
    else if !announced && !reaches ms next then refused
    else
      let behind := skip false (next.drop 1)
      if endsEntry behind then return (key, some .absent, behind)
      else
        let (value, rest) ← flowNode fuel true 0 {} behind
        return (key, some value, skip false rest)

/-- The items up to a closing bracket. -/
def flowItems : Nat → List Mark → Reading (List Node × List Mark)
  | 0, _ => refused
  | fuel + 1, ms => do
    let ms := skip false ms
    if startsOn ']' ms then return ([], ms.drop 1)
    else if endsDocument ms then refused
    else
      let (key, value, next) ← flowEntry fuel ms
      let item := match value with
        | none => key
        | some v => .record .record [(key, v)]
      if startsOn ']' next then return ([item], next.drop 1)
      else if startsOn ',' next then
        let (items, rest) ← flowItems fuel (next.drop 1)
        return (item :: items, rest)
      else refused

/-- The fields up to a closing brace. -/
def flowFields : Nat → List Mark → Reading (List (Node × Node) × List Mark)
  | 0, _ => refused
  | fuel + 1, ms => do
    let ms := skip false ms
    if startsOn '\x7d' ms then return ([], ms.drop 1)
    else if endsDocument ms then refused
    else
      let (key, value, next) ← flowEntry fuel ms
      let field := (key, value.getD .absent)
      if startsOn '\x7d' next then return ([field], next.drop 1)
      else if startsOn ',' next then
        let (fields, rest) ← flowFields fuel (next.drop 1)
        return (field :: fields, rest)
      else refused

end

/-! ### By indentation -/

/-- A key at the start of a text that its colon follows, and what is behind the colon.  Where there
is none, nothing becomes of the names in what is written instead. -/
def implicitKey? (fuel : Nat) (parent : Int) (ms : List Mark) :
    Reading (Option (Node × List Mark)) := fun known =>
  match (flowNode fuel false (parent + 1) {} ms).run known with
  | .ok ((key, rest), known') =>
    let next := rest.dropWhile (·.char = ' ')
    if startsWith ':' next && reaches ms next then .ok (some (key, next.drop 1), known')
    else .ok (none, known)
  | .error .malformed => .ok (none, known)
  | .error flaw => .error flaw

/-- Whether the entries of a block at a column end here; they must not go on anywhere else than at
the start of a line in that column. -/
def endsBlock (column : Nat) (ms : List Mark) : Reading Bool :=
  match ms with
  | [] => return true
  | m :: _ =>
    if endsDocument ms || (m.leads && m.column < column) then return true
    else if m.leads && m.column = column then return false
    else refused

mutual

/-- A node of a block whose parent stands at column `parent`, behind its properties.  A block begins
at the start of a line, or behind another indicator, `fresh`; `aligned` tells that a list need not
stand to the right of its parent.  Properties on a line of their own belong to the block below,
but those on the line of a key belong to the key. -/
def blockNode : Nat → (parent : Int) → (fresh aligned : Bool) → Properties → List Mark →
    Reading (Node × List Mark)
  | 0, _, _, _, _, _ => refused
  | fuel + 1, parent, fresh, aligned, p, ms => do
    let ms := skip false ms
    match ms with
    | [] => return (← p.absent, ms)
    | m :: rest =>
      let fresh := fresh || m.leads
      let column : Int := m.column
      if endsDocument ms then return (← p.absent, ms)
      else if m.leads && startsWith '-' ms && aligned && column = parent then
        p.list (blockItems fuel m.column true ms)
      else if m.leads && column ≤ parent then return (← p.absent, ms)
      else if startsWith '-' ms then
        if !fresh then refused
        p.list (blockItems fuel m.column false ms)
      else
        let key? ← if fresh then implicitKey? fuel parent ms else pure none
        if startsWith '?' ms || key?.isSome then
          if !fresh then refused
          p.record (blockFields fuel m.column key? ms)
        else if m.char = '|' || m.char = '>' then
          let (s, rest) ← ofOption (block? (m.char = '>') parent rest)
          return (← p.scalar s false, rest)
        else if m.char = '&' && p.anchor.isNone then
          let (p, rest) ← p.withAnchor rest
          blockNode fuel parent false aligned p rest
        else if m.char = '!' && p.tag.isNone then
          let (p, rest) ← p.withTag rest
          blockNode fuel parent false aligned p rest
        else flowNode fuel false (parent + 1) p ms

/-- The items of a list at a column. -/
def blockItems : Nat → (column : Nat) → (aligned : Bool) → List Mark →
    Reading (List Node × List Mark)
  | 0, _, _, _ => refused
  | fuel + 1, column, aligned, ms => do
    let (item, rest) ← blockNode fuel column true false {} (ms.drop 1)
    let next := skip false rest
    if ← endsBlock column next then return ([item], next)
    else if startsWith '-' next then
      let (items, rest) ← blockItems fuel column aligned next
      return (item :: items, rest)
    else if aligned then return ([item], next)
    else refused

/-- The fields of a record at a column; the first key may have been read already. -/
def blockFields : Nat → (column : Nat) → (first : Option (Node × List Mark)) → List Mark →
    Reading (List (Node × Node) × List Mark)
  | 0, _, _, _ => refused
  | fuel + 1, column, first, ms => do
    let (field, rest) ← blockField fuel column first ms
    let next := skip false rest
    if ← endsBlock column next then return ([field], next)
    else
      let (fields, rest) ← blockFields fuel column none next
      return (field :: fields, rest)

/-- One field of a record at a column. -/
def blockField : Nat → (column : Nat) → (first : Option (Node × List Mark)) → List Mark →
    Reading ((Node × Node) × List Mark)
  | 0, _, _, _ => refused
  | fuel + 1, column, first, ms => do
    if startsWith '?' ms then
      let (key, rest) ← blockNode fuel column true true {} (ms.drop 1)
      let next := skip false rest
      let isInLine := next.head?.map fun m => m.leads && m.column = column
      if startsWith ':' next && isInLine == some true then
        let (value, rest) ← blockNode fuel column true true {} (next.drop 1)
        return ((key, value), rest)
      else return ((key, .absent), rest)
    else
      let key? ← match first with
        | some found => pure (some found)
        | none => implicitKey? fuel column ms
      let (key, behind) ← ofOption key?
      let (value, rest) ← blockNode fuel column false true {} behind
      return ((key, value), rest)

end

/-! ### Documents -/

/-- What follows the marks at the end of a document. -/
def afterEnds : Nat → List Mark → List Mark
  | 0, ms => ms
  | fuel + 1, ms =>
    let ms := skip false ms
    if startsBoundary ms && startsOn '.' ms then afterEnds fuel (ms.drop 3) else ms

/-- The most levels of a tree. -/
def mostLevels : Nat := 485

/-- The tree of a text with one document. -/
def Node.ofText (s : String) : Except Flaw Node := do
  let some ms := Mark.ofText? s | .error .malformed
  let fuel := 4 * ms.length + 16
  let some (directives, start) := Directives.read? fuel {} ms | .error .malformed
  if startsBoundary start then .error .malformed
  let ((node, rest), _) ← (blockNode fuel (-1) false false {} start).run
    { handles := directives.allHandles }
  if mostLevels < node.height then .error (.misfit .tooDeep)
  if (afterEnds fuel rest).isEmpty then return node else .error .malformed

end SixAxis.Yaml
