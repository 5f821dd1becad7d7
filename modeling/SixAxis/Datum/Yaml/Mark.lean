import SixAxis.Text.Ranges

/-!
# Characters and where they stand

The structure of a YAML text lies in its lines and columns, so its characters are read together
with their places.

* `Mark.ofText?` — the characters of a text, line ends made alike;
* `skip` — passes over spaces, comments and line ends.
-/

namespace SixAxis.Yaml

/-- A character of a text and its place. -/
structure Mark where
  char : Char
  line : Nat
  column : Nat
  /-- Whether nothing but spaces stands before it on its line. -/
  leads : Bool
deriving Repr

/-- Whether a character ends a line. -/
def isBreak (c : Char) : Bool := c = '\n' || c = '\u2028' || c = '\u2029'

/-- Whether a character parts words. -/
def isGap (c : Char) : Bool := c = ' ' || c = '\t' || isBreak c

/-- Whether a text ends here or a character follows that parts words. -/
def endsWord (ms : List Mark) : Bool := (ms.head?.map fun m => isGap m.char).getD true

/-- The characters of a text, with a line feed for every line end of one or two controls. -/
def alikeLineEnds : List Char → List Char
  | [] => []
  | '\r' :: '\n' :: rest => '\n' :: alikeLineEnds rest
  | c :: rest => (if c = '\r' ∨ c = '\u0085' then '\n' else c) :: alikeLineEnds rest

/-- The mark at the start of a text that tells the order of its bytes; it has no width. -/
def byteOrderMark : Char := '\uFEFF'

/-- Characters with their places, from a place on; `leads` tells whether nothing but spaces stands
before it on its line. -/
def marksFrom (line column : Nat) (leads : Bool) : List Char → List Mark
  | [] => []
  | c :: rest =>
    ⟨c, line, column, leads⟩ ::
      if isBreak c then marksFrom (line + 1) 0 true rest
      else
        let next := if c = byteOrderMark then column else column + 1
        marksFrom line next (leads && c = ' ') rest

/-- The characters that may stand in a text: no controls but tabs and line ends. -/
def isAllowed (c : Char) : Bool :=
  Text.inRanges [(9, 10), (13, 13), (32, 126), (133, 133), (160, 65533), (65536, 1114111)] c

/-- The characters of a text with their places; a byte order mark at its start is left out. -/
def Mark.ofText? (s : String) : Option (List Mark) :=
  let cs := s.toList
  let cs := if cs.head? = some byteOrderMark then cs.drop 1 else cs
  if cs.all isAllowed then some (marksFrom 0 0 true (alikeLineEnds cs)) else none

/-- What follows spaces, comments and line ends; `comment` is set inside a comment. -/
def skip (comment : Bool := false) : List Mark → List Mark
  | [] => []
  | m :: rest =>
    if isBreak m.char then skip false rest
    else if comment || m.char = ' ' then skip comment rest
    else if m.char = '#' then skip true rest
    else m :: rest

/-- Whether a character stands alone at the start of a text, as an indicator does. -/
def startsWith (c : Char) : List Mark → Bool
  | m :: rest => m.char = c && endsWord rest
  | [] => false

/-- Whether a line begins here with a mark between documents. -/
def startsBoundary (ms : List Mark) : Bool :=
  match ms with
  | a :: b :: c :: rest =>
    a.column = 0 && (a.char = '-' || a.char = '.') && b.char = a.char && c.char = a.char
      && endsWord rest
  | _ => false

/-- Whether a document ends here. -/
def endsDocument (ms : List Mark) : Bool := ms.isEmpty || startsBoundary ms

end SixAxis.Yaml
