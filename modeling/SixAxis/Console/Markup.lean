import SixAxis.Console.Style
import SixAxis.Text.Alphanumeric
import SixAxis.Text.Emoji

/-!
# Messages with styles

A message says in square brackets where a style begins and where it ends: `[bold]` and `[/bold]`,
or `[/]` for the style that began last.  A backslash before the bracket makes it plain text.  Text
between colons that names an emoji stands for the emoji.

* `Piece.ofMessage` — styles and plain text of a message told apart;
* `plainText` — a message without its styles, if each end has a beginning.
-/

namespace SixAxis.Console

/-! ### Emoji -/

/-- The endings of a name that ask for one way to show an emoji, with the signs for them. -/
def variants : List (List Char × Char) :=
  [("-emoji".toList, Text.colourSign), ("-text".toList, Text.plainSign)]

/-- The emoji of a name between colons. -/
def emojiNamed? (name : List Char) : Option (List Char) :=
  let found (name : List Char) : Option (List Char) :=
    (Text.emoji? (Text.lower (String.ofList name))).map (·.toList)
  match variants.find? fun (ending, _) => ending.isSuffixOf name with
  | some (ending, sign) => (found (name.take (name.length - ending.length))).map (· ++ [sign])
  | none => found name

/-- What stands for a name between colons. -/
def emojiOr (name : List Char) : List Char :=
  (emojiNamed? name).getD (':' :: (name ++ [':']))

/-- A text with emoji for their names.  `name` holds what follows a colon that may begin a name,
reversed. -/
def withEmoji (name : Option (List Char)) : List Char → List Char
  | [] => (name.map fun n => ':' :: n.reverse).getD []
  | c :: rest =>
    match name with
    | none => if c = ':' then withEmoji (some []) rest else c :: withEmoji none rest
    | some n =>
      if c = ':' then emojiOr n.reverse ++ withEmoji none rest
      else if Text.isBlank c then ':' :: (n.reverse ++ c :: withEmoji none rest)
      else withEmoji (some (c :: n)) rest

/-! ### Pieces of a message -/

/-- A piece of a message: plain text, or what stands in a bracket, cut at an equals sign. -/
inductive Piece where
  | text (cs : List Char)
  | style (name : String) (parameter : Option String)

/-- Whether a character can begin a style in a bracket. -/
def beginsStyle (c : Char) : Bool := ('a' ≤ c && c ≤ 'z') || c = '#' || c = '/' || c = '@'

/-- A bracket with a style, and the backslashes before it. -/
structure Bracket where
  slashes : Nat
  inside : List Char

namespace Bracket

/-- The bracket at the start of a text. -/
def read? (cs : List Char) : Option Bracket :=
  let (slashes, rest) := cs.span (· = '\\')
  match rest with
  | '[' :: first :: rest =>
    let (more, behind) := rest.span fun c => c ≠ ']' ∧ c ≠ '['
    match behind with
    | ']' :: _ => if beginsStyle first then some ⟨slashes.length, first :: more⟩ else none
    | _ => none
  | _ => none

/-- The characters that a bracket takes. -/
def length (b : Bracket) : Nat := b.slashes + b.inside.length + 2

/-- The pieces that a bracket stands for.  Two backslashes are one, and a single one makes the
bracket plain. -/
def pieces (b : Bracket) : List Piece :=
  let slashes := List.replicate (b.slashes / 2) '\\'
  let (name, behind) := b.inside.span (· ≠ '=')
  let parameter := match behind with
    | _ :: parameter => some (String.ofList parameter)
    | [] => none
  (if slashes.isEmpty then [] else [.text slashes])
    ++ [if b.slashes % 2 = 1 then .text ('[' :: (b.inside ++ [']']))
        else .style (String.ofList name) parameter]

end Bracket

/-- A text in which a backslash before a bracket is dropped. -/
def withoutSlashes : List Char → List Char
  | '\\' :: '[' :: rest => '[' :: withoutSlashes rest
  | c :: rest => c :: withoutSlashes rest
  | [] => []

/-- Whether a character rings a bell or moves the place of writing; none is shown. -/
def isMovement (c : Char) : Bool := Text.inRanges [(7, 8), (11, 13)] c

namespace Piece

/-- The piece of some plain text, if there is any. -/
def plain (cs : List Char) : List Piece := if cs.isEmpty then [] else [.text cs]

/-- Pieces of a message; `before` holds the plain text so far, reversed, and the next `taken`
characters belong to a bracket. -/
def read (before : List Char) (taken : Nat) : List Char → List Piece
  | [] => plain before.reverse
  | c :: rest =>
    match taken, Bracket.read? (c :: rest) with
    | more + 1, _ => read before more rest
    | 0, some b => plain before.reverse ++ b.pieces ++ read [] (b.length - 1) rest
    | 0, none => read (c :: before) 0 rest

/-- The pieces of a message. -/
def ofMessage (message : String) : List Piece := read [] 0 message.toList

end Piece

/-! ### Styles that begin and end -/

/-- The styles that have begun, the last one first, each with its parameter. -/
abbrev OpenStyles := List (String × Option String)

/-- The style that an end belongs to, and the others. -/
def closed? (opened : OpenStyles) (name : String) : Option ((String × Option String) × OpenStyles) :=
  let (inner, outer) := opened.span (·.1 ≠ name)
  match outer with
  | found :: outer => some (found, inner ++ outer)
  | [] => none

/-- Whether a text is a constant: a number, a quoted text without escapes, or one of three
names. -/
def isConstant (s : String) : Bool :=
  match s.toList with
  | quote :: rest =>
    if quote = '\'' ∨ quote = '"' then
      rest.getLast? = some quote && rest.dropLast.all fun c => c ≠ quote ∧ c ≠ '\\' ∧ c ≠ '\n'
    else ["None", "True", "False"].contains s
      || ((Decimal.float? s).isSome && s.toList.any Char.isDigit)
  | [] => false

/-- Whether the parameter of a style that reacts to a click has a meaning: the name of what is to
be done, with constants in parentheses or without, or constants alone. -/
def isAction (parameter : String) : Bool :=
  let cs := Text.trimChars parameter.toList
  let (name, behind) := cs.span fun c => Text.isAlphanumeric c ∨ c = '_' ∨ c = '.'
  let constants (cs : List Char) : Bool :=
    ((String.ofList cs).splitOn ",").all fun s => isConstant (Text.trim s)
  match behind with
  | [] => true
  | '(' :: inside =>
    let inside := Text.trimChars inside.dropLast
    behind.getLast? = some ')' && (inside.isEmpty || constants inside)
  | _ => constants (name ++ behind)

/-- The plain text of pieces, for the styles that have begun before them. -/
def plainFrom (opened : OpenStyles) : List Piece → Checked (List Char)
  | [] => .ok []
  | .text cs :: rest => do
    return (withEmoji none (withoutSlashes cs)).filter (!isMovement ·) ++ (← plainFrom opened rest)
  | .style name parameter :: rest => do
    match name.toList with
    | '/' :: name =>
      let name := Text.trim (String.ofList name)
      let found ← if name.isEmpty then pure (opened.head?.map fun last => (last, opened.drop 1))
        else do pure (closed? opened (← Style.normal name))
      match found with
      | none => .error Misuse.styles
      | some ((name, parameter), opened) =>
        if name.startsWith "@" && !(parameter.all isAction) then .error Misuse.styles
        else plainFrom opened rest
    | _ => plainFrom ((← Style.normal name, parameter) :: opened) rest

/-- The plain text of a message. -/
def plainText (message : String) : Checked String := do
  return String.ofList (← plainFrom [] (Piece.ofMessage message))

end SixAxis.Console
