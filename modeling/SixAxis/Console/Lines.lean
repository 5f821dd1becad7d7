import SixAxis.Console.Markup
import SixAxis.Text.Surrogate
import SixAxis.Text.Width

/-!
# Lines of output

A message is shown without its styles.  A tab fills up to the next column that is a multiple of
eight, and a line that is too wide is broken between words, a word that is too wide wherever it
has to be.

* `wrapped` — a line broken into lines that fit;
* `shownLines` — the lines of a message.
-/

namespace SixAxis.Console

/-- The cells of a line. -/
def lineWidth : Nat := 1000

/-- The columns between two places of a tab. -/
def tabWidth : Nat := 8

/-- The blanks for a tab that stands in some column. -/
def tabCells (column : Nat) : Nat := 1 + (tabWidth - (column + 1) % tabWidth) % tabWidth

/-- A line with blanks for tabs, from some column on. -/
def untabbed (column : Nat) : List Char → List Char
  | [] => []
  | c :: rest =>
    if c = '\t' then
      List.replicate (tabCells column) ' ' ++ untabbed (column + tabCells column) rest
    else c :: untabbed (column + Text.cellsOf c) rest

/-! ### Breaking a line -/

/-- The words of a line with the blanks behind them, and before the first one; `word` holds the
current one, reversed. -/
def spacedWords (word : List Char) : List Char → List (List Char)
  | [] => [word.reverse]
  | c :: rest =>
    if !Text.isBlank c && word.head?.any Text.isBlank && word.any (!Text.isBlank ·)
    then word.reverse :: spacedWords [c] rest
    else spacedWords (c :: word) rest

/-- A word cut into pieces that fit; `piece` holds the current one, reversed, and `used` its
cells. -/
def fitting (width : Nat) (piece : List Char) (used : Nat) : List Char → List (List Char)
  | [] => [piece.reverse]
  | c :: rest =>
    if width < used + Text.cellsOf c
    then piece.reverse :: fitting width [c] (Text.cellsOf c) rest
    else fitting width (c :: piece) (used + Text.cellsOf c) rest

/-- A word without the blanks behind it. -/
def withoutBlanks (word : List Char) : List Char := (word.reverse.dropWhile Text.isBlank).reverse

/-- Words put into lines; `line` is the current one. -/
def filled (width : Nat) (line : List Char) : List (List Char) → List (List Char)
  | [] => [line]
  | word :: rest =>
    let needed := Text.cells (withoutBlanks word)
    if Text.cells line + needed ≤ width then filled width (line ++ word) rest
    else if width < needed then
      let pieces := fitting width [] 0 word
      (if line.isEmpty then [] else [line]) ++ pieces.dropLast
        ++ filled width (pieces.getLastD []) rest
    else line :: filled width word rest

/-- A line broken into lines of some width.  Blanks at an end can stand out. -/
def wrapped (width : Nat) (line : List Char) : List (List Char) :=
  filled width [] (spacedWords [] line)

/-! ### Messages -/

/-- The lines of a message, without blanks around them; none is empty. -/
def shownLines (message : String) : Checked (List String) := do
  let text ← plainText message
  if !Text.isEncodable text then .error Misuse.unencodable
  else
    let lines := (text.splitOn "\n").flatMap fun line => wrapped lineWidth (untabbed 0 line.toList)
    return (lines.flatMap fun line => Text.lines (String.ofList line)).map Text.trim
      |>.filter (!·.isEmpty)

end SixAxis.Console
