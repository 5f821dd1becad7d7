import SixAxis.Text.Ranges

/-!
# Blanks and line ends

What counts as a blank around a number or a line of code, and where a text breaks into lines.

* `trim` removes the blanks at both ends, `trimNumeral` those that may stand around a number;
* `lines` cuts a text at every kind of line break; a break at the very end opens no line.
-/

namespace SixAxis.Text

/-- The blanks of all scripts, tabs, line ends and separator controls among them. -/
def blankRanges : List (Nat × Nat) := [
  (9, 13), (28, 32), (133, 133), (160, 160), (5760, 5760), (8192, 8202), (8232, 8233),
  (8239, 8239), (8287, 8287), (12288, 12288)]

/-- Whether a character is a blank. -/
def isBlank (c : Char) : Bool := inRanges blankRanges c

/-- A list of characters without the blanks at its ends. -/
def trimChars (cs : List Char) : List Char :=
  ((cs.dropWhile isBlank).reverse.dropWhile isBlank).reverse

/-- Whether a character may stand around a number: every blank but the separator controls. -/
def isNumeralBlank (c : Char) : Bool := isBlank c && !inRanges [(28, 31)] c

/-- A numeral without the blanks at its ends. -/
def trimNumeral (cs : List Char) : List Char :=
  ((cs.dropWhile isNumeralBlank).reverse.dropWhile isNumeralBlank).reverse

/-- A text without the blanks at its ends. -/
def trim (s : String) : String := String.ofList (trimChars s.toList)

/-- Whether a character ends a line: line feed, vertical tab, form feed, carriage return, the
three separator controls, next line, and the line and paragraph separators. -/
def isLineBreak (c : Char) : Bool :=
  inRanges [(10, 13), (28, 30), (133, 133), (8232, 8233)] c

/-- Lines of a text; `line` holds the current one, reversed.  A carriage return and a line feed
behind it are one break. -/
def linesFrom (line : List Char) : List Char → List (List Char)
  | [] => if line.isEmpty then [] else [line.reverse]
  | '\r' :: '\n' :: rest => line.reverse :: linesFrom [] rest
  | c :: rest =>
    if isLineBreak c then line.reverse :: linesFrom [] rest else linesFrom (c :: line) rest

/-- The lines of a text, without their ends. -/
def lines (s : String) : List String := (linesFrom [] s.toList).map String.ofList

end SixAxis.Text
