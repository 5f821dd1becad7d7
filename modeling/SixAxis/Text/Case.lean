import SixAxis.Text.Blank

/-!
# Small and capital letters

The letters of ASCII and of the western European languages have small and capital forms.  A few
characters further on are forms of the letters of ASCII too: the signs for kelvin and ångström,
the dotless i, the long s and two ligatures.

* `lower` and `upper` — a text in small or in capital letters;
* `words` — the words of a text.
-/

namespace SixAxis.Text

/-- The distance between the forms of a letter. -/
def caseShift : Nat := 32

/-- The small form of a character. -/
def lowerChar (c : Char) : Char :=
  if inRanges [(65, 90), (192, 214), (216, 222)] c then Char.ofNat (c.toNat + caseShift)
  else if c.toNat = 8490 then 'k'
  else if c.toNat = 8491 then 'å'
  else c

/-- A text in small letters. -/
def lower (s : String) : String := s.map lowerChar

/-- The capital form of a character, which can be two letters. -/
def upperChars (c : Char) : List Char :=
  if inRanges [(97, 122), (224, 246), (248, 254)] c then [Char.ofNat (c.toNat - caseShift)]
  else if c.toNat = 305 then ['I']
  else if c.toNat = 383 then ['S']
  else if c.toNat = 64261 ∨ c.toNat = 64262 then ['S', 'T']
  else [c]

/-- A text in capital letters. -/
def upper (s : String) : String := String.ofList (s.toList.flatMap upperChars)

/-- Words of a text; `word` holds the current one, reversed. -/
def wordsFrom (word : List Char) : List Char → List (List Char)
  | [] => if word.isEmpty then [] else [word.reverse]
  | c :: rest =>
    if !isBlank c then wordsFrom (c :: word) rest
    else if word.isEmpty then wordsFrom [] rest
    else word.reverse :: wordsFrom [] rest

/-- The words of a text, which stand between blanks. -/
def words (s : String) : List String := (wordsFrom [] s.toList).map String.ofList

end SixAxis.Text
