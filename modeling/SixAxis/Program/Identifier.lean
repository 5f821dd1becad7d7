import SixAxis.Datum.Reading
import SixAxis.Text.Alphanumeric
import SixAxis.Text.Digit

/-!
# Identifiers

The names that a program gives to its data: letters, numbers and underscores of any script, not
starting with a digit.  A name that is not one is a fault of whatever it was to name.
-/

namespace SixAxis

/-- Whether a character can be part of a name. -/
def isNameChar (c : Char) : Bool := c = '_' || Text.isAlphanumeric c

/-- Whether a text is an identifier. -/
def isIdentifier (s : String) : Bool :=
  match s.toList with
  | [] => false
  | c :: rest => !Text.isDigit c && (c :: rest).all isNameChar

/-- A name that generated code can use. -/
structure Identifier where
  text : String
  valid : isIdentifier text = true
deriving DecidableEq, Repr

namespace Identifier

instance : ToString Identifier := ⟨Identifier.text⟩

/-- A text as an identifier. -/
def ofText (s : String) (bad : Fault) : Checked Identifier :=
  if h : isIdentifier s then .ok ⟨s, h⟩ else .error bad

/-- A datum as an identifier.  What counts as empty is a bad name, and so is a list that starts
with digits; other data are none. -/
def ofData (d : Datum) (bad : Fault) : Checked Identifier :=
  match d with
  | .text s => ofText s bad
  | d =>
    if !d.isTruthy then .error bad
    else do
      match ← d.at' 0 with
      | .text s =>
        if !s.isEmpty && s.toList.all Text.isDigit then .error bad else .error Misuse.partless
      | _ => .error Misuse.partless

end Identifier

end SixAxis
