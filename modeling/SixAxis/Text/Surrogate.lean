/-!
# Lone surrogates

An escape by code point can name half of a pair of surrogates without the other half.  No
character is such a half, so a text holds a stand-in for it: the character of the last plane whose
code point ends in the same four digits.  In a message the stand-in is shown as the half itself,
and it cannot be written to a file.
-/

namespace SixAxis.Text

/-- The distance from the surrogates to their stand-ins. -/
def surrogateShift : Nat := 1048576

/-- Whether a code point is half of a pair. -/
def isSurrogateCode (code : Nat) : Bool := 55296 ≤ code && code ≤ 57343

/-- The character of a code point, a stand-in for half of a pair. -/
def charOfCode (code : Nat) : Char :=
  Char.ofNat (if isSurrogateCode code then code + surrogateShift else code)

/-- Whether a character stands for half of a pair. -/
def isSurrogate (c : Char) : Bool := isSurrogateCode (c.toNat - surrogateShift)

/-- The code point that a character stands for. -/
def codeOf (c : Char) : Nat := if isSurrogate c then c.toNat - surrogateShift else c.toNat

/-- Whether a text can be written to a file. -/
def isEncodable (s : String) : Bool := !s.toList.any isSurrogate

end SixAxis.Text
