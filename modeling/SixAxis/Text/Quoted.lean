import SixAxis.Text.Printable
import SixAxis.Text.Surrogate

/-!
# Quoted text in messages

Messages quote a text in single quotes, or in double quotes where that saves escaping: when it
holds a single quote and no double one.  A backslash, the chosen quote and the usual controls
are escaped by a letter, every other character that is not printable by its code point.
-/

namespace SixAxis.Text

/-- A digit of a code point. -/
def hexDigit (n : Nat) : Char := "0123456789abcdef".toList.getD (n % 16) '0'

/-- The last `width` hexadecimal digits of a number, leading zeros included. -/
def hex : Nat → Nat → List Char
  | 0, _ => []
  | width + 1, n => hex width (n / 16) ++ [hexDigit n]

/-- One character inside the quote `quote`. -/
def quotedChar (quote c : Char) : List Char :=
  if c = quote ∨ c = '\\' then ['\\', c]
  else if c = '\n' then ['\\', 'n']
  else if c = '\t' then ['\\', 't']
  else if c = '\r' then ['\\', 'r']
  else if isPrintable c then [c]
  else
    let code := codeOf c
    if code < 256 then '\\' :: 'x' :: hex 2 code
    else if code < 65536 then '\\' :: 'u' :: hex 4 code
    else '\\' :: 'U' :: hex 8 code

/-- The quote that a text is put in. -/
def quoteFor (s : String) : Char :=
  if s.toList.contains '\x27' && !s.toList.contains '\x22' then '\x22' else '\x27'

/-- A text in quotes. -/
def quoted (s : String) : String :=
  let quote := quoteFor s
  String.ofList (quote :: s.toList.flatMap (quotedChar quote) ++ [quote])

end SixAxis.Text
