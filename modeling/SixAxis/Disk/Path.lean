/-!
# Paths

A path is a sequence of names, from the root or from where the program was started.  A text with
repeated slashes, or with single points among its names, means the same path without them.

* `Path.ofString` and `Path.text` — reading and writing;
* `Path.join` — a path below another one.
-/

namespace SixAxis

/-- A path. -/
structure Path where
  fromRoot : Bool
  names : List String
deriving Repr, BEq, DecidableEq

namespace Path

/-- The path of a text. -/
def ofString (s : String) : Path where
  fromRoot := s.startsWith "/"
  names := (s.splitOn "/").filter fun name => name ≠ "" ∧ name ≠ "."

/-- The text of a path. -/
def text (p : Path) : String :=
  if p.fromRoot then "/" ++ "/".intercalate p.names
  else if p.names.isEmpty then "."
  else "/".intercalate p.names

/-- A path seen from a directory; one from the root stays as it is. -/
def join (directory p : Path) : Path :=
  if p.fromRoot then p else { directory with names := directory.names ++ p.names }

/-- The path as a text names it step by step.  A slash at the end is a step to the same place. -/
def steps (s : String) : Path where
  fromRoot := s.startsWith "/"
  names := ((s.splitOn "/").filter (· ≠ "")) ++ (if s.endsWith "/" then ["."] else [])

end Path

end SixAxis
