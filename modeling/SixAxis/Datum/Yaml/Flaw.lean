import SixAxis.Fault

/-!
# What is wrong with a YAML text

A text that stands for no datum either breaks the rules of the format or holds a scalar that does
not fit the kind it is said to be of.  A tree can have several flaws; the one that counts is the
least deep one, and among equally deep ones the first.

* `Flaw` — what is wrong;
* `Built` — a part of a datum, or its flaw and how deep it is;
* `Built.all` — several parts.
-/

namespace SixAxis.Yaml

/-- Why a text stands for no datum. -/
inductive Flaw where
  | malformed
  /-- A scalar that its kind has no meaning for. -/
  | misfit (m : Misuse)
deriving Repr

/-- A part of a datum, or a flaw and its depth. -/
abbrev Built (α : Type) := Except (Nat × Flaw) α

namespace Built

/-- A part that can have a flaw at a depth. -/
def ofExcept {α : Type} (depth : Nat) (x : Except Flaw α) : Built α :=
  x.mapError fun flaw => (depth, flaw)

/-- A break of the rules at a depth. -/
def malformed {α : Type} (depth : Nat) : Built α := .error (depth, .malformed)

/-- Parts in order, or the least deep flaw among them, the first of equally deep ones. -/
def all {α : Type} : List (Built α) → Built (List α)
  | [] => .ok []
  | x :: rest =>
    match x, all rest with
    | .ok a, .ok as => .ok (a :: as)
    | .error e, .error f => .error (if f.1 < e.1 then f else e)
    | .error e, .ok _ => .error e
    | .ok _, .error f => .error f

end Built

end SixAxis.Yaml
