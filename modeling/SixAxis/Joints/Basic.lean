import SixAxis.Fault
import SixAxis.Unconnected

/-!
# Joint vectors

Six values, one per joint of the arm or one per external axis.  Which of the two a vector
belongs to is part of its type, so that only like vectors combine.  Joints of the arm start at
zero, external axes as unconnected.

Arithmetic goes slot by slot: two defined slots combine, two unconnected ones stay
unconnected, and a defined slot beside an unconnected one is a fault that names every such
slot.

* `Joints.combine`, `Joints.scale` — two vectors, a vector and a number;
* `Joints.slot?` — what an index or an axis letter points to;
* `JointVector` — a vector of either kind, for values whose kind is only known when they arrive.
-/

namespace SixAxis

/-- The two kinds of joint vectors. -/
inductive JointKind where
  | robot
  | external
deriving Repr, DecidableEq, BEq, Inhabited

namespace JointKind

/-- The name of a kind in messages. -/
def label : JointKind → String
  | robot => "Robot Joint Position"
  | external => "External Joint Position"

/-- The letters that name the slots. -/
def letters : JointKind → List Char
  | robot => []
  | external => ['a', 'b', 'c', 'd', 'e', 'f']

/-- The value of a slot that is not given. -/
def absent {R : Type} [Scalar R] : JointKind → R
  | robot => 0.0
  | external => unconnected

end JointKind

/-- Six joint values of one kind. -/
structure Joints (kind : JointKind) (R : Type) where
  slots : Vector R 6
deriving Repr

/-- Values of the joints of the arm, in degrees. -/
abbrev RobotJoints (R : Type) := Joints .robot R

/-- Values of the external axes, in millimetres or degrees. -/
abbrev ExternalJoints (R : Type) := Joints .external R

namespace Joints

variable {R : Type} [Scalar R] {kind : JointKind}

/-- The vector of the values given, with the rest absent; values beyond the sixth are dropped. -/
def ofValues (values : List R) : Joints kind R :=
  ⟨Vector.ofFn fun i : Fin 6 => values.getD i kind.absent⟩

instance : Inhabited (Joints kind R) := ⟨ofValues []⟩

omit [Scalar R] in
/-- The six values in order. -/
def toList (j : Joints kind R) : List R := j.slots.toList

omit [Scalar R] in
/-- The value of a slot. -/
def get (j : Joints kind R) (i : Fin 6) : R := j.slots.get i

/-- Whether a slot holds a value. -/
def isDefined (j : Joints kind R) (i : Fin 6) : Bool := !isUnconnected (j.get i)

omit [Scalar R] in
/-- The vector with one slot replaced. -/
def set (j : Joints kind R) (i : Fin 6) (v : R) : Joints kind R :=
  ⟨Vector.ofFn fun k : Fin 6 => if k = i then v else j.get k⟩

omit [Scalar R] in
/-- Two vectors with the same value in every slot are the same. -/
theorem ext_get {a b : Joints kind R} (h : ∀ i, a.get i = b.get i) : a = b := by
  cases a; cases b
  congr 1
  ext i hi
  exact h ⟨i, hi⟩

theorem get_ofValues (values : List R) (i : Fin 6) :
    (ofValues values : Joints kind R).get i = values.getD i kind.absent := by
  simp [get, ofValues, Vector.get]
  rfl

omit [Scalar R] in
theorem get_set (j : Joints kind R) (i k : Fin 6) (v : R) :
    (j.set i v).get k = if k = i then v else j.get k := by
  simp [get, set, Vector.get]
  rfl

/-- The value of a slot, zero where it is unconnected. -/
def valueOrZero (j : Joints kind R) (i : Fin 6) : R :=
  if j.isDefined i then j.get i else 0.0

/-! ### Arithmetic -/

/-- The positions of the slots with a property. -/
def positions (p : Fin 6 → Bool) : List (Fin 6) := (List.finRange 6).filter p

/-- The slots that are defined in one vector only. -/
def mismatched (a b : Joints kind R) : List (Fin 6) :=
  positions fun i => a.isDefined i != b.isDefined i

/-- Two vectors combined slot by slot. -/
def combine (op : R → R → R) (symbol : String) (a b : Joints kind R) : Checked (Joints kind R) :=
  match a.mismatched b with
  | [] => .ok ⟨Vector.ofFn fun i : Fin 6 =>
      if a.isDefined i then op (a.get i) (b.get i) else unconnected⟩
  | first :: rest =>
    .error (ActionFault.mismatch kind.label symbol first ((first :: rest).map Fin.val))

/-- The defined slots of a vector changed by a function. -/
def mapDefined (f : R → R) (a : Joints kind R) : Joints kind R :=
  ⟨a.slots.map fun v => if isUnconnected v then v else f v⟩

theorem get_mapDefined (f : R → R) (a : Joints kind R) (i : Fin 6) :
    (a.mapDefined f).get i = if isUnconnected (a.get i) then a.get i else f (a.get i) := by
  simp [get, mapDefined, Vector.get]
  rfl

/-- The slots that hold zero. -/
def zeros (a : Joints kind R) : List (Fin 6) := positions fun i => a.get i == 0.0

/-- A vector as a divisor: the first slot that holds zero is a fault. -/
def checkDivisor (a : Joints kind R) (label : String) : Checked Unit :=
  match a.zeros with
  | [] => .ok ()
  | i :: _ => .error (Misuse.zeroDivisor (some s!"{label}: division by zero at axis {i.val}"))

/-- A number as a divisor. -/
def checkScalarDivisor (s : R) (label : String) : Checked Unit :=
  if s == 0.0 then .error (Misuse.zeroDivisor (some s!"{label}: division by zero")) else .ok ()

end Joints

/-- The four operations of joint arithmetic. -/
inductive JointOperation where
  | add
  | subtract
  | multiply
  | divide
deriving Repr, DecidableEq, BEq

namespace JointOperation

/-- The sign of an operation in messages. -/
def symbol : JointOperation → String
  | add => "+"
  | subtract => "-"
  | multiply => "*"
  | divide => "/"

/-- What an operation does with two values. -/
def apply {R : Type} [Scalar R] : JointOperation → R → R → R
  | add, a, b => a + b
  | subtract, a, b => a - b
  | multiply, a, b => a * b
  | divide, a, b => a / b

end JointOperation

namespace Joints

variable {R : Type} [Scalar R] {kind : JointKind}

/-- Two vectors of one kind. -/
def operate (op : JointOperation) (a b : Joints kind R) : Checked (Joints kind R) := do
  if op = .divide then b.checkDivisor kind.label
  a.combine op.apply op.symbol b

/-- A vector and a number behind the sign. -/
def operateRight (op : JointOperation) (a : Joints kind R) (s : R) : Checked (Joints kind R) := do
  if op = .divide then checkScalarDivisor s kind.label
  return a.mapDefined fun v => op.apply v s

/-- A number in front of the sign and a vector. -/
def operateLeft (op : JointOperation) (s : R) (a : Joints kind R) : Checked (Joints kind R) := do
  if op = .divide then a.checkDivisor kind.label
  return a.mapDefined fun v => op.apply s v

/-- The defined slots with their signs changed. -/
def negate (a : Joints kind R) : Joints kind R := a.mapDefined fun v => v * -1.0

end Joints

/-- A joint vector of either kind. -/
structure JointVector (R : Type) where
  kind : JointKind
  joints : Joints kind R

namespace JointVector

variable {R : Type} [Scalar R]

instance : Inhabited (JointVector R) := ⟨⟨.robot, default⟩⟩

/-- The slot that a key names: an index, or the letter of an external axis in either case. -/
def slot? (v : JointVector R) : Datum → Checked (Fin 6)
  | .text s =>
    match s.toList with
    | [c] =>
      match v.kind.letters.findIdx? (· = c.toLower) with
      | some i => if h : i < 6 then .ok ⟨i, h⟩ else .error (IndexFault.letter v.kind.label s)
      | none => .error (IndexFault.letter v.kind.label s)
    | _ => .error (IndexFault.letter v.kind.label s)
  | key =>
    let outside : Checked (Fin 6) := .error (IndexFault.outside v.kind.label 5 key)
    match key with
    | .number n =>
      match n.asWhole?.bind Numeral.slotOf? with
      | some i => .ok i
      | none => outside
    | _ => outside

/-- Two vectors, which have to be of one kind.  A divisor is checked for zeros before that. -/
def operate (op : JointOperation) (a b : JointVector R) : Checked (JointVector R) := do
  if op = .divide then b.joints.checkDivisor a.kind.label
  if h : b.kind = a.kind then
    return ⟨a.kind, ← a.joints.operate op (h ▸ b.joints)⟩
  else .error Misuse.illTyped

end JointVector

end SixAxis
