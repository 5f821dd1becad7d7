import SixAxis.Joints.Text

/-!
# Operands of joint arithmetic

Beside a joint vector stands another one of its kind, or a number that applies to every slot.
What is a fault of the divisor is found before a fault of the kinds.

* `TracedVector` — a vector whose values are traced to where they came from, with `same`;
* `JointVector.ofOperands` — a vector from its values, or from another vector;
* `Operand.combine` — the result of an operation.
-/

namespace SixAxis

/-- A joint vector whose values are traced: two values from one origin are one and the same. -/
structure TracedVector where
  vector : JointVector Float
  origins : Vector Nat 6

namespace TracedVector

/-- A vector whose values are all new; `stamp` tells them from those of other vectors. -/
def fresh (stamp : Nat) (v : JointVector Float) : TracedVector :=
  ⟨v, Vector.ofFn fun i : Fin 6 => 6 * stamp + i.val⟩

/-- The vector with one value replaced by a new one. -/
def set (v : TracedVector) (stamp : Nat) (i : Fin 6) (x : Float) : TracedVector :=
  ⟨⟨v.vector.kind, v.vector.joints.set i x⟩, Vector.ofFn fun k : Fin 6 =>
    if k = i then 6 * stamp + i.val else v.origins.get k⟩

/-- The vector of another kind with the same values. -/
def toKind (v : TracedVector) (kind : JointKind) : TracedVector :=
  ⟨⟨kind, ⟨v.vector.joints.slots⟩⟩, v.origins⟩

/-- Whether two vectors are of one kind and agree in every slot.  A value that is not a number
agrees with itself alone. -/
def same (a b : TracedVector) : Bool :=
  a.vector.kind == b.vector.kind && (List.finRange 6).all fun i =>
    a.origins.get i == b.origins.get i || a.vector.joints.get i == b.vector.joints.get i

end TracedVector

/-- What can stand beside a sign: a joint vector, or a datum. -/
inductive Operand where
  | vector (v : TracedVector)
  | datum (d : Datum)

namespace JointVector

/-- The vector of listed values.  A vector alone stands for its values; among others it is none.
New values bear a stamp. -/
def ofOperands (kind : JointKind) (stamp : Nat) (values : List Operand) : Checked TracedVector := do
  match values with
  | [.vector v] => return v.toKind kind
  | _ =>
    let data := values.map fun
      | .vector v => .list (v.vector.joints.toList.map .real)
      | .datum d => d
    return .fresh stamp ⟨kind, ← Joints.ofData data⟩

end JointVector

namespace Operand

/-- The result of an operation on two operands, one of them a vector. -/
def combine (op : JointOperation) : Operand → Operand → Checked (JointVector Float)
  | vector a, vector b => a.vector.operate op b.vector
  | vector a, datum d => do
    let x ← (← d.toNumber).toReal
    return ⟨a.vector.kind, ← a.vector.joints.operateRight op x⟩
  | datum d, vector b => do
    if op = .divide then b.vector.joints.checkDivisor b.vector.kind.label
    let x ← (← d.toNumber).toReal
    return ⟨b.vector.kind, ← b.vector.joints.operateLeft op x⟩
  | datum _, datum _ => .error Misuse.illTyped

/-- Whether two operands are equal. -/
def same : Operand → Operand → Bool
  | vector a, vector b => a.same b
  | datum a, datum b => a.same b
  | _, _ => false

end Operand

end SixAxis
