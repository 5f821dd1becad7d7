import SixAxis.Datum.Yaml.Value

/-!
# Trees of a YAML text

What a YAML text describes is a tree of scalars, lists and records, each of some kind.  A tree
becomes a datum level by level: what is wrong with a node counts before what is wrong with the
parts of any node of the same level.

A field `<<` brings in the fields of other records, before those of its own.  A key has to be a
datum that can name a field.

* `Node.datum` — the datum of a tree.
-/

namespace SixAxis.Yaml

/-- A tree. -/
inductive Node where
  | scalar (kind : Kind) (text : String)
  | list (kind : Kind) (items : List Node)
  | record (kind : Kind) (fields : List (Node × Node))
  /-- A list or a record that this node is inside of. -/
  | enclosing (isRecord : Bool)
deriving Inhabited

namespace Node

/-- A scalar for which nothing is written. -/
def absent : Node := scalar .null ""

/-- The kind of a node. -/
def kind : Node → Kind
  | scalar k _ | list k _ | record k _ => k
  | enclosing isRecord => if isRecord then .record else .list

/-! ### Fields -/

/-- Whether a key brings in the fields of other records. -/
def isMerge (key : Node) : Bool := key.kind == .merge

/-- A key as the name of a field: the sign for the value of a record stands for itself there. -/
def asName : Node → Node
  | scalar .value s => scalar .text s
  | key => key

/-- The fields of a record behind those that it brings in: from a record, or from a list of
records, of which the first ones count most.  `height` bounds the height of the tree. -/
def ownAndMerged? : Nat → List (Node × Node) → Option (List (Node × Node))
  | 0, _ => none
  | height + 1, fields => do
    let ofRecord (node : Node) : Option (List (Node × Node)) := match node with
      | record _ others => ownAndMerged? height others
      | enclosing true => some []
      | _ => none
    let merged ← (fields.filter (·.1.isMerge)).mapM fun f => match f.2 with
      | list _ items => do return (← items.mapM ofRecord).reverse.flatten
      | enclosing false => some []
      | node => ofRecord node
    let own := (fields.filter (!·.1.isMerge)).map fun f => (f.1.asName, f.2)
    return merged.flatten ++ own

/-- The text of a node where a scalar is expected: that of a scalar, or of the value of a
record. -/
def scalarText? : Nat → Node → Option String
  | 0, _ => none
  | height + 1, node =>
    match node with
    | scalar _ s => some s
    | record _ fields => do scalarText? height (← fields.find? (·.1.kind == .value)).2
    | _ => none

/-! ### Data -/

/-- A datum that can name a field, at a depth. -/
def checkedKey (depth : Nat) (key : Built Datum) : Built Datum := do
  let d ← key
  if d.isKey then return d else .malformed depth

/-- The datum of a tree at a depth; `height` bounds its height. -/
def built : Nat → (depth : Nat) → Node → Built Datum
  | 0, depth, _ => .malformed depth
  | height + 1, depth, node =>
    let below := depth + 1
    let fieldOf (f : Node × Node) : Built (Datum × Datum) := do
      let parts ← Built.all [
        if f.1.kind.hasParts then .malformed below else checkedKey below (built height below f.1),
        built height below f.2]
      match parts with
      | [key, value] => return (key, value)
      | _ => .malformed below
    let pairOf (node : Node) : Built Datum := match node with
      | record _ [(key, value)] =>
        (Built.all [built height below key, built height below value]).map .tuple
      | _ => .malformed below
    let fieldsOf (fields : List (Node × Node)) : Built Datum.Fields := do
      let some fields := ownAndMerged? (height + 1) fields | .malformed below
      let fields ← Built.all (fields.map fieldOf)
      return fields.foldl (fun known f => Datum.insert known f.1 f.2) []
    match node with
    | enclosing isRecord => .ok (.enclosing isRecord)
    | list .list items => do return .list (← Built.all (items.map (built height below)))
    | list .pairs items => do return .list (← Built.all (items.map pairOf))
    | record .record fields => do return .record (← fieldsOf fields)
    | record .set fields => do return .set ((← fieldsOf fields).map (·.1))
    | record .moment _ => .malformed depth
    | node =>
      if node.kind.hasParts then .malformed below
      else match scalarText? (height + 1) node with
        | some s => .ofExcept depth (node.kind.datum s)
        | none => .malformed depth

mutual

/-- The number of levels of a tree. -/
def height : Node → Nat
  | scalar .. | enclosing _ => 1
  | list _ items => heightOfItems items + 1
  | record _ fields => heightOfFields fields + 1

/-- The number of levels of the highest of some trees. -/
def heightOfItems : List Node → Nat
  | [] => 0
  | node :: rest => max node.height (heightOfItems rest)

/-- The number of levels of the highest tree of some fields. -/
def heightOfFields : List (Node × Node) → Nat
  | [] => 0
  | (key, value) :: rest => max (max key.height value.height) (heightOfFields rest)

end

/-- The datum of a tree. -/
def datum (node : Node) : Except Flaw Datum :=
  (node.built node.height 0).mapError (·.2)

end Node

end SixAxis.Yaml
