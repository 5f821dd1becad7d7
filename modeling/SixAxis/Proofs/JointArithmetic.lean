import SixAxis.Joints.Operand
import SixAxis.Proofs.CheckedSteps
import Mathlib.Data.List.Sort

/-!
# Faults of joint arithmetic

What an operation on joint values comes to, and in which order its faults are found.  A zero among
the divisors comes before everything else; then the vectors have to be of one kind, and then every
slot has to be defined in both or in neither.  Where none of this fails, every slot of the result is
known.  A number applies to the defined slots alone.

* `Joints.combine_ok_iff`, `Joints.combine_error_iff` — **when vectors combine**, and which slots
  are named where they do not;
* `JointVector.CombinesVectors`, `JointVector.CombinesNumber` — what is specified for an operation;
* `JointVector.operate_combinesVectors` — two vectors, of whatever kinds;
* `Operand.combine_fails_exactly` — **arithmetic fails exactly where it has to**.
-/

namespace SixAxis

/-- A check that is made in some cases only has passed if it passes in these. -/
theorem guarded_eq {α : Type} {p : Prop} [Decidable p] {check : Checked Unit}
    {rest : Unit → Checked α} (h : p → check = .ok ()) :
    (if p then check >>= rest else rest ()) = rest () := by
  split
  · rename_i hp
    rw [h hp]
    rfl
  · rfl

/-! ### Places -/

/-- Some numbers are the places with a property, in ascending order. -/
structure ListsPlaces (p : Fin 6 → Prop) (all : List Nat) : Prop where
  ascending : all.Pairwise (· < ·)
  mem_iff : ∀ k, k ∈ all ↔ ∃ i : Fin 6, i.val = k ∧ p i

namespace Joints

theorem mem_positions {p : Fin 6 → Bool} {i : Fin 6} : i ∈ positions p ↔ p i = true := by
  rw [positions, List.mem_filter]
  exact and_iff_right (List.mem_finRange i)

theorem positions_eq_nil_iff {p : Fin 6 → Bool} : positions p = [] ↔ ∀ i, p i = false := by
  rw [List.eq_nil_iff_forall_not_mem]
  exact forall_congr' fun i => by rw [mem_positions, Bool.not_eq_true]

theorem listsPlaces_positions (p : Fin 6 → Bool) :
    ListsPlaces (fun i => p i = true) ((positions p).map Fin.val) where
  ascending := List.pairwise_map.2 ((List.pairwise_lt_finRange 6).filter p)
  mem_iff k := by
    rw [List.mem_map]
    exact exists_congr fun i => by rw [mem_positions, and_comm]

/-- There is one list of the places with a property. -/
theorem eq_of_listsPlaces {p : Fin 6 → Prop} {all all' : List Nat} (h : ListsPlaces p all)
    (h' : ListsPlaces p all') : all = all' :=
  h.ascending.eq_of_mem_iff h'.ascending fun k => by rw [h.mem_iff, h'.mem_iff]

/-! ### Two vectors of one kind -/

section Combine

variable {R : Type} [Scalar R] {kind : JointKind} {a b c : Joints kind R} {op : R → R → R}
  {symbol : String}

theorem mismatched_eq_nil_iff : a.mismatched b = [] ↔ ∀ i, a.isDefined i = b.isDefined i := by
  rw [mismatched, positions_eq_nil_iff]
  exact forall_congr' fun i => bne_eq_false_iff_eq

/-- Two vectors with the same defined slots. -/
theorem combine_of_agree (h : ∀ i, a.isDefined i = b.isDefined i) :
    a.combine op symbol b = .ok ⟨Vector.ofFn fun i : Fin 6 =>
      if a.isDefined i then op (a.get i) (b.get i) else unconnected⟩ := by
  rw [combine, mismatched_eq_nil_iff.2 h]

omit [Scalar R] in
theorem get_ofFn (f : Fin 6 → R) (i : Fin 6) :
    (⟨Vector.ofFn f⟩ : Joints kind R).get i = f i := by
  simp [get, Vector.get]
  rfl

/-- Two vectors combine exactly if they have the same defined slots. -/
theorem combine_ok_iff : a.combine op symbol b = .ok c ↔
    (∀ i, a.isDefined i = b.isDefined i) ∧
      ∀ i, c.get i = if a.isDefined i then op (a.get i) (b.get i) else unconnected := by
  constructor
  · intro h
    cases hplaces : a.mismatched b with
    | nil =>
      have hagree := mismatched_eq_nil_iff.1 hplaces
      rw [combine_of_agree hagree] at h
      cases h
      exact ⟨hagree, fun i => get_ofFn _ i⟩
    | cons first rest =>
      rw [combine, hplaces] at h
      cases h
  · intro h
    rw [combine_of_agree h.1]
    exact congrArg Except.ok (ext_get fun i => (get_ofFn _ i).trans (h.2 i).symm)

/-- Two vectors do not combine where a slot is defined in one of them only, and all such slots are
named. -/
theorem combine_error_iff {f : Fault} : a.combine op symbol b = .error f ↔
    ∃ first all, f = ActionFault.mismatch kind.label symbol first all ∧ all.head? = some first ∧
      ListsPlaces (fun i => a.isDefined i ≠ b.isDefined i) all := by
  have hplaces : ListsPlaces (fun i => a.isDefined i ≠ b.isDefined i)
      ((a.mismatched b).map Fin.val) := by
    have h := listsPlaces_positions fun i => a.isDefined i != b.isDefined i
    simp only [bne_iff_ne] at h
    exact h
  constructor
  · intro h
    rw [combine] at h
    cases hfound : a.mismatched b with
    | nil =>
      rw [hfound] at h
      cases h
    | cons first rest =>
      rw [hfound] at h hplaces
      cases h
      exact ⟨first, _, rfl, rfl, hplaces⟩
  · rintro ⟨first, all, rfl, hfirst, hall⟩
    rw [eq_of_listsPlaces hall hplaces] at hfirst ⊢
    rw [combine]
    cases hfound : a.mismatched b with
    | nil =>
      rw [hfound] at hfirst
      cases hfirst
    | cons place rest =>
      rw [hfound] at hfirst
      cases hfirst
      rfl

end Combine

/-! ### Divisors -/

section Divisors

variable {R : Type} [Scalar R] {kind : JointKind} {a b : Joints kind R} {op : JointOperation}
  {s : R}

theorem checkDivisor_of_nonzero (h : ∀ i, (b.get i == 0.0) = false) (label : String) :
    b.checkDivisor label = .ok () := by
  rw [checkDivisor, zeros, positions_eq_nil_iff.2 h]

theorem checkDivisor_of_zero {i : Fin 6} (h : (b.get i == 0.0) = true) (label : String) :
    ∃ why, b.checkDivisor label = .error (Misuse.zeroDivisor why) := by
  rw [checkDivisor]
  cases hzeros : b.zeros with
  | nil =>
    have hnone := positions_eq_nil_iff.1 hzeros i
    rw [h] at hnone
    cases hnone
  | cons place rest => exact ⟨_, rfl⟩

/-- Two vectors of one kind, without a zero among the divisors. -/
theorem operate_of_nonzero (h : op = .divide → ∀ i, (b.get i == 0.0) = false) :
    a.operate op b = a.combine op.apply op.symbol b := by
  rw [operate, guarded_eq fun hop => checkDivisor_of_nonzero (h hop) kind.label]

/-- A number behind the sign that is not a zero divisor. -/
theorem operateRight_of_nonzero (h : op = .divide → (s == 0.0) = false) :
    a.operateRight op s = .ok (a.mapDefined fun v => op.apply v s) := by
  have hdivisor (hop : op = .divide) : checkScalarDivisor s kind.label = .ok () :=
    if_neg (Bool.eq_false_iff.1 (h hop))
  rw [operateRight, guarded_eq hdivisor]
  rfl

/-- A number in front of the sign, without a zero among the divisors. -/
theorem operateLeft_of_nonzero (h : op = .divide → ∀ i, (a.get i == 0.0) = false) :
    a.operateLeft op s = .ok (a.mapDefined fun v => op.apply s v) := by
  rw [operateLeft, guarded_eq fun hop => checkDivisor_of_nonzero (h hop) kind.label]
  rfl

end Divisors

end Joints

/-! ### What is specified -/

namespace JointVector

section Spec

variable {R : Type} [Scalar R]

/-- A division by a vector with a zero in it, also in a slot where the other one is unconnected. -/
def DividesByZero (op : JointOperation) (b : JointVector R) : Prop :=
  op = .divide ∧ ∃ i, (b.joints.get i == 0.0) = true

/-- What is specified for the result of an operation on two vectors. -/
structure CombinesVectors (op : JointOperation) (a b : JointVector R)
    (result : Checked (JointVector R)) : Prop where
  /-- A zero among the divisors is found before anything else. -/
  zero_iff : (∃ why, result = .error (Misuse.zeroDivisor why)) ↔ DividesByZero op b
  /-- Vectors of different kinds are a fault. -/
  illTyped_iff : result = .error Misuse.illTyped ↔ ¬ DividesByZero op b ∧ a.kind ≠ b.kind
  /-- Slots that are defined in one vector only are a fault that names the first and all of them,
  in ascending order. -/
  mismatch_iff : ∀ label symbol first all,
    result = .error (ActionFault.mismatch label symbol first all) ↔
      ¬ DividesByZero op b ∧ a.kind = b.kind ∧ label = a.kind.label ∧ symbol = op.symbol ∧
        all.head? = some first ∧
        ListsPlaces (fun i => a.joints.isDefined i ≠ b.joints.isDefined i) all
  /-- Otherwise there is a result, with every slot of it. -/
  ok_iff : ∀ c, result = .ok c ↔
    ¬ DividesByZero op b ∧ a.kind = b.kind ∧
      (∀ i, a.joints.isDefined i = b.joints.isDefined i) ∧ c.kind = a.kind ∧
      ∀ i, c.joints.get i =
        if a.joints.isDefined i then op.apply (a.joints.get i) (b.joints.get i) else unconnected

/-- What is specified for the result of changing a vector by a number: `zero` tells whether the
divisor is or has a zero, and `change` what becomes of a slot that is defined. -/
structure CombinesNumber (a : JointVector R) (x : Checked R) (zero : Prop) (change : R → R → R)
    (result : Checked (JointVector R)) : Prop where
  /-- A zero among the divisors is found before anything else. -/
  zero_iff : (∃ why, result = .error (Misuse.zeroDivisor why)) ↔ zero
  /-- A number beyond the range of the slots is a fault. -/
  overflow_iff : result = .error Misuse.overflow ↔ ¬ zero ∧ x = .error Misuse.overflow
  /-- Otherwise there is a result, and only the defined slots are changed. -/
  ok_iff : ∀ c, result = .ok c ↔
    ¬ zero ∧ ∃ v, x = .ok v ∧ c.kind = a.kind ∧
      ∀ i, c.joints.get i =
        if a.joints.isDefined i then change (a.joints.get i) v else a.joints.get i

end Spec

/-! ### Two vectors -/

section Operate

variable {R : Type} [Scalar R] {op : JointOperation} {a b : JointVector R}

theorem operate_of_zero (h : DividesByZero op b) :
    ∃ why, a.operate op b = .error (Misuse.zeroDivisor why) := by
  obtain ⟨rfl, i, hi⟩ := h
  obtain ⟨why, hwhy⟩ := Joints.checkDivisor_of_zero hi a.kind.label
  refine ⟨why, ?_⟩
  rw [operate, if_pos rfl, hwhy]
  rfl

/-- Without a division by zero, no slot of a divisor is zero. -/
theorem nonzero_of_not_dividesByZero (h : ¬ DividesByZero op b) (hop : op = .divide) (i : Fin 6) :
    (b.joints.get i == 0.0) = false :=
  Bool.eq_false_iff.2 fun hi => h ⟨hop, i, hi⟩

theorem checkDivisor_of_not_dividesByZero (h : ¬ DividesByZero op b) (label : String)
    (hop : op = .divide) : b.joints.checkDivisor label = .ok () :=
  Joints.checkDivisor_of_nonzero (nonzero_of_not_dividesByZero h hop) label

theorem operate_of_kind_ne (h : ¬ DividesByZero op b) (hkind : a.kind ≠ b.kind) :
    a.operate op b = .error Misuse.illTyped := by
  rw [operate, guarded_eq (checkDivisor_of_not_dividesByZero h _)]
  exact dif_neg fun heq => hkind heq.symm

section SameKind

variable {kind : JointKind} {a b : Joints kind R}

/-- Vectors of one kind combine slot by slot. -/
theorem operate_same_kind (h : ¬ DividesByZero op ⟨kind, b⟩) :
    operate op ⟨kind, a⟩ ⟨kind, b⟩ = (a.combine op.apply op.symbol b).map (⟨kind, ·⟩) := by
  rw [operate, guarded_eq (checkDivisor_of_not_dividesByZero h _)]
  simp only [dite_true, Joints.operate_of_nonzero (nonzero_of_not_dividesByZero h)]
  cases a.combine op.apply op.symbol b with
  | error f => rfl
  | ok c => rfl

theorem operate_error_iff (h : ¬ DividesByZero op ⟨kind, b⟩) {f : Fault} :
    operate op ⟨kind, a⟩ ⟨kind, b⟩ = .error f ↔
      ∃ first all, f = ActionFault.mismatch kind.label op.symbol first all ∧
        all.head? = some first ∧ ListsPlaces (fun i => a.isDefined i ≠ b.isDefined i) all := by
  have hcombine : a.combine op.apply op.symbol b = .error f ↔ _ := Joints.combine_error_iff
  rw [operate_same_kind h, ← hcombine]
  cases a.combine op.apply op.symbol b with
  | error g =>
    constructor
    · intro heq
      exact congrArg _ (Except.error.inj heq)
    · intro heq
      exact congrArg _ (Except.error.inj heq)
  | ok c =>
    constructor
    · intro heq
      cases heq
    · intro heq
      cases heq

theorem operate_ok_iff (h : ¬ DividesByZero op ⟨kind, b⟩) {c : JointVector R} :
    operate op ⟨kind, a⟩ ⟨kind, b⟩ = .ok c ↔
      (∀ i, a.isDefined i = b.isDefined i) ∧ c.kind = kind ∧
        ∀ i, c.joints.get i =
          if a.isDefined i then op.apply (a.get i) (b.get i) else unconnected := by
  rw [operate_same_kind h]
  constructor
  · intro heq
    cases hcombined : a.combine op.apply op.symbol b with
    | error f =>
      rw [hcombined] at heq
      cases heq
    | ok joints =>
      rw [hcombined] at heq
      cases heq
      obtain ⟨hagree, hget⟩ := Joints.combine_ok_iff.1 hcombined
      exact ⟨hagree, rfl, hget⟩
  · rintro ⟨hagree, hkind, hget⟩
    obtain ⟨kind', joints⟩ := c
    cases hkind
    rw [Joints.combine_ok_iff.2 ⟨hagree, hget⟩]
    rfl

end SameKind

/-- **Two vectors**, of whatever kinds. -/
theorem operate_combinesVectors (op : JointOperation) (a b : JointVector R) :
    CombinesVectors op a b (a.operate op b) := by
  by_cases hzero : DividesByZero op b
  · obtain ⟨why, hresult⟩ := operate_of_zero (a := a) hzero
    rw [hresult]
    exact
      { zero_iff := by simp [hzero]
        illTyped_iff := by simp [hzero]
        mismatch_iff := by simp [hzero]
        ok_iff := by simp [hzero] }
  · by_cases hkind : a.kind = b.kind
    · obtain ⟨kind, a⟩ := a
      obtain ⟨_, b⟩ := b
      cases hkind
      exact
        { zero_iff := by simp [hzero, operate_error_iff hzero]
          illTyped_iff := by simp [operate_error_iff hzero]
          mismatch_iff := by
            intro label symbol first all
            simp only [operate_error_iff hzero, hzero, not_false_eq_true, true_and]
            constructor
            · rintro ⟨_, _, heq, hfirst, hall⟩
              cases heq
              exact ⟨rfl, rfl, hfirst, hall⟩
            · rintro ⟨rfl, rfl, hfirst, hall⟩
              exact ⟨first, all, rfl, hfirst, hall⟩
          ok_iff := by simp [hzero, operate_ok_iff hzero] }
    · rw [operate_of_kind_ne hzero hkind]
      exact
        { zero_iff := by simp [hzero]
          illTyped_iff := by simp [hzero, hkind]
          mismatch_iff := by simp [hkind]
          ok_iff := by simp [hkind] }

end Operate

/-! ### A vector and a number -/

section Numbers

variable {R : Type} [Scalar R]

omit [Scalar R] in
/-- Vectors of one kind with the same slots are the same. -/
theorem ext_get {c d : JointVector R} (hkind : c.kind = d.kind)
    (hget : ∀ i, c.joints.get i = d.joints.get i) : c = d := by
  obtain ⟨_, c⟩ := c
  obtain ⟨_, d⟩ := d
  cases hkind
  exact congrArg _ (Joints.ext_get hget)

/-- A vector whose defined slots are changed by a number, if there is no zero among the
divisors. -/
def changedBy (a : JointVector R) (change : R → R → R) (v : R) : JointVector R :=
  ⟨a.kind, a.joints.mapDefined fun w => change w v⟩

theorem get_changedBy (a : JointVector R) (change : R → R → R) (v : R) (i : Fin 6) :
    (a.changedBy change v).joints.get i =
      if a.joints.isDefined i then change (a.joints.get i) v else a.joints.get i := by
  show (a.joints.mapDefined fun w => change w v).get i = _
  rw [Joints.get_mapDefined, Joints.isDefined]
  cases isUnconnected (a.joints.get i) with
  | true => rfl
  | false => rfl

/-- An operation that checks its divisor and changes the vector is as it is specified. -/
theorem CombinesNumber.of_steps {a : JointVector R} {x : Checked R} {zero : Prop}
    {change : R → R → R} {result : Checked (JointVector R)}
    (hx : ∀ why, x ≠ .error (Misuse.zeroDivisor why))
    (hzero : zero → ∃ why, result = .error (Misuse.zeroDivisor why))
    (hrest : ¬ zero → result = x.map (a.changedBy change)) :
    CombinesNumber a x zero change result := by
  by_cases h : zero
  · obtain ⟨why, hresult⟩ := hzero h
    rw [hresult]
    exact
      { zero_iff := by simp [h]
        overflow_iff := by simp [h]
        ok_iff := by simp [h] }
  · rw [hrest h]
    cases x with
    | error f =>
      exact
        { zero_iff := by
            simp only [h, iff_false, not_exists]
            exact fun why hf => hx why (congrArg _ (Except.error.inj hf))
          overflow_iff := by simp [h, Except.map]
          ok_iff := by simp [Except.map] }
    | ok v =>
      exact
        { zero_iff := by simp [h, Except.map]
          overflow_iff := by simp [Except.map]
          ok_iff := by
            intro c
            simp only [h, not_false_eq_true, true_and, Except.ok.injEq, exists_eq_left',
              Except.map]
            constructor
            · rintro rfl
              exact ⟨rfl, get_changedBy a change v⟩
            · rintro ⟨hkind, hget⟩
              exact ext_get hkind.symm fun i => (get_changedBy a change v i).trans (hget i).symm }

end Numbers

end JointVector

/-- No number is refused as a divisor when it is read. -/
theorem Number.toReal_ne_zeroDivisor (n : Number) (why : Option String) :
    n.toReal ≠ .error (Misuse.zeroDivisor why) := by
  intro h
  cases n with
  | truth b => cases h
  | real x => cases h
  | whole n =>
    rw [toReal] at h
    split at h
    · cases h
    · cases h

namespace Operand

open JointVector

/-- A number behind the sign is the divisor itself. -/
theorem combine_number_right (op : JointOperation) (a : TracedVector) (n : Number) :
    CombinesNumber a.vector n.toReal (op = .divide ∧ ∃ x, n.toReal = .ok x ∧ (x == 0.0) = true)
      op.apply (combine op (.vector a) (.datum (.number n))) := by
  have hcombine : combine op (.vector a) (.datum (.number n)) = (do
      let x ← n.toReal
      let joints ← a.vector.joints.operateRight op x
      return ⟨a.vector.kind, joints⟩) := rfl
  rw [hcombine]
  refine .of_steps n.toReal_ne_zeroDivisor ?_ ?_
  · rintro ⟨rfl, x, hx, hzero⟩
    refine ⟨some s!"{a.vector.kind.label}: division by zero", ?_⟩
    rw [hx]
    show (Joints.operateRight .divide a.vector.joints x >>= _) = _
    rw [Joints.operateRight, if_pos rfl, Joints.checkScalarDivisor, if_pos hzero]
    rfl
  · intro hzero
    cases hx : n.toReal with
    | error f => rfl
    | ok x =>
      have hdivisor (hop : op = .divide) : (x == 0.0) = false :=
        Bool.eq_false_iff.2 fun h => hzero ⟨hop, x, hx, h⟩
      show (Joints.operateRight op a.vector.joints x >>= _) = _
      rw [Joints.operateRight_of_nonzero hdivisor]
      rfl

/-- Behind a number, every slot of the vector is a divisor. -/
theorem combine_number_left (op : JointOperation) (n : Number) (a : TracedVector) :
    CombinesNumber a.vector n.toReal (DividesByZero op a.vector) (fun v x => op.apply x v)
      (combine op (.datum (.number n)) (.vector a)) := by
  refine .of_steps n.toReal_ne_zeroDivisor ?_ ?_
  · rintro ⟨rfl, i, hi⟩
    obtain ⟨why, hwhy⟩ := Joints.checkDivisor_of_zero hi a.vector.kind.label
    refine ⟨why, ?_⟩
    rw [combine, if_pos rfl, hwhy]
    rfl
  · intro hzero
    rw [combine, guarded_eq (checkDivisor_of_not_dividesByZero hzero _)]
    show (n.toReal >>= fun x => Joints.operateLeft op x a.vector.joints >>= _) = _
    cases n.toReal with
    | error f => rfl
    | ok x =>
      show (Joints.operateLeft op x a.vector.joints >>= _) = _
      rw [Joints.operateLeft_of_nonzero (nonzero_of_not_dividesByZero hzero)]
      rfl

/-- **Arithmetic fails exactly where it has to**, and otherwise every slot of the result is known:
that of two vectors, and that of a vector and a number on either side of the sign. -/
theorem combine_fails_exactly (op : JointOperation) (a b : TracedVector) (n : Number) :
    CombinesVectors op a.vector b.vector (combine op (.vector a) (.vector b)) ∧
      CombinesNumber a.vector n.toReal
        (op = .divide ∧ ∃ x, n.toReal = .ok x ∧ (x == 0.0) = true)
        op.apply (combine op (.vector a) (.datum (.number n))) ∧
      CombinesNumber a.vector n.toReal (DividesByZero op a.vector)
        (fun v x => op.apply x v) (combine op (.datum (.number n)) (.vector a)) :=
  ⟨operate_combinesVectors op a.vector b.vector, combine_number_right op a n,
    combine_number_left op n a⟩

end Operand

end SixAxis
