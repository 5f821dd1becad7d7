import SixAxis.Proofs.JointArithmetic
import SixAxis.Proofs.RealScalar

/-!
# Slots that arithmetic keeps

Whether a slot is unconnected can only be read from its value, so a result that happens to be near
the marker is unconnected as well.  Over exact arithmetic this is the only way in which arithmetic
changes what is connected: no slot ever gets connected, and a slot stays connected unless the value
that is computed for it counts as the marker.  Where this does not happen, subtraction undoes
addition.

* `isUnconnected_iff` — the values that count as the marker;
* `Joints.KeepsSlots` — what is specified for the slots of a result;
* `Joints.Undoes` — what is specified for one operation behind another;
* `Joints.ArithmeticKeeps`, `Joints.arithmetic_keepsSlots` — **arithmetic keeps the slots**, but
  for values at the marker;
* `Joints.sum_of_halves` — the sum of two halves of the marker is unconnected.
-/

namespace SixAxis

/-! ### The marker -/

theorem unconnected_real : (unconnected : ℝ) = 9000000000 := by
  norm_num [unconnected]

theorem markerTolerance_real : (markerTolerance : ℝ) = 1 / 1000000000000 := by
  norm_num [markerTolerance]

/-- The values that count as the marker are those as near to it as twelve digits tell. -/
theorem isUnconnected_iff (v : ℝ) :
    isUnconnected v = true ↔ |9000000000 - v| ≤ 1 / 1000000000000 * max 9000000000 |v| := by
  have hfinite : (!Scalar.infinite v) = true := rfl
  have hcounts : isUnconnected v = true ↔ v = 9000000000 ∨
      |9000000000 - v| ≤ |1 / 1000000000000 * 9000000000| ∨
        |9000000000 - v| ≤ |1 / 1000000000000 * v| := by
    rw [isUnconnected, unconnected_real, markerTolerance_real]
    simp only [Bool.or_eq_true, Bool.and_eq_true, decide_eq_true_eq, Scalar.beq_real,
      Scalar.abs_real]
    exact or_congr_right (and_iff_right hfinite)
  have hpositive : (0 : ℝ) < 9000000000 := by norm_num
  rw [hcounts, abs_mul, abs_mul, abs_of_pos (by norm_num : (0 : ℝ) < 1 / 1000000000000),
    abs_of_pos hpositive, mul_max_of_nonneg _ _ (by norm_num), le_max_iff]
  constructor
  · rintro (rfl | h)
    · left
      norm_num
    · exact h
  · exact .inr

theorem isUnconnected_unconnected : isUnconnected (unconnected : ℝ) = true := by
  rw [isUnconnected_iff, unconnected_real]
  norm_num

/-! ### What is specified -/

namespace Joints

variable {kind : JointKind} {a b c : Joints kind ℝ} {value : Fin 6 → ℝ}

/-- What is specified for the slots of a result, where `value` is what is computed for the slots
that are defined. -/
structure KeepsSlots (a : Joints kind ℝ) (value : Fin 6 → ℝ) (c : Joints kind ℝ) : Prop where
  /-- Slots that are defined take the values that are computed. -/
  get_eq : ∀ i, a.isDefined i = true → c.get i = value i
  /-- No slot gets connected, and one gets disconnected only by a value that is the marker. -/
  isDefined_eq : ∀ i, c.isDefined i = (a.isDefined i && !isUnconnected (value i))
  /-- The defined slots are the same exactly if no computed value is the marker. -/
  same_iff : (∀ i, c.isDefined i = a.isDefined i) ↔
    ∀ i, a.isDefined i = true → isUnconnected (value i) = false

/-- What is specified for an operation and another one that takes it back. -/
structure Undoes (op inverse : JointOperation) (a b c : Joints kind ℝ) : Prop where
  /-- The vector comes back, with the marker in its unconnected slots, exactly if no value in
  between was the marker. -/
  ok_iff : ∀ d, c.operate inverse b = .ok d ↔
    (∀ i, a.isDefined i = true → isUnconnected (op.apply (a.get i) (b.get i)) = false) ∧
      ∀ i, d.get i = if a.isDefined i then a.get i else unconnected
  /-- Otherwise the slots that got disconnected are named. -/
  error_iff : ∀ f, c.operate inverse b = .error f ↔
    ∃ first all, f = ActionFault.mismatch kind.label inverse.symbol first all ∧
      all.head? = some first ∧ ListsPlaces (fun i => a.isDefined i = true ∧
        isUnconnected (op.apply (a.get i) (b.get i)) = true) all

/-- What is specified for arithmetic on two vectors and a number: the slots of every result, and
that the operations take each other back. -/
structure ArithmeticKeeps (a b : Joints kind ℝ) (s : ℝ) : Prop where
  vectors : ∀ op : JointOperation, (op = .divide → ∀ i, b.get i ≠ 0) →
    ∃ c, a.operate op b = .ok c ∧ KeepsSlots a (fun i => op.apply (a.get i) (b.get i)) c
  right : ∀ op : JointOperation, (op = .divide → s ≠ 0) →
    ∃ c, a.operateRight op s = .ok c ∧ KeepsSlots a (fun i => op.apply (a.get i) s) c
  left : ∀ op : JointOperation, (op = .divide → ∀ i, a.get i ≠ 0) →
    ∃ c, a.operateLeft op s = .ok c ∧ KeepsSlots a (fun i => op.apply s (a.get i)) c
  negated : KeepsSlots a (fun i => -a.get i) a.negate
  subtract_add : ∃ c, a.operate .add b = .ok c ∧ Undoes .add .subtract a b c
  add_subtract : ∃ c, a.operate .subtract b = .ok c ∧ Undoes .subtract .add a b c

/-! ### One result -/

theorem isDefined_of_get {i : Fin 6} {v : ℝ} (h : c.get i = v) :
    c.isDefined i = !isUnconnected v := by
  rw [isDefined, h]

/-- The slots of a result in which nothing is put where nothing was. -/
theorem KeepsSlots.of_get (hvalue : ∀ i, a.isDefined i = true → c.get i = value i)
    (hrest : ∀ i, a.isDefined i = false → c.isDefined i = false) : KeepsSlots a value c := by
  have hdefined : ∀ i, c.isDefined i = (a.isDefined i && !isUnconnected (value i)) := by
    intro i
    cases hi : a.isDefined i with
    | true => rw [isDefined_of_get (hvalue i hi), Bool.true_and]
    | false => rw [hrest i hi, Bool.false_and]
  refine ⟨hvalue, hdefined, ?_⟩
  constructor
  · intro hsame i hi
    have h := hsame i
    rw [hdefined, hi, Bool.true_and, Bool.not_eq_eq_eq_not] at h
    exact h
  · intro hclear i
    rw [hdefined]
    cases hi : a.isDefined i with
    | true => rw [hclear i hi]; rfl
    | false => rfl

/-- Two vectors with the same defined slots combine, and keep them. -/
theorem combine_keepsSlots (h : ∀ i, a.isDefined i = b.isDefined i) (op : ℝ → ℝ → ℝ)
    (symbol : String) :
    ∃ c, a.combine op symbol b = .ok c ∧ KeepsSlots a (fun i => op (a.get i) (b.get i)) c := by
  refine ⟨_, combine_of_agree h, .of_get (fun i hi => ?_) fun i hi => ?_⟩
  · rw [get_ofFn, if_pos hi]
  · rw [isDefined_of_get (get_ofFn _ i), hi]
    exact congrArg not isUnconnected_unconnected

theorem operate_keepsSlots (h : ∀ i, a.isDefined i = b.isDefined i) (op : JointOperation)
    (hop : op = .divide → ∀ i, b.get i ≠ 0) :
    ∃ c, a.operate op b = .ok c ∧ KeepsSlots a (fun i => op.apply (a.get i) (b.get i)) c := by
  rw [operate_of_nonzero fun hdivide i => by simpa using hop hdivide i]
  exact combine_keepsSlots h op.apply op.symbol

/-- Changing the defined slots keeps the others as they are. -/
theorem mapDefined_keepsSlots (a : Joints kind ℝ) (f : ℝ → ℝ) :
    KeepsSlots a (fun i => f (a.get i)) (a.mapDefined f) := by
  refine .of_get (fun i hi => ?_) fun i hi => ?_
  · rw [isDefined, Bool.not_eq_eq_eq_not] at hi
    rw [get_mapDefined, hi]
    rfl
  · have hmarker : isUnconnected (a.get i) = true := by
      rw [isDefined, Bool.not_eq_eq_eq_not] at hi
      exact hi
    rw [isDefined_of_get (get_mapDefined f a i), if_pos hmarker, hmarker]
    rfl

/-! ### One operation behind another -/

/-- A slot is defined in one of the two only where the marker came up. -/
theorem KeepsSlots.isDefined_ne_iff (hkept : KeepsSlots a value c)
    (h : ∀ i, a.isDefined i = b.isDefined i) (i : Fin 6) :
    c.isDefined i ≠ b.isDefined i ↔ a.isDefined i = true ∧ isUnconnected (value i) = true := by
  rw [hkept.isDefined_eq, ← h]
  cases a.isDefined i with
  | true => simp
  | false => simp

/-- Operations that take each other back on numbers do so on vectors. -/
theorem KeepsSlots.undoes {op inverse : JointOperation}
    (hkept : KeepsSlots a (fun i => op.apply (a.get i) (b.get i)) c)
    (h : ∀ i, a.isDefined i = b.isDefined i) (hinverse : inverse ≠ .divide)
    (hundo : ∀ x y : ℝ, inverse.apply (op.apply x y) y = x) : Undoes op inverse a b c := by
  have hoperate : c.operate inverse b = c.combine inverse.apply inverse.symbol b :=
    operate_of_nonzero fun hdivide => absurd hdivide hinverse
  constructor
  · intro d
    have hagree : (∀ i, c.isDefined i = b.isDefined i) ↔
        ∀ i, a.isDefined i = true → isUnconnected (op.apply (a.get i) (b.get i)) = false := by
      rw [← hkept.same_iff]
      exact forall_congr' fun i => by rw [h]
    rw [hoperate, combine_ok_iff, hagree]
    refine and_congr_right fun hclear => forall_congr' fun i => ?_
    have hsame := hkept.same_iff.2 hclear i
    rw [hsame]
    cases hi : a.isDefined i with
    | true =>
      rw [hkept.get_eq i hi, hundo]
    | false => exact Iff.rfl
  · intro f
    rw [hoperate, combine_error_iff]
    simp only [hkept.isDefined_ne_iff h]

/-- **Arithmetic keeps the slots** of two vectors that have the same ones, but for values at the
marker: these disconnect a slot, and the operation is not taken back. -/
theorem arithmetic_keepsSlots (h : ∀ i, a.isDefined i = b.isDefined i) (s : ℝ) :
    ArithmeticKeeps a b s := by
  constructor
  · exact operate_keepsSlots h
  · intro op hop
    exact ⟨_, operateRight_of_nonzero fun hdivide => by simpa using hop hdivide,
      mapDefined_keepsSlots a fun v => op.apply v s⟩
  · intro op hop
    exact ⟨_, operateLeft_of_nonzero fun hdivide i => by simpa using hop hdivide i,
      mapDefined_keepsSlots a fun v => op.apply s v⟩
  · have hnegated := mapDefined_keepsSlots a fun v => v * -1.0
    simpa [negate] using hnegated
  · obtain ⟨c, hc, hkept⟩ := operate_keepsSlots h .add nofun
    exact ⟨c, hc, hkept.undoes h nofun fun x y => add_sub_cancel_right x y⟩
  · obtain ⟨c, hc, hkept⟩ := operate_keepsSlots h .subtract nofun
    exact ⟨c, hc, hkept.undoes h nofun fun x y => sub_add_cancel x y⟩

/-! ### One external axis -/

/-- The vector of one external axis in the first slot. -/
noncomputable def oneAxis (v : ℝ) : ExternalJoints ℝ := .ofValues [v]

theorem isDefined_oneAxis_zero (v : ℝ) : (oneAxis v).isDefined 0 = !isUnconnected v :=
  isDefined_of_get (get_ofValues [v] 0)

theorem isDefined_oneAxis_succ (v : ℝ) (i : Fin 5) : (oneAxis v).isDefined i.succ = false := by
  have hget : (oneAxis v).get i.succ = unconnected := get_ofValues [v] i.succ
  rw [isDefined_of_get hget, isUnconnected_unconnected]
  rfl

/-- Two axes that are both connected. -/
theorem isDefined_oneAxis_eq {v w : ℝ} (hv : isUnconnected v = false)
    (hw : isUnconnected w = false) (i : Fin 6) :
    (oneAxis v).isDefined i = (oneAxis w).isDefined i := by
  refine Fin.cases ?_ (fun i => ?_) i
  · rw [isDefined_oneAxis_zero, isDefined_oneAxis_zero, hv, hw]
  · rw [isDefined_oneAxis_succ, isDefined_oneAxis_succ]

theorem isUnconnected_of_small {v : ℝ} (h : |v| ≤ 4500000000) : isUnconnected v = false := by
  rw [← Bool.not_eq_true, isUnconnected_iff, max_eq_left (by linarith), not_le]
  have hv := le_abs_self v
  have hgap := le_abs_self (9000000000 - v)
  linarith

theorem arithmetic_keepsSlots_oneAxis :
    (∀ i, (oneAxis 100).isDefined i = (oneAxis 50).isDefined i) ∧
      ArithmeticKeeps (oneAxis 100) (oneAxis 50) 3 := by
  have hfirst : isUnconnected (100 : ℝ) = false := isUnconnected_of_small (by norm_num [abs_of_pos])
  have hsecond : isUnconnected (50 : ℝ) = false := isUnconnected_of_small (by norm_num [abs_of_pos])
  exact ⟨isDefined_oneAxis_eq hfirst hsecond,
    arithmetic_keepsSlots (isDefined_oneAxis_eq hfirst hsecond) 3⟩

/-- **The sum of two halves of the marker is unconnected**, so that the axis is lost and the sum is
not taken back. -/
theorem sum_of_halves : ∃ c,
    (oneAxis 4500000000).operate .add (oneAxis 4500000000) = .ok c ∧
      (oneAxis 4500000000).isDefined 0 = true ∧ c.isDefined 0 = false ∧
      ∀ d, c.operate .subtract (oneAxis 4500000000) ≠ .ok d := by
  have hsame (i : Fin 6) :
      (oneAxis 4500000000).isDefined i = (oneAxis 4500000000).isDefined i := rfl
  obtain ⟨c, hc, hkept⟩ := operate_keepsSlots hsame .add nofun
  have hhalf : (oneAxis 4500000000).isDefined 0 = true := by
    rw [isDefined_oneAxis_zero, isUnconnected_of_small (by norm_num [abs_of_pos])]
    rfl
  have hsum : isUnconnected ((oneAxis 4500000000).get 0 + (oneAxis 4500000000).get 0) = true := by
    have hget : (oneAxis 4500000000).get 0 = 4500000000 := get_ofValues [4500000000] 0
    rw [hget, isUnconnected_iff]
    norm_num
  have hundoes : Undoes .add .subtract (oneAxis 4500000000) (oneAxis 4500000000) c :=
    hkept.undoes hsame nofun fun x y => add_sub_cancel_right x y
  refine ⟨c, hc, hhalf, ?_, fun d hd => ?_⟩
  · rw [hkept.isDefined_eq, hhalf]
    exact congrArg not hsum
  · have hclear := ((hundoes.ok_iff d).1 hd).1 0 hhalf
    exact Bool.eq_false_iff.1 hclear hsum

end Joints

end SixAxis
