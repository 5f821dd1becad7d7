import Mathlib
import SixAxis.Datum

/-!
# Comparing doubles

A double is compared with another one by the parts that its bits stand for.  Every double but one
that is no number equals itself, and only such a double can equal anything.

* `Double.compare_self`, `Double.compare_swap`, `Double.exists_compare` — two numbers compare, in
  both directions;
* `Double.isNaN_of_ofFloat?`, `Double.isNaN_of_compare` — what compares with something is a number;
* `Double.eq_of_isNaN` — only one double is no number;
* `Number.le_of_not_lt` — of two numbers that equal themselves, one is at most the other;
* `Number.same_self_of_same`, `Datum.same_self_of_same` — **a datum that equals another one equals
  itself**;
* `Number.same_comm`, `Datum.same_comm` — numbers and names of fields equal each other or do not.
-/

namespace SixAxis

namespace Double

open Float.Model

variable {x y : Float}

theorem lt_iff : x < y ↔ x.toModel.unpack.lt y.toModel.unpack = true := decide_eq_true_iff

theorem beq_iff : (x == y) = true ↔ x.toModel.unpack.compare y.toModel.unpack = some .eq :=
  beq_iff_eq (α := Option Ordering)

/-- A number is neither less nor greater than itself. -/
theorem compare_self (h : x.isNaN = false) :
    x.toModel.unpack.compare x.toModel.unpack = some .eq := by
  have hnumber : x.toModel.unpack.isNaN = false := h
  revert hnumber
  cases x.toModel.unpack with
  | notANumber => exact fun h => nomatch h
  | zero s => exact fun _ => rfl
  | infinity s => cases s <;> exact fun _ => rfl
  | finite s m e hm =>
    intro _
    have hsame : (compare e e).then (compare m m) = .eq := by
      rw [Std.compare_self, Std.compare_self]
      rfl
    cases s with
    | positive => exact congrArg some hsame
    | negative => exact congrArg some (congrArg Ordering.swap hsame)

theorem isNaN_of_compare {o : Ordering} (h : x.toModel.unpack.compare y.toModel.unpack = some o) :
    x.isNaN = false := by
  show x.toModel.unpack.isNaN = false
  revert h
  cases x.toModel.unpack with
  | notANumber => exact fun h => nomatch h
  | _ => exact fun _ => rfl

/-- A double with an exact value is a number. -/
theorem isNaN_of_ofFloat? {b : Decimal.Binary} (h : Decimal.Binary.ofFloat? x = some b) :
    x.isNaN = false := by
  have hfield : x.toBits.toNat / Decimal.Binary.fractionSize % 2048 ≠ 2047 := by
    intro hones
    rw [Decimal.Binary.ofFloat?, if_pos hones] at h
    cases h
  have hexponent :
      @UnpackedFloat.unpackExponent Format.binary64 x.toBits.toBitVec ≠ -1#_ := by
    intro hones
    have hbits := congrArg BitVec.toNat hones
    simp [UnpackedFloat.unpackExponent, Nat.shiftRight_eq_div_pow] at hbits
    exact hfield hbits
  show (UnpackedFloat.unpack Format.binary64 x.toBits.toBitVec).isNaN = false
  rw [UnpackedFloat.unpack]
  simp only [if_neg hexponent]
  split
  · split <;> rfl
  · rfl

/-- The bits of a double that is no number. -/
theorem toBits_of_isNaN (h : x.isNaN = true) :
    x.toModel.toBits.toBitVec = UnpackedFloat.packedNaN Format.binary64 := by
  have hnan : (UnpackedFloat.unpack Format.binary64 x.toModel.toBits.toBitVec).isNaN = true := h
  rw [UnpackedFloat.unpack] at hnan
  refine x.toModel.valid.eq_packedNaN (by_contra fun hexponent => ?_) fun hmantissa => ?_
  · simp only [if_neg hexponent] at hnan
    revert hnan
    split
    · split <;> exact nofun
    · exact nofun
  · simp only [hmantissa] at hnan
    revert hnan
    split
    · exact nofun
    · split <;> exact nofun

/-- Only one double is no number. -/
theorem eq_of_isNaN (hx : x.isNaN = true) (hy : y.isNaN = true) : x = y := by
  have hbits := (toBits_of_isNaN hx).trans (toBits_of_isNaN hy).symm
  obtain ⟨⟨xs, hxs⟩⟩ := x
  obtain ⟨⟨ys, hys⟩⟩ := y
  cases UInt64.eq_of_toBitVec_eq hbits
  rfl

/-- Comparison the other way around. -/
theorem compare_swap (a b : UnpackedFloat) : b.compare a = (a.compare b).map Ordering.swap := by
  have hparts (m n : Nat) (e f : Int) : (compare f e).then (compare n m) =
      ((compare e f).then (compare m n)).swap := by
    rw [Ordering.swap_then, ← Std.OrientedCmp.eq_swap, ← Std.OrientedCmp.eq_swap]
  cases a with
  | notANumber => cases b <;> rfl
  | zero s => cases b with
    | finite t => cases t <;> rfl
    | infinity t => cases t <;> rfl
    | _ => rfl
  | infinity s => cases b with
    | finite t => cases s <;> cases t <;> rfl
    | infinity t => cases s <;> cases t <;> rfl
    | _ => cases s <;> rfl
  | finite s m e hm => cases b with
    | finite t n f hn =>
      cases s <;> cases t
      · exact congrArg some (congrArg Ordering.swap (hparts m n e f))
      · rfl
      · rfl
      · exact congrArg some (hparts m n e f)
    | infinity t => cases s <;> cases t <;> rfl
    | _ => cases s <;> rfl

/-- Two numbers compare. -/
theorem exists_compare (hx : x.isNaN = false) (hy : y.isNaN = false) :
    ∃ o, x.toModel.unpack.compare y.toModel.unpack = some o := by
  replace hx : x.toModel.unpack.isNaN = false := hx
  replace hy : y.toModel.unpack.isNaN = false := hy
  rw [← Option.isSome_iff_exists]
  revert hx hy
  cases x.toModel.unpack with
  | notANumber => exact nofun
  | zero s => cases y.toModel.unpack with
    | notANumber => exact nofun
    | finite t => cases t <;> exact fun _ _ => rfl
    | infinity t => cases t <;> exact fun _ _ => rfl
    | _ => exact fun _ _ => rfl
  | infinity s => cases y.toModel.unpack with
    | notANumber => exact nofun
    | infinity t => exact fun _ _ => rfl
    | _ => cases s <;> exact fun _ _ => rfl
  | finite s => cases y.toModel.unpack with
    | notANumber => exact nofun
    | finite t => cases s <;> cases t <;> exact fun _ _ => rfl
    | infinity t => cases s <;> cases t <;> exact fun _ _ => rfl
    | _ => cases s <;> exact fun _ _ => rfl

end Double

/-! ### Comparing numbers -/

namespace Numeral

/-- Doubles are compared by the parts that their bits stand for. -/
theorem scalarOrder?_eq (x y : Float) :
    scalarOrder? x y = x.toModel.unpack.compare y.toModel.unpack := by
  have hlt : x < y ↔ x.toModel.unpack.compare y.toModel.unpack = some .lt :=
    Double.lt_iff.trans beq_iff_eq
  have hgt : y < x ↔ x.toModel.unpack.compare y.toModel.unpack = some .gt := by
    rw [Double.lt_iff, Float.Model.UnpackedFloat.lt, beq_iff_eq, Double.compare_swap]
    cases x.toModel.unpack.compare y.toModel.unpack with
    | none => exact ⟨nofun, nofun⟩
    | some o => cases o <;> exact ⟨by decide, by decide⟩
  have heq := @Double.beq_iff x y
  rw [scalarOrder?]
  simp only [hlt, hgt, heq]
  cases x.toModel.unpack.compare y.toModel.unpack with
  | none => rfl
  | some o => cases o <;> rfl

theorem scalarOrder?_self {x : Float} (h : x.isNaN = false) : scalarOrder? x x = some .eq := by
  rw [scalarOrder?_eq]
  exact Double.compare_self h

theorem isNaN_of_scalarOrder? {x y : Float} {o : Ordering} (h : scalarOrder? x y = some o) :
    x.isNaN = false := by
  rw [scalarOrder?_eq] at h
  exact Double.isNaN_of_compare h

/-- Comparison the other way around. -/
theorem order?_swap (a b : Number) : order? b a = (order? a b).map Ordering.swap := by
  have hwhole (m n : Int) : (some (compare n m) : Option Ordering) =
      (some (compare m n)).map Ordering.swap := congrArg some Std.OrientedCmp.eq_swap
  have htwice (o : Option Ordering) : (o.map Ordering.swap).map Ordering.swap = o := by
    rw [Option.map_map]
    cases o with
    | none => rfl
    | some o => cases o <;> rfl
  cases a with
  | real x => cases b with
    | real y =>
      show scalarOrder? y x = (scalarOrder? x y).map Ordering.swap
      rw [scalarOrder?_eq, scalarOrder?_eq, Double.compare_swap]
    | _ => rfl
  | _ => cases b with
    | real y => exact (htwice _).symm
    | _ => exact hwhole _ _

end Numeral

theorem Decimal.isNaN_of_compareWhole? {x : Float} {n : Int} {o : Ordering}
    (h : compareWhole? x n = some o) : x.isNaN = false := by
  cases hx : Binary.ofFloat? x with
  | some b => exact Double.isNaN_of_ofFloat? hx
  | none =>
    rw [compareWhole?, hx] at h
    by_cases hnan : x.isNaN = true
    · simp only [if_pos hnan] at h
      cases h
    · exact Bool.eq_false_iff.2 hnan

/-- A number that compares with another one equals itself. -/
theorem Number.same_self_of_order? {a b : Number} {o : Ordering}
    (h : Numeral.order? a b = some o) : a.same a = true := by
  rw [Numeral.same, beq_iff_eq]
  cases a with
  | truth p => exact congrArg some Std.compare_self
  | whole n => exact congrArg some Std.compare_self
  | real x =>
    refine Numeral.scalarOrder?_self ?_
    cases b with
    | truth p => exact Decimal.isNaN_of_compareWhole? h
    | whole n => exact Decimal.isNaN_of_compareWhole? h
    | real y => exact Numeral.isNaN_of_scalarOrder? h

/-- A number that equals another one equals itself. -/
theorem Number.same_self_of_same {a b : Number} (h : a.same b = true) : a.same a = true :=
  same_self_of_order? (beq_iff_eq.1 h)

namespace Number

/-- Every number equals itself but for the double that is none. -/
theorem same_self_or_isNaN (a : Number) : a.same a = true ∨ ∃ x, a = .real x ∧ x.isNaN = true := by
  cases a with
  | real x =>
    by_cases hx : x.isNaN = true
    · exact .inr ⟨x, rfl, hx⟩
    · refine .inl (beq_iff_eq.2 (Numeral.scalarOrder?_self (Bool.eq_false_iff.2 hx)))
  | _ => exact .inl (beq_iff_eq.2 (congrArg some Std.compare_self))

theorem isNaN_of_same_self {x : Float} (h : (Numeral.real x).same (.real x) = true) :
    x.isNaN = false :=
  Numeral.isNaN_of_scalarOrder? (beq_iff_eq.1 h)

/-- Numbers that equal themselves compare. -/
theorem exists_order? {a b : Number} (ha : a.same a = true) (hb : b.same b = true) :
    ∃ o, Numeral.order? a b = some o := by
  have hwhole {x : Float} (hx : (Numeral.real x).same (.real x) = true) (n : Int) :
      ∃ o, Decimal.compareWhole? x n = some o := by
    rw [Decimal.compareWhole?]
    split
    · exact ⟨_, rfl⟩
    · rw [if_neg (Bool.eq_false_iff.1 (isNaN_of_same_self hx))]
      exact ⟨_, rfl⟩
  cases a with
  | real x => cases b with
    | real y =>
      show ∃ o, Numeral.scalarOrder? x y = some o
      rw [Numeral.scalarOrder?_eq]
      exact Double.exists_compare (isNaN_of_same_self ha) (isNaN_of_same_self hb)
    | _ => exact hwhole ha _
  | _ => cases b with
    | real y =>
      obtain ⟨o, ho⟩ := hwhole hb _
      exact ⟨o.swap, congrArg (Option.map Ordering.swap) ho⟩
    | _ => exact ⟨_, rfl⟩

/-- Of two numbers that equal themselves, one is at most the other. -/
theorem le_of_not_lt {a b : Number} (ha : a.same a = true) (hb : b.same b = true)
    (h : ¬ b < a) : a ≤ b := by
  obtain ⟨o, ho⟩ := exists_order? ha hb
  cases o with
  | lt => exact .inl ho
  | eq => exact .inr ho
  | gt => exact absurd ((Numeral.order?_swap a b).trans (congrArg _ ho)) h

/-- Numbers that are at most each other are equal. -/
theorem order?_eq_of_le {a b : Number} (hab : a ≤ b) (hba : b ≤ a) :
    Numeral.order? a b = some .eq := by
  rcases hab with hless | hequal
  · have hmore : Numeral.order? b a = some .gt :=
      (Numeral.order?_swap a b).trans (congrArg _ hless)
    rcases hba with hless | hequal
    · cases hmore.symm.trans hless
    · cases hmore.symm.trans hequal
  · exact hequal

/-- Whether numbers are equal does not depend on their order. -/
theorem same_comm (a b : Number) : a.same b = b.same a := by
  rw [Numeral.same, Numeral.same, Numeral.order?_swap b a]
  cases Numeral.order? b a with
  | none => rfl
  | some o => cases o <;> rfl

theorem le_self {a : Number} (ha : a.same a = true) : a ≤ a := .inr (beq_iff_eq.1 ha)

end Number

/-! ### Data that equal themselves -/

deriving instance ReflBEq, LawfulBEq for Clock, Moment

namespace Datum

mutual

/-- A datum that equals another one equals itself. -/
theorem same_self_of_same : ∀ {a b : Datum}, a.same b = true → a.same a = true
  | null, _, _ => by rw [same]
  | number n, b, h => by
    cases b with
    | number m =>
      rw [same] at h ⊢
      exact Number.same_self_of_same h
    | _ => simp [same] at h
  | text s, _, _ => by rw [same, beq_self_eq_true]
  | list xs, b, h => by
    cases b with
    | list ys =>
      rw [same] at h ⊢
      exact sameItems_self h
    | _ => simp [same] at h
  | tuple xs, b, h => by
    cases b with
    | tuple ys =>
      rw [same] at h ⊢
      exact sameItems_self h
    | _ => simp [same] at h
  | record fields, b, h => by
    cases b with
    | record other =>
      rw [same, Bool.and_eq_true] at h ⊢
      exact ⟨beq_self_eq_true _, sameFields_self h.2 fun _ => id⟩
    | _ => simp [same] at h
  | moment m, _, _ => by rw [same, beq_self_eq_true]
  | bytes xs, _, _ => by rw [same, beq_self_eq_true]
  | set xs, b, h => by
    cases b with
    | set ys =>
      rw [same, Bool.and_eq_true] at h ⊢
      exact ⟨beq_self_eq_true _, allAmong_self h.2 fun _ => id⟩
    | _ => simp [same] at h
  | enclosing _, _, h => by simp [same] at h

theorem sameItems_self : ∀ {as bs : List Datum}, sameItems as bs = true → sameItems as as = true
  | [], _, _ => by rw [sameItems]
  | a :: as, b :: bs, h => by
    rw [sameItems, Bool.and_eq_true] at h ⊢
    exact ⟨same_self_of_same h.1, sameItems_self h.2⟩
  | a :: as, [], h => by simp [sameItems] at h

-- the second list is one that the first is part of, so that the tail can be compared with the
-- whole list again
theorem allAmong_self : ∀ {as bs cs : List Datum}, allAmong as bs = true → (∀ a ∈ as, a ∈ cs) →
    allAmong as cs = true
  | [], _, _, _, _ => by rw [allAmong]
  | a :: as, bs, cs, h, hmem => by
    rw [allAmong, Bool.and_eq_true] at h ⊢
    obtain ⟨b, -, hb⟩ := List.any_eq_true.1 h.1
    exact ⟨List.any_eq_true.2 ⟨a, hmem a List.mem_cons_self, same_self_of_same hb⟩,
      allAmong_self h.2 fun x hx => hmem x (List.mem_cons_of_mem a hx)⟩

theorem sameFields_self : ∀ {as bs cs : Fields}, sameFields as bs = true → (∀ a ∈ as, a ∈ cs) →
    sameFields as cs = true
  | [], _, _, _, _ => by rw [sameFields]
  | (key, a) :: as, bs, cs, h, hmem => by
    rw [sameFields, Bool.and_eq_true] at h ⊢
    obtain ⟨b, -, hb⟩ := List.any_eq_true.1 h.1
    rw [Bool.and_eq_true] at hb
    refine ⟨List.any_eq_true.2 ⟨(key, a), hmem _ List.mem_cons_self, ?_⟩,
      sameFields_self h.2 fun x hx => hmem x (List.mem_cons_of_mem _ hx)⟩
    rw [Bool.and_eq_true]
    exact ⟨same_self_of_same hb.1, same_self_of_same hb.2⟩

end

/-! ### Names that equal each other -/

mutual

/-- Whether names of fields are equal does not depend on their order. -/
theorem same_comm : ∀ {a b : Datum}, a.isKey = true → b.isKey = true → a.same b = b.same a
  | null, b, _, _ => by cases b <;> simp only [same]
  | number n, b, _, _ => by
    cases b with
    | number m =>
      rw [same, same]
      exact Number.same_comm n m
    | _ => simp only [same]
  | text s, b, _, _ => by
    cases b with
    | text s' =>
      rw [same, same]
      exact BEq.comm
    | _ => simp only [same]
  | list _, _, ha, _ => by simp [isKey] at ha
  | tuple xs, b, ha, hb => by
    cases b with
    | tuple ys =>
      rw [isKey] at ha hb
      rw [same, same]
      exact sameItems_comm ha hb
    | _ => simp only [same]
  | record _, _, ha, _ => by simp [isKey] at ha
  | moment m, b, _, _ => by
    cases b with
    | moment m' =>
      rw [same, same]
      exact BEq.comm
    | _ => simp only [same]
  | bytes xs, b, _, _ => by
    cases b with
    | bytes ys =>
      rw [same, same]
      exact BEq.comm
    | _ => simp only [same]
  | set _, _, ha, _ => by simp [isKey] at ha
  | enclosing _, _, ha, _ => by simp [isKey] at ha

theorem sameItems_comm : ∀ {as bs : List Datum}, areKeys as = true → areKeys bs = true →
    sameItems as bs = sameItems bs as
  | [], [], _, _ => rfl
  | [], _ :: _, _, _ => by rw [sameItems, sameItems] <;> simp
  | _ :: _, [], _, _ => by rw [sameItems, sameItems] <;> simp
  | a :: as, b :: bs, ha, hb => by
    rw [areKeys, Bool.and_eq_true] at ha hb
    rw [sameItems, sameItems, same_comm ha.1 hb.1, sameItems_comm ha.2 hb.2]

end

end Datum

end SixAxis
