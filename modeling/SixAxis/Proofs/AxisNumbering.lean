import Mathlib.Data.Set.Card
import Mathlib.Data.Finset.Card
import SixAxis.Arm.Robot
import SixAxis.Proofs.CheckedSteps

/-!
# The numbers of external axes

Axes that are attached to a robot can ask for a number, and those that do not are given one.  A
robot is refused for its axes only if there are too many of them, more than one carries it, or two
ask for one number; otherwise there is a number for every axis, and the robot keeps all of them
whatever is built from it.

* `Attachable` — which axes can be attached together;
* `axesFault_eq_none_iff` — **no other axes are refused**;
* `length_freeSlots` — the free numbers never run out;
* `IsNthFree` — the number that an axis is given;
* `Robot.NumbersAxes` — how a robot numbers its axes;
* `Robot.Rebuilt` — robots that are built from a robot, step by step;
* `Robot.assemble_numbersAxes` — **a robot is refused for no other reason, and numbers its axes**.
-/

namespace SixAxis

variable {R : Type} [Scalar R] {axes : List (ExternalAxis R)}

/-! ### Axes that can be attached together -/

/-- Axes that can be attached to one robot. -/
structure Attachable (axes : List (ExternalAxis R)) : Prop where
  few : axes.length ≤ 6
  oneCarrier : axes.Pairwise fun a b => ¬ (a.carriesRobot = true ∧ b.carriesRobot = true)
  /-- No axis is ever otherwise, by its type. -/
  linear : ∀ a ∈ axes, a.carriesRobot = true → a.motion = .linear
  apart : axes.Pairwise fun a b =>
    ∀ m n, a.number = some m → b.number = some n → m.slot ≠ n.slot

/-- At most one member of a list has a property if no two have it. -/
theorem length_filter_le_one_iff {α : Type} {p : α → Bool} {l : List α} :
    (l.filter p).length ≤ 1 ↔ l.Pairwise fun a b => ¬ (p a = true ∧ p b = true) := by
  induction l with
  | nil => simp
  | cons a l ih =>
    rw [List.pairwise_cons, ← ih]
    by_cases ha : p a = true
    · have hone : ((a :: l).filter p).length ≤ 1 ↔ l.filter p = [] := by
        simp [List.filter_cons_of_pos ha]
      rw [hone, List.filter_eq_nil_iff]
      constructor
      · intro h
        refine ⟨fun b hb hboth => h b hb hboth.2, ?_⟩
        simp [List.filter_eq_nil_iff.2 h]
      · intro h b hb hpb
        exact h.1 b hb ⟨ha, hpb⟩
    · simp [List.filter_cons_of_neg ha, ha]

/-- The numbers that axes ask for are apart if no two ask for the same one. -/
theorem nodup_askedSlots_iff : (askedSlots axes).Nodup ↔ axes.Pairwise fun a b =>
    ∀ m n, a.number = some m → b.number = some n → m.slot ≠ n.slot := by
  rw [askedSlots, List.Nodup, List.pairwise_filterMap]
  constructor
  · intro h
    refine h.imp fun {a b} hapart m n hm hn => ?_
    exact hapart m.slot (by simp [hm]) n.slot (by simp [hn])
  · intro h
    refine h.imp fun {a b} hapart i hi k hk => ?_
    obtain ⟨m, hm, rfl⟩ := Option.map_eq_some_iff.1 hi
    obtain ⟨n, hn, rfl⟩ := Option.map_eq_some_iff.1 hk
    exact hapart m n hm hn

/-- Nothing is found where nothing is asked for twice. -/
theorem firstRepeated_eq_none_iff {seen : List (Fin 6)} : firstRepeated seen axes = none ↔
    (askedSlots axes).Nodup ∧ ∀ i ∈ askedSlots axes, i ∉ seen := by
  refine ⟨askedSlots_nodup_of_firstRepeated, ?_⟩
  induction axes generalizing seen with
  | nil =>
    intro _
    rfl
  | cons a rest ih =>
    intro h
    cases hn : a.number with
    | none =>
      have hasked : askedSlots (a :: rest) = askedSlots rest := by simp [askedSlots, hn]
      rw [hasked] at h
      simpa [firstRepeated, hn] using ih h
    | some n =>
      have hasked : askedSlots (a :: rest) = n.slot :: askedSlots rest := by
        simp [askedSlots, hn]
      rw [hasked, List.nodup_cons] at h
      have hseen : n.slot ∉ seen := h.2 n.slot (by simp)
      simp only [firstRepeated, hn, List.contains_eq_mem, hseen, decide_false]
      refine ih ⟨h.1.2, fun i hi => ?_⟩
      have hother : i ≠ n.slot := fun heq => h.1.1 (heq ▸ hi)
      simp [hother, h.2 i (List.mem_cons_of_mem _ hi)]

/-- **No other axes are refused.** -/
theorem axesFault_eq_none_iff (name : Datum) : Robot.axesFault name axes = none ↔
    Attachable axes := by
  have hcarriers := length_filter_le_one_iff (p := fun a => a.carriesRobot) (l := axes)
  have hapart : firstRepeated [] axes = none ↔ _ := firstRepeated_eq_none_iff
  simp only [Robot.axesFault, mostAxes]
  constructor
  · intro h
    split at h
    · cases h
    · rename_i hfew
      split at h
      · cases h
      · rename_i hone
        split at h
        · cases h
        · exact ⟨by omega, hcarriers.1 (by omega), fun a _ => a.carrier_linear,
            nodup_askedSlots_iff.1 (hapart.1 (Option.map_eq_none_iff.1 h)).1⟩
  · intro h
    have hfew : ¬ 6 < axes.length := by have := h.few; omega
    have hone : ¬ 1 < (axes.filter (·.carriesRobot)).length := by
      have := hcarriers.2 h.oneCarrier
      omega
    have hlinear : ¬ (axes.filter (·.carriesRobot)).any (·.motion != .linear) = true := by
      intro hany
      obtain ⟨a, ha, hmotion⟩ := List.any_eq_true.1 hany
      have hcarries := (List.mem_filter.1 ha).2
      rw [h.linear a (List.mem_filter.1 ha).1 hcarries] at hmotion
      cases hmotion
    rw [if_neg hfew, if_neg hone, if_neg hlinear, Option.map_eq_none_iff]
    exact hapart.2 ⟨nodup_askedSlots_iff.2 h.apart, fun i _ => List.not_mem_nil⟩

/-! ### The numbers that are given -/

/-- Whether no axis asks for a number. -/
def IsFree (axes : List (ExternalAxis R)) (i : Fin 6) : Prop :=
  ∀ a ∈ axes, ∀ n, a.number = some n → n.slot ≠ i

/-- Whether a number is free, and a given count of smaller ones are. -/
def IsNthFree (axes : List (ExternalAxis R)) (j : Nat) (i : Fin 6) : Prop :=
  IsFree axes i ∧ {k | k < i ∧ IsFree axes k}.ncard = j

theorem mem_freeSlots_iff {i : Fin 6} : i ∈ freeSlots axes ↔ IsFree axes i := by
  simp only [freeSlots, List.mem_filter, List.mem_finRange, true_and, List.contains_eq_mem,
    Bool.not_eq_eq_eq_not, Bool.not_true, decide_eq_false_iff_not, askedSlots, List.mem_filterMap,
    Option.map_eq_some_iff, IsFree]
  constructor
  · intro h a ha n hn hslot
    exact h ⟨a, ha, n, hn, hslot⟩
  · intro h hasked
    obtain ⟨a, ha, n, hn, hslot⟩ := hasked
    exact h a ha n hn hslot

theorem pairwise_freeSlots (axes : List (ExternalAxis R)) :
    (freeSlots axes).Pairwise (· < ·) := (List.pairwise_lt_finRange 6).filter _

/-- In an ascending list, the members below the one at a place are those in front of it. -/
theorem ncard_below {l : List (Fin 6)} (h : l.Pairwise (· < ·)) {j : Nat} {i : Fin 6}
    (hj : l[j]? = some i) : {k | k < i ∧ k ∈ l}.ncard = j := by
  obtain ⟨hlt, rfl⟩ := List.getElem?_eq_some_iff.1 hj
  have hsplit : l = l.take j ++ l[j] :: l.drop (j + 1) := by simp
  have hset : {k | k < l[j] ∧ k ∈ l} = ((l.take j).toFinset : Set (Fin 6)) := by
    ext k
    rw [Set.mem_ofPred_eq, List.coe_toFinset, Set.mem_ofPred_eq]
    rw [hsplit, List.pairwise_append, List.pairwise_cons] at h
    constructor
    · intro hk
      obtain ⟨hbelow, hmem⟩ := hk
      rw [hsplit, List.mem_append, List.mem_cons] at hmem
      rcases hmem with hfront | hsame | hbehind
      · exact hfront
      · omega
      · have := h.2.1.1 k hbehind
        omega
    · intro hk
      exact ⟨h.2.2 k hk _ List.mem_cons_self, List.mem_of_mem_take hk⟩
  have hnodup : (l.take j).Nodup := (h.imp fun hlt => ne_of_lt hlt).sublist (List.take_sublist j l)
  rw [hset, Set.ncard_coe_finset, List.toFinset_card_of_nodup hnodup, List.length_take]
  omega

/-- The place of a number among the free ones. -/
theorem isNthFree_of_getElem? {j : Nat} {i : Fin 6} (h : (freeSlots axes)[j]? = some i) :
    IsNthFree axes j i := by
  refine ⟨mem_freeSlots_iff.1 (List.mem_of_getElem? h), ?_⟩
  have hcount := ncard_below (pairwise_freeSlots axes) h
  simpa only [mem_freeSlots_iff] using hcount

/-- **The free numbers never run out**: each of at most six axes has one of its own or a free
one. -/
theorem length_freeSlots (h : axes.length ≤ 6) :
    (axes.filter (·.number.isNone)).length ≤ (freeSlots axes).length := by
  have htaken : ((List.finRange 6).filter fun i => (askedSlots axes).contains i).length
      ≤ (askedSlots axes).length := by
    refine (List.subperm_of_subset ((List.nodup_finRange 6).filter _) fun i hi => ?_).length_le
    simpa using (List.mem_filter.1 hi).2
  have hfree : ((List.finRange 6).filter fun i => (askedSlots axes).contains i).length
      + (freeSlots axes).length = 6 := by
    have hsum := List.length_eq_length_filter_add (l := List.finRange 6)
      fun i => (askedSlots axes).contains i
    rw [List.length_finRange] at hsum
    exact hsum.symm
  have hasked : (askedSlots axes).length + (axes.filter (·.number.isNone)).length
      = axes.length := by
    clear htaken hfree h
    induction axes with
    | nil => rfl
    | cons a rest ih =>
      cases hn : a.number with
      | none =>
        simp only [askedSlots, List.filterMap_cons, List.filter_cons, hn, Option.map_none,
          Option.isNone_none, if_true, List.length_cons] at ih ⊢
        omega
      | some n =>
        simp only [askedSlots, List.filterMap_cons, List.filter_cons, hn, Option.map_some,
          Option.isNone_some, Bool.false_eq_true, if_false, List.length_cons] at ih ⊢
        omega
  omega

/-! ### Axes in their slots -/

section Assigned

variable {free : List (Fin 6)}

/-- No axis is dropped, and they keep their order. -/
theorem map_axis_assignFrom (h : (axes.filter (·.number.isNone)).length ≤ free.length) :
    (assignFrom axes free).map (·.axis) = axes := by
  induction axes generalizing free with
  | nil => rfl
  | cons a rest ih =>
    cases hn : a.number with
    | some n =>
      have hrest : (rest.filter (·.number.isNone)).length ≤ free.length := by
        simpa [List.filter_cons, hn] using h
      simp only [assignFrom, hn, List.map_cons, ih hrest]
    | none =>
      cases free with
      | nil => simp [hn] at h
      | cons i free =>
        have hrest : (rest.filter (·.number.isNone)).length ≤ free.length := by
          simpa [List.filter_cons, hn] using h
        simp only [assignFrom, hn, List.map_cons, ih hrest]

/-- An axis with a number is in the slot of that number. -/
theorem slot_of_mem_assignFrom {a : AttachedAxis R} (ha : a ∈ assignFrom axes free)
    {n : AxisNumber} (hn : a.axis.number = some n) : a.slot = n.slot := by
  induction axes generalizing free with
  | nil => cases ha
  | cons first rest ih =>
    cases hfirst : first.number with
    | some m =>
      simp only [assignFrom, hfirst, List.mem_cons] at ha
      rcases ha with rfl | ha
      · cases hfirst.symm.trans hn
        rfl
      · exact ih ha
    | none =>
      cases free with
      | nil =>
        simp only [assignFrom, hfirst] at ha
        exact ih ha
      | cons i free =>
        simp only [assignFrom, hfirst, List.mem_cons] at ha
        rcases ha with rfl | ha
        · cases hfirst.symm.trans hn
        · exact ih ha

/-- The axes without a number take the free slots one after another. -/
theorem slots_unnumbered (h : (axes.filter (·.number.isNone)).length ≤ free.length) :
    ((assignFrom axes free).filter (·.axis.number.isNone)).map (·.slot) =
      free.take (axes.filter (·.number.isNone)).length := by
  induction axes generalizing free with
  | nil => rfl
  | cons a rest ih =>
    cases hn : a.number with
    | some n =>
      have hrest : (rest.filter (·.number.isNone)).length ≤ free.length := by
        simpa [List.filter_cons, hn] using h
      simpa [assignFrom, hn, List.filter_cons] using ih hrest
    | none =>
      cases free with
      | nil => simp [hn] at h
      | cons i free =>
        have hrest : (rest.filter (·.number.isNone)).length ≤ free.length := by
          simpa [List.filter_cons, hn] using h
        simpa [assignFrom, hn, List.filter_cons] using ih hrest

/-- Axes that have the numbers of their slots are put into the same slots again. -/
theorem assignFrom_map_toAxis {attached : List (AttachedAxis R)}
    (h : ∀ a ∈ attached, a.toAxis.number.map (·.slot) = some a.slot) :
    assignFrom (attached.map (·.toAxis)) free = attached.map fun a => ⟨a.toAxis, a.slot⟩ := by
  induction attached with
  | nil => rfl
  | cons a rest ih =>
    obtain ⟨ha, hrest⟩ := List.forall_mem_cons.1 h
    obtain ⟨n, hn, hslot⟩ := Option.map_eq_some_iff.1 ha
    simp only [List.map_cons, assignFrom, hn, hslot, ih hrest]

end Assigned

/-! ### Looking up a number -/

/-- A double equals at most one whole number. -/
theorem Decimal.eq_of_compareWhole? {x : Float} {m n : Int}
    (hm : compareWhole? x m = some .eq) (hn : compareWhole? x n = some .eq) : m = n := by
  rw [compareWhole?] at hm hn
  cases hx : Binary.ofFloat? x with
  | none =>
    simp only [hx] at hm
    split at hm
    · cases hm
    · split at hm <;> cases hm
  | some b =>
    simp only [hx, Option.some.injEq, compare_eq_iff_eq] at hm hn
    have hpositive : b.signedFraction.2 ≠ 0 := by
      have htwo (k : Nat) : twoTo k ≠ 0 := by
        show 2 ^ k ≠ 0
        simp
      simp only [Binary.signedFraction, Binary.fraction]
      split
      · exact htwo _
      · exact Nat.one_ne_zero
    exact Int.eq_of_mul_eq_mul_right (by omega) (hm.symm.trans hn)

/-- Two slots with an equal number are the same. -/
theorem slot_eq_of_same {n : Datum} {i k : Fin 6} (hi : n.same (.int i.val) = true)
    (hk : n.same (.int k.val) = true) : i = k := by
  cases n with
  | number n =>
    have hi' : Numeral.order? n (.whole i.val) = some .eq := by
      simpa [Datum.same, Datum.int, Numeral.same] using hi
    have hk' : Numeral.order? n (.whole k.val) = some .eq := by
      simpa [Datum.same, Datum.int, Numeral.same] using hk
    have hvalue : (i.val : Int) = k.val := by
      cases n with
      | real x => exact Decimal.eq_of_compareWhole? hi' hk'
      | truth b =>
        simp only [Numeral.order?, Numeral.asWhole?, Option.some.injEq, compare_eq_iff_eq]
          at hi' hk'
        omega
      | whole m =>
        simp only [Numeral.order?, Numeral.asWhole?, Option.some.injEq, compare_eq_iff_eq]
          at hi' hk'
        omega
    omega
  | _ => simp [Datum.same, Datum.int] at hi

namespace Robot

variable {r r' bare : Robot R} {p : Parts R}

/-- Looking up a number finds the one axis in that slot. -/
theorem axisNumbered_eq_some_iff {n : Datum} {a : AttachedAxis R} :
    r.axisNumbered n = some a ↔ a ∈ r.axes ∧ n.same (.int a.slot.val) = true := by
  rw [axisNumbered]
  constructor
  · intro h
    have hsame := List.find?_some h
    exact ⟨List.mem_of_find?_eq_some h, hsame⟩
  · intro h
    obtain ⟨ha, hsame⟩ := h
    cases hfound : r.axes.find? fun a => n.same (.int a.slot.val) with
    | none => exact absurd hsame (by simpa using List.find?_eq_none.1 hfound a ha)
    | some b =>
      have hb := List.find?_some hfound
      have hslot : b.slot = a.slot := slot_eq_of_same hb hsame
      exact congrArg some (List.inj_on_of_nodup_map r.slots_nodup
        (List.mem_of_find?_eq_some hfound) ha hslot)

/-! ### Robots with axes -/

/-- A robot that can be built without axes is refused for a fault of its axes, or else built with
them. -/
theorem assemble_of_bare (h : assemble { p with axes := [] } = .ok bare) :
    (∀ f, axesFault p.name p.axes = some f → assemble p = .error f) ∧
      ∀ hfits : axesFault p.name p.axes = none,
        assemble p =
          .ok { bare with axes := assignSlots p.axes, slots_nodup := axesFault_nodup hfits } := by
  rw [assemble] at h
  split at h
  · rename_i hframes
    split at h
    · rename_i hlimits
      split at h
      · rename_i hshapes
        split at h
        · cases h
        · obtain ⟨_, hflange, h⟩ := bind_eq_ok.1 h
          cases h
          rw [assemble, dif_pos hframes, dif_pos hlimits, dif_pos hshapes]
          split
          · rename_i f hfault
            constructor
            · intro g hg
              cases hfault.symm.trans hg
              rfl
            · intro hfits
              cases hfault.symm.trans hfits
          · rename_i hfault
            constructor
            · intro g hg
              cases hfault.symm.trans hg
            · intro _
              exact bind_eq_ok.2 ⟨_, hflange, rfl⟩
      · cases h
    · cases h
  · cases h

/-- The axes of a robot with their numbers. -/
def numberedAxes (r : Robot R) : List (ExternalAxis R) := r.axes.map (·.toAxis)

/-- How a robot numbers the axes that it is given. -/
structure NumbersAxes (r : Robot R) (axes : List (ExternalAxis R)) : Prop where
  /-- All axes are attached, in the order they are given. -/
  attached : r.axes.map (·.axis) = axes
  /-- Every axis has the number of its slot. -/
  slots : ∀ a ∈ r.axes, a.toAxis.number.map (·.slot) = some a.slot
  /-- An axis that has a number keeps it. -/
  kept : ∀ a ∈ r.axes, a.axis.number.isSome = true → a.toAxis = a.axis
  /-- The axes without a number take the free ones from the smallest on. -/
  given : ∀ j a, (r.axes.filter (·.axis.number.isNone))[j]? = some a → IsNthFree axes j a.slot
  /-- No number is used twice. -/
  distinct : (r.axes.map (·.slot)).Nodup
  /-- Looking up a number finds the axis that has it. -/
  found : ∀ n a, r.axisNumbered n = some a ↔ a ∈ r.axes ∧ n.same (.int a.slot.val) = true

theorem numbersAxes_of_axes_eq {axes : List (ExternalAxis R)} (hfew : axes.length ≤ 6)
    (h : r.axes = assignSlots axes) : r.NumbersAxes axes := by
  have hcount := length_freeSlots hfew
  have hslot (a : AttachedAxis R) (ha : a ∈ r.axes) (n : AxisNumber)
      (hn : a.axis.number = some n) : a.slot = n.slot := by
    rw [h] at ha
    exact slot_of_mem_assignFrom ha hn
  refine ⟨?_, fun a ha => ?_, fun a _ hsome => ?_, fun j a hj => ?_, r.slots_nodup,
    fun _ _ => axisNumbered_eq_some_iff⟩
  · rw [h]
    exact map_axis_assignFrom hcount
  · show some (a.axis.number.getD (.index a.slot)).slot = some a.slot
    cases hn : a.axis.number with
    | none => rfl
    | some n => exact congrArg some (hslot a ha n hn).symm
  · obtain ⟨n, hn⟩ := Option.isSome_iff_exists.1 hsome
    show { a.axis with number := some (a.axis.number.getD (.index a.slot)) } = a.axis
    rw [hn, Option.getD_some, ← hn]
  · refine isNthFree_of_getElem? ?_
    have hplace : (((assignFrom axes (freeSlots axes)).filter
        (·.axis.number.isNone)).map (·.slot))[j]? = some a.slot := by
      rw [h, assignSlots] at hj
      rw [List.getElem?_map, hj, Option.map_some]
    rw [slots_unnumbered hcount, List.getElem?_take] at hplace
    split at hplace
    · exact hplace
    · cases hplace

/-! ### Robots that are built from a robot -/

/-- Robots that are built from a robot: elsewhere, with another tool, or assembled from other parts
with the axes of the robot as they are numbered. -/
inductive Rebuilt (r : Robot R) : Robot R → Prop
  | same : Rebuilt r r
  | moved {next last : Robot R} (m : Motion R) :
      Rebuilt r next → next.moved? m = .ok last → Rebuilt r last
  | withTool {next last : Robot R} (tool : Tool R) :
      Rebuilt r next → next.withTool? tool = .ok last → Rebuilt r last
  | assembled {next last : Robot R} (p : Parts R) :
      Rebuilt r next → p.axes = next.numberedAxes → assemble p = .ok last → Rebuilt r last

theorem axes_of_inSpace (h : r.inSpace = .ok r') : r'.axes = r.axes := by
  obtain ⟨-, -, h⟩ := bind_eq_ok.1 h
  cases h
  rfl

theorem axes_of_moved? {m : Motion R} (h : r.moved? m = .ok r') : r'.axes = r.axes := by
  simp only [moved?, bind_eq_ok] at h
  obtain ⟨-, -, base, -, flange, -, h⟩ := h
  have haxes := axes_of_inSpace h
  exact haxes

theorem axes_of_withTool? {tool : Tool R} (h : r.withTool? tool = .ok r') : r'.axes = r.axes := by
  have haxes := axes_of_inSpace h
  exact haxes

theorem axes_of_assemble (h : assemble p = .ok r) : r.axes = assignSlots p.axes := by
  rw [assemble] at h
  split at h
  · split at h
    · split at h
      · split at h
        · cases h
        · have haxes := axes_of_inSpace h
          exact haxes
      · cases h
    · cases h
  · cases h

/-- What a robot keeps when it is built again: the axes as they are numbered, and their slots. -/
structure KeepsNumbers (r r' : Robot R) : Prop where
  numberedAxes_eq : r'.numberedAxes = r.numberedAxes
  slots_eq : r'.axes.map (·.slot) = r.axes.map (·.slot)
  slots : ∀ a ∈ r'.axes, a.toAxis.number.map (·.slot) = some a.slot

theorem KeepsNumbers.of_axes_eq {next last : Robot R} (h : r.KeepsNumbers next)
    (haxes : last.axes = next.axes) : r.KeepsNumbers last := by
  refine ⟨?_, ?_, ?_⟩
  · rw [numberedAxes, haxes]
    exact h.numberedAxes_eq
  · rw [haxes]
    exact h.slots_eq
  · rw [haxes]
    exact h.slots

/-- One step: axes that have the numbers of their slots come into these slots again. -/
theorem KeepsNumbers.assembled {next last : Robot R} (h : r.KeepsNumbers next)
    (hparts : p.axes = next.numberedAxes) (hlast : assemble p = .ok last) :
    r.KeepsNumbers last := by
  have haxes : last.axes = next.axes.map fun a => ⟨a.toAxis, a.slot⟩ := by
    rw [axes_of_assemble hlast, hparts]
    exact assignFrom_map_toAxis h.slots
  have hagain (a : AttachedAxis R) (ha : a ∈ next.axes) :
      (⟨a.toAxis, a.slot⟩ : AttachedAxis R).toAxis = a.toAxis := by
    obtain ⟨n, hn, -⟩ := Option.map_eq_some_iff.1 (h.slots a ha)
    show { a.toAxis with number := some (a.toAxis.number.getD (.index a.slot)) } = a.toAxis
    rw [hn, Option.getD_some, ← hn]
  refine ⟨?_, ?_, fun a ha => ?_⟩
  · rw [← h.numberedAxes_eq, numberedAxes, numberedAxes, haxes, List.map_map]
    exact List.map_congr_left hagain
  · rw [← h.slots_eq, haxes, List.map_map]
    rfl
  · rw [haxes] at ha
    obtain ⟨b, hb, rfl⟩ := List.mem_map.1 ha
    rw [hagain b hb]
    exact h.slots b hb

/-- **Every robot that is built from a robot keeps the numbers of its axes.** -/
theorem Rebuilt.keepsNumbers (h : r.Rebuilt r')
    (hslots : ∀ a ∈ r.axes, a.toAxis.number.map (·.slot) = some a.slot) : r.KeepsNumbers r' := by
  induction h with
  | same => exact ⟨rfl, rfl, hslots⟩
  | moved m _ hstep ih => exact ih.of_axes_eq (axes_of_moved? hstep)
  | withTool tool _ hstep ih => exact ih.of_axes_eq (axes_of_withTool? hstep)
  | assembled p _ hparts hstep ih => exact ih.assembled hparts hstep

/-- The axes of a robot, as they are numbered, can be attached together. -/
theorem attachable_numberedAxes {axes : List (ExternalAxis R)} (h : Attachable axes)
    (hr : r.NumbersAxes axes) : Attachable r.numberedAxes := by
  have hlength : r.axes.length = axes.length := by
    rw [← hr.attached, List.length_map]
  refine ⟨?_, ?_, fun a _ => a.carrier_linear, ?_⟩
  · rw [numberedAxes, List.length_map, hlength]
    exact h.few
  · have hcarriers := h.oneCarrier
    rw [← hr.attached, List.pairwise_map] at hcarriers
    rw [numberedAxes, List.pairwise_map]
    exact hcarriers
  · have hdistinct := hr.distinct
    rw [List.Nodup, List.pairwise_map] at hdistinct
    rw [numberedAxes, List.pairwise_map]
    refine hdistinct.imp_of_mem fun {a b} ha hb hne m n hm hn => ?_
    have hslotA := hr.slots a ha
    have hslotB := hr.slots b hb
    rw [hm, Option.map_some, Option.some.injEq] at hslotA
    rw [hn, Option.map_some, Option.some.injEq] at hslotB
    rw [hslotA, hslotB]
    exact hne

/-- What becomes of a robot with external axes. -/
structure Parts.Numbered (p : Parts R) : Prop where
  /-- It is refused exactly if the axes cannot be attached together. -/
  refused_iff : (∃ f : RobotFault, assemble p = .error f) ↔ ¬ Attachable p.axes
  /-- Otherwise it is built, with numbers that everything built from it keeps. -/
  built : Attachable p.axes → ∃ r, assemble p = .ok r ∧ r.NumbersAxes p.axes ∧
    Attachable r.numberedAxes ∧ ∀ r', r.Rebuilt r' → r.KeepsNumbers r'

/-- **A robot that can be built without axes is refused only if its axes cannot be attached
together; otherwise each of them has a number of its own**, the one it asks for or the next free
one, and keeps it. -/
theorem assemble_numbersAxes {p : Parts R} {bare : Robot R}
    (h : assemble { p with axes := [] } = .ok bare) : p.Numbered := by
  obtain ⟨hrefused, hbuilt⟩ := assemble_of_bare h
  have hfits : axesFault p.name p.axes = none ↔ Attachable p.axes := axesFault_eq_none_iff p.name
  constructor
  · rw [← hfits]
    constructor
    · intro hfault hnone
      obtain ⟨f, hf⟩ := hfault
      cases hf.symm.trans (hbuilt hnone)
    · intro hsome
      obtain ⟨f, hf⟩ := Option.ne_none_iff_exists'.1 hsome
      exact ⟨f, hrefused f hf⟩
  · intro hattachable
    have hnumbers := numbersAxes_of_axes_eq hattachable.few
      (axes_of_assemble (hbuilt (hfits.2 hattachable)))
    exact ⟨_, hbuilt (hfits.2 hattachable), hnumbers,
      attachable_numberedAxes hattachable hnumbers, fun r' hr' => hr'.keepsNumbers hnumbers.slots⟩

/-- An axis that does not carry the robot can move in either way. -/
theorem linear_of_not_carrying {m : AxisMotion} (h : false = true) : m = .linear :=
  absurd h Bool.false_ne_true

/-- A turntable at the origin, with a number or without. -/
def tableAxis (number : Option AxisNumber) : ExternalAxis Float where
  name := "rotary table"
  motion := .rotational
  attachment := .world
  axis := .world
  limits := ⟨.whole 0, .whole 90, by decide⟩
  baseMesh := .empty
  linkMesh := .empty
  carriesRobot := false
  number := number
  named := by decide
  carrier_linear := linear_of_not_carrying

/-- An arm with three turntables, of which the second one asks for the first number. -/
def tableParts : Parts Float where
  name := "arm with tables"
  manufacturer := .null
  base := .world
  jointFrames := List.replicate 6 .world
  jointLimits := List.replicate 6 ⟨-170, 170, by decide +kernel⟩
  flange := none
  linkMeshes := none
  tool := .standard
  axes := [tableAxis none, tableAxis (some (.index Joint.first)), tableAxis none]

theorem assemble_numbersAxes_tables : ∃ bare, assemble { tableParts with axes := [] } = .ok bare ∧
    tableParts.Numbered ∧ ∃ r, assemble tableParts = .ok r ∧ r.axes.map (·.slot) = [1, 0, 2] := by
  obtain ⟨bare, hbare⟩ := exists_ok_of_toBool
    (show (assemble { tableParts with axes := [] }).toBool = true by decide +kernel)
  have hnumbered := assemble_numbersAxes hbare
  obtain ⟨r, hr, -⟩ := hnumbered.built ((axesFault_eq_none_iff tableParts.name).1 (by decide))
  refine ⟨bare, hbare, hnumbered, r, hr, ?_⟩
  rw [axes_of_assemble hr]
  decide

end Robot

end SixAxis
