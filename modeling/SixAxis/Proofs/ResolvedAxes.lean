import SixAxis.Proofs.AxisNumbering
import SixAxis.Proofs.CarriedTargets
import SixAxis.Proofs.CodeStatements
import SixAxis.Proofs.ExactOrder
import SixAxis.Proofs.JudgedLimits

/-!
# Values of external axes for a target

Before a target is solved, every attached axis gets a value.  One that is given stays, and so does
whatever stands in a slot without an axis; the axis that carries the robot goes as close to the
target as it can, and any other axis stays at zero.  As no two axes share a slot, an axis finds its
own slot as it was given, whichever axes come before it.

A joint vector holds doubles.  The ends of limits can be whole numbers that no double equals.  Then
the carrier is sent to a value within its limits, but the double nearest to that value may not be.

* `Interval.contains_clamp_iff` — a number that is moved into limits lies within them unless it, or
  one of their ends, is none;
* `Interval.contains_value_clamp` — and so does the double it becomes if the ends are doubles;
* `Robot.get_resolve_of_notMem`, `Robot.resolve_perm`, `Robot.resolve_resolve` — slots without an
  axis, axes in another order, and axes that have their values;
* `Robot.assemble_reordered` — a robot with its axes attached in another order;
* `Robot.resolve?_resolvesAxes` — **what every slot of the resolved vector holds**;
* `resolve?_leavesLimits` — a track that is sent out of its limits.
-/

namespace SixAxis

/-! ### Numbers moved into limits -/

/-- Numbers of which one is at most the other equal themselves. -/
theorem Number.same_self_of_le {a b : Number} (h : a ≤ b) :
    a.same a = true ∧ b.same b = true := by
  obtain ⟨o, ho⟩ : ∃ o, Numeral.order? a b = some o := h.elim (fun h => ⟨_, h⟩) fun h => ⟨_, h⟩
  have hswap : Numeral.order? b a = some o.swap := by
    rw [Numeral.order?_swap a b, ho, Option.map_some]
  exact ⟨same_self_of_order? ho, same_self_of_order? hswap⟩

namespace Interval

variable {limits : Interval Number}

theorem clamp_of_lt {v : Number} (h : v < limits.low) : limits.clamp v = limits.low := by
  rw [clamp, if_pos h]
  exact if_neg limits.ordered

/-- A number that is moved into limits lies within them exactly if it is one, and so are their
ends. -/
theorem contains_clamp_iff (limits : Interval Number) (v : Number) :
    limits.contains (limits.clamp v) = true ↔ limits.IsProper ∧ v.same v = true := by
  constructor
  · intro h
    obtain ⟨hlow, hhigh⟩ := contains_iff.1 h
    refine ⟨⟨(Number.same_self_of_le hlow).1, (Number.same_self_of_le hhigh).2⟩, ?_⟩
    -- a number that is moved has been compared with an end
    by_cases hbelow : v < limits.low
    · exact Number.same_self_of_order? hbelow
    · by_cases habove : limits.high < v
      · exact (Number.same_self_of_le (.inl habove)).2
      · have hstays : limits.clamp v = v := by
          rw [clamp, if_neg hbelow, if_neg habove]
        rw [hstays] at hlow
        exact (Number.same_self_of_le hlow).2
  · rintro ⟨hproper, hv⟩
    rcases contains_clamp hproper v with hin | ⟨x, hx, hclamp⟩
    · exact hin
    · -- what is no number is not moved, and is not an end of proper limits
      rw [clamp] at hclamp
      have hself : (Numeral.real x).same (.real x) = true := by
        split at hclamp <;> split at hclamp <;> rw [← hclamp] <;>
          first | exact hv | exact hproper.low | exact hproper.high
      rw [Number.isNaN_of_same_self hself] at hx
      cases hx

theorem clamp_cases (limits : Interval Number) (v : Number) :
    limits.clamp v = limits.low ∨ limits.clamp v = limits.high ∨ limits.clamp v = v := by
  rw [clamp]
  split <;> split <;> simp

/-- Numbers that equal each other are in the same limits. -/
theorem contains_congr {v w : Number} (h : v.same w = true) :
    limits.contains v = limits.contains w := by
  have hlow : limits.low ≤ v ↔ limits.low ≤ w := by
    show (_ ∨ _) ↔ (_ ∨ _)
    rw [Number.order?_congr_right h]
  have hhigh : v ≤ limits.high ↔ w ≤ limits.high := by
    show (_ ∨ _) ↔ (_ ∨ _)
    rw [Number.order?_congr h]
  rw [contains, contains, decide_eq_decide.2 hlow, decide_eq_decide.2 hhigh]

end Interval

theorem Number.same_self_real_iff {x : Float} :
    (Numeral.real x : Number).same (.real x) = true ↔ x.isNaN = false :=
  ⟨isNaN_of_same_self, fun h => beq_iff_eq.2 (Numeral.scalarOrder?_self h)⟩

/-- Whether a number equals a double, the one that it becomes. -/
def Number.IsDouble (n : Number) : Prop := n.same (.real n.value) = true

/-- A double that is moved into limits between doubles becomes one that lies within them. -/
theorem Interval.contains_value_clamp {limits : Interval Number} (hlow : limits.low.IsDouble)
    (hhigh : limits.high.IsDouble) {x : Float} (hx : x.isNaN = false) :
    limits.contains (.real (limits.clamp (.real x)).value) = true := by
  have hdouble : (limits.clamp (.real x)).IsDouble := by
    rcases limits.clamp_cases (.real x) with h | h | h <;> rw [h]
    · exact hlow
    · exact hhigh
    · exact Number.same_self_real_iff.2 hx
  rw [← contains_congr hdouble, contains_clamp_iff]
  exact ⟨⟨Number.same_self_of_same hlow, Number.same_self_of_same hhigh⟩,
    Number.same_self_real_iff.2 hx⟩

/-! ### Slots, one by one -/

theorem Frame.point_copied (f : Frame Float) : f.copied.point = f.point := by
  rw [copied]
  split
  · rfl
  · cases hbuilt : ofAxes f.point f.xaxis f.yaxis with
    | error => rfl
    | ok g =>
      obtain ⟨x, -, h⟩ := bind_eq_ok.1 hbuilt
      obtain ⟨y, -, h⟩ := bind_eq_ok.1 h
      obtain ⟨z, -, h⟩ := bind_eq_ok.1 h
      exact (congrArg Frame.point (Except.ok.inj h)).symm

namespace Robot

section Slots

variable {R : Type} [Scalar R] {r r' : Robot R} {external : ExternalJoints R} {target : Frame R}

/-- A slot without an axis stays as it is given. -/
theorem get_resolve_of_notMem {i : Fin 6} (hi : i ∉ r.axes.map (·.slot)) :
    (r.resolve external target).get i = external.get i :=
  get_foldl_filled_of_not_mem hi

theorem get_resolve_of_isDefined {i : Fin 6} (hi : external.isDefined i = true) :
    (r.resolve external target).get i = external.get i := by
  by_cases hmem : i ∈ r.axes.map (·.slot)
  · obtain ⟨a, ha, rfl⟩ := List.mem_map.1 hmem
    rw [get_resolve ha, axisValue, if_pos hi]
  · exact get_resolve_of_notMem hmem

/-- **The order of the axes does not matter.** -/
theorem resolve_perm (h : r'.axes.Perm r.axes) :
    r'.resolve external target = r.resolve external target := by
  refine Joints.ext_get fun i => ?_
  by_cases hmem : i ∈ r.axes.map (·.slot)
  · obtain ⟨a, ha, rfl⟩ := List.mem_map.1 hmem
    rw [get_resolve ha, get_resolve (h.mem_iff.2 ha)]
  · have hmem' : i ∉ r'.axes.map (·.slot) := fun hi => hmem ((h.map _).mem_iff.1 hi)
    rw [get_resolve_of_notMem hmem, get_resolve_of_notMem hmem']

/-- **Axes that have their values keep them.**  A value that counts as the marker is found again,
because the values that axes take for a target do not depend on the vector. -/
theorem resolve_resolve :
    r.resolve (r.resolve external target) target = r.resolve external target := by
  refine Joints.ext_get fun i => ?_
  by_cases hmem : i ∈ r.axes.map (·.slot)
  · obtain ⟨a, ha, rfl⟩ := List.mem_map.1 hmem
    rw [get_resolve ha, axisValue]
    by_cases hdefined : (r.resolve external target).isDefined a.slot = true
    · rw [if_pos hdefined]
    · rw [if_neg hdefined, get_resolve ha, axisValue]
      by_cases hgiven : external.isDefined a.slot = true
      · have hstays : (r.resolve external target).get a.slot = external.get a.slot :=
          get_resolve_of_isDefined hgiven
        exact absurd ((Joints.isDefined_congr hstays).trans hgiven) hdefined
      · rw [if_neg hgiven]
  · exact get_resolve_of_notMem hmem

end Slots

/-! ### Axes in another order -/

section Reordered

variable {R : Type} [Scalar R] {axes axes' : List (ExternalAxis R)}

/-- An axis in the slot of its number. -/
def ownSlot? (a : ExternalAxis R) : Option (AttachedAxis R) := a.number.map fun n => ⟨a, n.slot⟩

/-- Axes that all have numbers take the slots of these. -/
theorem assignFrom_eq_filterMap (h : ∀ a ∈ axes, a.number.isSome = true) (free : List (Fin 6)) :
    assignFrom axes free = axes.filterMap ownSlot? := by
  induction axes with
  | nil => rfl
  | cons a rest ih =>
    obtain ⟨ha, hrest⟩ := List.forall_mem_cons.1 h
    obtain ⟨n, hn⟩ := Option.isSome_iff_exists.1 ha
    have hown : ownSlot? a = some ⟨a, n.slot⟩ := by rw [ownSlot?, hn, Option.map_some]
    simp only [assignFrom, hn, ih hrest, List.filterMap_cons, hown]

theorem assignSlots_perm (h : ∀ a ∈ axes, a.number.isSome = true) (hperm : axes'.Perm axes) :
    (assignSlots axes').Perm (assignSlots axes) := by
  have h' : ∀ a ∈ axes', a.number.isSome = true := fun a ha => h a (hperm.mem_iff.1 ha)
  rw [assignSlots, assignSlots, assignFrom_eq_filterMap h, assignFrom_eq_filterMap h']
  exact hperm.filterMap _

/-- Which axes can be attached together does not depend on their order. -/
theorem attachable_perm (h : Attachable axes) (hperm : axes'.Perm axes) : Attachable axes' where
  few := hperm.length_eq ▸ h.few
  oneCarrier := (hperm.pairwise_iff fun hab hba => hab hba.symm).2 h.oneCarrier
  linear a _ := a.carrier_linear
  apart := (hperm.pairwise_iff fun hab m n hm hn => (hab n m hn hm).symm).2 h.apart

theorem attachable_nil : Attachable ([] : List (ExternalAxis R)) where
  few := Nat.zero_le _
  oneCarrier := .nil
  linear a _ := a.carrier_linear
  apart := .nil

/-- Axes are the last of the parts that a robot can be refused for. -/
theorem exists_assemble_bare {p : Parts R} {r : Robot R} (h : assemble p = .ok r) :
    ∃ bare, assemble { p with axes := [] } = .ok bare := by
  have hnone : axesFault (R := R) p.name [] = none :=
    (axesFault_eq_none_iff p.name).2 attachable_nil
  rw [assemble] at h
  split at h
  · rename_i hframes
    split at h
    · rename_i hlimits
      split at h
      · rename_i hshapes
        split at h
        · cases h
        · obtain ⟨_, hflange, -⟩ := bind_eq_ok.1 h
          rw [assemble, dif_pos hframes, dif_pos hlimits, dif_pos hshapes]
          split
          · rename_i f hfault
            cases hfault.symm.trans hnone
          · exact ⟨_, bind_eq_ok.2 ⟨_, hflange, rfl⟩⟩
      · cases h
    · cases h
  · cases h

/-- **Axes with numbers can be attached in any order**, and are in the same slots then. -/
theorem assemble_reordered {p : Parts R} {r : Robot R} (h : assemble p = .ok r)
    (hnumbered : ∀ a ∈ p.axes, a.number.isSome = true) (hperm : axes.Perm p.axes) :
    ∃ r', assemble { p with axes := axes } = .ok r' ∧ r'.axes.Perm r.axes := by
  obtain ⟨bare, hbare⟩ := exists_assemble_bare h
  have hfits : Attachable p.axes := by
    rw [← axesFault_eq_none_iff p.name]
    cases hfault : axesFault p.name p.axes with
    | none => rfl
    | some f => cases h.symm.trans ((assemble_of_bare hbare).1 f hfault)
  have hbuilt := (assemble_of_bare (p := { p with axes := axes }) hbare).2
    ((axesFault_eq_none_iff p.name).2 (attachable_perm hfits hperm))
  refine ⟨_, hbuilt, ?_⟩
  rw [axes_of_assemble h]
  exact assignSlots_perm hnumbered hperm

end Reordered

/-! ### The resolved vector -/

section Resolved

variable {r : Robot Float} {given : ExternalJoints Float} {target : Frame Float}

/-- The values of the external axes for a target, as long as they are in the range of doubles. -/
def resolve? (r : Robot Float) (given : ExternalJoints Float) (target : Frame Float) :
    Checked (ExternalJoints Float) := do
  r.checkResolved given target
  return r.resolve given target

/-- Whether an axis carries the robot and is given no value. -/
def IsSent (given : ExternalJoints Float) (a : AttachedAxis Float) : Prop :=
  a.axis.carriesRobot = true ∧ given.isDefined a.slot = false

/-- The value at which a track without limits would be closest to a target. -/
def abreast (a : AttachedAxis Float) (target : Frame Float) : Float :=
  a.axis.axis.zaxis.dot (target.point - a.axis.attachment.point)

theorem closestNumber_eq (a : AttachedAxis Float) (target : Frame Float) :
    a.axis.closestNumber target.point = a.axis.limits.clamp (.real (abreast a target)) := rfl

theorem closest?_of_carries {a : ExternalAxis Float} (h : a.carriesRobot = true) (p : Vec Float) :
    a.closest? p = Number.toReal (a.closestNumber p) := by
  rw [ExternalAxis.closest?, a.carrier_linear h]

/-- The values are in the range of doubles exactly if those are that axes are sent to. -/
theorem checkResolved_eq_ok_iff : r.checkResolved given target = .ok () ↔
    ∀ a ∈ r.axes, IsSent given a →
      ∃ v, Number.toReal (a.axis.closestNumber target.point) = .ok v := by
  have hpicked (a : AttachedAxis Float) :
      (!given.isDefined a.slot && a.axis.carriesRobot) = true ↔ IsSent given a := by
    rw [Bool.and_eq_true, Bool.not_eq_true', and_comm]
    rfl
  constructor
  · intro h a ha hsent
    obtain ⟨⟨⟩, hloop, -⟩ := bind_eq_ok.1 h
    rw [← closest?_of_carries hsent.1]
    exact forIn_checkWhere_eq_ok_iff.1 hloop a ha ((hpicked a).2 hsent)
  · intro h
    refine bind_eq_ok.2 ⟨⟨⟩, forIn_checkWhere_eq_ok_iff.2 fun a ha hsent => ?_, rfl⟩
    have hsent := (hpicked a).1 hsent
    rw [closest?_of_carries hsent.1]
    exact h a ha hsent

/-- No other fault can come up. -/
theorem faultsIn_checkResolved_overflow :
    FaultsIn (· = .misuse .overflow) (r.checkResolved given target) := by
  refine FaultsIn.bind (.forIn (fun a _ _ => ?_) _) fun _ _ => .ok _
  refine .ite (fun hsent => FaultsIn.bind ?_ fun _ _ => .ok _) fun _ => .ok _
  rw [closest?_of_carries (Bool.and_eq_true_iff.1 hsent).2]
  cases a.axis.closestNumber target.point with
  | whole n => exact .ite (fun _ => .error rfl) fun _ => .ok _
  | _ => exact .ok _

/-- Whichever axis is checked first, the fault is the same. -/
theorem checkResolved_perm {r' : Robot Float} (h : r'.axes.Perm r.axes) :
    r'.checkResolved given target = r.checkResolved given target := by
  have hok : r'.checkResolved given target = .ok () ↔ r.checkResolved given target = .ok () := by
    simp only [checkResolved_eq_ok_iff, h.mem_iff]
  cases hcheck : r.checkResolved given target with
  | ok => exact hok.2 hcheck
  | error f =>
    cases hcheck' : r'.checkResolved given target with
    | ok => cases (hok.1 hcheck').symm.trans hcheck
    | error f' =>
      rw [faultsIn_checkResolved_overflow f hcheck, faultsIn_checkResolved_overflow f' hcheck']

/-- Only a whole number can be beyond the range of doubles. -/
theorem exists_whole_of_toReal {n : Number} (h : ∀ v, Number.toReal n ≠ .ok v) :
    ∃ k : Int, n = .whole k ∧ (Scalar.ofInt k : Float).isInf = true := by
  cases n with
  | whole k =>
    refine ⟨k, rfl, ?_⟩
    by_contra hfinite
    exact h _ (if_neg hfinite)
  | _ => exact absurd rfl (h _)

theorem resolve?_eq_ok_iff {v : ExternalJoints Float} : r.resolve? given target = .ok v ↔
    r.checkResolved given target = .ok () ∧ v = r.resolve given target := by
  rw [resolve?, bind_eq_ok]
  constructor
  · rintro ⟨⟨⟩, hchecked, hv⟩
    exact ⟨hchecked, (Except.ok.inj hv).symm⟩
  · rintro ⟨hchecked, rfl⟩
    exact ⟨(), hchecked, rfl⟩

theorem resolve?_perm {r' : Robot Float} (h : r'.axes.Perm r.axes) :
    r'.resolve? given target = r.resolve? given target := by
  rw [resolve?, resolve?, checkResolved_perm h, resolve_perm h]

/-- Of a target only the point counts. -/
theorem resolve?_congr {target' : Frame Float} (h : target'.point = target.point) :
    r.resolve? given target' = r.resolve? given target := by
  simp only [resolve?, checkResolved, resolve, defaultValue, h]

/-- What a vector that is resolved for a target holds. -/
structure Resolves (r : Robot Float) (given : ExternalJoints Float) (target : Frame Float)
    (v : ExternalJoints Float) : Prop where
  /-- A slot that is given a value, or has no axis, is as it is given. -/
  kept : ∀ i, given.isDefined i = true ∨ i ∉ r.axes.map (·.slot) → v.get i = given.get i
  /-- The axis that carries the robot is sent to its closest value, as a double. -/
  carrier : ∀ a ∈ r.axes, IsSent given a →
    Number.toReal (a.axis.closestNumber target.point) = .ok (v.get a.slot)
  /-- Any other axis is at zero. -/
  other : ∀ a ∈ r.axes, a.axis.carriesRobot = false → given.isDefined a.slot = false →
    v.get a.slot = 0.0
  /-- Limits between numbers that are doubles are not left. -/
  within : ∀ a ∈ r.axes, IsSent given a → Number.IsDouble a.axis.limits.low →
    Number.IsDouble a.axis.limits.high → (abreast a target).isNaN = false →
    a.axis.limits.contains (.real (v.get a.slot)) = true
  /-- Resolving the vector again changes nothing. -/
  again : r.resolve? v target = .ok v

/-- How the values of the external axes are resolved for a target. -/
structure ResolvesAxes (r : Robot Float) (given : ExternalJoints Float) (target : Frame Float) :
    Prop where
  resolved : ∀ v, r.resolve? given target = .ok v → r.Resolves given target v
  /-- There is a vector unless the carrier is sent to a whole number beyond all doubles. -/
  refused : ∀ f, r.resolve? given target = .error f → f = .misuse .overflow ∧
    ∃ a ∈ r.axes, IsSent given a ∧ ∃ n, a.axis.closestNumber target.point = .whole n ∧
      (Scalar.ofInt n : Float).isInf = true
  /-- The closest value is within the limits if it and their ends are numbers. -/
  closest : ∀ a ∈ r.axes, a.axis.limits.contains (a.axis.closestNumber target.point) = true ↔
    a.axis.limits.IsProper ∧ (abreast a target).isNaN = false
  /-- The order of the attached axes does not matter, -/
  perm : ∀ r' : Robot Float, r'.axes.Perm r.axes →
    r'.resolve? given target = r.resolve? given target
  /-- nor does the order in which axes with numbers are attached. -/
  reordered : ∀ (p : Parts Float) (axes : List (ExternalAxis Float)), assemble p = .ok r →
    (∀ a ∈ p.axes, a.number.isSome = true) → axes.Perm p.axes →
    ∃ r', assemble { p with axes := axes } = .ok r' ∧
      r'.resolve? given target = r.resolve? given target
  /-- A solution has the resolved vector. -/
  solved : ∀ fixed reference s, r.solve target given fixed reference = .ok s →
    r.resolve? given target = .ok s.external

theorem resolves (hchecked : r.checkResolved given target = .ok ()) :
    r.Resolves given target (r.resolve given target) := by
  have hsent := checkResolved_eq_ok_iff.1 hchecked
  have hcarrier : ∀ a ∈ r.axes, IsSent given a → Number.toReal (a.axis.closestNumber target.point) =
      .ok ((r.resolve given target).get a.slot) := by
    intro a ha hcarries
    obtain ⟨v, hv⟩ := hsent a ha hcarries
    have hvalue : (r.resolve given target).get a.slot = a.axis.closest target.point := by
      rw [get_resolve ha, axisValue, if_neg (by rw [hcarries.2]; exact Bool.false_ne_true),
        defaultValue, if_pos hcarries.1]
    rw [hvalue, hv, ExternalAxis.closest, Number.value_of_toReal hv]
  refine ⟨fun i hi => ?_, hcarrier, fun a ha hstays hnone => ?_,
    fun a ha hcarries hlow hhigh habreast => ?_, ?_⟩
  · exact hi.elim get_resolve_of_isDefined get_resolve_of_notMem
  · rw [get_resolve ha, axisValue, if_neg (by rw [hnone]; exact Bool.false_ne_true), defaultValue,
      if_neg (by rw [hstays]; exact Bool.false_ne_true)]
  · rw [← Number.value_of_toReal (hcarrier a ha hcarries), closestNumber_eq]
    exact Interval.contains_value_clamp hlow hhigh habreast
  · refine resolve?_eq_ok_iff.2 ⟨checkResolved_eq_ok_iff.2 fun a ha hcarries => ?_,
      resolve_resolve.symm⟩
    refine hsent a ha ⟨hcarries.1, ?_⟩
    -- a value that is given stays
    rw [Bool.eq_false_iff]
    intro hgiven
    have hstays : (r.resolve given target).get a.slot = given.get a.slot :=
      get_resolve_of_isDefined hgiven
    have hsame := Joints.isDefined_congr hstays
    rw [hcarries.2, hgiven] at hsame
    cases hsame

/-- **What every slot of the resolved vector holds**, and on what it depends. -/
theorem resolve?_resolvesAxes (r : Robot Float) (given : ExternalJoints Float)
    (target : Frame Float) : r.ResolvesAxes given target where
  resolved v h := by
    obtain ⟨hchecked, rfl⟩ := resolve?_eq_ok_iff.1 h
    exact resolves hchecked
  refused f h := by
    have hchecked : r.checkResolved given target = .error f := by
      cases hcheck : r.checkResolved given target with
      | ok u => cases (resolve?_eq_ok_iff.2 ⟨hcheck, rfl⟩).symm.trans h
      | error e =>
        rw [resolve?, hcheck] at h
        exact congrArg _ (Except.error.inj h)
    refine ⟨faultsIn_checkResolved_overflow f hchecked, ?_⟩
    by_contra hnone
    -- if every carrier had a double to go to, there would be a vector
    have hok := (checkResolved_eq_ok_iff (r := r)).2 fun a ha hsent => by
      by_contra hfails
      obtain ⟨n, hn, hinf⟩ := exists_whole_of_toReal fun v hv => hfails ⟨v, hv⟩
      exact hnone ⟨a, ha, hsent, n, hn, hinf⟩
    cases hok.symm.trans hchecked
  closest a _ := by
    rw [closestNumber_eq, Interval.contains_clamp_iff, Number.same_self_real_iff]
  perm r' hperm := resolve?_perm hperm
  reordered p axes h hnumbered hperm := by
    obtain ⟨r', hr', hsame⟩ := assemble_reordered h hnumbered hperm
    exact ⟨r', hr', resolve?_perm hsame⟩
  solved fixed reference s h := by
    obtain ⟨⟨⟩, -, hrest⟩ := bind_eq_ok.1 h
    obtain ⟨⟨⟩, hchecked, -⟩ := bind_eq_ok.1 hrest
    rw [← resolve?_congr target.point_copied]
    exact resolve?_eq_ok_iff.2 ⟨hchecked, external_of_solve h⟩

end Resolved

end Robot

/-! ### A carrier that leaves its limits -/

/-- The track between two values. -/
def trackWithin (limits : Interval Number) : ExternalAxis Float :=
  { track true with limits := limits }

/-- The tucked arm on that track. -/
def armWithin (limits : Interval Number) : Robot Float :=
  { tuckedArm with
    axes := [⟨trackWithin limits, Joint.first⟩]
    slots_nodup := List.nodup_singleton _ }

/-- Limits between whole numbers that no double equals. -/
def farLimits : Interval Number :=
  ⟨.whole 9007199254740993, .whole 9007199254740999, by decide +kernel⟩

/-- Limits with an end that is no number. -/
def openLimits : Interval Number := ⟨.real (0.0 / 0.0), .real 1000.0, by decide +kernel⟩

/-- A track that is sent to its nearer end stands before it, if no double equals that end.  An end
that is no number limits nothing, and nothing lies within it. -/
theorem resolve?_leavesLimits :
    (∃ v, (armWithin farLimits).resolve? default .world = .ok v ∧
      (trackWithin farLimits).closestNumber .zero = .whole 9007199254740993 ∧
      v.get Joint.first = 9007199254740992.0 ∧
      farLimits.contains (.real (v.get Joint.first)) = false) ∧
    ∃ v, (armWithin openLimits).resolve? default .world = .ok v ∧
      openLimits.contains ((trackWithin openLimits).closestNumber .zero) = false ∧
      openLimits.contains (.real (v.get Joint.first)) = false := by
  have hresolved (limits : Interval Number)
      (h : ((armWithin limits).checkResolved default .world).toBool = true) :
      (armWithin limits).resolve? default .world =
        .ok ((armWithin limits).resolve default .world) :=
    Robot.resolve?_eq_ok_iff.2 ⟨(exists_ok_of_toBool h).choose_spec, rfl⟩
  constructor
  · refine ⟨_, hresolved farLimits (by decide +kernel), Interval.clamp_of_lt (by decide +kernel),
      ?_, ?_⟩ <;> decide +kernel
  · refine ⟨_, hresolved openLimits (by decide +kernel), ?_, ?_⟩ <;> decide +kernel

end SixAxis
