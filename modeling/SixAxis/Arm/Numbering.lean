import SixAxis.Arm.ExternalAxis

/-!
# Slots of attached axes

The axes attached to a robot each take a slot of the joint vectors.  An axis with a number
keeps it; the others take the free slots in ascending order.

* `assignSlots` — the axes with their slots;
* `assignSlots_nodup` — **no slot is taken twice**, given that no two axes ask for the same one.
-/

namespace SixAxis

/-- An axis attached to a robot, in its slot. -/
structure AttachedAxis (R : Type) [Scalar R] where
  axis : ExternalAxis R
  slot : Fin 6

namespace AttachedAxis

variable {R : Type} [Scalar R]

/-- The axis with the number of its slot. -/
def toAxis (a : AttachedAxis R) : ExternalAxis R :=
  { a.axis with number := some (a.axis.number.getD (.index a.slot)) }

end AttachedAxis

variable {R : Type} [Scalar R]

/-- The slots that the axes ask for. -/
def askedSlots (axes : List (ExternalAxis R)) : List (Fin 6) :=
  axes.filterMap fun a => a.number.map (·.slot)

/-- The slots that no axis asks for, in ascending order. -/
def freeSlots (axes : List (ExternalAxis R)) : List (Fin 6) :=
  (List.finRange 6).filter fun i => !(askedSlots axes).contains i

/-- The axes in their slots, those without a number in the free ones; an axis beyond the free
slots is dropped. -/
def assignFrom : List (ExternalAxis R) → List (Fin 6) → List (AttachedAxis R)
  | [], _ => []
  | a :: rest, free =>
    match a.number, free with
    | some n, free => ⟨a, n.slot⟩ :: assignFrom rest free
    | none, n :: free => ⟨a, n⟩ :: assignFrom rest free
    | none, [] => assignFrom rest []

/-- The axes in their slots. -/
def assignSlots (axes : List (ExternalAxis R)) : List (AttachedAxis R) :=
  assignFrom axes (freeSlots axes)

theorem mem_assignFrom {axes : List (ExternalAxis R)} {free : List (Fin 6)} {i : Fin 6}
    (h : i ∈ (assignFrom axes free).map (·.slot)) : i ∈ askedSlots axes ∨ i ∈ free := by
  induction axes generalizing free with
  | nil => simp [assignFrom] at h
  | cons a rest ih =>
    cases hn : a.number with
    | some n =>
      simp only [assignFrom, hn, List.map_cons, List.mem_cons] at h
      rcases h with rfl | h
      · exact .inl (by simp [askedSlots, hn])
      · exact (ih h).imp (by simp +contextual [askedSlots, hn]) id
    | none =>
      cases free with
      | nil =>
        simp only [assignFrom, hn] at h
        exact (ih h).imp (by simp +contextual [askedSlots, hn]) id
      | cons m free =>
        simp only [assignFrom, hn, List.map_cons, List.mem_cons] at h
        rcases h with rfl | h
        · exact .inr (by simp)
        · exact (ih h).imp (by simp +contextual [askedSlots, hn]) (List.mem_cons_of_mem _)

theorem assignFrom_nodup {axes : List (ExternalAxis R)} {free : List (Fin 6)}
    (asked : (askedSlots axes).Nodup) (distinct : free.Nodup)
    (apart : ∀ i ∈ free, i ∉ askedSlots axes) :
    ((assignFrom axes free).map (·.slot)).Nodup := by
  induction axes generalizing free with
  | nil => simp [assignFrom]
  | cons a rest ih =>
    cases hn : a.number with
    | some n =>
      have hasked : askedSlots (a :: rest) = n.slot :: askedSlots rest := by
        simp [askedSlots, hn]
      rw [hasked] at asked apart
      simp only [assignFrom, hn, List.map_cons, List.nodup_cons]
      refine ⟨fun h => ?_, ih (List.nodup_cons.1 asked).2 distinct fun i hi h =>
        apart i hi (List.mem_cons_of_mem _ h)⟩
      rcases mem_assignFrom h with h | h
      · exact (List.nodup_cons.1 asked).1 h
      · exact apart n.slot h (by simp)
    | none =>
      have hasked : askedSlots (a :: rest) = askedSlots rest := by simp [askedSlots, hn]
      rw [hasked] at asked apart
      cases free with
      | nil => simpa only [assignFrom, hn] using ih asked distinct apart
      | cons m free =>
        simp only [assignFrom, hn, List.map_cons, List.nodup_cons]
        have hm := List.nodup_cons.1 distinct
        refine ⟨fun h => ?_, ih asked hm.2 fun i hi => apart i (List.mem_cons_of_mem _ hi)⟩
        rcases mem_assignFrom h with h | h
        · exact apart m (by simp) h
        · exact hm.1 h

/-- **No slot is taken twice.** -/
theorem assignSlots_nodup {axes : List (ExternalAxis R)} (asked : (askedSlots axes).Nodup) :
    ((assignSlots axes).map (·.slot)).Nodup :=
  assignFrom_nodup asked ((List.nodup_finRange 6).filter _) fun i hi => by
    simpa [freeSlots] using hi

/-- The first axis, if there is one, that asks for a slot that an axis before it asks for. -/
def firstRepeated (seen : List (Fin 6)) :
    List (ExternalAxis R) → Option (ExternalAxis R × AxisNumber)
  | [] => none
  | a :: rest =>
    match a.number with
    | none => firstRepeated seen rest
    | some n =>
      if seen.contains n.slot then some (a, n) else firstRepeated (n.slot :: seen) rest

theorem askedSlots_nodup_of_firstRepeated {seen : List (Fin 6)} {axes : List (ExternalAxis R)}
    (h : firstRepeated seen axes = none) :
    (askedSlots axes).Nodup ∧ ∀ i ∈ askedSlots axes, i ∉ seen := by
  induction axes generalizing seen with
  | nil => simp [askedSlots]
  | cons a rest ih =>
    cases hn : a.number with
    | none =>
      have hasked : askedSlots (a :: rest) = askedSlots rest := by simp [askedSlots, hn]
      rw [hasked]
      exact ih (by simpa [firstRepeated, hn] using h)
    | some n =>
      have hasked : askedSlots (a :: rest) = n.slot :: askedSlots rest := by
        simp [askedSlots, hn]
      rw [hasked]
      by_cases hs : n.slot ∈ seen
      · simp [firstRepeated, hn, hs] at h
      · obtain ⟨hd, hf⟩ := ih (by simpa [firstRepeated, hn, hs] using h)
        refine ⟨List.nodup_cons.2 ⟨fun hm => hf n.slot hm (by simp), hd⟩, fun i hi => ?_⟩
        rcases List.mem_cons.1 hi with rfl | hi
        · exact hs
        · exact fun hm => hf i hi (List.mem_cons_of_mem _ hm)

end SixAxis
