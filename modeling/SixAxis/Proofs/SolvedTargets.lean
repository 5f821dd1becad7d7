import SixAxis.Arm.Solution
import SixAxis.Proofs.CheckedSteps

/-!
# What a solution tells

A solution has one of its eight candidates chosen, and the external axes resolved.  Its flags are
those of these values, and its reports are those of the selection, of the arm and of the external
axes, in this order.

* `Robot.exists_solution_of_solve` — what the checked solver returns is a solution;
* `Robot.flags_chosen` — the flags of a solution are those of its joint values;
* `Robot.reports_solution` — the reports of a solution, part by part;
* `Robot.reports_eq_nil_iff` — **nothing is reported exactly of a target that is within reach and
  all limits**.
-/

namespace SixAxis

/-! ### Selection -/

section leastBy

variable {α : Type} {before : α → α → Bool}

theorem foldl_best_mem (a : α) (rest : List α) :
    rest.foldl (fun best b => if before b best then b else best) a ∈ a :: rest := by
  induction rest generalizing a with
  | nil => exact List.mem_cons_self
  | cons c rest ih =>
    rw [List.foldl_cons]
    by_cases hc : before c a = true
    · rw [if_pos hc]
      exact List.mem_cons_of_mem a (ih c)
    · rw [if_neg hc]
      rcases List.mem_cons.1 (ih a) with heq | hmem
      · rw [heq]
        exact List.mem_cons_self
      · exact List.mem_cons_of_mem a (List.mem_cons_of_mem c hmem)

theorem mem_of_leastBy {l : List α} {a : α} (h : leastBy before l = some a) : a ∈ l := by
  cases l with
  | nil => cases h
  | cons c rest =>
    rw [← Option.some.inj h]
    exact foldl_best_mem c rest

theorem leastBy_eq_none {l : List α} (h : leastBy before l = none) : l = [] := by
  cases l with
  | nil => rfl
  | cons c rest => cases h

end leastBy

/-! ### Flags -/

theorem all_toList_iff (flags : Vector Bool 6) :
    flags.toList.all id = true ↔ ∀ i : Fin 6, flags.get i = true := by
  rw [List.all_eq_true]
  constructor
  · intro h i
    exact h _ (Vector.mem_toList_iff.2 (Vector.getElem_mem i.isLt))
  · intro h b hb
    obtain ⟨i, hi, rfl⟩ := Vector.mem_iff_getElem.1 (Vector.mem_toList_iff.1 hb)
    exact h ⟨i, hi⟩

namespace Robot

variable {R : Type} [Scalar R]

theorem internalReports_eq_nil_iff (flags : Vector Bool 6) :
    internalReports flags = [] ↔ flags.toList.all id = true := by
  rw [all_toList_iff, internalReports, List.map_eq_nil_iff, List.filter_eq_nil_iff]
  simp only [List.mem_finRange, true_imp_iff, Bool.not_eq_true', Bool.not_eq_false]

/-- The flag of a joint tells whether its value is within its limits. -/
theorem get_internalFlags (r : Robot R) (q : RobotJoints R) (k : Fin 6) :
    (r.internalFlags q).get k = (r.jointLimits.get k).contains (q.get k) :=
  Vector.getElem_ofFn k.isLt

theorem get_externalFlags (misfits : List (AttachedAxis R)) (i : Fin 6) :
    (externalFlags misfits).get i = !misfits.any (·.slot = i) :=
  Vector.getElem_ofFn i.isLt

theorem externalReports_eq_nil_iff (misfits : List (AttachedAxis R)) :
    externalReports misfits = [] ↔ (externalFlags misfits).toList.all id = true := by
  rw [all_toList_iff, externalReports, List.map_eq_nil_iff]
  constructor
  · rintro rfl i
    rw [get_externalFlags]
    rfl
  · intro h
    refine List.eq_nil_iff_forall_not_mem.2 fun a ha => ?_
    have hflag := h a.slot
    rw [get_externalFlags, Bool.not_eq_true', List.any_eq_false] at hflag
    exact hflag a ha (decide_eq_true rfl)

/-! ### The chosen candidate -/

theorem choose_mem (candidates : Vector (Candidate R) 8) (reference : RobotJoints R) :
    (choose candidates reference).1 ∈ candidates.toList := by
  rw [choose]
  split
  · exact (List.mem_filter.1 (mem_of_leastBy ‹_›)).1
  · cases h : leastBy (Candidate.nearer reference) candidates.toList with
    | some c => exact mem_of_leastBy h
    | none => exact Vector.mem_toList_iff.2 (Vector.getElem_mem _)

/-- Where no candidate is within reach and limits, the chosen one is not. -/
theorem choose_found {candidates : Vector (Candidate R) 8} {reference : RobotJoints R}
    (hreachable : (choose candidates reference).1.reachable = true)
    (hlimits : (choose candidates reference).1.inLimits = true) :
    (choose candidates reference).2 = true := by
  have hmem := choose_mem candidates reference
  cases hleast : leastBy (Candidate.closer reference)
      (candidates.toList.filter fun c => c.reachable && c.inLimits) with
  | some c => rw [choose, hleast]
  | none =>
    have hnone := List.filter_eq_nil_iff.1 (leastBy_eq_none hleast) _ hmem
    rw [hreachable, hlimits] at hnone
    exact absurd rfl hnone

theorem flags_of_mem_candidates {r : Robot R} {reference : RobotJoints R} {target : Frame R}
    {c : Candidate R} (hc : c ∈ (r.candidates reference target).toList) :
    c.flags = r.internalFlags c.joints := by
  obtain ⟨i, hi, rfl⟩ := Vector.mem_iff_getElem.1 (Vector.mem_toList_iff.1 hc)
  rw [candidates, Vector.getElem_ofFn]
  rfl

section Solution

variable (r : Robot R) (target : Frame R) (external : ExternalJoints R)
  (fixed : Option Configuration) (reference : RobotJoints R)

/-- The values of the external axes are those that they are resolved to. -/
theorem external_solution : (r.solution target external fixed reference).external =
    r.resolve external target := rfl

theorem chosen_mem : (r.solution target external fixed reference).chosen ∈
    (r.solution target external fixed reference).candidates.toList := by
  cases fixed with
  | some i => exact Vector.mem_toList_iff.2 (Vector.getElem_mem _)
  | none => exact choose_mem _ _

/-- The flags of a solution are those of its joint values. -/
theorem flags_chosen : (r.solution target external fixed reference).chosen.flags =
    r.internalFlags (r.solution target external fixed reference).joints :=
  flags_of_mem_candidates (chosen_mem r target external fixed reference)

/-- The flags of the external axes are those of the values that they are resolved to. -/
theorem externalFlags_solution : (r.solution target external fixed reference).externalFlags =
    externalFlags (r.misfits (r.solution target external fixed reference).external false) := rfl

end Solution

end Robot

/-- Whether a report is about the selection as a whole, not about one value. -/
def Report.isOfSelection : Report → Bool
  | noConfiguration | outOfReach => true
  | internal _ | external _ => false

/-- Reports are told apart by their texts. -/
theorem Report.text_injective : Function.Injective Report.text := by
  let reports := (List.finRange 6).map internal ++ (List.finRange 6).map external
    ++ [noConfiguration, outOfReach]
  have hmem (a : Report) : a ∈ reports := by
    cases a <;> simp [reports]
  have hinjective : ∀ a ∈ reports, ∀ b ∈ reports, a.text = b.text → a = b := by decide +kernel
  exact fun a b h => hinjective a (hmem a) b (hmem b) h

namespace Robot

section Solution

variable {R : Type} [Scalar R] (r : Robot R) (target : Frame R) (external : ExternalJoints R)
  (fixed : Option Configuration) (reference : RobotJoints R)

/-- The reports of a solution, part by part. -/
theorem reports_eq :
    let s := r.solution target external fixed reference
    s.reports =
      (if fixed.isSome || (choose s.candidates reference).2 then [] else [.noConfiguration])
        ++ (if s.chosen.reachable then [] else [.outOfReach])
        ++ internalReports s.chosen.flags ++ externalReports (r.misfits s.external false) := by
  cases fixed with
  | some i => rfl
  | none => rfl

/-- The reports of a solution: those of the selection, and those of values out of their limits. -/
theorem reports_solution : ∃ ofSelection : List Report,
    (∀ report ∈ ofSelection, report.isOfSelection = true) ∧
      (r.solution target external fixed reference).reports = ofSelection
        ++ (internalReports (r.solution target external fixed reference).chosen.flags
          ++ externalReports
            (r.misfits (r.solution target external fixed reference).external false)) := by
  refine ⟨_, fun report hreport => ?_, by rw [reports_eq, List.append_assoc]⟩
  rcases List.mem_append.1 hreport with h | h
  · split at h
    · cases h
    · rw [List.mem_singleton.1 h]
      rfl
  · split at h
    · cases h
    · rw [List.mem_singleton.1 h]
      rfl

/-- A target is reported as out of reach exactly if the chosen candidate is. -/
theorem outOfReach_mem_reports_iff :
    .outOfReach ∈ (r.solution target external fixed reference).reports ↔
      (r.solution target external fixed reference).chosen.reachable = false := by
  have hinternal (flags : Vector Bool 6) : Report.outOfReach ∉ internalReports flags := by
    simp [internalReports]
  have hexternal (misfits : List (AttachedAxis R)) :
      Report.outOfReach ∉ externalReports misfits := by
    simp [externalReports]
  rw [reports_eq, List.mem_append, List.mem_append, List.mem_append, or_iff_left (hexternal _),
    or_iff_left (hinternal _)]
  cases (r.solution target external fixed reference).chosen.reachable with
  | true => split <;> simp
  | false => simp

/-- **Nothing is reported exactly of a target that is within reach and all limits.** -/
theorem reports_eq_nil_iff : (r.solution target external fixed reference).reports = [] ↔
    (r.solution target external fixed reference).chosen.reachable = true ∧
      (r.solution target external fixed reference).inLimits = true := by
  rw [reports_eq, List.append_eq_nil_iff, List.append_eq_nil_iff, List.append_eq_nil_iff,
    internalReports_eq_nil_iff, externalReports_eq_nil_iff, Solution.inLimits, Bool.and_eq_true,
    externalFlags_solution]
  constructor
  · rintro ⟨⟨⟨-, hreachable⟩, hinternal⟩, hexternal⟩
    refine ⟨?_, hinternal, hexternal⟩
    by_contra hnot
    rw [if_neg hnot] at hreachable
    cases hreachable
  · rintro ⟨hreachable, hinternal, hexternal⟩
    refine ⟨⟨⟨if_pos ?_, if_pos hreachable⟩, hinternal⟩, hexternal⟩
    cases fixed with
    | some i => rfl
    | none => exact choose_found hreachable hinternal

end Solution

/-- What the checked solver returns is a solution of the target. -/
theorem exists_solution_of_solve {r : Robot Float} {target : Frame Float}
    {external : ExternalJoints Float} {fixed : Option Number} {reference : RobotJoints Float}
    {s : Solution Float} (h : r.solve target external fixed reference = .ok s) :
    ∃ configuration : Option Configuration,
      s = r.solution target.copied external configuration reference := by
  simp only [solve] at h
  obtain ⟨-, -, h⟩ := bind_eq_ok.1 h
  obtain ⟨-, -, h⟩ := bind_eq_ok.1 h
  obtain ⟨seen, -, h⟩ := bind_eq_ok.1 h
  obtain ⟨-, -, h⟩ := bind_eq_ok.1 h
  split at h
  · cases h
  · split at h
    · exact ⟨none, (Except.ok.inj h).symm⟩
    · split at h
      · exact ⟨_, (Except.ok.inj h).symm⟩
      · cases h

end Robot

end SixAxis
