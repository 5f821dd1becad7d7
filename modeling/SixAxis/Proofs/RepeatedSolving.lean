import SixAxis.Proofs.CandidateSelection

/-!
# A solver that is used again

A solution is what a solver shows after it has solved a target.  It can also be seen as an object
that is asked something and *finds* it step by step, on whatever it found the last time: it forgets
the reports, resolves the external axes, tries the candidates, selects one and appends a report of
everything that is wrong.  Both views agree, so nothing of an earlier call survives.

* `Question`, `Findings`, `Solving` — what is asked, what is found, and the steps;
* `Solving.run_reportInternal`, `Solving.run_judge` — what the two loops append;
* `Solving.run_calculate` — **one call** leaves the findings of `Robot.solution`;
* `Solving.calculate_settles` — **selection and diagnostics** after a call, and that another one
  changes nothing.
-/

namespace SixAxis

/-! ### Messages -/

namespace Report

theorem count_text_map {β : Type} [DecidableEq β] {f : β → Report} (hf : Function.Injective f)
    (l : List β) (b : β) : ((l.map f).map text).count (f b).text = l.count b := by
  rw [List.map_map]
  exact List.count_map_of_injective l (text ∘ f) (text_injective.comp hf) b

theorem count_text_eq_zero {l : List Report} {x : Report} (h : x ∉ l) :
    (l.map text).count x.text = 0 := by
  refine List.count_eq_zero_of_not_mem fun hmem => h ?_
  obtain ⟨y, hy, heq⟩ := List.mem_map.1 hmem
  rwa [← text_injective heq]

end Report

namespace Robot

section Solution

variable {R : Type} [Scalar R] (r : Robot R) (target : Frame R) (external : ExternalJoints R)
  (fixed : Option Configuration) (reference : RobotJoints R)

/-- A joint is told of once if its value is outside its limits, and not at all otherwise. -/
theorem count_internal (k : Fin 6) :
    let s := r.solution target external fixed reference
    (s.reports.map Report.text).count (Report.internal k).text =
      if s.chosen.flags.get k then 0 else 1 := by
  intro s
  have hinternal : ((internalReports s.chosen.flags).map Report.text).count
      (Report.internal k).text = if s.chosen.flags.get k then 0 else 1 := by
    rw [internalReports, Report.count_text_map fun _ _ h => Report.internal.inj h,
      ((List.nodup_finRange 6).filter _).count]
    cases hflag : s.chosen.flags.get k <;> simp [hflag]
  have hothers {l : List Report} (h : .internal k ∉ l) :
      (l.map Report.text).count (Report.internal k).text = 0 := Report.count_text_eq_zero h
  rw [reports_eq, List.map_append, List.map_append, List.map_append, List.count_append,
    List.count_append, List.count_append, hinternal, hothers (by split <;> simp),
    hothers (by split <;> simp), hothers (by simp [externalReports]), zero_add, zero_add, add_zero]

/-- A slot is told of once if the axis in it has a value outside its limits, and not at all
otherwise. -/
theorem count_external (slot : Fin 6) :
    let s := r.solution target external fixed reference
    (s.reports.map Report.text).count (Report.external slot).text =
      if s.externalFlags.get slot then 0 else 1 := by
  intro s
  set misfits := r.misfits s.external false with hmisfits
  have hnodup : (misfits.map (·.slot)).Nodup :=
    r.slots_nodup.sublist (List.filter_sublist.map _)
  have hexternal : ((externalReports misfits).map Report.text).count (Report.external slot).text =
      if s.externalFlags.get slot then 0 else 1 := by
    have hsplit : externalReports misfits = (misfits.map (·.slot)).map .external := by
      rw [externalReports, List.map_map]
      rfl
    have hflag : s.externalFlags.get slot = !misfits.any (·.slot = slot) := get_externalFlags _ _
    have hmem : slot ∈ misfits.map (·.slot) ↔ misfits.any (·.slot = slot) = true := by
      simp
    rw [hsplit, Report.count_text_map fun _ _ h => Report.external.inj h, hnodup.count, hflag]
    cases hany : misfits.any (·.slot = slot) with
    | true => exact if_pos (hmem.2 hany)
    | false => exact if_neg fun h => Bool.false_ne_true (hany.symm.trans (hmem.1 h))
  have hothers {l : List Report} (h : .external slot ∉ l) :
      (l.map Report.text).count (Report.external slot).text = 0 := Report.count_text_eq_zero h
  rw [reports_eq, List.map_append, List.map_append, List.map_append, List.count_append,
    List.count_append, List.count_append, ← hmisfits, hexternal, hothers (by split <;> simp),
    hothers (by split <;> simp), hothers (by simp [internalReports]), zero_add, zero_add, zero_add]

end Solution

end Robot

/-! ### Questions and findings -/

/-- What a solver is asked. -/
structure Question (R : Type) [Scalar R] where
  robot : Robot R
  target : Frame R
  given : ExternalJoints R
  fixed : Option Configuration
  reference : RobotJoints R

/-- What a solver shows of the call before. -/
structure Findings (R : Type) where
  external : ExternalJoints R
  /-- The eight candidates; none before the first call. -/
  candidates : Option (Vector (Candidate R) 8)
  joints : RobotJoints R
  configuration : Configuration
  internalFlags : Vector Bool 6
  externalFlags : Vector Bool 6
  reports : List Report

namespace Findings

/-- The findings of a solution. -/
def ofSolution {R : Type} (s : Solution R) : Findings R where
  external := s.external
  candidates := some s.candidates
  joints := s.joints
  configuration := s.chosen.configuration
  internalFlags := s.chosen.flags
  externalFlags := s.externalFlags
  reports := s.reports

/-- The messages. -/
def messages {R : Type} (s : Findings R) : List String := s.reports.map Report.text

/-- Whether all values are within the limits. -/
def inLimits {R : Type} (s : Findings R) : Bool :=
  s.internalFlags.toList.all id && s.externalFlags.toList.all id

end Findings

/-- Computations that find things as they go.  What was found before a fault stays. -/
abbrev Solving (R α : Type) := ExceptT Fault (StateM (Findings R)) α

namespace Question

variable {R : Type} [Scalar R]

/-- The solution of the target. -/
def solution (q : Question R) : Solution R :=
  q.robot.solution q.target q.given q.fixed q.reference

/-- The values of the external axes. -/
def resolved (q : Question R) : ExternalJoints R := q.robot.resolve q.given q.target

/-- The target seen from the base where the external axes have values. -/
def seen (q : Question R) (external : ExternalJoints R) : Frame R :=
  q.target.moved (q.robot.baseChange external).inverse

/-- The eight candidates. -/
def candidates (q : Question R) : Vector (Candidate R) 8 :=
  q.robot.candidates q.reference (q.seen q.resolved)

/-- Whether a cosine of the arm divides by zero. -/
def isDegenerate (q : Question R) : Bool :=
  q.robot.isDegenerateFor (q.seen q.resolved) q.reference

end Question

namespace Solving

variable {R : Type}

/-! ### The steps -/

/-- Appends a report. -/
def report (x : Report) : Solving R Unit :=
  modify fun s => { s with reports := s.reports ++ [x] }

/-- Appends a report about a candidate out of reach. -/
def reportReach (c : Candidate R) : Solving R Unit :=
  if c.reachable then pure () else report .outOfReach

/-- Appends a report for every joint whose flag is not set. -/
def reportInternal (flags : Vector Bool 6) (joints : List (Fin 6)) : Solving R Unit :=
  joints.forM fun i => if flags.get i then pure () else report (.internal i)

variable [Scalar R]

/-- The eight candidates, unless one of their cosines divides by zero. -/
def tryAll (q : Question R) (seen : Frame R) : Solving R (Vector (Candidate R) 8) :=
  if q.robot.isDegenerateFor seen q.reference then throw (Misuse.zeroDivisor none : Fault)
  else return q.robot.candidates q.reference seen

/-- The candidate that a question selects, and whether it is asked for or within reach and
limits. -/
def selected (q : Question R) (candidates : Vector (Candidate R) 8) : Candidate R × Bool :=
  match q.fixed with
  | some i => (candidates.get i, true)
  | none => Robot.choose candidates q.reference

/-- Selects one of the candidates, and appends a report if it is the best of bad ones. -/
def select (q : Question R) (candidates : Vector (Candidate R) 8) : Solving R (Candidate R) := do
  let (chosen, found) := selected q candidates
  if !found then report .noConfiguration
  return chosen

/-- Clears the flag of an axis whose value is outside its limits, and reports it. -/
def judge (a : AttachedAxis R) : Solving R Unit := do
  if Robot.axisFits a (← get).external then return
  modify fun s => { s with externalFlags := s.externalFlags.set a.slot false }
  report (.external a.slot)

/-- The answer to a call. -/
def calculate (q : Question R) : Solving R Unit := do
  modify fun s => { s with reports := [] }
  modify fun s => { s with external := q.resolved }
  let candidates ← tryAll q (q.seen (← get).external)
  modify fun s => { s with candidates := some candidates }
  let chosen ← select q candidates
  modify fun s =>
    { s with
      joints := chosen.joints
      configuration := chosen.configuration
      internalFlags := chosen.flags }
  reportReach chosen
  reportInternal chosen.flags (List.finRange 6)
  modify fun s => { s with externalFlags := Vector.replicate 6 true }
  q.robot.axes.forM judge

/-! ### What the steps find -/

omit [Scalar R] in
theorem run_reportReach (c : Candidate R) (s : Findings R) :
    (reportReach c).run.run s =
      (.ok (), { s with
        reports := s.reports ++ if c.reachable then [] else [.outOfReach] }) := by
  rw [reportReach]
  cases c.reachable with
  | true =>
    simp only [if_true, List.append_nil]
    rfl
  | false => rfl

omit [Scalar R] in
/-- The joints are reported in order, behind what was reported before. -/
theorem run_reportInternal (flags : Vector Bool 6) (joints : List (Fin 6)) (s : Findings R) :
    (reportInternal flags joints).run.run s =
      (.ok (), { s with
        reports := s.reports ++ (joints.filter fun i => !flags.get i).map .internal }) := by
  induction joints generalizing s with
  | nil =>
    rw [List.filter_nil, List.map_nil, List.append_nil]
    rfl
  | cons i rest ih =>
    have hstep : reportInternal flags (i :: rest) =
        (if flags.get i then pure () else report (.internal i) : Solving R Unit)
          >>= fun _ => reportInternal flags rest := rfl
    rw [hstep, run_bind]
    cases hflag : flags.get i with
    | true =>
      rw [List.filter_cons_of_neg (by simp [hflag])]
      exact ih s
    | false =>
      rw [List.filter_cons_of_pos (by simp [hflag]), List.map_cons, List.append_cons]
      exact ih { s with reports := s.reports ++ [.internal i] }

theorem get_set_flag (flags : Vector Bool 6) (slot i : Fin 6) :
    (flags.set slot false).get i = (flags.get i && !decide (slot = i)) := by
  show (flags.set slot.val false)[i.val] = (flags[i.val] && !decide (slot = i))
  rw [Vector.getElem_set]
  by_cases h : slot = i
  · rw [if_pos (congrArg Fin.val h), decide_eq_true h, Bool.not_true, Bool.and_false]
  · rw [if_neg (fun hval => h (Fin.ext hval)), decide_eq_false h, Bool.not_false, Bool.and_true]

/-- The flags after one more axis was found to be outside its limits. -/
theorem clear_flags (flags : Vector Bool 6) (a : AttachedAxis R) (rest : List (AttachedAxis R)) :
    (Vector.ofFn fun i : Fin 6 =>
        (flags.set a.slot false).get i && (Robot.externalFlags rest).get i) =
      Vector.ofFn fun i : Fin 6 => flags.get i && (Robot.externalFlags (a :: rest)).get i := by
  congr 1
  funext i
  rw [get_set_flag, Robot.get_externalFlags, Robot.get_externalFlags, List.any_cons, Bool.not_or,
    Bool.and_assoc]

theorem run_judge_one (a : AttachedAxis R) (s : Findings R) :
    (judge a).run.run s =
      if Robot.axisFits a s.external then (.ok (), s)
      else (.ok (), { s with
        externalFlags := s.externalFlags.set a.slot false
        reports := s.reports ++ [.external a.slot] }) := by
  rw [judge, run_bind, run_get]
  by_cases hfits : Robot.axisFits a s.external = true
  · simp only [hfits, if_true]
    rfl
  · simp only [hfits]
    rfl

/-- The axes are judged in order, by the values that were found before. -/
theorem run_judge (axes : List (AttachedAxis R)) (s : Findings R) :
    let outside := axes.filter fun a => !Robot.axisFits a s.external
    (axes.forM judge : Solving R Unit).run.run s =
      (.ok (), { s with
        externalFlags := Vector.ofFn fun i =>
          s.externalFlags.get i && (Robot.externalFlags outside).get i
        reports := s.reports ++ Robot.externalReports outside }) := by
  induction axes generalizing s with
  | nil =>
    intro outside
    have hflags : (Vector.ofFn fun i : Fin 6 =>
        s.externalFlags.get i && (Robot.externalFlags ([] : List (AttachedAxis R))).get i) =
          s.externalFlags := by
      ext k hk
      simp [Robot.externalFlags, Vector.get]
    have houtside : outside = [] := List.filter_nil
    rw [houtside, hflags, Robot.externalReports, List.map_nil, List.append_nil]
    rfl
  | cons a rest ih =>
    have hstep : ((a :: rest).forM judge : Solving R Unit) =
        judge a >>= fun _ => rest.forM judge := rfl
    intro outside
    rw [hstep, run_bind]
    cases hfits : Robot.axisFits a s.external with
    | true =>
      have hrun : (judge a).run.run s = (.ok (), s) := by
        rw [run_judge_one, if_pos hfits]
      have houtside : outside = rest.filter fun a => !Robot.axisFits a s.external :=
        List.filter_cons_of_neg (by simp [hfits])
      rw [hrun, houtside]
      exact ih s
    | false =>
      set cleared : Findings R := { s with
        externalFlags := s.externalFlags.set a.slot false
        reports := s.reports ++ [.external a.slot] } with hcleared
      have hrun : (judge a).run.run s = (.ok (), cleared) := by
        rw [run_judge_one, if_neg (by simp [hfits])]
      have houtside : outside = a :: rest.filter fun a => !Robot.axisFits a s.external :=
        List.filter_cons_of_pos (by simp [hfits])
      -- Judging changes no value, so the rest is judged by the same ones.
      rw [hrun, houtside, ← clear_flags, Robot.externalReports, List.map_cons, List.append_cons]
      exact ih cleared

theorem run_tryAll (q : Question R) (seen : Frame R) (s : Findings R) :
    (tryAll q seen).run.run s =
      if q.robot.isDegenerateFor seen q.reference then (.error (Misuse.zeroDivisor none), s)
      else (.ok (q.robot.candidates q.reference seen), s) := by
  rw [tryAll]
  split <;> rfl

theorem run_select (q : Question R) (candidates : Vector (Candidate R) 8) (s : Findings R) :
    (select q candidates).run.run s =
      (.ok (selected q candidates).1, { s with
        reports := s.reports
          ++ if (selected q candidates).2 then [] else [.noConfiguration] }) := by
  rw [select]
  obtain ⟨chosen, found⟩ := selected q candidates
  cases found with
  | true =>
    simp only [if_true, List.append_nil]
    rfl
  | false => rfl

/-- The solution by what is selected. -/
theorem solution_eq (q : Question R) :
    let candidates := q.robot.candidates q.reference (q.seen q.resolved)
    let chosen := (selected q candidates).1
    let misfits := q.robot.misfits q.resolved false
    q.solution =
      { external := q.resolved
        candidates := candidates
        chosen := chosen
        externalFlags := Robot.externalFlags misfits
        reports := (if (selected q candidates).2 then [] else [.noConfiguration])
          ++ (if chosen.reachable then [] else [.outOfReach])
          ++ Robot.internalReports chosen.flags ++ Robot.externalReports misfits } := by
  obtain ⟨robot, target, given, fixed, reference⟩ := q
  -- A candidate that is asked for is selected even if it is out of reach or limits.
  cases fixed with
  | some i => rfl
  | none => rfl

/-- Where all axes are judged, no flag of an axis before counts. -/
theorem ofFn_externalFlags (misfits : List (AttachedAxis R)) :
    (Vector.ofFn fun i : Fin 6 =>
        (Vector.replicate 6 true).get i && (Robot.externalFlags misfits).get i) =
      Robot.externalFlags misfits := by
  ext k hk
  have htrue : (Vector.replicate 6 true).get ⟨k, hk⟩ = true := by
    simp [Vector.get]
  rw [Vector.getElem_ofFn, htrue, Bool.true_and]
  rfl

/-- **One call**: whatever was found before, a call leaves the findings of the solution, unless a
cosine of the arm divides by zero. -/
theorem run_calculate (q : Question R) (s : Findings R) :
    (calculate q).run.run s =
      if q.isDegenerate then
        (.error (Misuse.zeroDivisor none), { s with reports := [], external := q.resolved })
      else (.ok (), .ofSolution q.solution) := by
  have hdegenerate : q.isDegenerate =
      q.robot.isDegenerateFor (q.seen q.resolved) q.reference := rfl
  simp only [calculate, run_bind, run_modify, run_get, run_tryAll, ← hdegenerate]
  by_cases h : q.isDegenerate = true
  · simp only [h, if_true]
  · have hmisfits : (q.robot.axes.filter fun a => !Robot.axisFits a q.resolved) =
        q.robot.misfits q.resolved false := by
      simp only [Robot.misfits, Bool.not_false, Bool.true_or, Bool.true_and]
    simp only [h, run_select, run_reportReach, run_reportInternal, run_judge, Bool.false_eq_true,
      if_false, hmisfits, ofFn_externalFlags, solution_eq]
    rfl

/-- A call that is repeated finds the same, and leaves the same. -/
theorem run_calculate_again (q : Question R) (s : Findings R) :
    (calculate q).run.run ((calculate q).run.run s).2 = (calculate q).run.run s := by
  rw [run_calculate q s]
  by_cases h : q.isDegenerate = true
  · rw [if_pos h, run_calculate, if_pos h]
  · rw [if_neg h, run_calculate, if_neg h]

end Solving

/-! ### After a call -/

namespace ArmPlane

theorem isDegenerate_iff (p : ArmPlane ℝ) (reach : ℝ) :
    p.isDegenerate reach = true ↔ p.upperArm.length = 0 ∧ epsilon ≤ reach := by
  rw [isDegenerate, Bool.and_eq_true, Bool.not_eq_true', decide_eq_false_iff_not, not_lt,
    Scalar.beq_real, decide_eq_true_eq, Scalar.literal_two, Scalar.literal_zero]
  constructor
  · rintro ⟨hreach, hzero⟩
    have hne : reach ≠ 0 := (epsilon_pos.trans_le hreach).ne'
    refine ⟨?_, hreach⟩
    rcases mul_eq_zero.1 hzero with h | h
    · exact (mul_eq_zero.1 h).resolve_left two_ne_zero
    · exact absurd h hne
  · rintro ⟨hupper, hreach⟩
    exact ⟨hreach, by rw [hupper, mul_zero, zero_mul]⟩

end ArmPlane

namespace Question

/-- Whether the cosine at the shoulder has no value: the upper arm has no length in the arm plane,
and in some branch the wrist centre is not on the shoulder. -/
def DividesByZero (q : Question ℝ) : Prop :=
  (ArmPlane.ofRobot q.robot).upperArm.length = 0
    ∧ ∃ behind, epsilon ≤ q.robot.reach q.reference (q.seen q.resolved) behind

theorem isDegenerate_iff (q : Question ℝ) : q.isDegenerate = true ↔ q.DividesByZero := by
  have hbranch (behind : Bool) := ArmPlane.isDegenerate_iff (ArmPlane.ofRobot q.robot)
    (q.robot.reach q.reference (q.seen q.resolved) behind)
  have hany : q.isDegenerate = true ↔ ∃ behind, (ArmPlane.ofRobot q.robot).isDegenerate
      (q.robot.reach q.reference (q.seen q.resolved) behind) = true := by
    simp only [isDegenerate, Robot.isDegenerateFor, List.any_cons, List.any_nil, Bool.or_false,
      Bool.or_eq_true, Bool.exists_bool]
    rfl
  rw [hany, DividesByZero]
  simp only [hbranch, exists_and_left]

/-- What a call leaves, with one candidate chosen. -/
structure IsSettled (q : Question ℝ) (s : Findings ℝ) (chosen : Candidate ℝ) : Prop where
  external_eq : s.external = q.resolved
  candidates_eq : s.candidates = some q.candidates
  joints_eq : s.joints = chosen.joints
  configuration_eq : s.configuration = chosen.configuration
  flags_eq : s.internalFlags = chosen.flags
  /-- The configuration that is asked for is chosen. -/
  fixed : ∀ i, q.fixed = some i → chosen = q.candidates.get i
  /-- Without one, the best candidate is chosen. -/
  automatic : q.fixed = none → Robot.IsBest q.candidates q.reference chosen
  numbered : ∀ i, (q.candidates.get i).configuration = i
  /-- A candidate is outside its limits by nothing exactly if it is within all of them. -/
  violation : ∀ i, (q.candidates.get i).violation = 0 ↔ (q.candidates.get i).inLimits = true
  internal_flag : ∀ k, s.internalFlags.get k = (q.robot.jointLimits.get k).contains (s.joints.get k)
  external_flag : ∀ slot, s.externalFlags.get slot = false ↔
    ∃ a ∈ q.robot.axes, a.slot = slot ∧ Robot.axisFits a s.external = false
  /-- There is no message exactly if the target is within reach and all limits. -/
  silent : s.messages = [] ↔ chosen.reachable = true ∧ s.inLimits = true
  /-- There is one message for each joint outside its limits, and none for the others. -/
  internal : ∀ k, s.messages.count (Report.internal k).text =
    if s.internalFlags.get k then 0 else 1
  /-- The same for each external axis. -/
  external : ∀ slot, s.messages.count (Report.external slot).text =
    if s.externalFlags.get slot then 0 else 1

theorem isSettled_solution (q : Question ℝ) :
    q.IsSettled (.ofSolution q.solution) q.solution.chosen where
  external_eq := rfl
  candidates_eq := rfl
  joints_eq := rfl
  configuration_eq := rfl
  flags_eq := rfl
  fixed i hi := by
    rw [Solving.solution_eq, Solving.selected, hi]
    rfl
  automatic hnone := by
    rw [Solving.solution_eq, Solving.selected, hnone]
    exact Robot.choose_isBest _ _
  numbered i := by
    rw [candidates, Robot.candidates_get, Robot.candidate_eq]
    exact Configuration.configuration_choices i
  violation i := Candidate.violation_eq_zero_iff (Vector.mem_toList_iff.2 (Vector.getElem_mem _))
  internal_flag k := by
    have hflags := Robot.flags_chosen q.robot q.target q.given q.fixed q.reference
    exact (congrArg (fun flags => flags.get k) hflags).trans (Robot.get_internalFlags _ _ k)
  external_flag slot := by
    show (Robot.externalFlags (q.robot.misfits q.resolved false)).get slot = false ↔ _
    rw [Robot.get_externalFlags, Bool.not_eq_false', List.any_eq_true]
    simp only [Robot.misfits, List.mem_filter, decide_eq_true_eq, Bool.not_false, Bool.true_or,
      Bool.true_and, Bool.not_eq_true']
    constructor
    · rintro ⟨a, ⟨ha, hfits⟩, hslot⟩
      exact ⟨a, ha, hslot, hfits⟩
    · rintro ⟨a, ha, hslot, hfits⟩
      exact ⟨a, ⟨ha, hfits⟩, hslot⟩
  silent := by
    rw [Findings.messages, List.map_eq_nil_iff]
    exact Robot.reports_eq_nil_iff q.robot q.target q.given q.fixed q.reference
  internal k := Robot.count_internal q.robot q.target q.given q.fixed q.reference k
  external slot := Robot.count_external q.robot q.target q.given q.fixed q.reference slot

end Question

/-- **Selection and diagnostics.**  Whatever a solver found before, a call settles the question,
with one of the eight candidates chosen, unless there are no candidates because the cosine at the
shoulder has no value; and the same call again comes to the same and changes nothing. -/
theorem Solving.calculate_settles (q : Question ℝ) (before : Findings ℝ) :
    let run := (calculate q).run.run before
    (¬ q.DividesByZero ∧ run.1 = .ok () ∧ (∃ chosen, q.IsSettled run.2 chosen)
        ∨ q.DividesByZero ∧ run.1 = .error (Misuse.zeroDivisor none))
      ∧ (calculate q).run.run run.2 = run := by
  intro run
  refine ⟨?_, run_calculate_again q before⟩
  by_cases h : q.isDegenerate = true
  · refine Or.inr ⟨q.isDegenerate_iff.1 h, ?_⟩
    simp only [run, run_calculate, if_pos h]
  · refine Or.inl ⟨fun hzero => h (q.isDegenerate_iff.2 hzero), ?_, q.solution.chosen, ?_⟩
    · simp only [run, run_calculate, if_neg h]
    · simp only [run, run_calculate, if_neg h]
      exact q.isSettled_solution

end SixAxis
