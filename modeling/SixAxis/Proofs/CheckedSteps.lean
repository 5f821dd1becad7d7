import Mathlib.Data.List.Forall2
import SixAxis.Fault

/-!
# Checked computations step by step

A checked computation is a chain of steps, each of which can be a fault.  The chain succeeds when
all steps do, and otherwise its fault is that of the first step that has one.

* `bind_eq_ok`, `bind_eq_error`, `bind_eq_map` — a step and the rest of the chain;
* `run_bind`, `run_get`, `run_modify` — the same where the steps share a state;
* `mapM_eq_ok_iff`, `exists_mapM_iff` — a chain over a list, whose results stand beside its members;
* `forIn_checkWhere_eq_ok_iff`, `forIn_check_eq_ok_iff` — loops over a list that only check;
* `FaultsIn` — computations whose faults are of a kind, one step after another;
* `NoActionFault` — computations whose faults are not those of actions.
-/

namespace SixAxis

variable {α β γ : Type}

theorem exists_ok_of_toBool {x : Checked α} (h : x.toBool = true) : ∃ a, x = .ok a := by
  cases x with
  | error e => cases h
  | ok a => exact ⟨a, rfl⟩

/-- A result of some kind is one. -/
theorem exists_ok_of_any {x : Checked α} {p : α → Bool} (h : x.toOption.any p = true) :
    ∃ a, x = .ok a ∧ p a = true := by
  cases x with
  | error e => cases h
  | ok a => exact ⟨a, rfl, h⟩

/-- A computation that is checked in two steps succeeds when both do. -/
theorem bind_eq_ok {x : Checked α} {f : α → Checked β} {b : β} :
    x >>= f = .ok b ↔ ∃ a, x = .ok a ∧ f a = .ok b := by
  cases x with
  | error e =>
    constructor
    · intro h
      cases h
    · rintro ⟨a, ha, -⟩
      cases ha
  | ok a =>
    constructor
    · intro h
      exact ⟨a, rfl, h⟩
    · rintro ⟨a', ha, h⟩
      cases ha
      exact h

/-- A computation that is checked in two steps has the fault of the first one, or that of the
second one after the first succeeded. -/
theorem bind_eq_error {x : Checked α} {f : α → Checked β} {e : Fault} :
    x >>= f = .error e ↔ x = .error e ∨ ∃ a, x = .ok a ∧ f a = .error e := by
  cases x with
  | error e' =>
    constructor
    · intro h
      cases h
      exact .inl rfl
    · rintro (h | ⟨a, ha, -⟩)
      · cases h
        rfl
      · cases ha
  | ok a =>
    constructor
    · intro h
      exact .inr ⟨a, rfl, h⟩
    · rintro (h | ⟨a', ha, h⟩)
      · cases h
      · cases ha
        exact h

/-- A computation with a state, in two steps: the second one goes on from the state that the first
one leaves, unless that had a fault. -/
theorem run_bind {σ : Type} (x : ExceptT Fault (StateM σ) α) (f : α → ExceptT Fault (StateM σ) β)
    (s : σ) :
    (x >>= f).run.run s =
      match x.run.run s with
      | (.ok a, next) => (f a).run.run next
      | (.error e, next) => (.error e, next) := by
  simp only [ExceptT.run_bind, StateT.run_bind]
  rcases x.run.run s with ⟨_ | _, _⟩ <;> rfl

theorem run_get {σ : Type} (s : σ) : (get : ExceptT Fault (StateM σ) σ).run.run s = (.ok s, s) := rfl

theorem run_modify {σ : Type} (f : σ → σ) (s : σ) :
    (modify f : ExceptT Fault (StateM σ) PUnit).run.run s = (.ok ⟨⟩, f s) := rfl

/-- Two computations that start with the same step come to related results if the rest does. -/
theorem bind_eq_map {x : Checked α} {f : α → Checked β} {g : α → Checked γ} {h : β → γ}
    (hstep : ∀ a, g a = (f a).map h) : x >>= g = (x >>= f).map h := by
  cases x with
  | error e => rfl
  | ok a => exact hstep a

/-- A checked list, step by step. -/
theorem mapM_eq_ok_iff {f : α → Checked β} {as : List α} {bs : List β} :
    as.mapM f = .ok bs ↔ List.Forall₂ (fun a b => f a = .ok b) as bs := by
  induction as generalizing bs with
  | nil =>
    rw [List.mapM_nil, List.forall₂_nil_left_iff]
    exact ⟨fun h => (Except.ok.inj h).symm, fun h => congrArg Except.ok h.symm⟩
  | cons a as ih =>
    rw [List.mapM_cons]
    constructor
    · intro h
      obtain ⟨b, hb, h⟩ := bind_eq_ok.1 h
      obtain ⟨rest, hrest, h⟩ := bind_eq_ok.1 h
      cases h
      exact .cons hb (ih.1 hrest)
    · rintro (_ | ⟨hb, hrest⟩)
      rw [hb, ih.2 hrest]
      rfl

/-- A checked list has a result exactly if every member has one. -/
theorem exists_mapM_iff {f : α → Checked β} {as : List α} :
    (∃ bs, as.mapM f = .ok bs) ↔ ∀ a ∈ as, ∃ b, f a = .ok b := by
  simp only [mapM_eq_ok_iff]
  induction as with
  | nil => exact ⟨fun _ _ h => absurd h List.not_mem_nil, fun _ => ⟨[], .nil⟩⟩
  | cons a as ih =>
    rw [List.forall_mem_cons, ← ih]
    constructor
    · rintro ⟨-, _ | ⟨hb, hrest⟩⟩
      exact ⟨⟨_, hb⟩, _, hrest⟩
    · rintro ⟨⟨b, hb⟩, bs, hrest⟩
      exact ⟨b :: bs, .cons hb hrest⟩

/-- A loop that only checks those members that a condition picks. -/
theorem forIn_checkWhere_eq_ok_iff {p : α → Prop} [DecidablePred p] {f : α → Checked β}
    {as : List α} :
    (forIn as PUnit.unit fun a _ =>
      if p a then do
        let _ ← f a
        pure (ForInStep.yield PUnit.unit)
      else (pure (ForInStep.yield PUnit.unit) : Checked (ForInStep PUnit))) = .ok ⟨⟩ ↔
      ∀ a ∈ as, p a → ∃ b, f a = .ok b := by
  induction as with
  | nil => exact ⟨fun _ _ h => absurd h List.not_mem_nil, fun _ => rfl⟩
  | cons a as ih =>
    rw [List.forIn_cons, List.forall_mem_cons, ← ih, bind_eq_ok]
    by_cases hp : p a
    · rw [if_pos hp]
      constructor
      · rintro ⟨step, hstep, hrest⟩
        obtain ⟨b, hb, hyield⟩ := bind_eq_ok.1 hstep
        cases hyield
        exact ⟨fun _ => ⟨b, hb⟩, hrest⟩
      · rintro ⟨hchecked, hrest⟩
        obtain ⟨b, hb⟩ := hchecked hp
        exact ⟨.yield ⟨⟩, bind_eq_ok.2 ⟨b, hb, rfl⟩, hrest⟩
    · rw [if_neg hp]
      constructor
      · rintro ⟨step, hstep, hrest⟩
        cases hstep
        exact ⟨fun h => absurd h hp, hrest⟩
      · rintro ⟨-, hrest⟩
        exact ⟨.yield ⟨⟩, rfl, hrest⟩

/-- A loop that only checks, member by member. -/
theorem forIn_check_eq_ok_iff {f : α → Checked β} {as : List α} :
    (forIn as PUnit.unit fun a _ => (do
      let _ ← f a
      pure (ForInStep.yield PUnit.unit) : Checked (ForInStep PUnit))) = .ok ⟨⟩ ↔
      ∀ a ∈ as, ∃ b, f a = .ok b := by
  have hall := @forIn_checkWhere_eq_ok_iff α β (fun _ => True) _ f as
  simpa only [if_true, true_imp_iff] using hall

/-! ### Lists in step -/

section Pairs

variable {α β : Type} {R : α → β → Prop} {as : List α} {bs : List β} {a : α} {b : β}

theorem exists_pair_of_mem_left (h : List.Forall₂ R as bs) (ha : a ∈ as) :
    ∃ b, (a, b) ∈ as.zip bs ∧ R a b := by
  obtain ⟨hlength, hrelated⟩ := List.forall₂_iff_zip.1 h
  rw [← List.map_fst_zip (Nat.le_of_eq hlength)] at ha
  obtain ⟨⟨a', b⟩, hpair, rfl⟩ := List.mem_map.1 ha
  exact ⟨b, hpair, hrelated hpair⟩

theorem exists_pair_of_mem_right (h : List.Forall₂ R as bs) (hb : b ∈ bs) :
    ∃ a, (a, b) ∈ as.zip bs ∧ R a b := by
  obtain ⟨hlength, hrelated⟩ := List.forall₂_iff_zip.1 h
  rw [← List.map_snd_zip (Nat.le_of_eq hlength.symm)] at hb
  obtain ⟨⟨a, b'⟩, hpair, rfl⟩ := List.mem_map.1 hb
  exact ⟨a, hpair, hrelated hpair⟩

theorem related_of_getElem? (h : List.Forall₂ R as bs) {i : Nat} (ha : as[i]? = some a)
    (hb : bs[i]? = some b) : R a b :=
  (List.forall₂_iff_zip.1 h).2 (List.mem_of_getElem? (List.getElem?_zip_eq_some.2 ⟨ha, hb⟩))

end Pairs

/-! ### Faults of a kind -/

/-- A computation whose fault, if it has one, is of a kind. -/
def FaultsIn (P : Fault → Prop) (x : Checked α) : Prop := ∀ f, x = .error f → P f

namespace FaultsIn

variable {P Q : Fault → Prop} {x : Checked α}

theorem ok (a : α) : FaultsIn P (.ok a : Checked α) := by
  intro f h
  cases h

theorem error {f : Fault} (hf : P f) : FaultsIn P (.error f : Checked α) := by
  intro g h
  cases h
  exact hf

theorem mono (hx : FaultsIn P x) (hkind : ∀ f, P f → Q f) : FaultsIn Q x :=
  fun f h => hkind f (hx f h)

theorem bind {f : α → Checked β} (hx : FaultsIn P x) (hf : ∀ a, x = .ok a → FaultsIn P (f a)) :
    FaultsIn P (x >>= f) := by
  intro e h
  rcases bind_eq_error.1 h with h | ⟨a, ha, h⟩
  · exact hx e h
  · exact hf a ha e h

theorem map (hx : FaultsIn P x) (f : α → β) : FaultsIn P (x.map f) := by
  cases x with
  | ok a => exact ok (f a)
  | error e => exact error (hx e rfl)

theorem ite {p : Prop} [Decidable p] {x y : Checked α} (hx : p → FaultsIn P x)
    (hy : ¬p → FaultsIn P y) : FaultsIn P (if p then x else y) := by
  by_cases hp : p
  · rw [if_pos hp]
    exact hx hp
  · rw [if_neg hp]
    exact hy hp

theorem mapM {f : α → Checked β} {as : List α} (hf : ∀ a ∈ as, FaultsIn P (f a)) :
    FaultsIn P (as.mapM f) := by
  induction as with
  | nil =>
    rw [List.mapM_nil]
    exact ok []
  | cons a as ih =>
    rw [List.mapM_cons]
    refine (hf a List.mem_cons_self).bind fun b _ => ?_
    exact (ih fun a' ha' => hf a' (List.mem_cons_of_mem a ha')).bind fun bs _ => ok (b :: bs)

theorem foldlM {f : β → α → Checked β} {as : List α} (hf : ∀ a ∈ as, ∀ b, FaultsIn P (f b a))
    (b : β) : FaultsIn P (as.foldlM f b) := by
  induction as generalizing b with
  | nil => exact ok b
  | cons a as ih =>
    rw [List.foldlM_cons]
    refine (hf a List.mem_cons_self b).bind fun c _ => ?_
    exact ih (fun a' ha' => hf a' (List.mem_cons_of_mem a ha')) c

theorem forIn {f : α → β → Checked (ForInStep β)} {as : List α}
    (hf : ∀ a ∈ as, ∀ b, FaultsIn P (f a b)) (b : β) : FaultsIn P (forIn as b f) := by
  induction as generalizing b with
  | nil => exact ok b
  | cons a as ih =>
    rw [List.forIn_cons]
    refine (hf a List.mem_cons_self b).bind fun step _ => ?_
    cases step with
    | done b => exact ok b
    | yield b => exact ih (fun a' ha' => hf a' (List.mem_cons_of_mem a ha')) b

end FaultsIn

/-! ### Faults that are not those of actions -/

/-- A computation whose fault, if it has one, is not that of an action. -/
def NoActionFault (x : Checked α) : Prop := ∀ f : ActionFault, x ≠ .error (.action f)

theorem noActionFault_iff {x : Checked α} :
    NoActionFault x ↔ FaultsIn (fun e => ∀ f, e ≠ .action f) x :=
  ⟨fun h _ he f hf => h f (hf ▸ he), fun h f he => h _ he f rfl⟩

namespace NoActionFault

theorem ok (a : α) : NoActionFault (.ok a : Checked α) := noActionFault_iff.2 (.ok a)

theorem bind {x : Checked α} {f : α → Checked β} (hx : NoActionFault x)
    (hf : ∀ a, x = .ok a → NoActionFault (f a)) : NoActionFault (x >>= f) :=
  noActionFault_iff.2 <| (noActionFault_iff.1 hx).bind fun a ha => noActionFault_iff.1 (hf a ha)

theorem map {x : Checked α} (hx : NoActionFault x) (f : α → β) : NoActionFault (x.map f) :=
  noActionFault_iff.2 ((noActionFault_iff.1 hx).map f)

theorem mapM {f : α → Checked β} (hf : ∀ a, NoActionFault (f a)) (as : List α) :
    NoActionFault (as.mapM f) :=
  noActionFault_iff.2 (.mapM fun a _ => noActionFault_iff.1 (hf a))

end NoActionFault

end SixAxis
