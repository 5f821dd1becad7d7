import SixAxis.Proofs.DeclarationItems

/-!
# The declaration pass over items

Whatever the first pass over a program collects, and whatever stops it, is a function of the items
of the program.  The solutions that it keeps on the way are shown by no text, so drafts are compared
in outline, without them.

* `Item.enter` — what an item adds to a draft;
* `drawUp` — the pass over a list of items;
* `Drafting.outlined_action` — **one action**: the pass over an action is the pass over its items;
* `Drafting.outlined_all` — **all actions**: the same for a program.
-/

namespace SixAxis

/-! ### Adding items to a draft -/

namespace Draft

/-- A draft without the solutions. -/
def outline (d : Draft) : Draft := { d with solutions := [] }

/-- The draft with an item and its declaration added. -/
def add (d : Draft) (i : Item) (code : String) : Draft :=
  { d with
    declared := d.declared ++ i.entry.toList
    declarations := d.declarations ++ [code]
    warnings := d.warnings ++ i.warnings }

/-- Goes on unless the name is taken; data of another kind under it are a fault. -/
def unlessTaken (d : Draft) (l : Label) (fresh : Checked Draft) : Checked Draft :=
  match d.kindOf? l.name with
  | none => fresh
  | some earlier =>
    if earlier = l.type.kind then .ok d
    else .error (ActionFault.twoKinds l.name earlier.className l.type.kind.className)

end Draft

/-- What an item adds to a draft.  A target is looked up before it is solved, other data after
their declaration is known. -/
def Item.enter (i : Item) (d : Draft) : Checked Draft :=
  match i.label with
  | none => i.code.map fun code => if code.isEmpty then d else d.add i code
  | some l =>
    if l.type.kind = .target then d.unlessTaken l (i.code.map (d.add i))
    else do
      let code ← i.code
      if code.isEmpty then .ok d else d.unlessTaken l (.ok (d.add i code))

theorem Item.enter_ofData {l : Label} {code : Checked String} (hdata : l.type.kind ≠ .target)
    (opens : ∀ text, code = .ok text → text ≠ "" → l.Opens text) (d : Draft) :
    (Item.ofData l code hdata opens).enter d = (do
      let text ← code
      if text.isEmpty then .ok d
      else d.unlessTaken l (.ok (d.add (.ofData l code hdata opens) text))) := by
  exact if_neg hdata

theorem Item.enter_ofLine (code : Checked String) (d : Draft) :
    (Item.ofLine code).enter d =
      code.map fun text => if text.isEmpty then d else d.add (.ofLine code) text := by
  rfl

/-- The pass over a list of items: its outcome, and the draft that it has come to. -/
def drawUp : List Item → Draft → Checked Unit × Draft
  | [], d => (.ok (), d)
  | i :: rest, d =>
    match i.enter d with
    | .error f => (.error f, d)
    | .ok next => drawUp rest next

theorem drawUp_append (xs ys : List Item) (d : Draft) :
    drawUp (xs ++ ys) d =
      match drawUp xs d with
      | (.ok (), next) => drawUp ys next
      | (.error f, next) => (.error f, next) := by
  induction xs generalizing d with
  | nil => rfl
  | cons i rest ih =>
    simp only [List.cons_append, drawUp]
    cases i.enter d with
    | error f => rfl
    | ok next => exact ih next

theorem drawUp_singleton (i : Item) (d : Draft) :
    drawUp [i] d =
      match i.enter d with
      | .error f => (.error f, d)
      | .ok next => (.ok (), next) := by
  rfl

/-! ### Running the pass -/

/-- The outcome of a run with the outline of the draft that it has come to. -/
def outlined (p : Checked Unit × Draft) : Checked Unit × Draft := (p.1, p.2.outline)

namespace Drafting

variable {α β : Type}

theorem run_ofChecked (x : Checked α) (d : Draft) : (ofChecked x).run.run d = (x, d) := rfl

theorem run_isDeclared (name : String) (kind : DataKind) (d : Draft) :
    (isDeclared name kind).run.run d =
      match d.kindOf? name with
      | none => (.ok false, d)
      | some earlier =>
        if earlier = kind then (.ok true, d)
        else (.error (ActionFault.twoKinds name earlier.className kind.className), d) := by
  rw [isDeclared, run_bind]
  show (match d.kindOf? name with | none => _ | some _ => _ : Drafting Bool).run.run d = _
  cases d.kindOf? name with
  | none => rfl
  | some earlier =>
    simp only
    split <;> rfl

theorem run_register (name : String) (kind : DataKind) (code : String) (d : Draft) :
    (register name kind code).run.run d =
      if code.isEmpty then (.ok (), d)
      else
        match d.kindOf? name with
        | none =>
          (.ok (), { d with
            declared := d.declared ++ [(name, kind)]
            declarations := d.declarations ++ [code] })
        | some earlier =>
          if earlier = kind then (.ok (), d)
          else (.error (ActionFault.twoKinds name earlier.className kind.className), d) := by
  rw [register]
  by_cases hcode : code.isEmpty = true
  · rw [if_pos hcode, if_pos hcode]
    rfl
  · rw [if_neg hcode, if_neg hcode, run_bind, run_isDeclared]
    cases d.kindOf? name with
    | none => rfl
    | some earlier =>
      by_cases hkind : earlier = kind
      · simp only [if_pos hkind]
        rfl
      · simp only [if_neg hkind]

theorem run_plain (code : String) (d : Draft) :
    (plain code).run.run d =
      (.ok (),
        if code.isEmpty then d else { d with declarations := d.declarations ++ [code] }) := by
  rw [plain]
  by_cases hcode : code.isEmpty = true
  · rw [if_pos hcode, if_pos hcode]
    rfl
  · rw [if_neg hcode, if_neg hcode]
    rfl

/-- Two runs after another are the pass over the items of both. -/
theorem outlined_bind {x : Drafting Unit} {y : Unit → Drafting Unit} {xs ys : List Item} {d : Draft}
    (hx : outlined (x.run.run d) = drawUp xs d.outline)
    (hy : ∀ next, outlined ((y ()).run.run next) = drawUp ys next.outline) :
    outlined ((x >>= y).run.run d) = drawUp (xs ++ ys) d.outline := by
  rw [run_bind, drawUp_append, ← hx]
  rcases x.run.run d with ⟨f | u, next⟩
  · rfl
  · exact hy next

theorem outlined_register {l : Label} (code : Checked String) (hdata : l.type.kind ≠ .target)
    (opens : ∀ text, code = .ok text → text ≠ "" → l.Opens text) (d : Draft) :
    outlined ((ofChecked code >>= register l.name l.type.kind).run.run d) =
      drawUp [.ofData l code hdata opens] d.outline := by
  rw [run_bind, run_ofChecked, drawUp_singleton, Item.enter_ofData]
  cases code with
  | error f => rfl
  | ok code =>
    show outlined ((register l.name l.type.kind code).run.run d) =
      match (if code.isEmpty then _ else Draft.unlessTaken _ l _ : Checked Draft) with
        | .error f => _
        | .ok next => _
    rw [run_register]
    by_cases hcode : code.isEmpty = true
    · simp only [if_pos hcode]
      rfl
    · simp only [if_neg hcode, Draft.unlessTaken]
      show _ = match (match d.kindOf? l.name with | none => _ | some _ => _ : Checked Draft) with
        | .error f => _
        | .ok next => _
      cases d.kindOf? l.name with
      | none =>
        simp only [Draft.add, Item.ofData, List.append_nil]
        rfl
      | some earlier =>
        by_cases hkind : earlier = l.type.kind
        · simp only [if_pos hkind]
          rfl
        · simp only [if_neg hkind]
          rfl

/-- A target is declared with its solution, and nothing happens where it is declared already. -/
theorem run_target (m : Movement) (r : Robot Float) (d : Draft) :
    (target m r).run.run d =
      match d.kindOf? m.variableName with
      | none =>
        match m.solution r with
        | .error f => (.error f, d)
        | .ok s =>
          (.ok (), { d with
            declared := d.declared ++ [(m.variableName, .target)]
            declarations := d.declarations ++ [m.declarationOf s]
            warnings := d.warnings ++ m.warningsOf s
            solutions := d.solutions ++ [s] })
      | some earlier =>
        if earlier = .target then (.ok (), d)
        else (.error (ActionFault.twoKinds m.variableName earlier.className
          DataKind.target.className), d) := by
  rw [target, run_bind, run_isDeclared]
  cases hkind : d.kindOf? m.variableName with
  | none =>
    show (ofChecked (m.solution r) >>= _ : Drafting Unit).run.run d = _
    rw [run_bind, run_ofChecked]
    cases m.solution r with
    | error f => rfl
    | ok s =>
      have hcode : ¬ (m.declarationOf s).isEmpty = true := by
        rw [String.isEmpty_iff]
        exact (m.opens_declarationOf s).ne_empty
      have hfree : Draft.kindOf? { d with solutions := d.solutions ++ [s] } m.variableName = none :=
        hkind
      show ((register m.variableName .target (m.declarationOf s) >>= _ : Drafting Unit).run.run
        { d with solutions := d.solutions ++ [s] }) = _
      rw [run_bind, run_register, if_neg hcode, hfree]
      rfl
  | some earlier =>
    by_cases htarget : earlier = .target
    · simp only [if_pos htarget]
      rfl
    · simp only [if_neg htarget]

theorem outlined_target (m : Movement) (r : Robot Float) (d : Draft) :
    outlined ((target m r).run.run d) = drawUp [m.targetItem r] d.outline := by
  rw [run_target, drawUp_singleton]
  show _ = match (if m.label.type.kind = .target then _ else _ : Checked Draft) with
    | .error f => _
    | .ok next => _
  rw [if_pos m.kind_label]
  show _ = match (match d.kindOf? m.variableName with
      | none => _
      | some _ => _ : Checked Draft) with
    | .error f => _
    | .ok next => _
  cases d.kindOf? m.variableName with
  | none =>
    show _ = match (Except.map _ (m.declaration (some r)) : Checked Draft) with
      | .error f => _
      | .ok next => _
    rw [Movement.declaration]
    cases hs : m.solution r with
    | error f => rfl
    | ok s =>
      have hwarnings : (m.targetItem r).warnings = m.warningsOf s := by
        simp only [Movement.targetItem, hs]
        rfl
      show _ = (Except.ok (), d.outline.add (m.targetItem r) (m.declarationOf s))
      rw [Draft.add, hwarnings, Item.entry]
      show _ = (Except.ok (), Draft.mk (d.declared ++ [m.label.entry]) _ _ _)
      rw [Label.entry, m.kind_label]
      rfl
  | some earlier =>
    rw [m.kind_label]
    by_cases htarget : earlier = .target
    · simp only [if_pos htarget]
      rfl
    · simp only [if_neg htarget]
      rfl

/-- The pass over a movement is the pass over its items. -/
theorem outlined_movement (m : Movement) (r : Robot Float) (d : Draft) :
    outlined ((movement m r).run.run d) = drawUp (m.items r) d.outline := by
  have hsteps : movement m r =
      (ofChecked m.speed.declaration >>= register m.speed.label.name m.speed.label.type.kind) >>=
        fun _ => (ofChecked m.zone.declaration >>=
          register m.zone.label.name m.zone.label.type.kind) >>=
        fun _ => (ofChecked (.ok m.workObject.declaration) >>=
          register m.workObject.label.name m.workObject.label.type.kind) >>=
        fun _ => target m r := by
    simp only [bind_assoc]
    rfl
  rw [hsteps]
  refine outlined_bind (outlined_register _ _ _ d) fun d => ?_
  refine outlined_bind (outlined_register _ _ _ d) fun d => ?_
  exact outlined_bind (outlined_register _ _ _ d) fun d => outlined_target m r d

theorem outlined_plain (code : Checked String) (d : Draft) :
    outlined ((ofChecked code >>= plain).run.run d) = drawUp [.ofLine code] d.outline := by
  rw [run_bind, run_ofChecked, drawUp_singleton, Item.enter_ofLine]
  cases code with
  | error f => rfl
  | ok code =>
    show outlined ((plain code).run.run d) =
      (.ok (), if code.isEmpty then d.outline else d.outline.add (.ofLine (.ok code)) code)
    rw [run_plain]
    by_cases hcode : code.isEmpty = true
    · simp only [if_pos hcode]
      rfl
    · simp only [if_neg hcode, Draft.add, Item.ofLine, List.append_nil]
      show (_, _) = (_, _)
      simp only [Draft.outline, Item.entry, Option.map_none, Option.toList_none, List.append_nil]

/-- **One action**: the pass over an action is the pass over its items. -/
theorem outlined_action (a : Action) (r : Robot Float) (d : Draft) :
    outlined ((action a r).run.run d) = drawUp (a.items r) d.outline := by
  cases a with
  | movement m => exact outlined_movement m r d
  | joints j =>
    show outlined ((register j.label.name .jointPosition j.declaration).run.run d) =
      drawUp [j.item] d.outline
    rw [← j.kind_label]
    exact outlined_register (.ok j.declaration) _ _ d
  | comment c => exact outlined_plain _ d
  | timer t => exact outlined_plain _ d
  | output o => exact outlined_plain _ d
  | wait w => exact outlined_plain _ d
  | freeConfiguration enabled => exact outlined_plain _ d
  | code c => exact outlined_plain _ d

/-- **All actions**: the pass over some actions is the pass over their items, one after another. -/
theorem outlined_all (actions : List Action) (r : Robot Float) (d : Draft) :
    outlined ((all (programOf actions) r).run.run d) = drawUp (itemsOf actions r) d.outline := by
  induction actions generalizing d with
  | nil => rfl
  | cons a rest ih => exact outlined_bind (outlined_action a r d) ih

end Drafting

end SixAxis
