import SixAxis.Proofs.DeclarationSection
import SixAxis.Proofs.Doubles
import SixAxis.Proofs.WrittenRows

/-!
# What a history leaves in a tool table

A table can be seen as an object that is changed in place, by calls of which each may fail.  Whatever
the calls were, it is an ordered map: the tools stand under their names, each name once, in the order
in which the places were taken.

* `Keeping` — changes in place;
* `ToolTable.outcome_call` — **one call**: what it answers and what it leaves, case by case;
* `ToolTable.IsOrderedMap` — names and tools, kept by every call;
* `ToolTable.Stands` — which call took the place of an entry, and which one its tool is from;
* `ToolTable.entries_history_again` — a tool that is taken out and registered again comes last;
* `SystemModule.text_eq_ok_iff` — when a system module is written, and what it is then;
* `ToolTable.followsHistory` — **any history**, with the system module that is written from what it
  leaves.
-/

namespace SixAxis

/-! ### Changes in place -/

/-- Computations that change a table in place.  What was changed before a fault stays. -/
abbrev Keeping (α : Type) := ExceptT Fault (StateM ToolTable) α

namespace ToolTable

/-- What can be asked of a table. -/
inductive Call where
  | register (tool : Tool Float) (replace : Bool)
  | unregister (name : Datum)
  | clear

/-- The table with a tool under its name: in its place if the name has one, else at the end. -/
def put (t : ToolTable) (tool : Tool Float) : ToolTable :=
  { t with
    entries :=
      if t.contains tool.name then
        t.entries.map fun e => if tool.name.same e.1 then (e.1, tool) else e
      else t.entries ++ [(tool.name, tool)] }

/-- The table without a name. -/
def without (t : ToolTable) (name : Datum) : ToolTable :=
  { t with entries := t.entries.filter (!name.same ·.1) }

/-- The outcome of registering, case by case. -/
theorem register_eq (t : ToolTable) (tool : Tool Float) (replace : Bool) :
    t.register tool replace =
      if tool.name.isText Tool.standardName then
        .error (ConfigurationFault.predefinedTool tool.name)
      else if !tool.name.isKey then .error Misuse.illTyped
      else if t.contains tool.name && !replace then
        .error (ConfigurationFault.takenTool tool.name t.owner)
      else .ok (t.put tool) := by
  rw [register, checkName, put]
  cases tool.name.isText Tool.standardName with
  | true => rfl
  | false => cases tool.name.isKey with
    | false => rfl
    | true => cases t.contains tool.name with
      | false => rfl
      | true => cases replace <;> rfl

/-- The outcome of taking a tool out, case by case. -/
theorem unregister_eq (t : ToolTable) (name : Datum) :
    t.unregister name =
      if !name.isKey then .error Misuse.illTyped
      else match t.get? name with
        | none => .error (ConfigurationFault.unregisteredTool name t.owner t.names)
        | some tool => .ok (tool, t.without name) := by
  rw [unregister, checkName]
  cases name.isKey with
  | false => rfl
  | true => cases t.get? name with
    | none => rfl
    | some tool => rfl

end ToolTable

namespace Keeping

/-- A result that leaves the table alone. -/
def ofChecked {α : Type} (x : Checked α) : Keeping α := ExceptT.mk (pure x)

/-- Adds a tool, or puts it in the place of one with its name. -/
def register (tool : Tool Float) (replace : Bool) : Keeping Unit := do
  if tool.name.isText Tool.standardName then
    ofChecked (.error (ConfigurationFault.predefinedTool tool.name))
  ofChecked (ToolTable.checkName tool.name)
  let t ← get
  if t.contains tool.name && !replace then
    ofChecked (.error (ConfigurationFault.takenTool tool.name t.owner))
  set (t.put tool)

/-- Takes a tool out. -/
def unregister (name : Datum) : Keeping (Tool Float) := do
  ofChecked (ToolTable.checkName name)
  let t ← get
  match t.get? name with
  | none => ofChecked (.error (ConfigurationFault.unregisteredTool name t.owner t.names))
  | some tool => do
    set (t.without name)
    return tool

/-- The answer to a call: the tool that is taken out, if one is. -/
def call : ToolTable.Call → Keeping (Option (Tool Float))
  | .register tool replace => do
    register tool replace
    return none
  | .unregister name => some <$> unregister name
  | .clear => do
    modify ToolTable.clear
    return none

theorem run_ofChecked {α : Type} (x : Checked α) (t : ToolTable) :
    (ofChecked x).run.run t = (x, t) := rfl

/-- Registering in place comes to the same as on a value, and leaves the table where it fails. -/
theorem run_register (tool : Tool Float) (replace : Bool) (t : ToolTable) :
    (register tool replace).run.run t =
      match t.register tool replace with
      | .ok t' => (.ok (), t')
      | .error f => (.error f, t) := by
  rw [ToolTable.register_eq, register, ToolTable.checkName]
  cases tool.name.isText Tool.standardName with
  | true => rfl
  | false => cases tool.name.isKey with
    | false => rfl
    | true =>
      simp only [run_bind, run_ofChecked, run_get, Bool.false_eq_true, if_false, if_true]
      cases t.contains tool.name && !replace with
      | true => rfl
      | false => rfl

/-- Taking a tool out in place comes to the same as on a value, and leaves the table where it
fails. -/
theorem run_unregister (name : Datum) (t : ToolTable) :
    (unregister name).run.run t =
      match t.unregister name with
      | .ok (tool, t') => (.ok tool, t')
      | .error f => (.error f, t) := by
  rw [ToolTable.unregister_eq, unregister, ToolTable.checkName]
  cases name.isKey with
  | false => rfl
  | true =>
    simp only [run_bind, run_ofChecked, run_get, if_true]
    cases t.get? name with
    | none => rfl
    | some tool => rfl

end Keeping

namespace ToolTable

variable {t t' : ToolTable} {c : Call} {answer : Checked (Option (Tool Float))}

/-- Everything that a call can answer and leave. -/
inductive Outcome (t : ToolTable) :
    Call → Checked (Option (Tool Float)) → ToolTable → Prop where
  | predefined {tool : Tool Float} {replace : Bool}
      (standard : tool.name.isText Tool.standardName = true) :
      Outcome t (.register tool replace)
        (.error (ConfigurationFault.predefinedTool tool.name)) t
  | nameless {tool : Tool Float} {replace : Bool} (noKey : tool.name.isKey = false) :
      Outcome t (.register tool replace) (.error Misuse.illTyped) t
  | taken {tool : Tool Float} (other : tool.name.isText Tool.standardName = false)
      (key : tool.name.isKey = true) (there : t.contains tool.name = true) :
      Outcome t (.register tool false)
        (.error (ConfigurationFault.takenTool tool.name t.owner)) t
  | put {tool : Tool Float} {replace : Bool} (other : tool.name.isText Tool.standardName = false)
      (key : tool.name.isKey = true) (free : t.contains tool.name = true → replace = true) :
      Outcome t (.register tool replace) (.ok none) (t.put tool)
  | unnamed {name : Datum} (noKey : name.isKey = false) :
      Outcome t (.unregister name) (.error Misuse.illTyped) t
  | unknown {name : Datum} (key : name.isKey = true) (absent : t.get? name = none) :
      Outcome t (.unregister name)
        (.error (ConfigurationFault.unregisteredTool name t.owner t.names)) t
  | removed {name : Datum} {tool : Tool Float} (key : name.isKey = true)
      (there : t.get? name = some tool) :
      Outcome t (.unregister name) (.ok (some tool)) (t.without name)
  | cleared : Outcome t .clear (.ok none) t.clear

/-- **One call** has one of these outcomes. -/
theorem outcome_call (t : ToolTable) (c : Call) :
    t.Outcome c ((Keeping.call c).run.run t).1 ((Keeping.call c).run.run t).2 := by
  cases c with
  | register tool replace =>
    rw [Keeping.call, run_bind, Keeping.run_register, register_eq]
    cases hstandard : tool.name.isText Tool.standardName with
    | true => exact .predefined hstandard
    | false => cases hkey : tool.name.isKey with
      | false => exact .nameless hkey
      | true => cases hthere : t.contains tool.name with
        | false => exact .put hstandard hkey fun h => absurd (hthere.symm.trans h) Bool.false_ne_true
        | true => cases replace with
          | false => exact .taken hstandard hkey hthere
          | true => exact .put hstandard hkey fun _ => rfl
  | unregister name =>
    have hcall : (Keeping.call (.unregister name)).run.run t =
        match t.unregister name with
        | .ok (tool, t') => (.ok (some tool), t')
        | .error f => (.error f, t) := by
      show (Keeping.unregister name >>= fun tool => pure (some tool)).run.run t = _
      rw [run_bind, Keeping.run_unregister]
      rcases t.unregister name with f | ⟨tool, t'⟩ <;> rfl
    rw [hcall, unregister_eq]
    cases hkey : name.isKey with
    | false => exact .unnamed hkey
    | true => cases hthere : t.get? name with
      | none => exact .unknown hkey hthere
      | some tool => exact .removed hkey hthere
  | clear => exact .cleared

/-! ### Names and tools -/

/-- The tools stand under their names, each name once, and the standard tool is not among them. -/
structure IsOrderedMap (t : ToolTable) : Prop where
  keyed : ∀ e ∈ t.entries, e.1.isKey = true
  named : ∀ e ∈ t.entries, e.1 = e.2.name ∨ e.2.name.same e.1 = true
  distinct : t.names.Pairwise fun a b => a.same b = false
  names_other : ∀ e ∈ t.entries, e.1.isText Tool.standardName = false
  tools_other : ∀ e ∈ t.entries, e.2.name.isText Tool.standardName = false

theorem contains_eq_false_iff (t : ToolTable) (name : Datum) :
    t.contains name = false ↔ ∀ e ∈ t.entries, name.same e.1 = false := by
  rw [contains, List.any_eq_false, names, List.forall_mem_map]
  simp only [Bool.not_eq_true]

theorem get?_eq_none_iff (t : ToolTable) (name : Datum) :
    t.get? name = none ↔ t.contains name = false := by
  rw [contains_eq_false_iff, get?, Option.map_eq_none_iff, List.find?_eq_none]
  simp only [Bool.not_eq_true]

theorem names_put_of_contains {tool : Tool Float} (h : t.contains tool.name = true) :
    (t.put tool).names = t.names := by
  rw [put, if_pos h, names, names, List.map_map]
  refine List.map_congr_left fun e _ => ?_
  show (if tool.name.same e.1 then (e.1, tool) else e).1 = e.1
  split <;> rfl

theorem isOrderedMap_empty (owner : Datum) : (empty owner).IsOrderedMap where
  keyed _ h := nomatch h
  named _ h := nomatch h
  distinct := .nil
  names_other _ h := nomatch h
  tools_other _ h := nomatch h

/-- The entries after a tool was put in: those before, and that of the tool. -/
theorem mem_put {tool : Tool Float} {e : Datum × Tool Float} (h : e ∈ (t.put tool).entries) :
    e ∈ t.entries ∨ e.2 = tool ∧
      (e.1 = tool.name ∨ ∃ old ∈ t.entries, e.1 = old.1 ∧ tool.name.same old.1 = true) := by
  rw [ToolTable.put] at h
  by_cases hthere : t.contains tool.name = true
  · simp only [if_pos hthere] at h
    obtain ⟨old, hold, rfl⟩ := List.mem_map.1 h
    by_cases hsame : tool.name.same old.1 = true
    · rw [if_pos hsame]
      exact .inr ⟨rfl, .inr ⟨old, hold, rfl, hsame⟩⟩
    · rw [if_neg hsame]
      exact .inl hold
  · simp only [if_neg hthere] at h
    rcases List.mem_append.1 h with hold | hnew
    · exact .inl hold
    · rw [List.mem_singleton.1 hnew]
      exact .inr ⟨rfl, .inl rfl⟩

theorem IsOrderedMap.distinct_put (h : t.IsOrderedMap) {tool : Tool Float}
    (key : tool.name.isKey = true) :
    (t.put tool).names.Pairwise fun a b => a.same b = false := by
  by_cases hthere : t.contains tool.name = true
  · rw [names_put_of_contains hthere]
    exact h.distinct
  · -- The new name is last, so it is the names before it that have to differ from it.
    have hfree := (contains_eq_false_iff t _).1 (Bool.eq_false_iff.2 hthere)
    have hnames : (t.put tool).names = t.names ++ [tool.name] := by
      rw [ToolTable.put, if_neg hthere, names, names, List.map_append]
      rfl
    rw [hnames, List.pairwise_append]
    refine ⟨h.distinct, List.pairwise_singleton _ _, ?_⟩
    intro name hname last hlast
    obtain ⟨e, he, rfl⟩ := List.mem_map.1 hname
    rw [List.mem_singleton.1 hlast, Datum.same_comm (h.keyed e he) key]
    exact hfree e he

theorem IsOrderedMap.put (h : t.IsOrderedMap) {tool : Tool Float} (key : tool.name.isKey = true)
    (other : tool.name.isText Tool.standardName = false) : (t.put tool).IsOrderedMap where
  keyed e he := by
    rcases mem_put he with hold | ⟨-, hname | ⟨old, hold, hname, -⟩⟩
    · exact h.keyed e hold
    · rw [hname]
      exact key
    · rw [hname]
      exact h.keyed old hold
  named e he := by
    rcases mem_put he with hold | ⟨rfl, hname | ⟨old, -, hname, hsame⟩⟩
    · exact h.named e hold
    · exact .inl hname
    · rw [hname]
      exact .inr hsame
  distinct := h.distinct_put key
  names_other e he := by
    rcases mem_put he with hold | ⟨-, hname | ⟨old, hold, hname, -⟩⟩
    · exact h.names_other e hold
    · rw [hname]
      exact other
    · rw [hname]
      exact h.names_other old hold
  tools_other e he := by
    rcases mem_put he with hold | ⟨rfl, -⟩
    · exact h.tools_other e hold
    · exact other

theorem IsOrderedMap.without (h : t.IsOrderedMap) (name : Datum) :
    (t.without name).IsOrderedMap where
  keyed e he := h.keyed e (List.mem_of_mem_filter he)
  named e he := h.named e (List.mem_of_mem_filter he)
  distinct := h.distinct.sublist (List.filter_sublist.map _)
  names_other e he := h.names_other e (List.mem_of_mem_filter he)
  tools_other e he := h.tools_other e (List.mem_of_mem_filter he)

/-- Every call keeps an ordered map one. -/
theorem IsOrderedMap.outcome (h : t.IsOrderedMap) (hcall : t.Outcome c answer t') :
    t'.IsOrderedMap := by
  cases hcall with
  | predefined | nameless | taken | unnamed | unknown => exact h
  | put other key _ => exact h.put key other
  | removed _ _ => exact h.without _
  | cleared => exact isOrderedMap_empty _

/-- Every call leaves the table with its owner. -/
theorem Outcome.owner_eq (h : t.Outcome c answer t') : t'.owner = t.owner := by
  cases h <;> rfl

/-! ### Histories -/

/-- The table that some calls leave, whatever these came to. -/
def history (owner : Datum) (calls : List Call) : ToolTable :=
  calls.foldl (fun t c => ((Keeping.call c).run.run t).2) (empty owner)

variable {owner : Datum} {calls : List Call}

theorem history_snoc (owner : Datum) (calls : List Call) (c : Call) :
    history owner (calls ++ [c]) = ((Keeping.call c).run.run (history owner calls)).2 := by
  rw [history, List.foldl_append]
  rfl

/-- Some last call of a history has one of the outcomes of a call. -/
theorem exists_outcome_snoc (owner : Datum) (calls : List Call) (c : Call) :
    ∃ answer, (history owner calls).Outcome c answer (history owner (calls ++ [c])) := by
  rw [history_snoc]
  exact ⟨_, outcome_call _ c⟩

theorem isOrderedMap_history (owner : Datum) (calls : List Call) :
    (history owner calls).IsOrderedMap := by
  induction calls using List.reverseRecOn with
  | nil => exact isOrderedMap_empty owner
  | append_singleton calls c ih =>
    obtain ⟨answer, hcall⟩ := exists_outcome_snoc owner calls c
    exact ih.outcome hcall

/-- The messages of a history are those for one owner. -/
theorem owner_history (owner : Datum) (calls : List Call) : (history owner calls).owner = owner := by
  induction calls using List.reverseRecOn with
  | nil => rfl
  | append_singleton calls c ih =>
    obtain ⟨answer, hcall⟩ := exists_outcome_snoc owner calls c
    exact hcall.owner_eq.trans ih

/-- A call took the place of an entry, under a name that was free, and the place was never given up
since; the tool in it is that of the latest call that put one there. -/
structure Stands (owner : Datum) (calls : List Call) (i : Nat) (e : Datum × Tool Float) :
    Prop where
  taken : ∃ tool replace, calls[i]? = some (.register tool replace) ∧ tool.name = e.1
  free : (history owner (calls.take i)).contains e.1 = false
  kept : ∀ j, i < j → j ≤ calls.length → e.1 ∈ (history owner (calls.take j)).names
  latest : ∃ k replace, i ≤ k ∧ calls[k]? = some (.register e.2 replace) ∧
    ∀ j, k < j → j ≤ calls.length → e ∈ (history owner (calls.take j)).entries

theorem Stands.lt_length {i : Nat} {e : Datum × Tool Float} (h : Stands owner calls i e) :
    i < calls.length := by
  obtain ⟨tool, replace, hcall, -⟩ := h.taken
  exact (List.getElem?_eq_some_iff.1 hcall).1

/-- What is said of the tables after some calls, up to one more, holds if it does up to these and
after the last. -/
theorem forall_le_snoc (P : ToolTable → Prop) {i : Nat} (c : Call)
    (h : ∀ j, i < j → j ≤ calls.length → P (history owner (calls.take j)))
    (hlast : P (history owner (calls ++ [c]))) :
    ∀ j, i < j → j ≤ (calls ++ [c]).length → P (history owner ((calls ++ [c]).take j)) := by
  intro j hij hj
  rw [List.length_append, List.length_singleton] at hj
  by_cases hle : j ≤ calls.length
  · rw [List.take_append_of_le_length hle]
    exact h j hij hle
  · have hall : (calls ++ [c]).take j = calls ++ [c] := by
      refine List.take_of_length_le ?_
      rw [List.length_append, List.length_singleton]
      omega
    rw [hall]
    exact hlast

/-- An entry that is still there after one more call stands where it stood, perhaps with the tool of
that call. -/
theorem Stands.snoc {i : Nat} {name : Datum} {old new : Tool Float}
    (h : Stands owner calls i (name, old))
    (hmem : (name, new) ∈ (history owner (calls ++ [c])).entries)
    (hnew : new = old ∨ ∃ replace, c = .register new replace) :
    Stands owner (calls ++ [c]) i (name, new) where
  taken := by
    obtain ⟨tool, replace, hcall, hname⟩ := h.taken
    exact ⟨tool, replace, by rw [List.getElem?_append_left h.lt_length, hcall], hname⟩
  free := by
    rw [List.take_append_of_le_length h.lt_length.le]
    exact h.free
  kept := forall_le_snoc (name ∈ names ·) c h.kept (List.mem_map_of_mem hmem)
  latest := by
    rcases hnew with rfl | ⟨replace, rfl⟩
    · obtain ⟨k, replace, hik, hcall, hkept⟩ := h.latest
      have hk : k < calls.length := (List.getElem?_eq_some_iff.1 hcall).1
      exact ⟨k, replace, hik, by rw [List.getElem?_append_left hk, hcall],
        forall_le_snoc ((name, new) ∈ entries ·) c hkept hmem⟩
    · refine ⟨calls.length, replace, h.lt_length.le, by simp,
        forall_le_snoc ((name, new) ∈ entries ·) _ ?_ hmem⟩
      intro j hlt hle
      omega

/-- A registered tool whose name was free stands where it was registered. -/
theorem stands_last {tool : Tool Float} {replace : Bool}
    (hfree : (history owner calls).contains tool.name = false)
    (hmem : (tool.name, tool) ∈ (history owner (calls ++ [.register tool replace])).entries) :
    Stands owner (calls ++ [.register tool replace]) calls.length (tool.name, tool) where
  taken := ⟨tool, replace, by simp, rfl⟩
  free := by
    rw [List.take_left]
    exact hfree
  kept := by
    refine forall_le_snoc (tool.name ∈ names ·) _ (fun j hlt hle => ?_) (List.mem_map_of_mem hmem)
    omega
  latest := by
    refine ⟨calls.length, replace, le_rfl, by simp,
      forall_le_snoc ((tool.name, tool) ∈ entries ·) _ (fun j hlt hle => ?_) hmem⟩
    omega

/-- The entries of a table with the calls that took their places, in order. -/
structure ArePlaced (owner : Datum) (calls : List Call)
    (placed : List (Nat × (Datum × Tool Float))) : Prop where
  entries_eq : placed.map (·.2) = (history owner calls).entries
  ordered : placed.Pairwise fun p q => p.1 < q.1
  stands : ∀ p ∈ placed, Stands owner calls p.1 p.2

variable {placed : List (Nat × (Datum × Tool Float))}

theorem ArePlaced.mem_entries (h : ArePlaced owner calls placed)
    {p : Nat × (Datum × Tool Float)} (hp : p ∈ placed) : p.2 ∈ (history owner calls).entries := by
  rw [← h.entries_eq]
  exact List.mem_map_of_mem hp

/-- A call that leaves the entries leaves their places. -/
theorem ArePlaced.same (h : ArePlaced owner calls placed)
    (hsame : (history owner (calls ++ [c])).entries = (history owner calls).entries) :
    ArePlaced owner (calls ++ [c]) placed where
  entries_eq := by rw [h.entries_eq, hsame]
  ordered := h.ordered
  stands p hp := (h.stands p hp).snoc (by rw [hsame]; exact h.mem_entries hp) (.inl rfl)

/-- A tool that is put in the place of another keeps all places. -/
theorem ArePlaced.replaced (h : ArePlaced owner calls placed) {tool : Tool Float} {replace : Bool}
    (hentries : (history owner (calls ++ [.register tool replace])).entries =
      (history owner calls).entries.map fun e => if tool.name.same e.1 then (e.1, tool) else e) :
    ArePlaced owner (calls ++ [.register tool replace])
      (placed.map fun p => (p.1, if tool.name.same p.2.1 then (p.2.1, tool) else p.2)) where
  entries_eq := by
    rw [hentries, ← h.entries_eq, List.map_map, List.map_map]
    rfl
  ordered := by
    rw [List.pairwise_map]
    exact h.ordered
  stands p hp := by
    obtain ⟨⟨i, name, old⟩, hold, rfl⟩ := List.mem_map.1 hp
    have hmem : (if tool.name.same name then (name, tool) else (name, old)) ∈
        (history owner (calls ++ [.register tool replace])).entries := by
      rw [hentries]
      exact List.mem_map_of_mem (h.mem_entries hold)
    by_cases hname : tool.name.same name = true
    · simp only [if_pos hname] at hmem ⊢
      exact (h.stands _ hold).snoc hmem (.inr ⟨replace, rfl⟩)
    · simp only [if_neg hname] at hmem ⊢
      exact (h.stands _ hold).snoc hmem (.inl rfl)

/-- A tool under a free name takes the last place. -/
theorem ArePlaced.added (h : ArePlaced owner calls placed) {tool : Tool Float} {replace : Bool}
    (hfree : (history owner calls).contains tool.name = false)
    (hentries : (history owner (calls ++ [.register tool replace])).entries =
      (history owner calls).entries ++ [(tool.name, tool)]) :
    ArePlaced owner (calls ++ [.register tool replace])
      (placed ++ [(calls.length, (tool.name, tool))]) where
  entries_eq := by
    rw [hentries, ← h.entries_eq, List.map_append]
    rfl
  ordered := by
    refine List.pairwise_append.2 ⟨h.ordered, List.pairwise_singleton _ _, ?_⟩
    intro p hp q hq
    rw [List.mem_singleton.1 hq]
    exact (h.stands p hp).lt_length
  stands p hp := by
    rcases List.mem_append.1 hp with hold | hlast
    · refine (h.stands p hold).snoc ?_ (.inl rfl)
      rw [hentries]
      exact List.mem_append_left _ (h.mem_entries hold)
    · rw [List.mem_singleton.1 hlast]
      refine stands_last hfree ?_
      rw [hentries]
      exact List.mem_append_right _ (List.mem_singleton.2 rfl)

/-- Tools that are taken out give up their places, and the others keep theirs. -/
theorem ArePlaced.filtered (h : ArePlaced owner calls placed) (keep : Datum × Tool Float → Bool)
    (hentries : (history owner (calls ++ [c])).entries =
      (history owner calls).entries.filter keep) :
    ArePlaced owner (calls ++ [c]) (placed.filter fun p => keep p.2) where
  entries_eq := by
    rw [hentries, ← h.entries_eq, List.filter_map]
    rfl
  ordered := h.ordered.filter _
  stands p hp := by
    obtain ⟨hold, hkeep⟩ := List.mem_filter.1 hp
    refine (h.stands p hold).snoc ?_ (.inl rfl)
    rw [hentries]
    exact List.mem_filter.2 ⟨h.mem_entries hold, hkeep⟩

/-- **The entries stand in the order in which their places were taken.** -/
theorem exists_placed (owner : Datum) (calls : List Call) :
    ∃ placed, ArePlaced owner calls placed := by
  -- By the last call: only a tool under a free name takes a new place, and it is the last one.
  induction calls using List.reverseRecOn with
  | nil => exact ⟨[], rfl, .nil, fun _ h => nomatch h⟩
  | append_singleton calls c ih =>
    obtain ⟨placed, h⟩ := ih
    obtain ⟨answer, hcall⟩ := exists_outcome_snoc owner calls c
    generalize hnext : history owner (calls ++ [c]) = next at hcall
    cases hcall with
    | predefined | nameless | taken | unnamed | unknown =>
      exact ⟨placed, h.same (congrArg entries hnext)⟩
    | @put tool replace _ _ _ =>
      have hentries := congrArg entries hnext
      by_cases hthere : (history owner calls).contains tool.name = true
      · simp only [put, if_pos hthere] at hentries
        exact ⟨_, h.replaced hentries⟩
      · simp only [put, if_neg hthere] at hentries
        exact ⟨_, h.added (Bool.eq_false_iff.2 hthere) hentries⟩
    | removed _ _ => exact ⟨_, h.filtered _ (congrArg entries hnext)⟩
    | cleared =>
      have hentries : (history owner (calls ++ [.clear])).entries =
          (history owner calls).entries.filter fun _ => false := by
        rw [hnext, List.filter_false]
        rfl
      exact ⟨_, h.filtered _ hentries⟩

/-! ### Calls that are refused -/

/-- The names for which a table refuses a call: the one that is predefined and those that are taken,
and to take a tool out all that are unknown. -/
def Refuses (t : ToolTable) : Call → Prop
  | .register tool replace => tool.name.isText Tool.standardName = true ∨
      tool.name.isKey = true ∧ t.contains tool.name = true ∧ replace = false
  | .unregister name => name.isKey = true ∧ t.contains name = false
  | .clear => False

/-- A text is a name that tools can be kept under; the standard one is refused before that is
asked. -/
theorem isKey_of_isText {name : Datum} {text : String} (h : name.isText text = true) :
    name.isKey = true := by
  cases name with
  | text s => rfl
  | _ => cases h

theorem not_configuration_ok (x : Option (Tool Float)) :
    ¬ ∃ f : ConfigurationFault, (.ok x : Checked (Option (Tool Float))) = .error f :=
  fun ⟨_, h⟩ => nomatch h

theorem not_configuration_misuse (m : Misuse) :
    ¬ ∃ f : ConfigurationFault, (.error m : Checked (Option (Tool Float))) = .error f :=
  fun ⟨_, h⟩ => nomatch h

/-- A call has a fault of the configuration exactly if the table refuses it. -/
theorem Outcome.configuration_iff (h : t.Outcome c answer t') :
    (∃ f : ConfigurationFault, answer = .error f) ↔ t.Refuses c := by
  cases h with
  | predefined standard => exact iff_of_true ⟨_, rfl⟩ (.inl standard)
  | nameless noKey =>
    refine iff_of_false (not_configuration_misuse _) ?_
    rintro (hstandard | ⟨hkey, -⟩)
    · exact Bool.eq_false_iff.1 noKey (isKey_of_isText hstandard)
    · exact Bool.eq_false_iff.1 noKey hkey
  | taken _ key there => exact iff_of_true ⟨_, rfl⟩ (.inr ⟨key, there, rfl⟩)
  | put other _ free =>
    refine iff_of_false (not_configuration_ok _) ?_
    rintro (hstandard | ⟨-, hthere, hkept⟩)
    · exact Bool.eq_false_iff.1 other hstandard
    · exact Bool.eq_false_iff.1 hkept (free hthere)
  | unnamed noKey =>
    exact iff_of_false (not_configuration_misuse _) fun h => Bool.eq_false_iff.1 noKey h.1
  | unknown key absent =>
    exact iff_of_true ⟨_, rfl⟩ ⟨key, (get?_eq_none_iff t _).1 absent⟩
  | removed _ there =>
    refine iff_of_false (not_configuration_ok _) fun h => ?_
    cases ((get?_eq_none_iff t _).2 h.2).symm.trans there
  | cleared => exact iff_of_false (not_configuration_ok _) id

/-- A call with a fault changes nothing. -/
theorem Outcome.eq_of_error {f : Fault} (h : t.Outcome c (.error f) t') : t' = t := by
  cases h <;> rfl

/-! ### Tools that are registered again -/

theorem Outcome.eq_put {tool : Tool Float} {replace : Bool}
    (h : t.Outcome (.register tool replace) answer t')
    (other : tool.name.isText Tool.standardName = false) (key : tool.name.isKey = true)
    (free : t.contains tool.name = true → replace = true) : t' = t.put tool := by
  cases h with
  | predefined standard => cases other.symm.trans standard
  | nameless noKey => cases key.symm.trans noKey
  | taken _ _ there => cases free there
  | put => rfl

theorem Outcome.eq_without {name : Datum} {removed : Tool Float}
    (h : t.Outcome (.unregister name) (.ok (some removed)) t') :
    name.isKey = true ∧ t' = t.without name := by
  cases h with
  | removed key _ => exact ⟨key, rfl⟩

theorem contains_without (t : ToolTable) (name : Datum) : (t.without name).contains name = false :=
  (contains_eq_false_iff _ name).2 fun _ he => by
    simpa only [Bool.not_eq_true'] using (List.mem_filter.1 he).2

/-- A tool that is taken out and registered again comes last. -/
theorem entries_history_again {tool removed : Tool Float} (replace : Bool)
    (other : tool.name.isText Tool.standardName = false)
    (hout : ((Keeping.call (.unregister tool.name)).run.run (history owner calls)).1 =
      .ok (some removed)) :
    (history owner (calls ++ [.unregister tool.name] ++ [.register tool replace])).entries =
      (history owner calls).entries.filter (!tool.name.same ·.1) ++ [(tool.name, tool)] := by
  have hremoved := outcome_call (history owner calls) (.unregister tool.name)
  rw [hout, ← history_snoc] at hremoved
  obtain ⟨key, hwithout⟩ := hremoved.eq_without
  have hfree := contains_without (history owner calls) tool.name
  obtain ⟨answer, hadded⟩ :=
    exists_outcome_snoc owner (calls ++ [.unregister tool.name]) (.register tool replace)
  rw [hwithout] at hadded
  rw [hadded.eq_put other key fun h => absurd (hfree.symm.trans h) Bool.false_ne_true, put,
    if_neg (Bool.eq_false_iff.1 hfree)]
  rfl

end ToolTable

/-! ### System modules -/

/-- A tool whose centre point stays in space, and whose mass is in the range of doubles. -/
def Tool.IsWritable (t : Tool Float) : Prop :=
  (∃ tcp, t.localTcp? = .ok tcp) ∧ ∃ mass, Number.toReal t.mass = .ok mass

/-- Such a tool has one declaration, in two lines and a blank one. -/
theorem Tool.IsWritable.exists_declared {t : Tool Float} (h : t.IsWritable) :
    ∃ tcp, t.localTcp? = .ok tcp ∧
      t.declared = [.toolPose t.name.display tcp, .toolLoad t.mass.value, .blank] := by
  obtain ⟨⟨tcp, htcp⟩, -⟩ := h
  rw [declared, htcp]
  exact ⟨tcp, rfl, rfl⟩

namespace SystemModule

theorem exists_toolLines_iff {t : Tool Float} :
    (∃ lines, toolLines t = .ok lines) ↔ t.IsWritable := by
  constructor
  · rintro ⟨lines, h⟩
    obtain ⟨tcp, htcp, h⟩ := bind_eq_ok.1 h
    obtain ⟨_, hmass, -⟩ := bind_eq_ok.1 h
    obtain ⟨mass, hmass, -⟩ := bind_eq_ok.1 hmass
    exact ⟨⟨tcp, htcp⟩, mass, hmass⟩
  · rintro ⟨⟨tcp, htcp⟩, mass, hmass⟩
    rw [toolLines, htcp, CodeNumber.ofNumber, hmass]
    exact ⟨_, rfl⟩

theorem exists_text_iff (settings : Settings) {tools : List (Tool Float)} :
    (∃ written, text settings tools = .ok written) ↔ ∀ t ∈ tools, t.IsWritable := by
  simp only [← exists_toolLines_iff, ← exists_mapM_iff]
  constructor
  · rintro ⟨written, h⟩
    obtain ⟨all, hall, -⟩ := bind_eq_ok.1 h
    obtain ⟨blocks, hblocks, -⟩ := bind_eq_ok.1 hall
    exact ⟨blocks, hblocks⟩
  · rintro ⟨blocks, hblocks⟩
    rw [text, lines, hblocks]
    exact ⟨_, rfl⟩

/-- A system module is written exactly if all its tools can be, and then in one way. -/
theorem text_eq_ok_iff {settings : Settings} {tools : List (Tool Float)} {written : String} :
    text settings tools = .ok written ↔ (∀ t ∈ tools, t.IsWritable) ∧
      written = joinLines settings (header ++ (tools.flatMap Tool.declared).map Statement.text ++
        [Statement.moduleEnd.text]) := by
  rw [← exists_text_iff settings]
  constructor
  · exact fun h => ⟨⟨written, h⟩, text_eq h⟩
  · rintro ⟨⟨other, hother⟩, rfl⟩
    rw [hother, text_eq hother]

end SystemModule

namespace ToolTable

/-- What a history leaves in the table of an owner, and what its next call and the system module of
its tools come to. -/
structure FollowsHistory (g : Generator) (owner : Datum) (calls : List Call) : Prop where
  owner_eq : (history owner calls).owner = owner
  isOrderedMap : (history owner calls).IsOrderedMap
  /-- The entries stand in the order in which their places were taken. -/
  placed : ∃ placed, ArePlaced owner calls placed
  outcome : ∀ c, (history owner calls).Outcome c
    ((Keeping.call c).run.run (history owner calls)).1 (history owner (calls ++ [c]))
  refused : ∀ c, (∃ f : ConfigurationFault,
    ((Keeping.call c).run.run (history owner calls)).1 = .error f) ↔ (history owner calls).Refuses c
  unchanged : ∀ c f, ((Keeping.call c).run.run (history owner calls)).1 = .error f →
    history owner (calls ++ [c]) = history owner calls
  /-- A tool that is taken out and registered again comes last. -/
  again : ∀ (tool removed : Tool Float) (replace : Bool),
    tool.name.isText Tool.standardName = false →
    ((Keeping.call (.unregister tool.name)).run.run (history owner calls)).1 =
      .ok (some removed) →
    (history owner (calls ++ [.unregister tool.name] ++ [.register tool replace])).entries =
      (history owner calls).entries.filter (!tool.name.same ·.1) ++ [(tool.name, tool)]
  /-- The module has a declaration for each tool, in the order of the table. -/
  module : ∀ written, g.systemModule (history owner calls).tools = .ok written ↔
    (∀ t ∈ (history owner calls).tools, t.IsWritable) ∧
      written = joinLines g.settings (SystemModule.header ++
        ((history owner calls).tools.flatMap Tool.declared).map Statement.text ++
        [Statement.moduleEnd.text])
  declared : ∀ t ∈ (history owner calls).tools, t.IsWritable → ∃ tcp, t.localTcp? = .ok tcp ∧
    t.declared = [.toolPose t.name.display tcp, .toolLoad t.mass.value, .blank]

/-- **Any history** of calls, those that fail included, leaves an ordered map of tools, from which
the system module is written. -/
theorem followsHistory (g : Generator) (owner : Datum) (calls : List Call) :
    FollowsHistory g owner calls where
  owner_eq := owner_history owner calls
  isOrderedMap := isOrderedMap_history owner calls
  placed := exists_placed owner calls
  outcome c := by
    rw [history_snoc]
    exact outcome_call _ c
  refused c := (outcome_call _ c).configuration_iff
  unchanged c f hf := by
    have hcall := outcome_call (history owner calls) c
    rw [hf] at hcall
    rw [history_snoc]
    exact hcall.eq_of_error
  again _ _ replace other hout := entries_history_again replace other hout
  module _ := SystemModule.text_eq_ok_iff
  declared _ _ h := h.exists_declared

end ToolTable

/-! ### A mass beyond all doubles -/

/-- A torch with a mass beyond all doubles. -/
def hugeTorch : Tool Float :=
  ⟨"hugeTorch", .world, .world, .empty, .whole (10 ^ 400), by decide, by decide +kernel⟩

/-- Such a torch is registered, and no system module is written. -/
theorem systemModule_hugeTorch :
    (ToolTable.history "job" [.register hugeTorch false]).tools = [hugeTorch] ∧
      tableGenerator.systemModule
        (ToolTable.history "job" [.register hugeTorch false]).tools = .error Misuse.overflow := by
  have htools : (ToolTable.history "job" [.register hugeTorch false]).tools = [hugeTorch] := rfl
  rw [htools]
  exact ⟨rfl, eq_overflow_of_matches (by decide +kernel)⟩

end SixAxis
