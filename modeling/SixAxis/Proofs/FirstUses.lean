import SixAxis.Proofs.DeclarationPass
import Mathlib.Data.List.Induction

/-!
# First uses

The pass over the items of a program declares a name where it comes first and passes over it from
then on.  Items without a text are not looked at.  The pass stops in two cases: at an item whose
name is in use for data of another kind, and at an item whose text cannot be written — the text of
a target is asked for only where its name is new.

* `firstUses` — the first item of each name, with all comments and lines of code;
* `Clear`, `Legible` — no item clashes with an earlier one; all texts that are asked for can be
  written;
* `Item.enter_uses` — **one item**: what it adds to the draft of the first uses before it;
* `drawUp_spec` — **all items**: the draft is that of the first uses, up to where the pass stops.
-/

namespace SixAxis

/-! ### Names in use -/

namespace Item

/-- The kind of the data that an item is about. -/
def kind? (i : Item) : Option DataKind := i.label.map (·.type.kind)

theorem kind?_ofData {l : Label} {code : Checked String} (hdata : l.type.kind ≠ .target)
    (opens : ∀ text, code = .ok text → text ≠ "" → l.Opens text) :
    (Item.ofData l code hdata opens).kind? ≠ some .target :=
  fun h => hdata (Option.some.inj h)

theorem kind?_ofLine (code : Checked String) : (Item.ofLine code).kind? ≠ some .target := nofun

/-- Whether two items are about data of the same name. -/
def sameName (a b : Item) : Bool :=
  match a.label, b.label with
  | some l, some m => l.name == m.name
  | _, _ => false

/-- Whether an item is about data of a given name. -/
def isNamed (name : String) (i : Item) : Bool := i.label.any (·.name == name)

/-- An item carries the name of an earlier one that is about data of another kind. -/
def ClashesWith (later earlier : Item) : Prop :=
  later.sameName earlier = true ∧ later.kind? ≠ earlier.kind?

instance (later earlier : Item) : Decidable (later.ClashesWith earlier) :=
  inferInstanceAs (Decidable (_ ∧ _))

/-- The text of an item, empty if there is none. -/
def written (i : Item) : String := i.code.toOption.getD ""

theorem written_of_ok {i : Item} {text : String} (h : i.code = .ok text) : i.written = text := by
  rw [written, h]
  rfl

theorem sameName_iff {a b : Item} :
    a.sameName b = true ↔ ∃ l m, a.label = some l ∧ b.label = some m ∧ l.name = m.name := by
  obtain ⟨la, _, _, _, _⟩ := a
  obtain ⟨lb, _, _, _, _⟩ := b
  cases la with
  | none => simp [sameName]
  | some l =>
    cases lb with
    | none => simp [sameName]
    | some m => simp [sameName]

theorem sameName_comm {a b : Item} (h : a.sameName b = true) : b.sameName a = true := by
  obtain ⟨l, m, hl, hm, hname⟩ := sameName_iff.1 h
  exact sameName_iff.2 ⟨m, l, hm, hl, hname.symm⟩

theorem sameName_trans {a b c : Item} (hab : a.sameName b = true) (hbc : b.sameName c = true) :
    a.sameName c = true := by
  obtain ⟨l, m, hl, hm, hname⟩ := sameName_iff.1 hab
  obtain ⟨m', n, hm', hn, hname'⟩ := sameName_iff.1 hbc
  rw [hm] at hm'
  cases hm'
  exact sameName_iff.2 ⟨l, n, hl, hn, hname.trans hname'⟩

theorem isNamed_iff {i : Item} {name : String} :
    i.isNamed name = true ↔ ∃ l, i.label = some l ∧ l.name = name := by
  rw [isNamed, Option.any_eq_true]
  exact exists_congr fun l => and_congr_right fun _ => beq_iff_eq

/-- Having the name of an item is having the same name as it. -/
theorem isNamed_label {i : Item} {l : Label} (hl : i.label = some l) :
    i.sameName = isNamed l.name := by
  funext j
  refine Bool.eq_iff_iff.2 ?_
  rw [sameName_iff, isNamed_iff]
  constructor
  · rintro ⟨l', m, hl', hm, hname⟩
    rw [hl] at hl'
    cases hl'
    exact ⟨m, hm, hname.symm⟩
  · rintro ⟨m, hm, hname⟩
    exact ⟨l, m, hl, hm, hname.symm⟩

theorem clashesWith_of_labels {later earlier : Item} {l e : Label} (hl : later.label = some l)
    (he : earlier.label = some e) (hname : l.name = e.name) (hkind : l.type.kind ≠ e.type.kind) :
    later.ClashesWith earlier := by
  refine ⟨sameName_iff.2 ⟨l, e, hl, he, hname⟩, fun heq => hkind ?_⟩
  rw [kind?, kind?, hl, he] at heq
  exact Option.some.inj heq

end Item

/-- The items with something to declare. -/
def used (items : List Item) : List Item := items.filter fun i => !i.isBlank

theorem mem_used_iff {items : List Item} {i : Item} :
    i ∈ used items ↔ i ∈ items ∧ i.isBlank = false := by
  rw [used, List.mem_filter, Bool.not_eq_true']

theorem used_append (xs ys : List Item) : used (xs ++ ys) = used xs ++ used ys :=
  List.filter_append ..

theorem used_cons_of_blank {i : Item} (h : i.isBlank = true) (rest : List Item) :
    used (i :: rest) = used rest :=
  List.filter_cons_of_neg (by rw [h]; decide)

theorem used_cons {i : Item} (h : i.isBlank = false) (rest : List Item) :
    used (i :: rest) = i :: used rest :=
  List.filter_cons_of_pos (by rw [h]; rfl)

theorem JointDeclaration.item_mem_used {j : JointDeclaration} {actions : List Action}
    (hj : .joints j ∈ actions) (r : Robot Float) : j.item ∈ used (itemsOf actions r) := by
  refine mem_used_iff.2 ⟨List.mem_flatMap.2 ⟨_, hj, List.mem_singleton.2 rfl⟩, ?_⟩
  exact Item.isBlank_eq_false_iff.2 fun hempty =>
    j.opens_declaration.ne_empty (Except.ok.inj hempty)

theorem Movement.targetItem_mem_items (m : Movement) (r : Robot Float) :
    m.targetItem r ∈ m.items r :=
  List.mem_cons_of_mem _ <| List.mem_cons_of_mem _ <| List.mem_cons_of_mem _ <|
    List.mem_singleton.2 rfl

theorem Movement.targetItem_mem_used {m : Movement} {actions : List Action}
    (hm : .movement m ∈ actions) (r : Robot Float) :
    m.targetItem r ∈ used (itemsOf actions r) :=
  mem_used_iff.2 ⟨List.mem_flatMap.2 ⟨_, hm, m.targetItem_mem_items r⟩,
    Item.isBlank_of_target rfl m.kind_label⟩

/-- The first item of each name, in order of first use; comments and lines of code are all kept. -/
def firstUses (items : List Item) : List Item := (used items).eraseDupsBy Item.sameName

/-- No item clashes with an earlier one. -/
def Clear (items : List Item) : Prop :=
  items.Pairwise fun earlier later => ¬ later.ClashesWith earlier

/-- After some items, the text of an item is asked for: that of a target only if its name is
new. -/
def Asked (before : List Item) (i : Item) : Prop :=
  i.kind? = some .target → ∀ earlier ∈ before, i.sameName earlier = false

/-- Every text that is asked for can be written. -/
def Legible (items : List Item) : Prop :=
  ∀ before i after, items = before ++ i :: after → Asked before i → ∃ text, i.code = .ok text

/-! ### Keeping the first of each name -/

section EraseDups

variable {α : Type} {r : α → α → Bool}

theorem eraseDupsBy_loop_concat (as kept : List α) (b : α) :
    List.eraseDupsBy.loop r (as ++ [b]) kept =
      List.eraseDupsBy.loop r as kept ++
        if (List.eraseDupsBy.loop r as kept).any (r b) then [] else [b] := by
  induction as generalizing kept with
  | nil =>
    simp only [List.nil_append, List.eraseDupsBy.loop, List.any_reverse]
    cases kept.any (r b) with
    | true => exact (List.append_nil _).symm
    | false => exact List.reverse_cons
  | cons a as ih =>
    simp only [List.cons_append, List.eraseDupsBy.loop]
    by_cases hkept : kept.any (r a) = true
    · simp only [hkept]
      exact ih kept
    · simp only [Bool.eq_false_iff.2 hkept]
      exact ih (a :: kept)

/-- One more element is kept if none that is kept already is related to it. -/
theorem eraseDupsBy_concat (as : List α) (b : α) :
    (as ++ [b]).eraseDupsBy r =
      as.eraseDupsBy r ++ if (as.eraseDupsBy r).any (r b) then [] else [b] :=
  eraseDupsBy_loop_concat as [] b

theorem mem_of_mem_eraseDupsBy {as : List α} {a : α} (h : a ∈ as.eraseDupsBy r) : a ∈ as := by
  induction as using List.reverseRecOn with
  | nil => exact h
  | append_singleton as b ih =>
    rw [eraseDupsBy_concat, List.mem_append] at h
    rcases h with h | h
    · exact List.mem_append_left _ (ih h)
    · split at h
      · cases h
      · exact List.mem_append_right _ h

theorem pairwise_eraseDupsBy (as : List α) :
    (as.eraseDupsBy r).Pairwise fun a b => r b a = false := by
  induction as using List.reverseRecOn with
  | nil => exact .nil
  | append_singleton as b ih =>
    rw [eraseDupsBy_concat]
    split
    · rw [List.append_nil]
      exact ih
    · rename_i hnew
      refine List.pairwise_append.2 ⟨ih, List.pairwise_singleton _ b, fun a ha b' hb => ?_⟩
      rw [List.mem_singleton.1 hb]
      exact Bool.eq_false_iff.2 fun h => hnew (List.any_eq_true.2 ⟨a, ha, h⟩)

theorem exists_mem_eraseDupsBy {as : List α} {a : α} (h : a ∈ as) :
    ∃ b ∈ as.eraseDupsBy r, a = b ∨ r a b = true := by
  induction as using List.reverseRecOn with
  | nil => cases h
  | append_singleton as c ih =>
    rw [eraseDupsBy_concat]
    rcases List.mem_append.1 h with h | h
    · obtain ⟨b, hb, hab⟩ := ih h
      exact ⟨b, List.mem_append_left _ hb, hab⟩
    · rw [List.mem_singleton.1 h]
      by_cases hany : (as.eraseDupsBy r).any (r c) = true
      · obtain ⟨b, hb, hcb⟩ := List.any_eq_true.1 hany
        exact ⟨b, List.mem_append_left _ hb, .inr hcb⟩
      · rw [if_neg hany]
        exact ⟨c, List.mem_append_right _ (List.mem_singleton.2 rfl), .inl rfl⟩

/-- Where related members are alike in some respect, the first ones may be picked before or
after. -/
theorem filter_eraseDupsBy {p : α → Bool} {as : List α}
    (h : ∀ a ∈ as, ∀ b ∈ as, r a b = true → p a = p b) :
    (as.eraseDupsBy r).filter p = (as.filter p).eraseDupsBy r := by
  induction as using List.reverseRecOn with
  | nil => rfl
  | append_singleton as b ih =>
    have hb : b ∈ as ++ [b] := List.mem_append_right _ (List.mem_singleton.2 rfl)
    have hold : ∀ a ∈ as, a ∈ as ++ [b] := fun a ha => List.mem_append_left _ ha
    replace ih := ih fun a ha a' ha' => h a (hold a ha) a' (hold a' ha')
    rw [eraseDupsBy_concat, List.filter_append, List.filter_append, apply_ite (List.filter p),
      List.filter_nil, ih]
    cases hp : p b with
    | true =>
      have hany : (as.eraseDupsBy r).any (r b) = ((as.filter p).eraseDupsBy r).any (r b) := by
        rw [← ih, List.any_filter]
        refine Bool.eq_iff_iff.2 ?_
        simp only [List.any_eq_true, Bool.and_eq_true]
        refine exists_congr fun a => and_congr_right fun ha => ⟨fun hr => ⟨?_, hr⟩, fun hr => hr.2⟩
        rw [← h b hb a (hold a (mem_of_mem_eraseDupsBy ha)) hr, hp]
      have hkept : [b].filter p = [b] := List.filter_cons_of_pos hp
      rw [hkept, eraseDupsBy_concat, hany]
    | false =>
      have hdropped : [b].filter p = [] := List.filter_cons_of_neg (Bool.not_eq_true _ ▸ hp)
      rw [hdropped, ite_self, List.append_nil, List.append_nil]

/-- Members that are related by their images. -/
theorem eraseDupsBy_map {β : Type} (f : α → β) (r : β → β → Bool) (as : List α) :
    (as.map f).eraseDupsBy r = (as.eraseDupsBy fun a b => r (f a) (f b)).map f := by
  induction as using List.reverseRecOn with
  | nil => rfl
  | append_singleton as b ih =>
    rw [List.map_append, List.map_singleton, eraseDupsBy_concat, eraseDupsBy_concat, ih,
      List.any_map, List.map_append, apply_ite (List.map f)]
    rfl

end EraseDups

/-! ### The names of earlier items -/

section Earlier

variable {before : List Item} {i : Item}

theorem find?_uses_eq_none_iff :
    (before.eraseDupsBy Item.sameName).find? i.sameName = none ↔
      ∀ earlier ∈ before, i.sameName earlier = false := by
  rw [List.find?_eq_none]
  constructor
  · intro h earlier hearlier
    refine Bool.eq_false_iff.2 fun hname => ?_
    obtain ⟨kept, hkept, rfl | hsame⟩ := exists_mem_eraseDupsBy (r := Item.sameName) hearlier
    · exact h _ hkept hname
    · exact h _ hkept (Item.sameName_trans hname hsame)
  · intro h kept hkept
    exact Bool.eq_false_iff.1 (h kept (mem_of_mem_eraseDupsBy hkept))

/-- What is kept of a name is the first item of it. -/
theorem exists_first_of_mem {items : List Item} (h : i ∈ items.eraseDupsBy Item.sameName) :
    ∃ before after, items = before ++ i :: after ∧
      ∀ earlier ∈ before, i.sameName earlier = false := by
  induction items using List.reverseRecOn with
  | nil => cases h
  | append_singleton items last ih =>
    rw [eraseDupsBy_concat, List.mem_append] at h
    rcases h with h | h
    · obtain ⟨before, after, rfl, hnew⟩ := ih h
      exact ⟨before, after ++ [last], by rw [List.append_assoc, List.cons_append], hnew⟩
    · by_cases hany : (items.eraseDupsBy Item.sameName).any last.sameName = true
      · rw [if_pos hany] at h
        cases h
      · rw [if_neg hany] at h
        cases List.mem_singleton.1 h
        have hnone : (items.eraseDupsBy Item.sameName).find? i.sameName = none :=
          List.find?_eq_none.2 fun kept hkept hname =>
            hany (List.any_eq_true.2 ⟨kept, hkept, hname⟩)
        exact ⟨items, [], rfl, find?_uses_eq_none_iff.1 hnone⟩

/-- Of each name, the first item is kept and no other one. -/
theorem filter_isNamed_eraseDupsBy (items : List Item) (name : String) :
    (items.eraseDupsBy Item.sameName).filter (Item.isNamed name) =
      (items.find? (Item.isNamed name)).toList := by
  induction items using List.reverseRecOn with
  | nil => rfl
  | append_singleton items last ih =>
    rw [eraseDupsBy_concat, List.filter_append, ih, List.find?_append]
    by_cases hlast : last.isNamed name = true
    · obtain ⟨l, hl, rfl⟩ := Item.isNamed_iff.1 hlast
      rw [Item.isNamed_label hl]
      cases hfirst : items.find? (Item.isNamed l.name) with
      | none =>
        have hnew : ¬ (items.eraseDupsBy Item.sameName).any (Item.isNamed l.name) = true := by
          intro hany
          obtain ⟨kept, hkept, hname⟩ := List.any_eq_true.1 hany
          exact List.find?_eq_none.1 hfirst kept (mem_of_mem_eraseDupsBy hkept) hname
        rw [if_neg hnew, List.filter_cons_of_pos hlast, List.find?_cons_of_pos hlast]
        rfl
      | some first =>
        have hmem : first ∈ (items.eraseDupsBy Item.sameName).filter (Item.isNamed l.name) := by
          rw [ih, hfirst]
          exact List.mem_singleton.2 rfl
        obtain ⟨hkept, hname⟩ := List.mem_filter.1 hmem
        rw [if_pos (List.any_eq_true.2 ⟨first, hkept, hname⟩)]
        rfl
    · rw [List.find?_cons_of_neg hlast, List.find?_nil, Option.or_none]
      split
      · exact List.append_nil _
      · rw [List.filter_cons_of_neg hlast]
        exact List.append_nil _

/-- In a clear list all items of one name are about data of one kind. -/
theorem Clear.kind?_eq {items : List Item} (h : Clear items) {a b : Item} (ha : a ∈ items)
    (hb : b ∈ items) (hname : a.sameName b = true) : a.kind? = b.kind? := by
  have hkinds {x y : Item} (hclash : ¬ y.ClashesWith x) (hxy : x.sameName y = true) :
      x.kind? = y.kind? :=
    not_not.1 fun hne => hclash ⟨Item.sameName_comm hxy, Ne.symm hne⟩
  have hpairs : items.Pairwise fun x y => x.sameName y = true → x.kind? = y.kind? :=
    h.imp hkinds
  have hflipped : items.Pairwise (flip fun x y : Item => x.sameName y = true → x.kind? = y.kind?) :=
    h.imp fun hclash hxy => (hkinds hclash (Item.sameName_comm hxy)).symm
  exact hpairs.forall_of_forall_of_flip (fun _ _ _ => rfl) hflipped ha hb hname

/-- In a clear list no item clashes with one that stands before it. -/
theorem Clear.not_clashesWith {after : List Item} (h : Clear (before ++ i :: after))
    {earlier : Item} (hearlier : earlier ∈ before) : ¬ i.ClashesWith earlier :=
  (List.pairwise_append.1 h).2.2 earlier hearlier i List.mem_cons_self

theorem clear_concat_iff :
    Clear (before ++ [i]) ↔ Clear before ∧ ∀ earlier ∈ before, ¬ i.ClashesWith earlier := by
  rw [Clear, List.pairwise_append]
  constructor
  · rintro ⟨hbefore, -, hlast⟩
    exact ⟨hbefore, fun earlier hearlier => hlast earlier hearlier i (List.mem_singleton.2 rfl)⟩
  · rintro ⟨hbefore, hlast⟩
    refine ⟨hbefore, List.pairwise_singleton _ i, fun earlier hearlier later hlater => ?_⟩
    rw [List.mem_singleton.1 hlater]
    exact hlast earlier hearlier

theorem legible_concat_iff :
    Legible (before ++ [i]) ↔ Legible before ∧ (Asked before i → ∃ text, i.code = .ok text) := by
  constructor
  · intro h
    refine ⟨fun pre j post hsplit hasked => ?_, fun hasked => h before i [] rfl hasked⟩
    exact h pre j (post ++ [i]) (by rw [hsplit, List.append_assoc, List.cons_append]) hasked
  · rintro ⟨hbefore, hlast⟩ pre j post hsplit hasked
    rcases List.eq_nil_or_concat post with rfl | ⟨post, last, rfl⟩
    · obtain ⟨rfl, hij⟩ := List.append_inj' hsplit rfl
      cases hij
      exact hlast hasked
    · rw [List.concat_eq_append, ← List.cons_append, ← List.append_assoc] at hsplit
      exact hbefore pre j post (List.append_inj' hsplit rfl).1 hasked

end Earlier

/-! ### Drafts of first uses -/

namespace Draft

/-- The draft of items that are kept. -/
def ofUses (kept : List Item) : Draft where
  declared := kept.filterMap Item.entry
  declarations := kept.map Item.written
  warnings := kept.flatMap Item.warnings
  solutions := []

theorem add_ofUses (kept : List Item) (i : Item) :
    (ofUses kept).add i i.written = ofUses (kept ++ [i]) := by
  rw [add, ofUses, ofUses, List.filterMap_append, List.map_append, List.flatMap_append]
  cases hentry : i.entry with
  | none => simp only [List.filterMap_cons, hentry, List.filterMap_nil, Option.toList_none,
      List.map_cons, List.map_nil, List.flatMap_cons, List.flatMap_nil, List.append_nil]
  | some e => simp only [List.filterMap_cons, hentry, List.filterMap_nil, Option.toList_some,
      List.map_cons, List.map_nil, List.flatMap_cons, List.flatMap_nil, List.append_nil]

theorem kindOf?_ofUses (kept : List Item) {i : Item} {l : Label} (hl : i.label = some l) :
    (ofUses kept).kindOf? l.name = (kept.find? i.sameName).bind Item.kind? := by
  have hcarries : (fun a : Item => a.entry.any (·.1 == l.name)) = i.sameName := by
    funext a
    rw [Item.entry, Item.sameName, hl]
    cases a.label with
    | none => rfl
    | some m => exact BEq.comm
  rw [kindOf?, ofUses, List.find?_filterMap, hcarries, Option.map_bind]
  congr 1
  funext a
  exact Option.map_map ..

end Draft

/-- What stops the pass at an item, after some others. -/
inductive StopsAt (before : List Item) (i : Item) : Fault → Prop
  /-- The text is asked for and cannot be written. -/
  | illegible {f : Fault} (hasked : Asked before i) (hcode : i.code = .error f) :
      StopsAt before i f
  /-- The name is in use for data of another kind. -/
  | clash {earlier : Item} {l e : Label} (hlegible : Asked before i → ∃ text, i.code = .ok text)
      (hearlier : earlier ∈ before) (hl : i.label = some l) (he : earlier.label = some e)
      (hname : l.name = e.name) (hkind : l.type.kind ≠ e.type.kind) :
      StopsAt before i (ActionFault.twoKinds l.name e.type.kind.className l.type.kind.className)

namespace Item

/-- An item whose name is new is added. -/
theorem enter_of_new {i : Item} (hused : i.isBlank = false) {kept : List Item}
    (hnew : kept.find? i.sameName = none) :
    i.enter (.ofUses kept) = i.code.map fun _ => .ofUses (kept ++ [i]) := by
  have hadd {text : String} (h : i.code = .ok text) :
      ¬ text.isEmpty = true ∧ (Draft.ofUses kept).add i text = .ofUses (kept ++ [i]) := by
    rw [← Draft.add_ofUses, written_of_ok h]
    refine ⟨?_, rfl⟩
    rw [isBlank, h] at hused
    exact Bool.eq_false_iff.1 hused
  rw [enter]
  cases hl : i.label with
  | none =>
    cases hcode : i.code with
    | error f => rfl
    | ok text =>
      show Except.ok (if text.isEmpty then _ else _) = _
      rw [if_neg (hadd hcode).1, (hadd hcode).2]
      rfl
  | some l =>
    have hfree : (Draft.ofUses kept).kindOf? l.name = none := by
      rw [Draft.kindOf?_ofUses kept hl, hnew]
      rfl
    simp only [Draft.unlessTaken, hfree]
    cases hcode : i.code with
    | error f =>
      by_cases htarget : l.type.kind = .target
      · simp only [if_pos htarget]
        rfl
      · simp only [if_neg htarget]
        rfl
    | ok text =>
      show _ = Except.ok _
      rw [← (hadd hcode).2]
      by_cases htarget : l.type.kind = .target
      · simp only [if_pos htarget]
        rfl
      · simp only [if_neg htarget]
        exact if_neg (hadd hcode).1

/-- An item whose name is in use adds nothing, and its text is not asked for if it is a target. -/
theorem enter_of_taken {i earlier : Item} {l e : Label} (hused : i.isBlank = false)
    {kept : List Item} (htaken : kept.find? i.sameName = some earlier) (hl : i.label = some l)
    (he : earlier.label = some e) (hcode : l.type.kind ≠ .target → ∃ text, i.code = .ok text) :
    i.enter (.ofUses kept) =
      if e.type.kind = l.type.kind then .ok (.ofUses kept)
      else .error (ActionFault.twoKinds l.name e.type.kind.className l.type.kind.className) := by
  have hkind : (Draft.ofUses kept).kindOf? l.name = some e.type.kind := by
    rw [Draft.kindOf?_ofUses kept hl, htaken]
    exact congrArg (Option.map _) he
  rw [enter, hl]
  simp only [Draft.unlessTaken, hkind]
  by_cases htarget : l.type.kind = .target
  · exact if_pos htarget
  · obtain ⟨text, htext⟩ := hcode htarget
    rw [isBlank, htext] at hused
    rw [if_neg htarget, htext]
    exact if_neg (Bool.eq_false_iff.1 hused)

theorem enter_of_illegible {i : Item} {f : Fault} (hdata : i.kind? ≠ some .target)
    (hcode : i.code = .error f) (d : Draft) : i.enter d = .error f := by
  rw [enter]
  cases hl : i.label with
  | none =>
    simp only [hcode]
    rfl
  | some l =>
    have htarget : l.type.kind ≠ .target := by
      intro h
      exact hdata (by rw [kind?, hl, Option.map_some, h])
    simp only [if_neg htarget, hcode]
    rfl

theorem enter_of_blank {i : Item} (hblank : i.isBlank = true) (d : Draft) : i.enter d = .ok d := by
  have hcode := isBlank_iff.1 hblank
  rw [enter]
  cases hl : i.label with
  | none =>
    simp only [hcode]
    rfl
  | some l =>
    have hdata : l.type.kind ≠ .target := fun htarget => i.target_written l hl htarget hcode
    simp only [if_neg hdata, hcode]
    rfl

/-- **One item**, after others that are clear and legible: it either keeps them so and adds to the
draft if its name is new, or it stops the pass. -/
theorem enter_uses {before : List Item} {i : Item} (hclear : Clear before)
    (hlegible : Legible before) (hused : i.isBlank = false) :
    (∃ f, i.enter (.ofUses (before.eraseDupsBy sameName)) = .error f ∧ StopsAt before i f) ∨
      (i.enter (.ofUses (before.eraseDupsBy sameName)) =
          .ok (.ofUses ((before ++ [i]).eraseDupsBy sameName)) ∧
        Clear (before ++ [i]) ∧ Legible (before ++ [i])) := by
  rw [eraseDupsBy_concat, clear_concat_iff, legible_concat_iff]
  cases hfind : (before.eraseDupsBy sameName).find? i.sameName with
  | none =>
    have hnew := find?_uses_eq_none_iff.1 hfind
    have hasked : Asked before i := fun _ => hnew
    rw [enter_of_new hused hfind]
    cases hcode : i.code with
    | error f => exact .inl ⟨f, rfl, .illegible hasked hcode⟩
    | ok text =>
      refine .inr ⟨?_, ⟨hclear, fun earlier hearlier hclash => ?_⟩, hlegible, fun _ => ⟨text, rfl⟩⟩
      · rw [if_neg fun hany => by
          obtain ⟨k, hk, hik⟩ := List.any_eq_true.1 hany
          rw [hnew k (mem_of_mem_eraseDupsBy hk)] at hik
          cases hik]
        rfl
      · rw [ClashesWith, hnew earlier hearlier] at hclash
        cases hclash.1
  | some earlier =>
    have hsame : i.sameName earlier = true := List.find?_some hfind
    have hkept := List.mem_of_find?_eq_some hfind
    have hearlier := mem_of_mem_eraseDupsBy hkept
    obtain ⟨l, e, hl, he, hname⟩ := sameName_iff.1 hsame
    have hkind_i : i.kind? = some l.type.kind := congrArg (Option.map _) hl
    have hkind_e : earlier.kind? = some e.type.kind := congrArg (Option.map _) he
    by_cases htexts : Asked before i → ∃ text, i.code = .ok text
    · have hcode : l.type.kind ≠ .target → ∃ text, i.code = .ok text := fun hdata =>
        htexts fun htarget => absurd (Option.some.inj (hkind_i.symm.trans htarget)) hdata
      rw [enter_of_taken hused hfind hl he hcode]
      by_cases hkind : e.type.kind = l.type.kind
      · rw [if_pos hkind, if_pos (List.any_eq_true.2 ⟨earlier, hkept, hsame⟩), List.append_nil]
        refine .inr ⟨rfl, ⟨hclear, fun other hother hclash => hclash.2 ?_⟩, hlegible, htexts⟩
        -- items of one name are of one kind so far, so any of them stands for the first one
        rw [hkind_i, ← hkind, ← hkind_e]
        exact hclear.kind?_eq hearlier hother (sameName_trans (sameName_comm hsame) hclash.1)
      · rw [if_neg hkind]
        exact .inl ⟨_, rfl, .clash htexts hearlier hl he hname (Ne.symm hkind)⟩
    · obtain ⟨hasked, hnone⟩ := Classical.not_imp.1 htexts
      cases hcode : i.code with
      | ok text => exact absurd ⟨text, hcode⟩ hnone
      | error f =>
        have hdata : i.kind? ≠ some .target := fun htarget => by
          rw [hasked htarget earlier hearlier] at hsame
          cases hsame
        exact .inl ⟨f, enter_of_illegible hdata hcode _, .illegible hasked hcode⟩

end Item

/-! ### The pass over all items -/

/-- Blank items add nothing. -/
theorem drawUp_used (items : List Item) (d : Draft) : drawUp (used items) d = drawUp items d := by
  induction items generalizing d with
  | nil => rfl
  | cons i rest ih =>
    by_cases hblank : i.isBlank = true
    · rw [used_cons_of_blank hblank, ih, drawUp, Item.enter_of_blank hblank]
    · rw [used_cons (Bool.eq_false_iff.2 hblank), drawUp, drawUp]
      cases i.enter d with
      | error f => rfl
      | ok next => exact ih next

/-- **All items**: either the pass stops at one of them, with the draft of the first uses before it,
or it comes to the draft of all first uses. -/
theorem drawUp_uses (rest before : List Item) (hclear : Clear before) (hlegible : Legible before)
    (hused : ∀ i ∈ rest, i.isBlank = false) :
    (∃ pre i post f, before ++ rest = pre ++ i :: post ∧ Clear pre ∧ Legible pre ∧ StopsAt pre i f ∧
        drawUp rest (.ofUses (before.eraseDupsBy Item.sameName)) =
          (.error f, .ofUses (pre.eraseDupsBy Item.sameName))) ∨
      (drawUp rest (.ofUses (before.eraseDupsBy Item.sameName)) =
          (.ok (), .ofUses ((before ++ rest).eraseDupsBy Item.sameName)) ∧
        Clear (before ++ rest) ∧ Legible (before ++ rest)) := by
  induction rest generalizing before with
  | nil =>
    rw [List.append_nil]
    exact .inr ⟨rfl, hclear, hlegible⟩
  | cons i rest ih =>
    rcases Item.enter_uses hclear hlegible (hused i List.mem_cons_self) with
      ⟨f, henter, hstop⟩ | ⟨henter, hclear', hlegible'⟩
    · rw [drawUp, henter]
      exact .inl ⟨before, i, rest, f, rfl, hclear, hlegible, hstop, rfl⟩
    · rw [drawUp, henter, List.append_cons]
      exact ih _ hclear' hlegible' fun j hj => hused j (List.mem_cons_of_mem i hj)

theorem StopsAt.not_clear_or_legible {pre post : List Item} {i : Item} {f : Fault}
    (h : StopsAt pre i f) : ¬ (Clear (pre ++ i :: post) ∧ Legible (pre ++ i :: post)) := by
  rintro ⟨hclear, hlegible⟩
  cases h with
  | illegible hasked hcode =>
    obtain ⟨text, htext⟩ := hlegible pre i post rfl hasked
    rw [hcode] at htext
    cases htext
  | clash _ hearlier hl he hname hkind =>
    exact hclear.not_clashesWith hearlier (Item.clashesWith_of_labels hl he hname hkind)

/-- **The pass over a program** either stops at an item or comes to the draft of the first uses. -/
theorem drawUp_spec (items : List Item) :
    (∃ pre i post f, used items = pre ++ i :: post ∧ Clear pre ∧ Legible pre ∧ StopsAt pre i f ∧
        drawUp items .empty = (.error f, .ofUses (pre.eraseDupsBy Item.sameName))) ∨
      (drawUp items .empty = (.ok (), .ofUses (firstUses items)) ∧
        Clear (used items) ∧ Legible (used items)) := by
  have hnil : Legible [] := fun pre i post h =>
    absurd h.symm (List.append_ne_nil_of_right_ne_nil pre (List.cons_ne_nil i post))
  have hused : ∀ i ∈ used items, i.isBlank = false := fun i hi => (mem_used_iff.1 hi).2
  have h := drawUp_uses (used items) [] .nil hnil hused
  rw [show Draft.ofUses (List.eraseDupsBy Item.sameName []) = .empty from rfl, drawUp_used] at h
  exact h

/-- No name is kept twice. -/
theorem nodup_names_eraseDupsBy (items : List Item) :
    (((items.eraseDupsBy Item.sameName).filterMap Item.entry).map (·.1)).Nodup := by
  rw [List.Nodup, List.pairwise_map, List.pairwise_filterMap]
  refine (pairwise_eraseDupsBy items).imp fun {a b} hdiffer x hx y hy hname => ?_
  obtain ⟨l, hl, rfl⟩ := Option.map_eq_some_iff.1 hx
  obtain ⟨m, hm, rfl⟩ := Option.map_eq_some_iff.1 hy
  rw [Item.sameName_iff.2 ⟨m, l, hm, hl, hname.symm⟩] at hdiffer
  cases hdiffer

end SixAxis
