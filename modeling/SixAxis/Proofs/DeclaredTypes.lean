import SixAxis.Proofs.DeclarationSection

/-!
# The types of declared names

A program declares a name once, with the type of its first item.  The pass makes sure only that all
items of the name are of one kind, so a speed, a zone or a work object is declared with its own
type, but a pose and joint values are told apart no more than the two kinds of joint positions are.

* `DeclaredBy` — the one declaration of a name in a program;
* `OneType` — no two items of one name have different types;
* `exists_declaredBy` — **the declaration of a name** is that of its first item;
* `Generator.declared_types` — **every item is declared with its own type exactly if no name has
  two**.
-/

namespace SixAxis

/-- No two items with something to declare have one name and different types. -/
def OneType (items : List Item) : Prop :=
  ∀ a ∈ used items, ∀ b ∈ used items, ∀ l m, a.label = some l → b.label = some m →
    l.name = m.name → l.type = m.type

/-- An item is the only one that is declared under a name, with its own type and name in front. -/
structure DeclaredBy (items : List Item) (name : String) (first : Item) (l : Label) : Prop where
  /-- It comes first of all items of the name. -/
  first_eq : (used items).find? (Item.isNamed name) = some first
  /-- It is declared, and no other item of the name is. -/
  filter_eq : (firstUses items).filter (Item.isNamed name) = [first]
  label_eq : first.label = some l
  name_eq : l.name = name
  /-- Its declaration starts with the label. -/
  opens : ∃ text, first.code = .ok text ∧ l.Opens text

variable {items : List Item}

/-- Only targets and joint positions are of one kind with data of another type. -/
theorem DataType.eq_of_kind_eq {s t : DataType} (h : s.kind = t.kind) (htarget : t.kind ≠ .target)
    (hposition : t.kind ≠ .jointPosition) : s = t := by
  cases t with
  | robtarget => exact absurd rfl htarget
  | jointtarget => exact absurd rfl htarget
  | robjoint => exact absurd rfl hposition
  | extjoint => exact absurd rfl hposition
  | _ => cases s <;> first | rfl | cases h

/-- **The declaration of a name** is that of its first item, which is of the same kind. -/
theorem exists_declaredBy (hclear : Clear (used items)) (hlegible : Legible (used items))
    {i : Item} (hi : i ∈ used items) {l : Label} (hl : i.label = some l) :
    ∃ first e, DeclaredBy items l.name first e ∧ e.type.kind = l.type.kind := by
  have hnamed : i.isNamed l.name = true := Item.isNamed_iff.2 ⟨l, hl, rfl⟩
  cases hfirst : (used items).find? (Item.isNamed l.name) with
  | none => exact absurd hnamed (List.find?_eq_none.1 hfirst i hi)
  | some first =>
    have hfilter : (firstUses items).filter (Item.isNamed l.name) = [first] := by
      rw [firstUses, filter_isNamed_eraseDupsBy, hfirst]
      rfl
    have hmem : first ∈ used items := List.mem_of_find?_eq_some hfirst
    have hkept : first ∈ firstUses items := by
      have hin : first ∈ (firstUses items).filter (Item.isNamed l.name) := by
        rw [hfilter]
        exact List.mem_singleton.2 rfl
      exact (List.mem_filter.1 hin).1
    obtain ⟨e, he, hname⟩ := Item.isNamed_iff.1 (List.find?_some hfirst)
    obtain ⟨text, htext⟩ := legible_firstUses hlegible first hkept
    have hwritten : text ≠ "" := by
      rintro rfl
      exact Item.isBlank_eq_false_iff.1 (mem_used_iff.1 hmem).2 htext
    have hopens : e.Opens text := first.opens e he text htext hwritten
    refine ⟨first, e, ⟨hfirst, hfilter, he, hname, text, htext, hopens⟩, ?_⟩
    have hkind := hclear.kind?_eq hmem hi (Item.sameName_iff.2 ⟨e, l, he, hl, hname⟩)
    rw [Item.kind?, Item.kind?, he, hl] at hkind
    exact Option.some.inj hkind

/-- Names have one type exactly if the declaration of every item has its own label. -/
theorem oneType_iff (hclear : Clear (used items)) (hlegible : Legible (used items)) :
    OneType items ↔
      ∀ i ∈ used items, ∀ l, i.label = some l → ∃ first, DeclaredBy items l.name first l := by
  constructor
  · intro h i hi l hl
    obtain ⟨first, e, hdeclared, -⟩ := exists_declaredBy hclear hlegible hi hl
    have hmem : first ∈ used items := List.mem_of_find?_eq_some hdeclared.first_eq
    have htype := h first hmem i hi e l hdeclared.label_eq hl hdeclared.name_eq
    have he : e = l := Label.ext hdeclared.name_eq htype
    exact ⟨first, he ▸ hdeclared⟩
  · intro h a ha b hb l m hl hm hname
    obtain ⟨first, hfirst⟩ := h a ha l hl
    obtain ⟨first', hfirst'⟩ := h b hb m hm
    -- both are declared by the first item of the name, which has one label
    have hsame : first = first' := by
      have heq := hfirst.first_eq
      rw [hname, hfirst'.first_eq] at heq
      exact (Option.some.inj heq).symm
    have hlabel := hfirst.label_eq
    rw [hsame, hfirst'.label_eq] at hlabel
    rw [Option.some.inj hlabel]

/-- **The types of a program**: every item is declared under its name once, by the first item of
the name, and with data of its own kind.  Every item is declared with its own type exactly if no
two items of one name have different types. -/
theorem Generator.declared_types (g : Generator) (actions : List Action)
    (moduleName : Option String) {program : String}
    (h : (g.createProgram (programOf actions) moduleName).2 = .ok program) :
    (∃ body, program = joinLines g.settings (ProgramModule.lines g.settings
      (ProgramModule.nameOr g.settings moduleName)
      ((firstUses (itemsOf actions g.robot)).map Item.written) body)) ∧
    (∀ i ∈ used (itemsOf actions g.robot), ∀ l, i.label = some l →
      ∃ first e, DeclaredBy (itemsOf actions g.robot) l.name first e ∧
        e.type.kind = l.type.kind ∧
        (l.type.kind ≠ .target → l.type.kind ≠ .jointPosition → e = l)) ∧
    ((∀ i ∈ used (itemsOf actions g.robot), ∀ l, i.label = some l →
      ∃ first, DeclaredBy (itemsOf actions g.robot) l.name first l) ↔
        OneType (itemsOf actions g.robot)) := by
  obtain ⟨hclear, hlegible, body, -, htext⟩ := createProgram_ok_iff.1 h
  refine ⟨⟨body, htext⟩, fun i hi l hl => ?_, (oneType_iff hclear hlegible).symm⟩
  obtain ⟨first, e, hdeclared, hkind⟩ := exists_declaredBy hclear hlegible hi hl
  exact ⟨first, e, hdeclared, hkind, fun htarget hposition =>
    Label.ext hdeclared.name_eq (DataType.eq_of_kind_eq hkind htarget hposition)⟩

/-- A joint position for the arm. -/
def parkedArm : JointDeclaration := ⟨⟨"park", by decide⟩, ⟨.robot, default⟩⟩

/-- A joint position for the external axes, of the same name. -/
def parkedAxes : JointDeclaration := ⟨⟨"park", by decide⟩, ⟨.external, default⟩⟩

/-- Two joint positions that share a name are not told apart. -/
theorem declared_types_parked :
    ∃ program, (tableGenerator.createProgram
      (programOf [.joints parkedArm, .joints parkedAxes]) none).2 = .ok program ∧
      ¬ ∀ i ∈ used (itemsOf [.joints parkedArm, .joints parkedAxes] tableGenerator.robot), ∀ l,
        i.label = some l → ∃ first,
          DeclaredBy (itemsOf [.joints parkedArm, .joints parkedAxes] tableGenerator.robot)
            l.name first l := by
  have hmade : (tableGenerator.createProgram
      (programOf [.joints parkedArm, .joints parkedAxes]) none).2.toOption.isSome = true := by
    decide +kernel
  cases htext : (tableGenerator.createProgram
      (programOf [.joints parkedArm, .joints parkedAxes]) none).2 with
  | error f =>
    rw [htext] at hmade
    cases hmade
  | ok program =>
    refine ⟨program, rfl, fun hall => ?_⟩
    have hone := (tableGenerator.declared_types _ none htext).2.2.1 hall
    have harm : parkedArm.item ∈
        used (itemsOf [.joints parkedArm, .joints parkedAxes] tableGenerator.robot) :=
      JointDeclaration.item_mem_used List.mem_cons_self _
    have haxes : parkedAxes.item ∈
        used (itemsOf [.joints parkedArm, .joints parkedAxes] tableGenerator.robot) :=
      JointDeclaration.item_mem_used (List.mem_cons_of_mem _ (List.mem_singleton.2 rfl)) _
    cases hone _ harm _ haxes _ _ rfl rfl rfl

end SixAxis
