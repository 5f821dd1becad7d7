import SixAxis.Proofs.TargetDeclarations

/-!
# Speeds, zones and work objects of a program

The instruction of a movement names a speed, a zone and a work object.  What such a name stands for
is decided by the program and the controller together: it is the declaration of the name, if there
is one, and else what the controller knows by it.

A datum with a declaration of its own is declared with its own type, once for all data of the name,
with the values of the first one.  A datum that is left to the controller is taken at its word:
nothing makes sure that the controller knows these values by that name, or that no other datum of
the name is declared.

* `MotionDatum.isBuiltIn` — whether the controller knows a datum with its values, by its name;
* `MotionDatum.Denotes` — whether the name of a datum stands for its own values in a program;
* `Resolves` — what the name of a datum stands for;
* `Generator.createProgram_resolves` — **what the names of a program stand for**, and when all
  movements run with their own data;
* `createProgram_paced` — a program in which a movement runs with the speed of another one.
-/

namespace SixAxis

/-! ### What a controller knows -/

/-- Whether two lists of numbers have the same values. -/
def sameValues (xs ys : List Number) : Bool := xs.isEqv ys Numeral.same

namespace SpeedData

/-- The four speeds that the controller knows under the speed of the tool centre point. -/
def knownSpeeds (k : Nat) : List Number := [.whole k, .real 500.0, .real 5000.0, .real 1000.0]

/-- Whether the controller knows the speeds by the name. -/
def isBuiltIn (s : SpeedData) : Bool :=
  known.any fun k => s.name.text == "v" ++ toString k && sameValues s.speeds (knownSpeeds k)

theorem mem_known_closestKnown (n : Number) : closestKnown n ∈ known := by
  have hfold (rest : List Nat) (hrest : ∀ k ∈ rest, k ∈ known) (best : Nat) (hbest : best ∈ known) :
      rest.foldl (fun best k => if gap k n < gap best n then k else best) best ∈ known := by
    induction rest generalizing best with
    | nil => exact hbest
    | cons k rest ih =>
      rw [List.foldl_cons]
      refine ih (fun j hj => hrest j (List.mem_cons_of_mem k hj)) _ ?_
      split
      · exact hrest k List.mem_cons_self
      · exact hbest
  exact hfold known (fun _ hk => hk) 5 (by decide)

/-- The speeds that are made for a known value are built in. -/
theorem isBuiltIn_ofKnown {k : Nat} (hk : k ∈ known) :
    ∃ s, ofKnown (.int k) = .ok s ∧ s.isBuiltIn = true := by
  have hall : ∀ k ∈ known, (ofKnown (.int k)).toOption.any isBuiltIn = true := by decide +kernel
  exact exists_ok_of_any (hall k hk)

/-- So are those that are picked for any value. -/
theorem isBuiltIn_nearest {v : Datum} {s : SpeedData} (h : nearest v = .ok s) :
    s.isBuiltIn = true := by
  obtain ⟨n, -, hs⟩ := bind_eq_ok.1 h
  obtain ⟨s', hs', hbuilt⟩ := isBuiltIn_ofKnown (mem_known_closestKnown n)
  cases hs.symm.trans hs'
  exact hbuilt

end SpeedData

namespace ZoneData

/-- Whether the controller knows the zone by the name: a stop without a corner path, or a corner
path of known sizes. -/
def isBuiltIn (z : ZoneData) : Bool :=
  (z.name.text == fineName && z.stops.isTruthy && z.sizes.toList.all Numeral.isZero) ||
    known.any fun (name, sizes) =>
      z.name.text == name && !z.stops.isTruthy && sameValues z.sizes.toList sizes.toList

/-- The zone that stops at the target is built in. -/
theorem isBuiltIn_fine : ∃ z, fine = .ok z ∧ z.isBuiltIn = true :=
  exists_ok_of_any (by decide +kernel)

/-- So are the zones that are looked up by a name. -/
theorem isBuiltIn_ofKnown? {name : String} {zone : Checked ZoneData}
    (h : ofKnown? name = some zone) : ∃ z, zone = .ok z ∧ z.isBuiltIn = true := by
  obtain ⟨entry, hfind, rfl⟩ := Option.map_eq_some_iff.1 h
  have hall : ∀ entry ∈ known, (ofSizes (.text entry.1) (.bool false) entry.2
      (.bool true)).toOption.any isBuiltIn = true := by
    decide +kernel
  exact exists_ok_of_any (hall entry (List.mem_of_find?_eq_some hfind))

end ZoneData

/-- Whether a frame is that of the world. -/
def Frame.isWorld (f : Frame Float) : Bool :=
  f.point == .zero && f.xaxis == .unitX && f.yaxis == .unitY

namespace WorkObject

/-- Whether the work object is the one that every controller has: at rest in the world. -/
def isBuiltIn (w : WorkObject) : Bool :=
  w.isPredefined && w.userFrame.isWorld && w.objectFrame.isWorld && w.axis.isNone
    && !w.held.isTruthy

end WorkObject

/-! ### What a movement names -/

/-- What a movement names beside its target. -/
inductive MotionDatum where
  | speed (s : SpeedData)
  | zone (z : ZoneData)
  | workObject (w : WorkObject)

namespace MotionDatum

/-- The name with the type it is to have. -/
def label : MotionDatum → Label
  | speed s => s.label
  | zone z => z.label
  | workObject w => w.label

/-- The declaration, empty for a datum that is left to the controller. -/
def declaration : MotionDatum → Checked String
  | speed s => s.declaration
  | zone z => z.declaration
  | workObject w => .ok w.declaration

/-- Whether the controller knows the values by the name. -/
def isBuiltIn : MotionDatum → Bool
  | speed s => s.isBuiltIn
  | zone z => z.isBuiltIn
  | workObject w => w.isBuiltIn

theorem kind_label_ne (d : MotionDatum) :
    d.label.type.kind ≠ .target ∧ d.label.type.kind ≠ .jointPosition := by
  cases d <;> exact ⟨nofun, nofun⟩

theorem opens_of_declaration {d : MotionDatum} {text : String} (h : d.declaration = .ok text)
    (htext : text ≠ "") : d.label.Opens text := by
  cases d with
  | speed s => exact SpeedData.opens_of_declaration h htext
  | zone z => exact ZoneData.opens_of_declaration h htext
  | workObject w => exact Except.ok.inj h ▸ w.opens_of_declaration (Except.ok.inj h ▸ htext)

/-- What the declaration pass looks at. -/
def item (d : MotionDatum) : Item :=
  .ofData d.label d.declaration d.kind_label_ne.1 fun _ => opens_of_declaration

theorem label_item (d : MotionDatum) : d.item.label = some d.label := rfl

end MotionDatum

/-- The speed, the zone and the work object of a movement. -/
def Movement.motionData (m : Movement) : List MotionDatum :=
  [.speed m.speed, .zone m.zone, .workObject m.workObject]

theorem Movement.items_eq (m : Movement) (r : Robot Float) :
    m.items r = m.motionData.map MotionDatum.item ++ [m.targetItem r] := rfl

/-- The speeds, zones and work objects that the movements among some actions name. -/
def motionData (actions : List Action) : List MotionDatum :=
  actions.flatMap fun
    | .movement m => m.motionData
    | _ => []

theorem mem_motionData_iff {actions : List Action} {d : MotionDatum} :
    d ∈ motionData actions ↔ ∃ m, .movement m ∈ actions ∧ d ∈ m.motionData := by
  rw [motionData, List.mem_flatMap]
  constructor
  · rintro ⟨a, ha, hd⟩
    cases a with
    | movement m => exact ⟨m, ha, hd⟩
    | _ => cases hd
  · rintro ⟨m, hm, hd⟩
    exact ⟨_, hm, hd⟩

section Items

variable {actions : List Action} {r : Robot Float}

theorem item_mem_itemsOf {d : MotionDatum} (hd : d ∈ motionData actions) :
    d.item ∈ itemsOf actions r := by
  obtain ⟨m, hm, hd⟩ := mem_motionData_iff.1 hd
  refine List.mem_flatMap.2 ⟨_, hm, ?_⟩
  rw [Action.items, Movement.items_eq]
  exact List.mem_append_left _ (List.mem_map_of_mem hd)

/-- An item that is no target and no joint position is a datum of a movement. -/
theorem exists_motionDatum {i : Item} (hi : i ∈ itemsOf actions r) {l : Label}
    (hl : i.label = some l) (htarget : l.type.kind ≠ .target)
    (hposition : l.type.kind ≠ .jointPosition) : ∃ d ∈ motionData actions, i = d.item := by
  obtain ⟨a, ha, hi⟩ := List.mem_flatMap.1 hi
  cases a with
  | movement m =>
    rw [Action.items, Movement.items_eq, List.mem_append] at hi
    rcases hi with hi | hi
    · obtain ⟨d, hd, rfl⟩ := List.mem_map.1 hi
      exact ⟨d, mem_motionData_iff.2 ⟨m, ha, hd⟩, rfl⟩
    · cases List.mem_singleton.1 hi
      cases hl
      exact absurd m.kind_label htarget
  | joints j =>
    cases List.mem_singleton.1 hi
    cases hl
    exact absurd j.kind_label hposition
  | _ =>
    cases List.mem_singleton.1 hi
    cases hl

end Items

/-! ### What a name stands for -/

namespace MotionDatum

variable {items : List Item} {d : MotionDatum}

/-- The name of a datum stands for its own values: it is declared with them, or it is not declared
and the controller knows them by it. -/
def Denotes (items : List Item) (d : MotionDatum) : Prop :=
  (∃ first, (firstUses items).filter (Item.isNamed d.label.name) = [first] ∧
      first.code = d.declaration) ∨
    ((firstUses items).filter (Item.isNamed d.label.name) = [] ∧ d.isBuiltIn = true)

theorem denotes_iff_of_declared {first : Item}
    (h : (firstUses items).filter (Item.isNamed d.label.name) = [first]) :
    d.Denotes items ↔ first.code = d.declaration := by
  rw [Denotes, h]
  constructor
  · rintro (⟨first', hfirst, hcode⟩ | ⟨hnone, -⟩)
    · exact List.singleton_inj.1 hfirst ▸ hcode
    · cases hnone
  · intro hcode
    exact .inl ⟨first, rfl, hcode⟩

theorem denotes_iff_of_silent (h : d.declaration = .ok "") :
    d.Denotes items ↔
      (∀ i ∈ used items, i.isNamed d.label.name = false) ∧ d.isBuiltIn = true := by
  have hnone : (firstUses items).filter (Item.isNamed d.label.name) = [] ↔
      ∀ i ∈ used items, i.isNamed d.label.name = false := by
    rw [firstUses, filter_isNamed_eraseDupsBy, Option.toList_eq_nil_iff, List.find?_eq_none]
    exact forall₂_congr fun i _ => Bool.not_eq_true _ ▸ Iff.rfl
  rw [Denotes, hnone]
  refine or_iff_right ?_
  rintro ⟨first, hfirst, hcode⟩
  have hmem : first ∈ (firstUses items).filter (Item.isNamed d.label.name) := by
    rw [hfirst]
    exact List.mem_singleton.2 rfl
  -- what is declared is not left to the controller
  have hwritten := (mem_used_iff.1 (mem_of_mem_eraseDupsBy (List.mem_filter.1 hmem).1)).2
  exact Item.isBlank_eq_false_iff.1 hwritten (hcode.trans h)

end MotionDatum

/-- What the name of a datum stands for in a program of some items. -/
structure Resolves (items : List Item) (d : MotionDatum) : Prop where
  /-- Its declaration can be written. -/
  written : ∃ text, d.declaration = .ok text
  /-- If there is one, the name is declared once, with the type of the datum: the name stands for
  the values of the datum if these are the ones that come first. -/
  declared : ∀ text, d.declaration = .ok text → text ≠ "" →
    ∃ first, DeclaredBy items d.label.name first d.label ∧
      (d.Denotes items ↔ first.code = .ok text)
  /-- If there is none, the name stands for what the controller knows by it, unless some other item
  declares it. -/
  silent : d.declaration = .ok "" →
    (d.Denotes items ↔ (∀ i ∈ used items, i.isNamed d.label.name = false) ∧ d.isBuiltIn = true)

/-- Data of one name declare the same, and data without a declaration are known to the controller
by names that nothing else declares. -/
structure Uniform (data : List MotionDatum) (items : List Item) : Prop where
  declared : ∀ d ∈ data, ∀ e ∈ data, d.label.name = e.label.name → d.declaration ≠ .ok "" →
    e.declaration ≠ .ok "" → d.declaration = e.declaration
  silent : ∀ d ∈ data, d.declaration = .ok "" →
    (∀ i ∈ used items, i.isNamed d.label.name = false) ∧ d.isBuiltIn = true

section Resolves

variable {actions : List Action} {r : Robot Float} (hclear : Clear (used (itemsOf actions r)))
  (hlegible : Legible (used (itemsOf actions r)))

include hclear hlegible

theorem resolves_of_mem {d : MotionDatum} (hd : d ∈ motionData actions) :
    Resolves (itemsOf actions r) d := by
  have hused (hwritten : d.declaration ≠ .ok "") : d.item ∈ used (itemsOf actions r) :=
    mem_used_iff.2 ⟨item_mem_itemsOf hd, Item.isBlank_eq_false_iff.2 hwritten⟩
  refine ⟨?_, fun text htext hwritten => ?_, MotionDatum.denotes_iff_of_silent⟩
  · by_cases hsilent : d.declaration = .ok ""
    · exact ⟨"", hsilent⟩
    · obtain ⟨before, after, hsplit⟩ := List.append_of_mem (hused hsilent)
      exact hlegible before d.item after hsplit fun htarget =>
        absurd (Option.some.inj htarget) d.kind_label_ne.1
  · have hitem := hused fun hsilent => hwritten (Except.ok.inj (htext.symm.trans hsilent))
    obtain ⟨first, e, hdeclared, hkind⟩ := exists_declaredBy hclear hlegible hitem d.label_item
    have hlabel : e = d.label := Label.ext hdeclared.name_eq
      (DataType.eq_of_kind_eq hkind d.kind_label_ne.1 d.kind_label_ne.2)
    rw [← htext]
    exact ⟨first, hlabel ▸ hdeclared, MotionDatum.denotes_iff_of_declared hdeclared.filter_eq⟩

/-- All movements run with their own data exactly if the data are uniform. -/
theorem denotes_iff_uniform :
    (∀ d ∈ motionData actions, d.Denotes (itemsOf actions r)) ↔
      Uniform (motionData actions) (itemsOf actions r) := by
  constructor
  · intro hall
    refine ⟨fun d hd e he hname hdtext hetext => ?_, fun d hd hsilent =>
      (MotionDatum.denotes_iff_of_silent hsilent).1 (hall d hd)⟩
    have hown {d : MotionDatum} (hd : d ∈ motionData actions) (hwritten : d.declaration ≠ .ok "") :
        ∃ first, (firstUses (itemsOf actions r)).filter (Item.isNamed d.label.name) = [first] ∧
          first.code = d.declaration := by
      obtain ⟨text, htext⟩ := (resolves_of_mem hclear hlegible hd).written
      obtain ⟨first, hfirst, hdenotes⟩ := (resolves_of_mem hclear hlegible hd).declared text htext
        fun hempty => hwritten (hempty ▸ htext)
      rw [htext]
      exact ⟨first, hfirst.filter_eq, hdenotes.1 (hall d hd)⟩
    obtain ⟨first, hfirst, hcode⟩ := hown hd hdtext
    obtain ⟨first', hfirst', hcode'⟩ := hown he hetext
    rw [hname, hfirst'] at hfirst
    rw [← hcode, ← hcode', List.singleton_inj.1 hfirst]
  · intro huniform d hd
    by_cases hsilent : d.declaration = .ok ""
    · exact (MotionDatum.denotes_iff_of_silent hsilent).2 (huniform.silent d hd hsilent)
    · obtain ⟨text, htext⟩ := (resolves_of_mem hclear hlegible hd).written
      obtain ⟨first, hfirst, hdenotes⟩ := (resolves_of_mem hclear hlegible hd).declared text htext
        fun hempty => hsilent (hempty ▸ htext)
      -- the first item of the name is a datum of some movement as well
      have hused := mem_used_iff.1 (List.mem_of_find?_eq_some hfirst.first_eq)
      obtain ⟨e, he, rfl⟩ := exists_motionDatum hused.1 hfirst.label_eq d.kind_label_ne.1
        d.kind_label_ne.2
      have hname : d.label.name = e.label.name :=
        congrArg Label.name (Option.some.inj hfirst.label_eq).symm
      have hwritten : e.declaration ≠ .ok "" := Item.isBlank_eq_false_iff.1 hused.2
      refine hdenotes.2 ?_
      rw [← htext]
      exact (huniform.declared d hd e he hname hsilent hwritten).symm

end Resolves

/-- **What the names of a program stand for**: a datum with a declaration is declared under its
name, with its type and with the values of the first datum of the name, and one without is left to
the controller.  All movements run with their own data exactly if the data are uniform. -/
theorem Generator.createProgram_resolves (g : Generator) (actions : List Action)
    (moduleName : Option String) {program : String}
    (h : (g.createProgram (programOf actions) moduleName).2 = .ok program) :
    (∃ body, programBody actions g.robot = .ok body ∧
      program = joinLines g.settings (ProgramModule.lines g.settings
        (ProgramModule.nameOr g.settings moduleName)
        ((firstUses (itemsOf actions g.robot)).map Item.written) body)) ∧
    (∀ m, .movement m ∈ actions → ∀ d ∈ m.motionData, Resolves (itemsOf actions g.robot) d) ∧
    ((∀ m, .movement m ∈ actions → ∀ d ∈ m.motionData, d.Denotes (itemsOf actions g.robot)) ↔
      Uniform (motionData actions) (itemsOf actions g.robot)) := by
  obtain ⟨hclear, hlegible, body, hbody, htext⟩ := createProgram_ok_iff.1 h
  refine ⟨⟨body, hbody, htext⟩, fun m hm d hd =>
    resolves_of_mem hclear hlegible (mem_motionData_iff.2 ⟨m, hm, hd⟩), ?_⟩
  rw [← denotes_iff_uniform hclear hlegible]
  constructor
  · intro hall d hd
    obtain ⟨m, hm, hd⟩ := mem_motionData_iff.1 hd
    exact hall m hm d hd
  · intro hall m hm d hd
    exact hall d (mem_motionData_iff.2 ⟨m, hm, hd⟩)

/-! ### Two speeds of one name -/

/-- A speed of a hundred millimetres in a second. -/
def calmPace : SpeedData :=
  ⟨⟨"pace", by decide⟩, .whole 100, .real 500, .real 5000, .real 1000, .bool false,
    by decide +kernel⟩

/-- A speed of the same name, and of five hundred. -/
def fastPace : SpeedData :=
  ⟨⟨"pace", by decide⟩, .whole 500, .real 500, .real 5000, .real 1000, .bool false,
    by decide +kernel⟩

/-- A movement to the docked target with some speed. -/
def pacedMovement (s : SpeedData) : Movement := { dockedMovement .world with speed := s }

/-- Two movements that differ in their speeds. -/
def pacedMovements : List Movement := [pacedMovement calmPace, pacedMovement fastPace]

theorem declaration_pacedMovement (s : SpeedData) :
    (pacedMovement s).declaration (some tuckedArm) = .ok dockedLiteral :=
  (Movement.declaration_congr rfl rfl rfl _).trans declaration_dockedMovement

theorem used_pacedMovement {s : SpeedData} (h : (MotionDatum.speed s).item.isBlank = false) :
    used ((pacedMovement s).items tuckedArm) =
      [(MotionDatum.speed s).item, (pacedMovement s).targetItem tuckedArm] := by
  have hzone : (MotionDatum.zone usualZone).item.isBlank = true := Item.isBlank_iff.2 rfl
  have hobject : (MotionDatum.workObject worldObject).item.isBlank = true := Item.isBlank_iff.2 rfl
  have htarget : ((pacedMovement s).targetItem tuckedArm).isBlank = false :=
    Item.isBlank_of_target rfl (Movement.kind_label _)
  have hitems : (pacedMovement s).items tuckedArm =
      [(MotionDatum.speed s).item, (MotionDatum.zone usualZone).item,
        (MotionDatum.workObject worldObject).item, (pacedMovement s).targetItem tuckedArm] := rfl
  rw [hitems, used_cons h, used_cons_of_blank hzone, used_cons_of_blank hobject, used_cons htarget]
  rfl

theorem used_paced : used (itemsOf (pacedMovements.map .movement) tuckedArm) =
    [(MotionDatum.speed calmPace).item, (pacedMovement calmPace).targetItem tuckedArm,
      (MotionDatum.speed fastPace).item, (pacedMovement fastPace).targetItem tuckedArm] := by
  have hcalm : (MotionDatum.speed calmPace).item.isBlank = false := by decide +kernel
  have hfast : (MotionDatum.speed fastPace).item.isBlank = false := by decide +kernel
  rw [pacedMovements, List.map_cons, List.map_singleton, itemsOf, List.flatMap_cons,
    List.flatMap_singleton, used_append, Action.items, Action.items, used_pacedMovement hcalm,
    used_pacedMovement hfast]
  rfl

theorem exists_program_paced : ∃ program, (tuckedGenerator.createProgram
    (programOf (pacedMovements.map .movement)) none).2 = .ok program := by
  refine Generator.exists_program ?_ fun i hi => ?_
  · rw [show tuckedGenerator.robot = tuckedArm from rfl, used_paced, Clear]
    decide
  · rw [show tuckedGenerator.robot = tuckedArm from rfl, used_paced] at hi
    have hspeed {s : SpeedData} (hs : s.declaration.toBool = true) :
        ∃ text, (MotionDatum.speed s).item.code = .ok text := exists_ok_of_toBool hs
    simp only [List.mem_cons, List.not_mem_nil, or_false] at hi
    rcases hi with rfl | rfl | rfl | rfl
    · exact hspeed (by decide +kernel)
    · exact ⟨_, declaration_pacedMovement calmPace⟩
    · exact hspeed (by decide +kernel)
    · exact ⟨_, declaration_pacedMovement fastPace⟩

theorem createProgram_resolves_paced : ∃ program,
    (tuckedGenerator.createProgram (programOf (pacedMovements.map .movement)) none).2 =
      .ok program ∧
    (∃ body, programBody (pacedMovements.map .movement) tuckedGenerator.robot = .ok body ∧
      program = joinLines tuckedGenerator.settings (ProgramModule.lines tuckedGenerator.settings
        (ProgramModule.nameOr tuckedGenerator.settings none)
        ((firstUses (itemsOf (pacedMovements.map .movement) tuckedGenerator.robot)).map
          Item.written) body)) ∧
    (∀ m, .movement m ∈ pacedMovements.map Action.movement → ∀ d ∈ m.motionData,
      Resolves (itemsOf (pacedMovements.map .movement) tuckedGenerator.robot) d) ∧
    ((∀ m, .movement m ∈ pacedMovements.map Action.movement → ∀ d ∈ m.motionData,
      d.Denotes (itemsOf (pacedMovements.map .movement) tuckedGenerator.robot)) ↔
        Uniform (motionData (pacedMovements.map .movement))
          (itemsOf (pacedMovements.map .movement) tuckedGenerator.robot)) := by
  obtain ⟨program, hprogram⟩ := exists_program_paced
  exact ⟨program, hprogram, tuckedGenerator.createProgram_resolves _ none hprogram⟩

/-- A movement does not always run with its own speed: the second one has that of the first. -/
theorem createProgram_paced :
    (∃ program, (tuckedGenerator.createProgram
      (programOf (pacedMovements.map .movement)) none).2 = .ok program) ∧
      ¬ ∀ m, .movement m ∈ pacedMovements.map Action.movement → ∀ d ∈ m.motionData,
        d.Denotes (itemsOf (pacedMovements.map .movement) tuckedGenerator.robot) := by
  refine ⟨exists_program_paced, fun hall => ?_⟩
  have hfast := hall (pacedMovement fastPace) (List.mem_cons_of_mem _ List.mem_cons_self)
    (.speed fastPace) List.mem_cons_self
  have hfirst : (firstUses (itemsOf (pacedMovements.map .movement) tuckedArm)).filter
      (Item.isNamed (MotionDatum.speed fastPace).label.name) =
        [(MotionDatum.speed calmPace).item] := by
    rw [firstUses, used_paced, filter_isNamed_eraseDupsBy]
    rfl
  have hcode := (MotionDatum.denotes_iff_of_declared hfirst).1 hfast
  have htexts : calmPace.declaration.toOption ≠ fastPace.declaration.toOption := by decide +kernel
  exact htexts (congrArg Except.toOption hcode)

end SixAxis
