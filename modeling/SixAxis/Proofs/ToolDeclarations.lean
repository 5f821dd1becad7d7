import SixAxis.Proofs.JobSteps
import SixAxis.Proofs.ReadBack
import SixAxis.Proofs.RegularArm
import SixAxis.Proofs.TargetDeclarations

/-!
# The tools of a job in both modules

The system module of a job declares the tools of the job, and the program names the tool of each
movement.  A name in the data of a movement, or of the robot, leads to a tool of the job or to the
standard tool, so the name that the program writes is declared once, as the tool that the movement
holds.  A movement can also define its tool in place.  Such a tool is in no table.

* `ToolTable.Holds` — a table holds the tools of some sections, `ToolTable.Holds.register` for one
  more section and `ToolTable.Holds.foldlM` for all;
* `RobotSection.tool_of_built` — the robot holds the standard tool or one of the job;
* `Decoder.toolPart_eq_ok` — what the data of a movement say about its tool;
* `Job.agreesOnTools` — **what both modules of a job say about tools**.
-/

namespace SixAxis

/-! ### Lists -/

section Lists

variable {α : Type}

/-- A list of which no two members pass a test has one member that does, where it has any. -/
theorem filter_eq_singleton {l : List α} {p : α → Bool} {a : α}
    (hpair : l.Pairwise fun x y => ¬ (p x = true ∧ p y = true)) (ha : a ∈ l) (hp : p a = true) :
    l.filter p = [a] := by
  induction l with
  | nil => cases ha
  | cons x l ih =>
    obtain ⟨hx, hrest⟩ := List.pairwise_cons.1 hpair
    rcases List.mem_cons.1 ha with rfl | ha
    · rw [List.filter_cons_of_pos hp, List.filter_eq_nil_iff.2 fun y hy hpy => hx y hy ⟨hp, hpy⟩]
    · rw [List.filter_cons_of_neg fun hpx => hx a ha ⟨hpx, hp⟩, ih hrest ha]

end Lists

/-! ### The table of a job -/

namespace ToolTable

/-- A tool is added at the end, under a name that is free. -/
theorem register_eq_ok {t t' : ToolTable} {tool : Tool Float} (h : t.register tool = .ok t') :
    tool.name.isText Tool.standardName = false ∧ t.contains tool.name = false ∧
      t' = { t with entries := t.entries ++ [(tool.name, tool)] } := by
  rw [register] at h
  split at h
  · cases h
  · rename_i hstandard
    obtain ⟨-, -, h⟩ := bind_eq_ok.1 h
    split at h
    · rename_i hfree
      cases h
      exact ⟨Bool.eq_false_iff.2 hstandard, by rwa [Bool.not_eq_true'] at hfree, rfl⟩
    · cases h

/-- A table holds the tools of some sections, each under its own name: no two under the same one,
and none under that of the standard tool. -/
structure Holds (table : ToolTable) (sections : List ToolSection) (tools : List (Tool Float)) :
    Prop where
  built : List.Forall₂ (fun s t => s.build = .ok t) sections tools
  tools_eq : table.tools = tools
  names_eq : table.names = sections.map fun s => .text s.name
  nodup : (sections.map (·.name)).Nodup
  not_standard : Tool.standardName ∉ sections.map (·.name)

namespace Holds

variable {table table' : ToolTable} {sections : List ToolSection} {tools : List (Tool Float)}

theorem empty (owner : String) : (ToolTable.empty owner).Holds [] [] :=
  ⟨.nil, rfl, rfl, List.nodup_nil, List.not_mem_nil⟩

/-- A section more. -/
theorem register {s : ToolSection} {tool : Tool Float} (h : table.Holds sections tools)
    (hbuild : s.build = .ok tool) (hregister : table.register tool = .ok table') :
    table'.Holds (sections ++ [s]) (tools ++ [tool]) := by
  obtain ⟨hstandard, hfree, rfl⟩ := register_eq_ok hregister
  have hname := ToolSection.name_of_build hbuild
  have hnew : s.name ∉ sections.map (·.name) := by
    intro hmem
    obtain ⟨other, hother, hsame⟩ := List.mem_map.1 hmem
    rw [contains, h.names_eq, hname, List.any_eq_false] at hfree
    refine hfree (.text other.name) (List.mem_map_of_mem hother) ?_
    rw [hsame, Datum.same]
    exact beq_self_eq_true s.name
  have hother : s.name ≠ Tool.standardName := by
    rw [hname] at hstandard
    exact of_decide_eq_false hstandard
  refine ⟨List.rel_append h.built (.cons hbuild .nil), ?_, ?_, ?_, ?_⟩
  · rw [ToolTable.tools, List.map_append]
    exact congrArg (· ++ [tool]) h.tools_eq
  · rw [names, List.map_append, List.map_append, List.map_singleton, List.map_singleton, ← hname]
    exact congrArg (· ++ [tool.name]) h.names_eq
  · rw [List.map_append, List.map_singleton, ← List.concat_eq_append, List.nodup_concat]
    exact ⟨hnew, h.nodup⟩
  · rw [List.map_append, List.mem_append, not_or, List.map_singleton, List.mem_singleton]
    exact ⟨h.not_standard, hother.symm⟩

/-- All sections. -/
theorem foldlM (more : List ToolSection) (h : table.Holds sections tools)
    (hfold : more.foldlM (fun table s => do table.register (← s.build)) table = .ok table') :
    ∃ rest, table'.Holds (sections ++ more) (tools ++ rest) := by
  induction more generalizing table sections tools with
  | nil =>
    cases hfold
    exact ⟨[], by rwa [List.append_nil, List.append_nil]⟩
  | cons s more ih =>
    rw [List.foldlM_cons] at hfold
    obtain ⟨next, hstep, hfold⟩ := bind_eq_ok.1 hfold
    obtain ⟨tool, hbuild, hregister⟩ := bind_eq_ok.1 hstep
    obtain ⟨rest, hrest⟩ := ih (h.register hbuild hregister) hfold
    rw [List.append_assoc, List.append_assoc] at hrest
    exact ⟨tool :: rest, hrest⟩

/-- No two tools have the same name. -/
theorem pairwise (h : table.Holds sections tools) (name : String) :
    tools.Pairwise fun t u => ¬ (t.name.isText name = true ∧ u.name.isText name = true) := by
  have hnames : tools.map (·.name) = sections.map fun s => .text s.name := by
    have hbuilt := h.built
    clear h
    induction hbuilt with
    | nil => rfl
    | cons hbuild _ ih => rw [List.map_cons, List.map_cons, ih, ToolSection.name_of_build hbuild]
  have hpair : (sections.map (·.name)).Pairwise (· ≠ ·) := h.nodup
  rw [List.pairwise_map] at hpair
  have htexts : (tools.map (·.name)).Pairwise
      fun a b => ¬ (a.isText name = true ∧ b.isText name = true) := by
    rw [hnames, List.pairwise_map]
    refine hpair.imp fun {s u} hne hboth => hne ?_
    exact (beq_iff_eq.1 hboth.1).trans (beq_iff_eq.1 hboth.2).symm
  rwa [List.pairwise_map] at htexts

end Holds

end ToolTable

theorem Job.holds_of_toolTable {j : Job} {owner : String} {table : ToolTable}
    (h : j.toolTable owner = .ok table) : table.Holds j.tools table.tools := by
  obtain ⟨tools, htools⟩ := ToolTable.Holds.foldlM j.tools (.empty owner) h
  rw [List.nil_append, List.nil_append] at htools
  rwa [htools.tools_eq]

/-! ### The tool of the robot -/

namespace RobotSection

/-- The tool of the robot is the standard one, or that of a section of the job. -/
theorem chooseTool_eq_ok {r : RobotSection} {tools : List ToolSection} {t : Tool Float}
    (h : r.chooseTool tools = .ok t) : t = .standard ∨ ∃ s ∈ tools, s.build = .ok t := by
  rw [chooseTool] at h
  cases hname : r.tool with
  | none =>
    rw [hname] at h
    cases h
    exact .inl rfl
  | some name =>
    rw [hname] at h
    simp only at h
    split at h
    · rename_i s hs
      exact .inr ⟨s, mem_of_mem_toolsByName (List.mem_of_find?_eq_some hs), h⟩
    · cases h

end RobotSection

theorem Robot.tool_of_inSpace {r r' : Robot Float} (h : r.inSpace = .ok r') : r'.tool = r.tool := by
  obtain ⟨-, -, h⟩ := bind_eq_ok.1 h
  cases h
  rfl

theorem Robot.tool_of_moved? {r r' : Robot Float} {m : Motion Float} (h : r.moved? m = .ok r') :
    r'.tool = r.tool := by
  simp only [moved?, bind_eq_ok] at h
  obtain ⟨-, -, base, -, flange, -, h⟩ := h
  have htool := tool_of_inSpace h
  exact htool

theorem Robot.tool_of_assemble {p : Robot.Parts Float} {r : Robot Float}
    (h : Robot.assemble p = .ok r) : r.tool = p.tool := by
  rw [assemble] at h
  split at h
  · split at h
    · split at h
      · split at h
        · cases h
        · exact tool_of_inSpace h
      · cases h
    · cases h
  · cases h

/-- A robot of a model holds the tool that it is given. -/
theorem Model.tool_of_robot {m : Model} {position : Frame Float} {tool : Tool Float}
    {axes : List (ExternalAxis Float)} {r : Robot Float}
    (h : m.robot position tool axes = .ok r) : r.tool = tool := by
  obtain ⟨atBase, hbase, hmoved⟩ := bind_eq_ok.1 h
  obtain ⟨frames, -, hbase⟩ := bind_eq_ok.1 hbase
  obtain ⟨limits, -, hbase⟩ := bind_eq_ok.1 hbase
  obtain ⟨flange, -, hbase⟩ := bind_eq_ok.1 hbase
  rw [Robot.tool_of_moved? hmoved, Robot.tool_of_assemble hbase]

/-- The robot of a job holds the standard tool or one of the job. -/
theorem RobotSection.tool_of_built {s : RobotSection} {tools : List ToolSection} {r : Robot Float}
    (h : s.built tools = .ok r) : r.tool = .standard ∨ ∃ t ∈ tools, t.build = .ok r.tool := by
  obtain ⟨tool, htool, h⟩ := bind_eq_ok.1 h
  obtain ⟨position, -, h⟩ := bind_eq_ok.1 h
  obtain ⟨axes, -, h⟩ := bind_eq_ok.1 h
  obtain ⟨model, -, h⟩ := bind_eq_ok.1 h
  rw [Model.tool_of_robot h]
  exact chooseTool_eq_ok htool

/-! ### The tool of a movement -/

namespace Decoder

variable {c : Decoder} {r : Robot Float}

/-- What the data of a movement say about its tool: nothing, the name of a tool that the decoder
knows, or a record that defines it in place. -/
theorem toolPart_eq_ok (hrobot : c.robot = some r) {d : Datum} {t : Option (Tool Float)}
    (h : c.toolPart d = .ok t) :
    t = none ∨ (∃ known, t = some known ∧ (known ∈ c.tools ∨ known = r.tool)) ∨
      ∃ fields, d = .record fields := by
  cases d with
  | null =>
    cases h
    exact .inl rfl
  | text s =>
    cases hfound : c.tools.find? (·.name.isText s) with
    | some known =>
      simp only [toolPart, hfound] at h
      cases h
      exact .inr (.inl ⟨known, rfl, .inl (List.mem_of_find?_eq_some hfound)⟩)
    | none =>
      simp only [toolPart, hfound, hrobot] at h
      split at h
      · cases h
        exact .inr (.inl ⟨r.tool, rfl, .inr rfl⟩)
      · cases h
  | record fields => exact .inr (.inr ⟨fields, rfl⟩)
  | _ => cases h

/-- The tool of a movement is read from its field. -/
theorem toolPart_of_read? {d : Datum} {m : Movement}
    (h : c.read? d = .ok (some (.action (.movement m)))) :
    c.toolPart (d.field "tool" .null) = .ok m.tool :=
  (madeOf_of_decode? (read?_eq_ok.1 h)).tool

end Decoder

namespace Movement

/-- The tool that a movement holds: its own, or that of the robot. -/
def heldTool (m : Movement) (r : Robot Float) : Tool Float := m.tool.getD r.tool

theorem toolName_eq (m : Movement) (r : Robot Float) :
    m.toolName (some r) = (m.heldTool r).name := by
  simp only [toolName, heldTool]
  cases m.tool <;> rfl

/-- The instruction names the tool in front of the work object. -/
theorem instruction_eq (m : Movement) (r : Option (Robot Float)) :
    ∃ start rest, m.instruction r = m.kind.instruction ++ start ++
      (", " ++ (m.toolName r).display ++ "\\WObj:=" ++ m.workObject.name.text) ++ rest := by
  let front := m.variableName ++ ", " ++ m.speed.name.text ++ ", " ++ m.zone.name.text
  have harguments : m.arguments r =
      front ++ (", " ++ (m.toolName r).display ++ "\\WObj:=" ++ m.workObject.name.text) := by
    simp only [arguments, front, toString, String.append_assoc]
  have hgrouped (a b c d e : String) : a ++ b ++ (c ++ d) ++ e = a ++ (b ++ c) ++ d ++ e := by
    simp only [String.append_assoc]
  rw [instruction, harguments]
  cases m.output with
  | none => exact ⟨" " ++ front, ";", hgrouped _ _ _ _ _⟩
  | some output =>
    by_cases habsolute : m.isAbsolute = true
    · refine ⟨" " ++ front, ";\n" ++ output.instruction, ?_⟩
      simp only [if_pos habsolute, toString, String.append_assoc]
    · refine ⟨"DO " ++ front, ", " ++ output.name.text ++ ", " ++ output.level.repr ++ ";", ?_⟩
      simp only [if_neg habsolute, toString, String.append_assoc]

theorem instruction_ne_empty (m : Movement) (r : Option (Robot Float)) :
    (m.instruction r).isEmpty = false := by
  have hkind : m.kind.instruction ≠ "" := by cases m.kind <;> decide
  obtain ⟨start, rest, h⟩ := m.instruction_eq r
  rw [← Bool.not_eq_true, String.isEmpty_iff, h]
  simp only [String.append_eq_empty_iff, hkind, false_and, not_false_eq_true]

end Movement

/-! ### The values of a program -/

/-- Only actions can be written as a program. -/
theorem Drafting.values_of_all {values : List (Option Entity)} {r : Robot Float} {d d' : Draft}
    (h : (Drafting.all values r).run.run d = (.ok (), d')) :
    ∃ actions, values = programOf actions := by
  induction values generalizing d with
  | nil => exact ⟨[], rfl⟩
  | cons v rest ih =>
    have hsteps : Drafting.all (v :: rest) r = value v r >>= fun _ => Drafting.all rest r := rfl
    rw [hsteps, run_bind] at h
    match v with
    | some (.action a) =>
      cases hrun : (value (some (.action a)) r).run.run d with
      | mk outcome next =>
        rw [hrun] at h
        cases outcome with
        | error f => cases h
        | ok u =>
          obtain ⟨actions, hactions⟩ := ih h
          exact ⟨a :: actions, congrArg (some (.action a) :: ·) hactions⟩
    | none | some (.joints _) | some (.speed _) | some (.zone _) | some (.workObject _)
    | some (.tool _) | some (.target _) => cases h

theorem Generator.values_of_createProgram {g : Generator} {values : List (Option Entity)}
    {moduleName : Option String} {program : String}
    (h : (g.createProgram values moduleName).2 = .ok program) :
    ∃ actions, values = programOf actions := by
  have htext : (ProgramModule.generate g.robot g.settings values moduleName).text = .ok program := h
  rw [ProgramModule.generate] at htext
  cases hrun : (Drafting.all values g.robot).run.run .empty with
  | mk outcome draft =>
    cases outcome with
    | error f =>
      rw [hrun] at htext
      cases htext
    | ok u => exact Drafting.values_of_all hrun

/-! ### Both modules -/

/-- How the two modules of a job treat the tool of a movement, given what its data say about it,
and the tools that the system module declares, each with the lines of its entry. -/
inductive Movement.ToolDeclared (m : Movement) (r : Robot Float) (given : Datum)
    (entries : List (Tool Float × List String)) : Prop where
  /-- The program names the tool that every controller has. -/
  | standard (named : m.toolName (some r) = .text Tool.standardName)
  /-- The tool is defined in place. -/
  | inline (fields : Datum.Fields) (defined : given = .record fields)
  /-- The program names a tool that has one entry, which renders the tool that the movement
  holds. -/
  | listed (name : String) (lines : List String) (named : m.toolName (some r) = .text name)
      (rendered : SystemModule.toolLines (m.heldTool r) = .ok lines)
      (declared : entries.filter (fun e => e.1.name.isText name) = [(m.heldTool r, lines)])

/-- What both modules of a job say about tools, given the tools of its sections, the entries of the
system module, and the actions and instructions of the program. -/
structure Job.AgreesOnTools (j : Job) (modules : Modules) (tools : List (Tool Float))
    (entries : List (List String)) (actions : List Action) (body : List String) : Prop where
  built : j.tools.mapM ToolSection.build = .ok tools
  /-- The entries are those of the tools of the job, in order. -/
  rendered : tools.mapM SystemModule.toolLines = .ok entries
  system : modules.system =
    joinLines j.settings (SystemModule.header ++ entries.flatten ++ ["ENDMODULE"])
  nodup : (j.tools.map (·.name)).Nodup
  not_standard : Tool.standardName ∉ j.tools.map (·.name)
  robot : j.robot.built j.tools = .ok modules.generator.robot
  read : Decoder.readAll ⟨some modules.generator.robot, tools⟩ (j.actions.map .record) =
    .ok (programOf actions)
  written : programBody actions modules.generator.robot = .ok body
  program : ∃ declarations, modules.program = joinLines j.settings
    (ProgramModule.lines j.settings (ProgramModule.nameOr j.settings none) declarations body)
  /-- The program has the instruction of every movement, and it names the tool. -/
  named : ∀ m, .movement m ∈ actions → m.instruction (some modules.generator.robot) ∈ body ∧
    ∃ start rest, m.instruction (some modules.generator.robot) = m.kind.instruction ++ start ++
      (", " ++ (m.toolName (some modules.generator.robot)).display ++ "\\WObj:="
        ++ m.workObject.name.text) ++ rest
  declared : ∀ (i : Nat) (fields : Datum.Fields) (m : Movement),
    j.actions[i]? = some fields → actions[i]? = some (.movement m) →
    m.ToolDeclared modules.generator.robot ((Datum.record fields).field "tool" .null)
      (tools.zip entries)

/-- A tool of the job has one entry in the system module. -/
theorem ToolTable.Holds.entry {table : ToolTable} {sections : List ToolSection}
    {tools : List (Tool Float)} {entries : List (List String)} (h : table.Holds sections tools)
    (hentries : tools.mapM SystemModule.toolLines = .ok entries) {t : Tool Float} (ht : t ∈ tools) :
    ∃ name lines, t.name = .text name ∧ SystemModule.toolLines t = .ok lines ∧
      (tools.zip entries).filter (fun e => e.1.name.isText name) = [(t, lines)] := by
  have hrendered := mapM_eq_ok_iff.1 hentries
  obtain ⟨s, -, hbuild⟩ := exists_pair_of_mem_right h.built ht
  obtain ⟨lines, hentry, hlines⟩ := exists_pair_of_mem_left hrendered ht
  have hname := ToolSection.name_of_build hbuild
  refine ⟨s.name, lines, hname, hlines, filter_eq_singleton ?_ hentry ?_⟩
  · have hpair := h.pairwise s.name
    rw [← List.map_fst_zip (Nat.le_of_eq hrendered.length_eq), List.pairwise_map] at hpair
    exact hpair
  · show t.name.isText s.name = true
    rw [hname]
    exact beq_self_eq_true s.name

/-- The tool that a movement was read with is declared, or defined in place. -/
theorem Movement.toolDeclared_of_read? {sections : List ToolSection} {table : ToolTable}
    {entries : List (List String)} {r : Robot Float} (htable : table.Holds sections table.tools)
    (hentries : table.tools.mapM SystemModule.toolLines = .ok entries)
    (hrobot : r.tool = .standard ∨ ∃ s ∈ sections, s.build = .ok r.tool) {d : Datum} {m : Movement}
    (hread : Decoder.read? ⟨some r, table.tools⟩ d = .ok (some (.action (.movement m)))) :
    m.ToolDeclared r (d.field "tool" .null) (table.tools.zip entries) := by
  have hlisted (h : m.heldTool r ∈ table.tools) :
      m.ToolDeclared r (d.field "tool" .null) (table.tools.zip entries) := by
    obtain ⟨name, lines, hname, hlines, hentry⟩ := htable.entry hentries h
    exact .listed name lines (by rw [toolName_eq, hname]) hlines hentry
  have hown (h : m.heldTool r = r.tool) :
      m.ToolDeclared r (d.field "tool" .null) (table.tools.zip entries) := by
    rcases hrobot with hstandard | ⟨s, hs, hbuild⟩
    · exact .standard (by rw [toolName_eq, h, hstandard]; rfl)
    · refine hlisted ?_
      obtain ⟨t, hpair, hbuilt⟩ := exists_pair_of_mem_left htable.built hs
      rw [hbuild] at hbuilt
      rw [h, Except.ok.inj hbuilt]
      exact (List.of_mem_zip hpair).2
  rcases Decoder.toolPart_eq_ok rfl (Decoder.toolPart_of_read? hread) with
    hnone | ⟨known, hknown, hmem | hsame⟩ | ⟨fields, hfields⟩
  · exact hown (by rw [heldTool, hnone]; rfl)
  · exact hlisted (by rw [heldTool, hknown]; exact hmem)
  · exact hown (by rw [heldTool, hknown]; exact hsame)
  · exact .inline fields hfields

/-- **What both modules of a job say about tools.**  The system module declares the tools of the
job, each once and in order.  A tool that the program names for a movement is the standard one, or
is defined in place by the movement, or has exactly one entry, which renders the tool that the
movement holds. -/
theorem Job.agreesOnTools (j : Job) (owner : String) {modules : Modules}
    (h : (j.generate owner).result.1 = .ok modules) :
    ∃ tools entries actions body, j.AgreesOnTools modules tools entries actions body := by
  rw [result_generate] at h
  obtain ⟨table, htable, h⟩ := bind_eq_ok.1 h
  obtain ⟨robot, hbuilt, h⟩ := bind_eq_ok.1 h
  obtain ⟨values, hread, h⟩ := bind_eq_ok.1 h
  obtain ⟨program, hprogram, h⟩ := bind_eq_ok.1 h
  obtain ⟨system, hsystem, h⟩ := bind_eq_ok.1 h
  cases h
  obtain ⟨lines, hlines, hsystem⟩ := bind_eq_ok.1 hsystem
  obtain ⟨entries, hentries, hlines⟩ := bind_eq_ok.1 hlines
  cases hlines
  cases hsystem
  obtain ⟨actions, rfl⟩ := Generator.values_of_createProgram hprogram
  obtain ⟨-, -, body, hbody, hprogram⟩ := Generator.createProgram_ok_iff.1 hprogram
  have hheld := holds_of_toolTable htable
  refine ⟨table.tools, entries, actions, body, ?_⟩
  exact
    { built := mapM_eq_ok_iff.2 hheld.built
      rendered := hentries
      system := rfl
      nodup := hheld.nodup
      not_standard := hheld.not_standard
      robot := hbuilt
      read := hread
      written := hbody
      program := ⟨_, hprogram⟩
      named := by
        intro m hm
        refine ⟨?_, m.instruction_eq _⟩
        obtain ⟨codes, hcodes, hbody⟩ := bind_eq_ok.1 hbody
        cases hbody
        obtain ⟨code, hpair, hcode⟩ := exists_pair_of_mem_left (mapM_eq_ok_iff.1 hcodes) hm
        cases hcode
        rw [List.mem_filter, m.instruction_ne_empty]
        exact ⟨(List.of_mem_zip hpair).2, rfl⟩
      declared := by
        intro i fields m hfields hm
        have hrecord : (j.actions.map Datum.record)[i]? = some (.record fields) := by
          rw [List.getElem?_map, hfields]
          rfl
        have hvalue : (programOf actions)[i]? = some (some (.action (.movement m))) := by
          rw [programOf, List.getElem?_map, hm]
          rfl
        have hone := related_of_getElem? (mapM_eq_ok_iff.1 hread) hrecord hvalue
        have htool := RobotSection.tool_of_built hbuilt
        exact Movement.toolDeclared_of_read? hheld hentries htool hone }

/-! ### A tool that is defined in place -/

/-- A torch. -/
def torchSection : ToolSection :=
  ⟨"torch", .world, ⟨[0.0, 0.0, 100.0], [1.0, 0.0, 0.0], [0.0, 1.0, 0.0]⟩, 2.5⟩

/-- The entry of the torch in a system module. -/
def torchLines : List String := [
  " PERS tooldata torch := [TRUE, [[0, 0, 100], [1, 0, 0, 0]],",
  "\t\t\t\t\t\t[2.5, [0, 0, 0.001],[1, 0, 0, 0], 0, 0, 0]];",
  ""]

/-- A gripper. -/
def gripper : Tool Float where
  name := "gripper"
  attachment := .world
  tcp := ⟨⟨0, 0, 150⟩, .unitX, .unitY⟩
  mesh := .empty
  mass := .whole 1
  named := by decide
  heavy := by decide +kernel

/-- A target that brings the wrist centre of the torch onto the axis of joint one. -/
def seam : Target :=
  ⟨⟨"seam", by decide⟩, ⟨⟨235, 0, 1500⟩, ⟨0, 0, -1⟩, .unitY⟩, none, default,
    Target.inRange_none⟩

/-- A movement to the target with the tool of the robot, and one with the gripper. -/
def cellMovements : List Movement :=
  [usualMovement seam, { usualMovement seam with tool := some gripper }]

/-- A job whose robot holds the torch; the gripper is defined in place by the second movement. -/
def weldingCell : Job where
  settings := .usual
  robot := { RobotSection.usual with tool := some "torch" }
  tools := [torchSection]
  actions := cellMovements.map fun m => match m.toData with
    | .record fields => fields
    | _ => []

/-- The instructions of the two movements. -/
def cellInstructions : List String :=
  ["MoveL seam, v5, z0, torch\\WObj:=wobj0;", "MoveL seam, v5, z0, gripper\\WObj:=wobj0;"]

theorem toolTable_weldingCell :
    ∃ table, weldingCell.toolTable "job" = .ok table ∧
      table.tools.mapM SystemModule.toolLines = .ok [torchLines] := by
  have hentries : (match weldingCell.toolTable "job" with
    | .error _ => false
    | .ok table => match table.tools.mapM SystemModule.toolLines with
      | .error _ => false
      | .ok entries => decide (entries = [torchLines])) = true := by decide +kernel
  cases htable : weldingCell.toolTable "job" with
  | error f =>
    rw [htable] at hentries
    cases hentries
  | ok table =>
    rw [htable] at hentries
    simp only at hentries
    refine ⟨table, rfl, ?_⟩
    cases hlines : table.tools.mapM SystemModule.toolLines with
    | error f =>
      rw [hlines] at hentries
      cases hentries
    | ok entries =>
      rw [hlines] at hentries
      rw [of_decide_eq_true hentries]

theorem robot_weldingCell :
    ∃ robot, weldingCell.robot.built weldingCell.tools = .ok robot ∧
      robot.tool.name = .text "torch" ∧ (usualMovement seam).passesChecks robot = true := by
  have hpasses : (match weldingCell.robot.built weldingCell.tools with
    | .error _ => false
    | .ok robot => robot.tool.name.isText "torch" && (usualMovement seam).passesChecks robot) =
      true := by decide +kernel
  cases hrobot : weldingCell.robot.built weldingCell.tools with
  | error f =>
    rw [hrobot] at hpasses
    cases hpasses
  | ok robot =>
    rw [hrobot] at hpasses
    obtain ⟨hname, hchecks⟩ := (Bool.and_eq_true _ _).mp hpasses
    refine ⟨robot, rfl, ?_, hchecks⟩
    cases htool : robot.tool.name with
    | text s =>
      rw [htool] at hname
      rw [show s = "torch" from beq_iff_eq.1 hname]
    | _ =>
      rw [htool] at hname
      cases hname

/-- Both movements are written, to the target of the first one. -/
theorem createProgram_weldingCell {robot : Robot Float} {s : Solution Float}
    (htool : robot.tool.name = .text "torch") (hs : (usualMovement seam).solution robot = .ok s) :
    ((Generator.fresh robot .usual).createProgram
      (programOf (cellMovements.map .movement)) none).2 =
        .ok (joinLines .usual (ProgramModule.lines .usual "MainModule"
          [(usualMovement seam).declarationOf s] cellInstructions)) := by
  let own := usualMovement seam
  let other := { usualMovement seam with tool := some gripper }
  have hown : own.declaration (some robot) = .ok (own.declarationOf s) := bind_eq_ok.2 ⟨s, hs, rfl⟩
  have hused : used (itemsOf (cellMovements.map .movement) robot) =
      [own.targetItem robot, other.targetItem robot] := by
    rw [cellMovements, List.map_cons, List.map_cons, List.map_nil, itemsOf, List.flatMap_cons,
      List.flatMap_cons, List.flatMap_nil, used_append, used_append]
    have hother : used (other.items robot) = [other.targetItem robot] :=
      used_usualMovement seam robot
    rw [Action.items, Action.items, used_usualMovement, hother]
    rfl
  have hfirst : firstUses (itemsOf (cellMovements.map .movement) robot) =
      [own.targetItem robot] := by
    rw [firstUses, hused]
    rfl
  refine Generator.createProgram_ok_iff.2 ⟨?_, ?_, cellInstructions, ?_, ?_⟩
  · rw [show (Generator.fresh robot .usual).robot = robot from rfl, hused]
    refine List.pairwise_pair.2 fun hclash => hclash.2 ?_
    rw [Movement.kind?_targetItem, Movement.kind?_targetItem]
  · rw [show (Generator.fresh robot .usual).robot = robot from rfl, hused]
    rintro before i after hsplit -
    have hi : i ∈ before ++ i :: after := List.mem_append_right _ List.mem_cons_self
    rw [← hsplit, List.mem_cons, List.mem_singleton] at hi
    rcases hi with rfl | rfl
    · exact ⟨_, hown⟩
    · exact ⟨_, hown⟩
  · have hname : own.toolName (some robot) = .text "torch" := htool
    have hinstruction :
        own.instruction (some robot) = "MoveL seam, v5, z0, torch\\WObj:=wobj0;" := by
      simp only [Movement.instruction, Movement.arguments, hname]
      rfl
    have hother : (Action.movement other).instruction (some robot) =
        .ok "MoveL seam, v5, z0, gripper\\WObj:=wobj0;" := rfl
    have hcodes : (cellMovements.map Action.movement).mapM (·.instruction (some robot)) =
        .ok cellInstructions := by
      have htorch : (Action.movement (usualMovement seam)).instruction (some robot) =
          .ok (own.instruction (some robot)) := rfl
      rw [cellMovements, List.map_cons, List.map_cons, List.map_nil, List.mapM_cons, List.mapM_cons,
        List.mapM_nil, hother, htorch, hinstruction]
      rfl
    rw [programBody, show (Generator.fresh robot .usual).robot = robot from rfl, hcodes]
    rfl
  · rw [show (Generator.fresh robot .usual).robot = robot from rfl, hfirst, List.map_singleton,
      Item.written_of_ok hown]
    rfl

/-- The two modules of the job. -/
theorem modules_weldingCell :
    ∃ modules declaration, (weldingCell.generate "job").result.1 = .ok modules ∧
      modules.program = joinLines .usual
        (ProgramModule.lines .usual "MainModule" [declaration] cellInstructions) ∧
      modules.system = joinLines .usual (SystemModule.header ++ torchLines ++ ["ENDMODULE"]) := by
  obtain ⟨table, htable, hentries⟩ := toolTable_weldingCell
  obtain ⟨robot, hrobot, htool, hchecks⟩ := robot_weldingCell
  obtain ⟨s, hs⟩ := Movement.exists_solution hchecks
  have hworld : (Frame.world : Frame Float).IsRebuilt := Frame.isExact_world.isRebuilt
  have hseam : seam.frame.IsRebuilt := by decide +kernel
  have hgripper : gripper.tcp.IsRebuilt := hworld.with_point _
  have hrestorable : Restorable (cellMovements.map .movement) robot := by
    intro m hm
    have hcell : m.workObject.axis = none ∧
        ∀ f ∈ m.frames, f = seam.frame ∨ f = .world ∨ f = gripper.tcp := by
      simp only [cellMovements, List.map_cons, List.map_nil, List.mem_cons, Action.movement.injEq,
        List.not_mem_nil, or_false] at hm
      rcases hm with rfl | rfl
      · refine ⟨rfl, fun f (hf : f ∈ [seam.frame, .world, .world]) => ?_⟩
        simp only [List.mem_cons, List.not_mem_nil, or_false, or_self] at hf
        exact hf.imp_right .inl
      · refine ⟨rfl, fun f (hf : f ∈ [seam.frame, .world, .world, .world, gripper.tcp]) => ?_⟩
        simp only [List.mem_cons, List.not_mem_nil, or_false, or_self_left] at hf
        exact hf
    refine ⟨fun a ha => ?_, fun f hf => ?_⟩
    · rw [hcell.1] at ha
      cases ha
    · rcases hcell.2 f hf with rfl | rfl | rfl
      · exact hseam
      · exact hworld
      · exact hgripper
  have hread : Decoder.readAll ⟨some robot, table.tools⟩ (weldingCell.actions.map .record) =
      .ok (programOf ((cellMovements.map Action.movement).map (·.restored robot))) :=
    Decoder.readAll_toData rfl hrestorable
  have hsame : ((Generator.fresh robot .usual).createProgram
      (programOf ((cellMovements.map Action.movement).map (·.restored robot))) none).2 =
      ((Generator.fresh robot .usual).createProgram
        (programOf (cellMovements.map .movement)) none).2 := by
    rw [Generator.text_createProgram, Generator.text_createProgram,
      show (Generator.fresh robot .usual).robot = robot from rfl, itemsOf_restored hrestorable,
      programBody_restored]
  have hprogram := hsame.trans (createProgram_weldingCell htool hs)
  have hsystem : SystemModule.text .usual table.tools =
      .ok (joinLines .usual (SystemModule.header ++ torchLines ++ ["ENDMODULE"])) := by
    rw [SystemModule.text, SystemModule.lines, hentries]
    rfl
  refine ⟨⟨((Generator.fresh robot .usual).createProgram
    (programOf ((cellMovements.map Action.movement).map (·.restored robot))) none).1, _, _⟩,
    (usualMovement seam).declarationOf s, ?_, rfl, rfl⟩
  rw [Job.result_generate]
  refine bind_eq_ok.2 ⟨table, htable, bind_eq_ok.2 ⟨robot, hrobot, bind_eq_ok.2 ⟨_, hread, ?_⟩⟩⟩
  exact bind_eq_ok.2 ⟨_, hprogram, bind_eq_ok.2 ⟨_, hsystem, rfl⟩⟩

theorem agreesOnTools_weldingCell :
    ∃ modules tools entries actions body, (weldingCell.generate "job").result.1 = .ok modules ∧
      weldingCell.AgreesOnTools modules tools entries actions body := by
  obtain ⟨modules, -, hmodules, -⟩ := modules_weldingCell
  obtain ⟨tools, entries, actions, body, h⟩ := weldingCell.agreesOnTools "job" hmodules
  exact ⟨modules, tools, entries, actions, body, hmodules, h⟩

/-- Not every tool that a program names is declared: the gripper has no entry. -/
theorem undeclared_gripper :
    ∃ modules declaration, (weldingCell.generate "job").result.1 = .ok modules ∧
      modules.program = joinLines .usual
        (ProgramModule.lines .usual "MainModule" [declaration] cellInstructions) ∧
      "MoveL seam, v5, z0, gripper\\WObj:=wobj0;" ∈ cellInstructions ∧
      gripper.name.isText Tool.standardName = false ∧
      modules.system = joinLines .usual (SystemModule.header ++ torchLines ++ ["ENDMODULE"]) ∧
      ∀ line ∈ SystemModule.header ++ torchLines ++ ["ENDMODULE"],
        ¬ " PERS tooldata gripper ".toList <+: line.toList := by
  obtain ⟨modules, declaration, hmodules, hprogram, hsystem⟩ := modules_weldingCell
  refine ⟨modules, declaration, hmodules, hprogram, by decide, by decide, hsystem, ?_⟩
  decide +kernel

end SixAxis
