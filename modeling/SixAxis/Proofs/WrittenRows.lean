import SixAxis.Proofs.CodeStatements
import SixAxis.Proofs.TextLines
import SixAxis.Proofs.ToolDeclarations

/-!
# What modules are written from

Every line of a module is a statement, a line of a remark, or a line of code that an action holds
as it is.  Which rows there can be is a matter of the actions: each of them has rows that it can
declare and rows that it performs.

* `Row` — a row of a program module, which is one line unless it is verbatim code;
* `Action.declared`, `Action.performed` — the rows of an action;
* `Generator.exists_writtenFrom` — **a program is written from rows** of its actions;
* `SystemModule.text_eq` — **a system module is written from two statements for each tool**.
-/

namespace SixAxis

/-! ### Joined lines -/

theorem intercalate_cons_cons (sep a b : String) (rest : List String) :
    sep.intercalate (a :: b :: rest) = a ++ sep ++ sep.intercalate (b :: rest) := by
  rw [← String.toList_inj, String.toList_append, String.toList_append, String.toList_intercalate,
    String.toList_intercalate]
  exact List.intercalate_cons_cons

/-- Joined lines are not empty if the first of them is not. -/
theorem intercalate_cons_ne_empty {a : String} (ha : a ≠ "") (sep : String) (rest : List String) :
    sep.intercalate (a :: rest) ≠ "" := by
  cases rest with
  | nil => exact ha
  | cons b rest =>
    rw [intercalate_cons_cons, Ne, String.append_eq_empty_iff, String.append_eq_empty_iff]
    exact fun h => ha h.1.1

/-! ### Rows -/

/-- A row of a program module. -/
inductive Row where
  | statement (s : Statement)
  /-- A line of a comment. -/
  | remark (text : String)
  /-- Code that an action holds. -/
  | verbatim (code : String)

/-- A row as it is written. -/
def Row.text : Row → String
  | statement s => s.text
  | remark text => "! " ++ text
  | verbatim code => code

namespace ProgramModule

/-- The lines of code, as those of a list of characters. -/
theorem indented_eq (indent code : String) :
    indented indent code =
      (code.toList.splitOn '\n').map fun line => indent ++ String.ofList line := by
  rw [indented, show "\n" = String.ofList ['\n'] from rfl, Text.splitOn_singleton, List.map_map]
  rfl

theorem indented_ne_nil (indent code : String) : indented indent code ≠ [] := by
  rw [indented_eq]
  exact mt List.map_eq_nil_iff.1 (List.splitOn_ne_nil _ _)

/-- The lines of code behind other code. -/
theorem indented_append (indent a b : String) :
    indented indent (a ++ "\n" ++ b) = indented indent a ++ indented indent b := by
  have hchars : (a ++ "\n" ++ b).toList = a.toList ++ '\n' :: b.toList := by
    rw [String.toList_append, String.toList_append, List.append_assoc]
    rfl
  rw [indented_eq, indented_eq, indented_eq, hchars, List.splitOn_append_cons_self,
    List.map_append]

/-- The lines of code that is written line by line. -/
theorem indented_intercalate (indent : String) {codes : List String} (hne : codes ≠ []) :
    indented indent ("\n".intercalate codes) = codes.flatMap (indented indent) := by
  induction codes with
  | nil => exact absurd rfl hne
  | cons a codes ih =>
    cases codes with
    | nil =>
      rw [List.flatMap_singleton]
      rfl
    | cons b codes =>
      rw [intercalate_cons_cons, indented_append, ih (List.cons_ne_nil b codes),
        ← List.flatMap_cons]

end ProgramModule

/-- The lines of some rows. -/
def linesOf (indent : String) (rows : List Row) : List String :=
  rows.flatMap fun row => ProgramModule.indented indent row.text

/-- Whether some code is written from some rows. -/
def Spells (rows : List Row) (code : String) : Prop :=
  ∀ indent, ProgramModule.indented indent code = linesOf indent rows

theorem spells_singleton (row : Row) : Spells [row] row.text := by
  intro indent
  rw [linesOf, List.flatMap_singleton]

theorem spells_intercalate {rows : List Row} (hne : rows ≠ []) :
    Spells rows ("\n".intercalate (rows.map Row.text)) := by
  intro indent
  rw [ProgramModule.indented_intercalate indent (mt List.map_eq_nil_iff.1 hne), List.flatMap_map]
  rfl

theorem ne_nil_of_spells {rows : List Row} {code : String} (h : Spells rows code) : rows ≠ [] := by
  rintro rfl
  exact ProgramModule.indented_ne_nil "" code (h "")

/-! ### Rows of actions -/

/-- The rows of a comment; only a text has lines. -/
def Comment.rows (c : Comment) : List Row :=
  match c.text with
  | .text s => (Text.lines s).map .remark
  | _ => []

/-- The rows of a comment in a part of the program. -/
def Comment.rowsIn (c : Comment) (place : Section) : List Row :=
  if c.place = place then c.rows else []

/-- The rows of a line of code in a part of the program. -/
def CodeLine.rowsIn (c : CodeLine) (place : Section) : List Row :=
  if c.place = place then [.verbatim c.code] else []

/-- The rows of a comment are remarks of one line each. -/
theorem Comment.exists_of_mem_rowsIn {c : Comment} {place : Section} {row : Row}
    (h : row ∈ c.rowsIn place) : ∃ line, row = .remark line ∧ '\n' ∉ line.toList := by
  rw [rowsIn] at h
  split at h
  · rw [rows] at h
    split at h
    · obtain ⟨line, hline, rfl⟩ := List.mem_map.1 h
      exact ⟨line, rfl, Text.newline_notMem_lines hline⟩
    · cases h
  · cases h

theorem CodeLine.eq_of_mem_rowsIn {c : CodeLine} {place : Section} {row : Row}
    (h : row ∈ c.rowsIn place) : row = .verbatim c.code := by
  rw [rowsIn] at h
  split at h
  · exact List.mem_singleton.1 h
  · cases h

/-- The statements that a movement can declare its data with. -/
def Movement.declared (m : Movement) (r : Robot Float) : List Statement :=
  [m.speed.statement, m.zone.statement, m.workObject.statement] ++
    match m.solution r with
    | .ok s => [m.targetStatement s]
    | .error _ => []

namespace Action

/-- The rows that an action can declare its data with. -/
def declared (a : Action) (r : Robot Float) : List Row :=
  match a with
  | comment c => c.rowsIn .declaration
  | code c => c.rowsIn .declaration
  | joints j => [.statement j.statement]
  | movement m => (m.declared r).map .statement
  | timer _ | output _ | wait _ | freeConfiguration _ => []

/-- The rows that an action performs. -/
def performed (a : Action) (r : Option (Robot Float)) : List Row :=
  match a with
  | comment c => c.rowsIn .instruction
  | code c => c.rowsIn .instruction
  | joints _ => []
  | movement m => (m.statements r).map .statement
  | timer t => [.statement t.statement]
  | output d => [.statement d.statement]
  | wait w => [.statement w.statement]
  | freeConfiguration enabled =>
    [.statement (.check true !enabled.isTruthy), .statement (.check false !enabled.isTruthy)]

end Action

/-- Code that is written from some rows, unless it is empty and there are none. -/
def Writes (rows : List Row) (code : String) : Prop :=
  (code = "" ∧ rows = []) ∨ (code ≠ "" ∧ Spells rows code)

theorem Comment.writes_of_codeIn {c : Comment} {place : Section} {code : String}
    (h : c.codeIn place = .ok code) : Writes (c.rowsIn place) code := by
  rw [codeIn] at h
  rw [rowsIn]
  split at h
  · rename_i hplace
    rw [if_pos hplace]
    rw [Comment.code] at h
    split at h
    · rename_i s hs
      cases h
      have hrows : c.rows = (Text.lines s).map .remark := by rw [rows, hs]
      rw [hrows]
      cases hlines : Text.lines s with
      | nil => exact .inl ⟨rfl, rfl⟩
      | cons line rest =>
        have hfirst : "! " ++ line ≠ "" := by
          rw [Ne, String.append_eq_empty_iff]
          exact fun hempty => absurd hempty.1 (by decide)
        refine .inr ⟨intercalate_cons_ne_empty hfirst _ _, ?_⟩
        have hspells := spells_intercalate (List.cons_ne_nil (Row.remark line) (rest.map .remark))
        rw [List.map_cons, List.map_map] at hspells
        exact hspells
    · cases h
  · rename_i hplace
    rw [if_neg hplace]
    cases h
    exact .inl ⟨rfl, rfl⟩

theorem CodeLine.writes_codeIn (c : CodeLine) (place : Section) :
    Writes (c.rowsIn place) (c.codeIn place) := by
  rw [codeIn, rowsIn]
  by_cases hplace : c.place = place
  · rw [if_pos hplace, if_pos hplace]
    refine .inr ⟨fun hempty => ?_, spells_singleton (.verbatim c.code)⟩
    have hblank := c.nonblank
    rw [hempty] at hblank
    exact hblank rfl
  · rw [if_neg hplace, if_neg hplace]
    exact .inl ⟨rfl, rfl⟩

/-- A statement that starts with fixed code is not empty. -/
theorem textOf_fixed_ne_empty {code : String} (hcode : code ≠ "") (rest : List Piece) :
    Piece.textOf (.fixed code :: rest) ≠ "" := by
  rw [Piece.textOf, Ne, String.append_eq_empty_iff]
  exact fun h => hcode h.1

theorem writes_statement {s : Statement} (hne : s.text ≠ "") :
    Writes [.statement s] s.text :=
  .inr ⟨hne, spells_singleton (.statement s)⟩

theorem Movement.statements_ne_nil (m : Movement) (r : Option (Robot Float)) :
    m.statements r ≠ [] := by
  obtain ⟨output, hmem⟩ := m.exists_statement_mem r
  exact List.ne_nil_of_mem hmem

/-- The instruction of a movement is written from its statements. -/
theorem Movement.writes_instruction (m : Movement) (r : Option (Robot Float)) :
    Writes ((m.statements r).map .statement) (m.instruction r) := by
  have hne : m.instruction r ≠ "" := by
    have hfull := m.instruction_ne_empty r
    rw [← Bool.not_eq_true, String.isEmpty_iff] at hfull
    exact hfull
  have hspells := spells_intercalate (mt List.map_eq_nil_iff.1 (m.statements_ne_nil r) :
    (m.statements r).map Row.statement ≠ [])
  rw [List.map_map] at hspells
  exact .inr ⟨hne, m.text_statements r ▸ hspells⟩

/-- The instructions that switch the checks are two statements. -/
theorem writes_configurationCode (enabled : Datum) :
    Writes [.statement (.check true !enabled.isTruthy), .statement (.check false !enabled.isTruthy)]
      (Action.configurationCode enabled) := by
  have hcode : Action.configurationCode enabled = "\n".intercalate [
      (Statement.check true !enabled.isTruthy).text,
      (Statement.check false !enabled.isTruthy).text] := by
    rw [Action.configurationCode]
    cases enabled.isTruthy <;> decide
  rw [hcode]
  refine .inr ⟨intercalate_cons_ne_empty (textOf_fixed_ne_empty (by decide) _) _ _, ?_⟩
  exact spells_intercalate (List.cons_ne_nil (Row.statement (.check true !enabled.isTruthy)) _)

/-- What an action performs is written from its rows. -/
theorem Action.writes_of_instruction {a : Action} {r : Option (Robot Float)} {code : String}
    (h : a.instruction r = .ok code) : Writes (a.performed r) code := by
  cases a with
  | comment c => exact Comment.writes_of_codeIn h
  | code c =>
    cases h
    exact c.writes_codeIn .instruction
  | joints j =>
    cases h
    exact .inl ⟨rfl, rfl⟩
  | movement m =>
    cases h
    exact m.writes_instruction r
  | timer t =>
    rw [← t.text_of_instruction h]
    exact writes_statement (textOf_fixed_ne_empty (by decide) _)
  | output d =>
    cases h
    rw [← d.text_statement]
    exact writes_statement (textOf_fixed_ne_empty (by decide) _)
  | wait w =>
    cases h
    rw [← w.text_statement]
    exact writes_statement (textOf_fixed_ne_empty (by decide) _)
  | freeConfiguration enabled =>
    cases h
    exact writes_configurationCode enabled

theorem Movement.mem_declared_iff {m : Movement} {r : Robot Float} {s : Statement} :
    s ∈ m.declared r ↔ s = m.speed.statement ∨ s = m.zone.statement ∨ s = m.workObject.statement ∨
      ∃ solution, m.solution r = .ok solution ∧ s = m.targetStatement solution := by
  rw [declared, List.cons_append, List.cons_append, List.cons_append, List.nil_append,
    List.mem_cons, List.mem_cons, List.mem_cons]
  cases m.solution r with
  | ok solution => simp
  | error f => simp

/-- What an item of a movement declares is one of the statements of the movement. -/
theorem Movement.statement_of_items {m : Movement} {r : Robot Float} {i : Item}
    (hi : i ∈ m.items r) {code : String} (hcode : i.code = .ok code) (hne : code ≠ "") :
    ∃ s ∈ m.declared r, s.text = code := by
  simp only [items, List.mem_cons, List.not_mem_nil, or_false] at hi
  rcases hi with rfl | rfl | rfl | rfl
  · exact ⟨_, mem_declared_iff.2 (.inl rfl), m.speed.text_of_declaration hcode hne⟩
  · exact ⟨_, mem_declared_iff.2 (.inr (.inl rfl)), m.zone.text_of_declaration hcode hne⟩
  · cases hcode
    exact ⟨_, mem_declared_iff.2 (.inr (.inr (.inl rfl))), m.workObject.text_of_declaration hne⟩
  · obtain ⟨s, hs, hcode⟩ := bind_eq_ok.1 (show m.declaration (some r) = .ok code from hcode)
    cases hcode
    exact ⟨_, mem_declared_iff.2 (.inr (.inr (.inr ⟨s, hs, rfl⟩))), m.text_targetStatement s⟩

/-- What an action declares is written from rows that it can declare. -/
theorem Action.spells_of_items {a : Action} {r : Robot Float} {i : Item} (hi : i ∈ a.items r)
    {code : String} (hcode : i.code = .ok code) (hne : code ≠ "") :
    ∃ rows, (∀ row ∈ rows, row ∈ a.declared r) ∧ Spells rows code := by
  cases a with
  | movement m =>
    obtain ⟨s, hs, rfl⟩ := m.statement_of_items hi hcode hne
    refine ⟨[.statement s], fun row hrow => ?_, spells_singleton (.statement s)⟩
    rw [List.mem_singleton.1 hrow]
    exact List.mem_map_of_mem hs
  | joints j =>
    rw [List.mem_singleton.1 hi] at hcode
    cases hcode
    refine ⟨[.statement j.statement], fun row hrow => hrow, ?_⟩
    rw [← j.text_statement]
    exact spells_singleton (.statement j.statement)
  | comment c =>
    rw [List.mem_singleton.1 hi] at hcode
    rcases Comment.writes_of_codeIn hcode with ⟨hempty, -⟩ | ⟨-, hspells⟩
    · exact absurd hempty hne
    · exact ⟨_, fun row hrow => hrow, hspells⟩
  | code c =>
    rw [List.mem_singleton.1 hi] at hcode
    cases hcode
    rcases c.writes_codeIn .declaration with ⟨hempty, -⟩ | ⟨-, hspells⟩
    · exact absurd hempty hne
    · exact ⟨_, fun row hrow => hrow, hspells⟩
  | _ =>
    rw [List.mem_singleton.1 hi] at hcode
    cases hcode
    exact absurd rfl hne

/-! ### Programs -/

theorem linesOf_append (indent : String) (rows rest : List Row) :
    linesOf indent (rows ++ rest) = linesOf indent rows ++ linesOf indent rest :=
  List.flatMap_append

/-- Declarations that are written from some rows each are written from all of these. -/
theorem exists_linesOf {p : Row → Prop} {codes : List String}
    (h : ∀ code ∈ codes, ∃ rows, (∀ row ∈ rows, p row) ∧ Spells rows code) :
    ∃ rows, (∀ row ∈ rows, p row) ∧ (rows = [] ↔ codes = []) ∧
      ∀ indent, codes.flatMap (ProgramModule.indented indent) = linesOf indent rows := by
  induction codes with
  | nil => exact ⟨[], List.forall_mem_nil _, ⟨fun _ => rfl, fun _ => rfl⟩, fun _ => rfl⟩
  | cons code codes ih =>
    obtain ⟨hcode, hcodes⟩ := List.forall_mem_cons.1 h
    obtain ⟨front, hfront, hspells⟩ := hcode
    obtain ⟨rest, hrest, -, hlines⟩ := ih hcodes
    refine ⟨front ++ rest, ?_, ?_, fun indent => ?_⟩
    · intro row hrow
      exact (List.mem_append.1 hrow).elim (hfront row) (hrest row)
    · rw [List.append_eq_nil_iff]
      exact ⟨fun hnil => absurd hnil.1 (ne_nil_of_spells hspells), nofun⟩
    · rw [List.flatMap_cons, hspells indent, hlines indent, linesOf_append]

/-- The procedure of a program is written from what its actions perform. -/
theorem flatMap_programBody {actions : List Action} {r : Robot Float} {body : List String}
    (h : programBody actions r = .ok body) (indent : String) :
    body.flatMap (ProgramModule.indented indent) =
      linesOf indent (actions.flatMap (·.performed (some r))) := by
  obtain ⟨codes, hcodes, hbody⟩ := bind_eq_ok.1 h
  cases hbody
  clear h
  rw [mapM_eq_ok_iff] at hcodes
  induction hcodes with
  | nil => rfl
  | cons hone _ ih =>
    rw [List.flatMap_cons, linesOf_append, ← ih]
    rcases Action.writes_of_instruction hone with ⟨rfl, hnil⟩ | ⟨hne, hspells⟩
    · rw [hnil]
      rfl
    · rw [List.filter_cons_of_pos, List.flatMap_cons, hspells indent]
      rw [Bool.not_eq_true', Bool.eq_false_iff, Ne, String.isEmpty_iff]
      exact hne

/-- The lines of a program module of some rows. -/
def ProgramModule.linesFrom (settings : Settings) (moduleName : String)
    (declared performed : List Row) : List String :=
  let indent := settings.indent
  [(Statement.moduleStart moduleName).text, Statement.blank.text]
    ++ linesOf indent declared
    ++ (if declared.isEmpty then [] else [Statement.blank.text])
    ++ [indent ++ (Statement.procedureStart settings.procedureName).text]
    ++ linesOf (indent ++ indent) performed
    ++ [indent ++ Statement.procedureEnd.text, Statement.blank.text, Statement.moduleEnd.text]

namespace Generator

variable {g : Generator} {actions : List Action} {moduleName : Option String} {program : String}

/-- A program is written from some rows: declarations that its actions have, and all that its
actions perform. -/
structure WrittenFrom (g : Generator) (actions : List Action) (moduleName : Option String)
    (declared : List Row) (program : String) : Prop where
  text : program = joinLines g.settings (ProgramModule.linesFrom g.settings
    (ProgramModule.nameOr g.settings moduleName) declared
    (actions.flatMap (·.performed (some g.robot))))
  declared : ∀ row ∈ declared, ∃ a ∈ actions, row ∈ a.declared g.robot

/-- **A program is written from rows** of its actions. -/
theorem exists_writtenFrom
    (h : (g.createProgram (programOf actions) moduleName).2 = .ok program) :
    ∃ declared, g.WrittenFrom actions moduleName declared program := by
  obtain ⟨-, hlegible, body, hbody, rfl⟩ := createProgram_ok_iff.1 h
  have hcodes : ∀ code ∈ (firstUses (itemsOf actions g.robot)).map Item.written,
      ∃ rows, (∀ row ∈ rows, ∃ a ∈ actions, row ∈ a.declared g.robot) ∧ Spells rows code := by
    intro code hcode
    obtain ⟨i, hi, rfl⟩ := List.mem_map.1 hcode
    obtain ⟨text, htext⟩ := legible_firstUses hlegible i hi
    obtain ⟨hitem, hblank⟩ := mem_used_iff.1 (mem_of_mem_eraseDupsBy hi)
    obtain ⟨a, ha, hia⟩ := List.mem_flatMap.1 hitem
    have hne : text ≠ "" := by
      rintro rfl
      exact Item.isBlank_eq_false_iff.1 hblank htext
    obtain ⟨rows, hrows, hspells⟩ := Action.spells_of_items hia htext hne
    rw [Item.written_of_ok htext]
    exact ⟨rows, fun row hrow => ⟨a, ha, hrows row hrow⟩, hspells⟩
  obtain ⟨declared, hdeclared, hempty, hlines⟩ := exists_linesOf hcodes
  refine ⟨declared, ?_, hdeclared⟩
  have hisEmpty : declared.isEmpty =
      ((firstUses (itemsOf actions g.robot)).map Item.written).isEmpty := by
    rw [Bool.eq_iff_iff, List.isEmpty_iff, List.isEmpty_iff, hempty]
  rw [ProgramModule.lines, ProgramModule.linesFrom, hisEmpty, hlines, flatMap_programBody hbody]
  simp only [Statement.text, Statement.pieces, Piece.textOf, Piece.text, toString,
    String.append_assoc, String.append_empty]

end Generator

/-! ### System modules -/

/-- The statements that declare a tool, which are none if it is not in space. -/
def Tool.declared (t : Tool Float) : List Statement :=
  match t.localTcp? with
  | .ok tcp => [.toolPose t.name.display tcp, .toolLoad t.mass.value, .blank]
  | .error _ => []

namespace SystemModule

theorem toolLines_eq {t : Tool Float} {lines : List String} (h : toolLines t = .ok lines) :
    lines = t.declared.map Statement.text := by
  obtain ⟨tcp, htcp, h⟩ := bind_eq_ok.1 h
  obtain ⟨mass, hmass, h⟩ := bind_eq_ok.1 h
  obtain ⟨x, hx, hmass⟩ := bind_eq_ok.1 hmass
  cases hmass
  cases h
  rw [Tool.declared, htcp, Number.value_of_toReal hx]
  simp only [List.map_cons, List.map_nil, Statement.text, Statement.pieces, Piece.textOf,
    Piece.text, CodeNumber.list_singleton, toString, String.append_assoc, String.append_empty]

theorem flatten_toolLines {tools : List (Tool Float)} {blocks : List (List String)}
    (h : tools.mapM toolLines = .ok blocks) :
    blocks.flatten = (tools.flatMap Tool.declared).map Statement.text := by
  rw [mapM_eq_ok_iff] at h
  induction h with
  | nil => rfl
  | cons hone _ ih =>
    rw [List.flatten_cons, List.flatMap_cons, List.map_append, ← ih, toolLines_eq hone]

/-- **A system module is written from the statements of its tools.** -/
theorem text_eq {settings : Settings} {tools : List (Tool Float)} {written : String}
    (h : text settings tools = .ok written) :
    written = joinLines settings (header ++ (tools.flatMap Tool.declared).map Statement.text ++
      [Statement.moduleEnd.text]) := by
  obtain ⟨lines, hlines, h⟩ := bind_eq_ok.1 h
  cases h
  obtain ⟨blocks, hblocks, hlines⟩ := bind_eq_ok.1 hlines
  cases hlines
  rw [flatten_toolLines hblocks]
  rfl

end SystemModule

end SixAxis
