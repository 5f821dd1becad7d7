import SixAxis.Proofs.TargetDeclarations
import SixAxis.Proofs.ValidatedJobs
import SixAxis.Proofs.WrittenRows

/-!
# Names in generated code

The names of data, of signals and of the settings are identifiers, and so none of them can be read
as anything but one name.  Three kinds of names are taken as they are: those of tools, those of
external axes, which stand in quotes, and a module name that a call gives.

* `Settings.isNamed_of_ofFields` — accepted settings have identifiers for names;
* `Row.isFrom_of_mem_declared`, `Row.isFrom_of_mem_performed` — what the rows of an action hold;
* `Generator.keepsNames` — **every name in a program or a system module is an identifier but for
  the ones that are taken as they are**, and if these are plain as well, every row is one line that
  is read as the tokens of its statement.
-/

namespace SixAxis

/-! ### Identifiers -/

/-- An identifier goes on with any characters of names. -/
theorem isIdentifier_append {s t : String} (hs : isIdentifier s = true)
    (ht : t.toList.all isNameChar = true) : isIdentifier (s ++ t) = true := by
  rw [isIdentifier] at hs ⊢
  rw [String.toList_append]
  cases hchars : s.toList with
  | nil =>
    rw [hchars] at hs
    cases hs
  | cons c rest =>
    rw [hchars] at hs
    obtain ⟨hfirst, hall⟩ := Bool.and_eq_true_iff.1 hs
    show (!Text.isDigit c && ((c :: rest) ++ t.toList).all isNameChar) = true
    rw [List.all_append, hall, ht, hfirst]
    rfl

theorem Target.isIdentifier_jointName (t : Target) : isIdentifier t.jointName = true :=
  isIdentifier_append t.name.valid (by decide)

/-- The name of the target that a movement goes to is an identifier. -/
theorem Movement.isIdentifier_variableName (m : Movement) : isIdentifier m.variableName = true := by
  rw [variableName]
  split
  · exact m.target.isIdentifier_jointName
  · exact m.target.name.valid

/-! ### Settings -/

/-- Settings whose names are identifiers. -/
structure Settings.IsNamed (s : Settings) : Prop where
  moduleName : isIdentifier s.moduleName = true
  procedureName : isIdentifier s.procedureName = true

open Validated in
theorem Settings.ensures_name (d : Datum) : (name d).Ensures fun s => isIdentifier s = true := by
  refine .andThen fun s => ?_
  by_cases hs : isIdentifier s = true
  · rw [if_pos hs]
    exact .fits hs
  · rw [if_neg hs]
    exact .against _

/-- Accepted settings have identifiers for names. -/
theorem Settings.isNamed_of_ofFields {fields : Datum.Fields} {s : Settings}
    (h : (ofFields fields).outcome = .ok s) : s.IsNamed := by
  have hname (field usual : String) (husual : isIdentifier usual = true) :
      (Validated.field fields field name usual).Ensures fun s => isIdentifier s = true :=
    .field fields field ensures_name fun s hs => by cases hs; exact husual
  have hall : (ofFields fields).Ensures IsNamed := by
    refine .seq (.seq (.seq (.seq (.seq (.map (hname _ _ (by decide)) ?_) (hname _ _ (by decide)))
      (.trivial _)) (.trivial _)) (.trivial _)) (.trivial _)
    exact fun moduleName hmodule procedureName hprocedure _ _ _ _ _ _ _ _ => ⟨hmodule, hprocedure⟩
  exact hall s h

/-! ### What rows hold -/

namespace Row

/-- The names in a row but for those of tools. -/
def names : Row → List String
  | statement s => s.names
  | _ => []

/-- The names of tools in a row. -/
def tools : Row → List String
  | statement s => s.tools
  | _ => []

/-- The texts in quotes in a row. -/
def quotes : Row → List String
  | statement s => s.quotes
  | _ => []

/-- The tokens that a row stands for. -/
def tokens : Row → List Token
  | statement s => s.tokens
  | remark text => [.remark (" " ++ text)]
  | verbatim code => Token.scan code

/-- Whether a row is code that an action holds. -/
def isVerbatim : Row → Bool
  | verbatim _ => true
  | _ => false

/-- What a row of an action can hold. -/
structure IsFrom (row : Row) (a : Action) (r : Robot Float) : Prop where
  names : ∀ n ∈ row.names, isIdentifier n = true
  tools : ∀ t ∈ row.tools, ∃ m, a = .movement m ∧ (m.toolName (some r)).display = t
  quotes : ∀ q ∈ row.quotes,
    q = "" ∨ ∃ m x, a = .movement m ∧ m.workObject.axis = some x ∧ x.name.display = q
  remark : ∀ text, row = remark text → '\n' ∉ text.toList
  verbatim : ∀ code, row = verbatim code → ∃ c, a = .code c ∧ c.code = code

variable {a : Action} {r : Robot Float} {row : Row} {s : Statement}

/-- A statement with identifiers and nothing else. -/
theorem isFrom_statement (hnames : ∀ n ∈ s.names, isIdentifier n = true) (htools : s.tools = [])
    (hquotes : s.quotes = []) : (statement s).IsFrom a r where
  names := hnames
  tools t ht := by
    rw [tools, htools] at ht
    cases ht
  quotes q hq := by
    rw [quotes, hquotes] at hq
    cases hq
  remark _ h := nomatch h
  verbatim _ h := nomatch h

/-- A statement with one identifier and nothing else. -/
theorem isFrom_named {n : Identifier} (hnames : s.names = [n.text]) (htools : s.tools = [])
    (hquotes : s.quotes = []) : (statement s).IsFrom a r := by
  refine isFrom_statement (fun text htext => ?_) htools hquotes
  rw [hnames, List.mem_singleton] at htext
  rw [htext]
  exact n.valid

theorem isFrom_of_mem_comment {c : Comment} {place : Section} (h : row ∈ c.rowsIn place) :
    row.IsFrom a r := by
  obtain ⟨line, rfl, hline⟩ := Comment.exists_of_mem_rowsIn h
  exact
    { names := fun _ hn => nomatch hn
      tools := fun _ ht => nomatch ht
      quotes := fun _ hq => nomatch hq
      remark := fun _ htext => by
        cases htext
        exact hline
      verbatim := fun _ hcode => nomatch hcode }

theorem isFrom_of_mem_code {c : CodeLine} {place : Section} (h : row ∈ c.rowsIn place) :
    row.IsFrom (.code c) r := by
  rw [CodeLine.eq_of_mem_rowsIn h]
  exact
    { names := fun _ hn => nomatch hn
      tools := fun _ ht => nomatch ht
      quotes := fun _ hq => nomatch hq
      remark := fun _ htext => nomatch htext
      verbatim := fun _ hcode => by
        cases hcode
        exact ⟨c, rfl, rfl⟩ }

/-- The declaration of a work object is the only one with a text in quotes. -/
theorem isFrom_workObject (m : Movement) :
    (statement m.workObject.statement).IsFrom (.movement m) r where
  names n hn := by
    have hname : n ∈ [m.workObject.name.text] := hn
    rw [List.mem_singleton.1 hname]
    exact m.workObject.name.valid
  tools t ht := by
    have hnone : t ∈ ([] : List String) := ht
    cases hnone
  quotes q hq := by
    have hquote : q ∈ [(m.workObject.axis.map (·.name.display)).getD ""] := hq
    rw [List.mem_singleton.1 hquote]
    cases haxis : m.workObject.axis with
    | none => exact .inl rfl
    | some x => exact .inr ⟨m, x, rfl, haxis, rfl⟩
  remark _ h := nomatch h
  verbatim _ h := nomatch h

theorem isFrom_target (m : Movement) (s : Solution Float) :
    (statement (m.targetStatement s)).IsFrom a r := by
  rw [Movement.targetStatement]
  split
  · exact isFrom_named (n := ⟨m.target.jointName, m.target.isIdentifier_jointName⟩) rfl rfl rfl
  · exact isFrom_named (n := m.target.name) rfl rfl rfl

/-- What the declarations of an action hold. -/
theorem isFrom_of_mem_declared (h : row ∈ a.declared r) : row.IsFrom a r := by
  cases a with
  | comment c => exact isFrom_of_mem_comment h
  | code c => exact isFrom_of_mem_code h
  | joints j =>
    rw [List.mem_singleton.1 h]
    exact isFrom_named (n := j.name) rfl rfl rfl
  | movement m =>
    obtain ⟨s, hs, rfl⟩ := List.mem_map.1 h
    rcases Movement.mem_declared_iff.1 hs with rfl | rfl | rfl | ⟨solution, -, rfl⟩
    · exact isFrom_named (n := m.speed.name) rfl rfl rfl
    · exact isFrom_named (n := m.zone.name) rfl rfl rfl
    · exact isFrom_workObject m
    · exact isFrom_target m solution
  | _ => cases h

end Row

theorem Movement.tools_statement (m : Movement) (r : Option (Robot Float))
    (output : Option (String × Bool)) :
    (m.statement r output).tools = [(m.toolName r).display] := by
  cases output <;> rfl

theorem Movement.quotes_statement (m : Movement) (r : Option (Robot Float))
    (output : Option (String × Bool)) : (m.statement r output).quotes = [] := by
  cases output <;> rfl

namespace Row

variable {a : Action} {r : Robot Float} {row : Row}

/-- The instruction of a movement is the only row with the name of a tool. -/
theorem isFrom_movement {m : Movement} {output : Option (String × Bool)}
    (houtput : ∀ o ∈ output, isIdentifier o.1 = true) :
    (statement (m.statement (some r) output)).IsFrom (.movement m) r where
  names n hn := by
    have hname : n ∈ m.variableName :: m.speed.name.text :: m.zone.name.text ::
        m.workObject.name.text :: output.toList.map (·.1) := by
      cases output <;> exact hn
    simp only [List.mem_cons, List.mem_map, Option.mem_toList] at hname
    rcases hname with rfl | rfl | rfl | rfl | ⟨o, ho, rfl⟩
    · exact m.isIdentifier_variableName
    · exact m.speed.name.valid
    · exact m.zone.name.valid
    · exact m.workObject.name.valid
    · exact houtput o ho
  tools t ht := by
    rw [tools, m.tools_statement, List.mem_singleton] at ht
    exact ⟨m, rfl, ht.symm⟩
  quotes q hq := by
    rw [quotes, m.quotes_statement] at hq
    cases hq
  remark _ h := nomatch h
  verbatim _ h := nomatch h

/-- What the instructions of an action hold. -/
theorem isFrom_of_mem_performed (h : row ∈ a.performed (some r)) : row.IsFrom a r := by
  cases a with
  | comment c => exact isFrom_of_mem_comment h
  | code c => exact isFrom_of_mem_code h
  | joints j => cases h
  | movement m =>
    obtain ⟨s, hs, rfl⟩ := List.mem_map.1 h
    rcases Movement.mem_statements hs with rfl | ⟨o, rfl | rfl⟩
    · refine isFrom_movement fun o ho => ?_
      cases ho
    · refine isFrom_movement fun p hp => ?_
      cases hp
      exact o.name.valid
    · exact isFrom_named (n := o.name) rfl rfl rfl
  | timer t =>
    rw [List.mem_singleton.1 h]
    exact isFrom_statement (List.forall_mem_nil _) rfl rfl
  | output d =>
    rw [List.mem_singleton.1 h]
    exact isFrom_named (n := d.name) rfl rfl rfl
  | wait w =>
    rw [List.mem_singleton.1 h]
    exact isFrom_named (n := w.name) rfl rfl rfl
  | freeConfiguration enabled =>
    rcases List.mem_cons.1 h with rfl | h
    · exact isFrom_statement (List.forall_mem_nil _) rfl rfl
    · rw [List.mem_singleton.1 h]
      exact isFrom_statement (List.forall_mem_nil _) rfl rfl

end Row

/-! ### Reading rows -/

/-- Blanks in front of a line are not read. -/
theorem scan_append_of_blank {indent : String} (h : ∀ c ∈ indent.toList, c = ' ' ∨ c = '\t')
    (line : String) : Token.scan (indent ++ line) = Token.scan line := by
  rw [Token.scan, Token.scan, String.toList_append]
  revert h
  induction indent.toList with
  | nil => exact fun _ => rfl
  | cons c rest ih =>
    intro h
    obtain ⟨hc, hrest⟩ := List.forall_mem_cons.1 h
    have hapart : isWordChar c = false := by
      rcases hc with rfl | rfl <;> decide
    have hplain : c ≠ '"' ∧ c ≠ '!' := by
      rcases hc with rfl | rfl <;> decide
    rw [List.cons_append, Token.scanFrom, hapart, if_neg Bool.false_ne_true, if_neg hplain.1,
      if_neg hplain.2, if_pos hc, ih hrest]
    rfl

namespace Row

/-- A row that is one line, which is read as its tokens. -/
structure IsKept (row : Row) : Prop where
  newline_notMem : '\n' ∉ row.text.toList
  scan_text : Token.scan row.text = row.tokens

/-- A row is kept if all its names are identifiers and no text in it ends early. -/
theorem isKept_of_plain {row : Row} (hverbatim : row.isVerbatim = false)
    (hnames : ∀ n ∈ row.names, isIdentifier n = true)
    (htools : ∀ t ∈ row.tools, isIdentifier t = true)
    (hquotes : ∀ q ∈ row.quotes, '"' ∉ q.toList ∧ '\n' ∉ q.toList)
    (hremark : ∀ text, row = remark text → '\n' ∉ text.toList) : row.IsKept := by
  cases row with
  | statement s =>
    have hreadable : s.IsReadable :=
      { names := fun n hn => isWord_of_isIdentifier (hnames n hn)
        tools := fun t ht => isWord_of_isIdentifier (htools t ht)
        quotes := hquotes }
    exact ⟨hreadable.newline_notMem, hreadable.scan_text⟩
  | remark line =>
    have hchars : (remark line).text.toList = '!' :: ' ' :: line.toList := by
      rw [text, String.toList_append]
      rfl
    have htail : String.ofList (' ' :: line.toList) = " " ++ line := by
      rw [← String.toList_inj, String.toList_ofList, String.toList_append]
      rfl
    constructor
    · rw [hchars, List.mem_cons, List.mem_cons]
      rintro (h | h | h)
      · exact absurd h (by decide)
      · exact absurd h (by decide)
      · exact hremark line rfl h
    · rw [Token.scan, hchars, tokens, ← htail]
      rfl
  | verbatim code => cases hverbatim

end Row

/-! ### Programs -/

/-- The lines of rows, each behind its own indent. -/
def placedLines (rows : List (String × Row)) : List String :=
  rows.flatMap fun p => ProgramModule.indented p.1 p.2.text

theorem placedLines_append (rows rest : List (String × Row)) :
    placedLines (rows ++ rest) = placedLines rows ++ placedLines rest :=
  List.flatMap_append

theorem placedLines_map (indent : String) (rows : List Row) :
    placedLines (rows.map (Prod.mk indent)) = linesOf indent rows :=
  List.flatMap_map _ _ _

theorem placedLines_cons {s : Statement} (h : '\n' ∉ s.text.toList) (indent : String)
    (rest : List (String × Row)) :
    placedLines ((indent, .statement s) :: rest) = (indent ++ s.text) :: placedLines rest := by
  rw [placedLines, List.flatMap_cons]
  exact congrArg (· ++ placedLines rest) (ProgramModule.indented_of_notMem indent h)

theorem indented_empty (code : String) : ProgramModule.indented "" code = code.splitOn "\n" := by
  rw [ProgramModule.indented]
  refine (List.map_congr_left fun line _ => ?_).trans (List.map_id _)
  exact String.empty_append

/-- The text of a module is that of its lines cut further. -/
theorem joinLines_eq_cut {settings : Settings} {lines : List String} (hne : lines ≠ []) :
    joinLines settings lines =
      settings.lineEnding.intercalate (lines.flatMap (ProgramModule.indented "")) := by
  rw [joinLines, ← indented_empty, ProgramModule.indented_intercalate "" hne]

/-- It does not matter for the text whether its first line is cut. -/
theorem joinLines_indented (settings : Settings) (line : String) (rest : List String) :
    joinLines settings (ProgramModule.indented "" line ++ rest) =
      joinLines settings (line :: rest) := by
  have htwice : (ProgramModule.indented "" line).flatMap (ProgramModule.indented "") =
      ProgramModule.indented "" line := by
    have hone : ∀ piece ∈ ProgramModule.indented "" line,
        ProgramModule.indented "" piece = [piece] := by
      intro piece hpiece
      rw [ProgramModule.indented_of_notMem "" (ProgramModule.notMem_of_mem_indented
        List.not_mem_nil hpiece), String.empty_append]
    rw [List.flatMap_congr hone, List.flatMap_singleton']
  have hne : ProgramModule.indented "" line ++ rest ≠ [] :=
    List.append_ne_nil_of_left_ne_nil (ProgramModule.indented_ne_nil "" line) rest
  rw [joinLines_eq_cut hne, joinLines_eq_cut (List.cons_ne_nil line rest), List.flatMap_append,
    htwice, List.flatMap_cons]

namespace ProgramModule

/-- The rows of a program module, each behind its indent. -/
def rows (settings : Settings) (moduleName : String) (declared performed : List Row) :
    List (String × Row) :=
  let indent := settings.indent
  let blank : String × Row := ("", .statement .blank)
  [("", Row.statement (.moduleStart moduleName)), blank]
    ++ declared.map (Prod.mk indent)
    ++ (if declared.isEmpty then [] else [blank])
    ++ [(indent, Row.statement (.procedureStart settings.procedureName))]
    ++ performed.map (Prod.mk (indent ++ indent))
    ++ [(indent, Row.statement .procedureEnd), blank, ("", Row.statement .moduleEnd)]

/-- The text of a program module is that of its rows. -/
theorem joinLines_rows {settings : Settings} (hsettings : settings.IsNamed) (moduleName : String)
    (declared performed : List Row) :
    joinLines settings (linesFrom settings moduleName declared performed) =
      joinLines settings (placedLines (rows settings moduleName declared performed)) := by
  -- the name of the module can hold line feeds, as there is no indent in front of it; that of the
  -- procedure cannot, since a further line of it would stand without one
  have hblank (rest : List (String × Row)) :
      placedLines (("", .statement .blank) :: rest) = Statement.blank.text :: placedLines rest := by
    rw [placedLines_cons (by decide), String.empty_append]
  have hopen : '\n' ∉ (Statement.procedureStart settings.procedureName).text.toList := by
    refine Statement.IsReadable.newline_notMem ⟨?_, nofun, nofun⟩
    intro n hn
    have hname : n ∈ [settings.procedureName] := hn
    rw [List.mem_singleton.1 hname]
    exact isWord_of_isIdentifier hsettings.procedureName
  have hmiddle : placedLines (if declared.isEmpty then [] else [("", .statement .blank)]) =
      if declared.isEmpty then [] else [Statement.blank.text] := by
    split
    · rfl
    · exact hblank []
  have hlast : placedLines [(settings.indent, .statement .procedureEnd), ("", .statement .blank),
      ("", .statement .moduleEnd)] = [settings.indent ++ Statement.procedureEnd.text,
        Statement.blank.text, Statement.moduleEnd.text] := by
    rw [placedLines_cons (by decide), hblank, placedLines_cons (by decide), String.empty_append]
    rfl
  have hfirst : placedLines [("", .statement (.moduleStart moduleName)), ("", .statement .blank)] =
      indented "" (Statement.moduleStart moduleName).text ++ [Statement.blank.text] :=
    congrArg (indented "" _ ++ ·) (hblank [])
  rw [rows, placedLines_append, placedLines_append, placedLines_append, placedLines_append,
    placedLines_append, placedLines_map, placedLines_map, hmiddle, hlast, hfirst,
    placedLines_cons hopen, linesFrom]
  simp only [List.append_assoc, joinLines_indented]
  rfl

end ProgramModule

namespace Generator

/-- Whether the names that are taken as they are would be accepted where names are checked, those
in quotes do not end them, and lines are indented by blanks. -/
structure IsPlainlyNamed (g : Generator) (actions : List Action) (moduleName : Option String) :
    Prop where
  moduleName : isIdentifier (ProgramModule.nameOr g.settings moduleName) = true
  tools : ∀ m, .movement m ∈ actions → isIdentifier (m.toolName (some g.robot)).display = true
  axes : ∀ m, .movement m ∈ actions → ∀ x, m.workObject.axis = some x →
    '"' ∉ x.name.display.toList ∧ '\n' ∉ x.name.display.toList
  indent : ∀ c ∈ g.settings.indent.toList, c = ' ' ∨ c = '\t'

/-- The names in a program that is written from some rows. -/
structure KeepsNames (g : Generator) (actions : List Action) (moduleName : Option String)
    (program : String) (rows : List (String × Row)) : Prop where
  text : program = joinLines g.settings (placedLines rows)
  /-- All names but those of tools are identifiers, but for a module name that the call gives. -/
  names : ∀ p ∈ rows, ∀ n ∈ p.2.names, isIdentifier n = true ∨ moduleName = some n
  /-- The names of tools are those of the tools of the movements, whatever these are. -/
  tools : ∀ t, (∃ p ∈ rows, t ∈ p.2.tools) ↔
    ∃ m, .movement m ∈ actions ∧ (m.toolName (some g.robot)).display = t
  /-- The texts in quotes are the names of the external axes of work objects. -/
  quotes : ∀ p ∈ rows, ∀ q ∈ p.2.quotes,
    q = "" ∨ ∃ m x, .movement m ∈ actions ∧ m.workObject.axis = some x ∧ x.name.display = q
  /-- Only lines of code are written as they are given. -/
  verbatim : ∀ p ∈ rows, ∀ code, p.2 = .verbatim code → ∃ c, .code c ∈ actions ∧ c.code = code
  /-- With plain names, the program has the lines of its rows, where every row but those of code
  is one line, and this is read as the tokens of the row. -/
  lines : g.IsPlainlyNamed actions moduleName →
    program = g.settings.lineEnding.intercalate (placedLines rows) ∧
    ∀ p ∈ rows, p.2.isVerbatim = false →
      ProgramModule.indented p.1 p.2.text = [p.1 ++ p.2.text] ∧
      Token.scan (p.1 ++ p.2.text) = p.2.tokens

end Generator

namespace ProgramModule

variable {settings : Settings} {moduleName : String} {declared performed : List Row}
  {p : String × Row}

/-- The statements around the rows of actions. -/
def frame (settings : Settings) (moduleName : String) : List Statement :=
  [.moduleStart moduleName, .procedureStart settings.procedureName, .blank, .procedureEnd,
    .moduleEnd]

/-- A row of a program is one of its frame or one of an action, and only rows of the procedure
are indented twice. -/
theorem mem_rows (h : p ∈ rows settings moduleName declared performed) :
    ((p.1 = "" ∨ p.1 = settings.indent) ∧
      ∃ s ∈ frame settings moduleName, p.2 = .statement s) ∨
    (p.1 = settings.indent ∧ p.2 ∈ declared) ∨
    (p.1 = settings.indent ++ settings.indent ∧ p.2 ∈ performed) := by
  have hframe {indent : String} {s : Statement} (hindent : indent = "" ∨ indent = settings.indent)
      (hs : s ∈ frame settings moduleName) (hp : p = (indent, .statement s)) :
      (p.1 = "" ∨ p.1 = settings.indent) ∧ ∃ s ∈ frame settings moduleName, p.2 = .statement s := by
    rw [hp]
    exact ⟨hindent, s, hs, rfl⟩
  simp only [rows, List.mem_append, List.mem_cons, List.not_mem_nil, or_false, List.mem_map] at h
  rcases h with (((((hp | hp) | ⟨row, hrow, rfl⟩) | hp) | hp) | ⟨row, hrow, rfl⟩) | hp | hp | hp
  · exact .inl (hframe (.inl rfl) (by simp [frame]) hp)
  · exact .inl (hframe (.inl rfl) (by simp [frame]) hp)
  · exact .inr (.inl ⟨rfl, hrow⟩)
  · split at hp
    · cases hp
    · exact .inl (hframe (.inl rfl) (by simp [frame]) (List.mem_singleton.1 hp))
  · exact .inl (hframe (.inr rfl) (by simp [frame]) hp)
  · exact .inr (.inr ⟨rfl, hrow⟩)
  · exact .inl (hframe (.inr rfl) (by simp [frame]) hp)
  · exact .inl (hframe (.inl rfl) (by simp [frame]) hp)
  · exact .inl (hframe (.inl rfl) (by simp [frame]) hp)

/-- The names in the frame are those of the module and of the procedure. -/
theorem names_of_mem_frame {s : Statement} (hs : s ∈ frame settings moduleName) :
    ∀ n ∈ s.names, n = moduleName ∨ n = settings.procedureName := by
  intro n hn
  simp only [frame, List.mem_cons, List.not_mem_nil, or_false] at hs
  rcases hs with rfl | rfl | rfl | rfl | rfl
  · exact .inl (List.mem_singleton.1 hn)
  · exact .inr (List.mem_singleton.1 hn)
  · cases hn
  · cases hn
  · cases hn

theorem tools_of_mem_frame {s : Statement} (hs : s ∈ frame settings moduleName) : s.tools = [] := by
  simp only [frame, List.mem_cons, List.not_mem_nil, or_false] at hs
  rcases hs with rfl | rfl | rfl | rfl | rfl <;> rfl

theorem quotes_of_mem_frame {s : Statement} (hs : s ∈ frame settings moduleName) :
    s.quotes = [] := by
  simp only [frame, List.mem_cons, List.not_mem_nil, or_false] at hs
  rcases hs with rfl | rfl | rfl | rfl | rfl <;> rfl

/-- The rows of actions are rows of the program. -/
theorem exists_mem_rows {row : Row} (h : row ∈ declared ∨ row ∈ performed) :
    ∃ p ∈ rows settings moduleName declared performed, p.2 = row := by
  rcases h with h | h
  · refine ⟨(settings.indent, row), ?_, rfl⟩
    simp [rows, h]
  · refine ⟨(settings.indent ++ settings.indent, row), ?_, rfl⟩
    simp [rows, h]

/-- Every indent in a program is made of that of the settings. -/
theorem forall_indent {q : Char → Prop} (hindent : ∀ c ∈ settings.indent.toList, q c)
    (h : p ∈ rows settings moduleName declared performed) : ∀ c ∈ p.1.toList, q c := by
  intro c hc
  rcases mem_rows h with ⟨hempty | hone, -⟩ | ⟨hone, -⟩ | ⟨htwice, -⟩
  · rw [hempty] at hc
    exact absurd hc List.not_mem_nil
  · exact hindent c (hone ▸ hc)
  · exact hindent c (hone ▸ hc)
  · rw [htwice, String.toList_append, List.mem_append, or_self] at hc
    exact hindent c hc

theorem placedLines_rows_ne_nil (settings : Settings) (moduleName : String)
    (declared performed : List Row) :
    placedLines (rows settings moduleName declared performed) ≠ [] := by
  rw [rows, List.append_assoc, List.append_assoc, List.append_assoc, List.append_assoc,
    placedLines_append]
  exact List.append_ne_nil_of_left_ne_nil
    (List.append_ne_nil_of_left_ne_nil (indented_ne_nil "" _) _) _

end ProgramModule

namespace Generator

variable {g : Generator} {actions : List Action} {moduleName : Option String} {program : String}
  {declared : List Row} {p : String × Row}

/-- The rows that a program is written from. -/
def rows (g : Generator) (actions : List Action) (moduleName : Option String)
    (declared : List Row) : List (String × Row) :=
  ProgramModule.rows g.settings (ProgramModule.nameOr g.settings moduleName) declared
    (actions.flatMap (·.performed (some g.robot)))

/-- A row of a program is of the frame of the module, or from an action. -/
theorem WrittenFrom.mem_rows (h : g.WrittenFrom actions moduleName declared program)
    (hp : p ∈ g.rows actions moduleName declared) :
    (∃ s ∈ ProgramModule.frame g.settings (ProgramModule.nameOr g.settings moduleName),
      p.2 = .statement s) ∨ ∃ a ∈ actions, p.2.IsFrom a g.robot := by
  rcases ProgramModule.mem_rows hp with ⟨-, hframe⟩ | ⟨-, hrow⟩ | ⟨-, hrow⟩
  · exact .inl hframe
  · obtain ⟨a, ha, hdeclared⟩ := h.declared _ hrow
    exact .inr ⟨a, ha, Row.isFrom_of_mem_declared hdeclared⟩
  · obtain ⟨a, ha, hperformed⟩ := List.mem_flatMap.1 hrow
    exact .inr ⟨a, ha, Row.isFrom_of_mem_performed hperformed⟩

theorem isIdentifier_nameOr (hsettings : g.settings.IsNamed) (moduleName : Option String) :
    isIdentifier (ProgramModule.nameOr g.settings moduleName) = true ∨
      moduleName = some (ProgramModule.nameOr g.settings moduleName) := by
  cases moduleName with
  | none => exact .inl hsettings.moduleName
  | some name =>
    rw [ProgramModule.nameOr]
    split
    · exact .inl hsettings.moduleName
    · exact .inr rfl

namespace WrittenFrom

variable (h : g.WrittenFrom actions moduleName declared program)

include h

theorem names (hsettings : g.settings.IsNamed) (hp : p ∈ g.rows actions moduleName declared)
    {n : String} (hn : n ∈ p.2.names) :
    isIdentifier n = true ∨ n = ProgramModule.nameOr g.settings moduleName := by
  rcases h.mem_rows hp with ⟨s, hs, hrow⟩ | ⟨a, -, hfrom⟩
  · rw [hrow] at hn
    rcases ProgramModule.names_of_mem_frame hs n hn with rfl | rfl
    · exact .inr rfl
    · exact .inl hsettings.procedureName
  · exact .inl (hfrom.names n hn)

theorem tools (hp : p ∈ g.rows actions moduleName declared) {t : String} (ht : t ∈ p.2.tools) :
    ∃ m, .movement m ∈ actions ∧ (m.toolName (some g.robot)).display = t := by
  rcases h.mem_rows hp with ⟨s, hs, hrow⟩ | ⟨a, ha, hfrom⟩
  · rw [hrow, Row.tools, ProgramModule.tools_of_mem_frame hs] at ht
    cases ht
  · obtain ⟨m, rfl, hname⟩ := hfrom.tools t ht
    exact ⟨m, ha, hname⟩

theorem quotes (hp : p ∈ g.rows actions moduleName declared) {q : String} (hq : q ∈ p.2.quotes) :
    q = "" ∨ ∃ m x, .movement m ∈ actions ∧ m.workObject.axis = some x ∧ x.name.display = q := by
  rcases h.mem_rows hp with ⟨s, hs, hrow⟩ | ⟨a, ha, hfrom⟩
  · rw [hrow, Row.quotes, ProgramModule.quotes_of_mem_frame hs] at hq
    cases hq
  · refine (hfrom.quotes q hq).imp_right ?_
    rintro ⟨m, x, rfl, haxis, hname⟩
    exact ⟨m, x, ha, haxis, hname⟩

theorem verbatim (hp : p ∈ g.rows actions moduleName declared) {code : String}
    (hcode : p.2 = .verbatim code) : ∃ c, .code c ∈ actions ∧ c.code = code := by
  rcases h.mem_rows hp with ⟨s, -, hrow⟩ | ⟨a, ha, hfrom⟩
  · cases hrow.symm.trans hcode
  · obtain ⟨c, rfl, hc⟩ := hfrom.verbatim code hcode
    exact ⟨c, ha, hc⟩

theorem remark (hp : p ∈ g.rows actions moduleName declared) {text : String}
    (htext : p.2 = .remark text) : '\n' ∉ text.toList := by
  rcases h.mem_rows hp with ⟨s, -, hrow⟩ | ⟨a, -, hfrom⟩
  · cases hrow.symm.trans htext
  · exact hfrom.remark text htext

/-- Every row but those of code is kept if the names that are taken as they are are plain. -/
theorem isKept (hsettings : g.settings.IsNamed) (hplain : g.IsPlainlyNamed actions moduleName)
    (hp : p ∈ g.rows actions moduleName declared) (hverbatim : p.2.isVerbatim = false) :
    p.2.IsKept := by
  refine Row.isKept_of_plain hverbatim ?_ ?_ ?_ fun text => h.remark hp
  · intro n hn
    rcases h.names hsettings hp hn with hname | rfl
    · exact hname
    · exact hplain.moduleName
  · intro t ht
    obtain ⟨m, hm, rfl⟩ := h.tools hp ht
    exact hplain.tools m hm
  · intro q hq
    rcases h.quotes hp hq with rfl | ⟨m, x, hm, haxis, rfl⟩
    · exact ⟨List.not_mem_nil, List.not_mem_nil⟩
    · exact hplain.axes m hm x haxis

end WrittenFrom

/-- Every movement writes the name of its tool. -/
theorem exists_tool_mem_rows {m : Movement} (hm : .movement m ∈ actions) :
    ∃ p ∈ g.rows actions moduleName declared,
      (m.toolName (some g.robot)).display ∈ p.2.tools := by
  obtain ⟨output, hs⟩ := m.exists_statement_mem (some g.robot)
  have hrow : Row.statement (m.statement (some g.robot) output) ∈
      actions.flatMap (·.performed (some g.robot)) :=
    List.mem_flatMap.2 ⟨_, hm, List.mem_map_of_mem hs⟩
  obtain ⟨p, hp, hstatement⟩ := ProgramModule.exists_mem_rows (.inr hrow)
  refine ⟨p, hp, ?_⟩
  rw [hstatement, Row.tools, m.tools_statement]
  exact List.mem_singleton_self _

/-- **What the names in a program are.** -/
theorem keepsNames_of_writtenFrom (h : g.WrittenFrom actions moduleName declared program)
    (hsettings : g.settings.IsNamed) :
    g.KeepsNames actions moduleName program (g.rows actions moduleName declared) where
  text := by rw [h.text, ProgramModule.joinLines_rows hsettings, rows]
  names p hp n hn := by
    rcases h.names hsettings hp hn with hname | rfl
    · exact .inl hname
    · exact isIdentifier_nameOr hsettings moduleName
  tools t := by
    constructor
    · rintro ⟨p, hp, ht⟩
      exact h.tools hp ht
    · rintro ⟨m, hm, rfl⟩
      exact exists_tool_mem_rows hm
  quotes p hp q hq := h.quotes hp hq
  verbatim p hp code hcode := h.verbatim hp hcode
  lines hplain := by
    have hblank {p : String × Row} (hp : p ∈ g.rows actions moduleName declared) :=
      ProgramModule.forall_indent hplain.indent hp
    constructor
    · rw [h.text, ProgramModule.joinLines_rows hsettings]
      refine joinLines_eq (ProgramModule.placedLines_rows_ne_nil _ _ _ _) fun line hline => ?_
      obtain ⟨p, hp, hline⟩ := List.mem_flatMap.1 hline
      refine ProgramModule.notMem_of_mem_indented (fun hnewline => ?_) hline
      exact absurd (hblank hp _ hnewline) (by decide)
    · intro p hp hverbatim
      have hkept := h.isKept hsettings hplain hp hverbatim
      refine ⟨ProgramModule.indented_of_notMem _ hkept.newline_notMem, ?_⟩
      rw [scan_append_of_blank (hblank hp), hkept.scan_text]

end Generator

/-! ### System modules -/

namespace Tool

/-- A tool in space is declared under its name. -/
theorem tools_declared {t : Tool Float} {tcp : Frame Float} (h : t.localTcp? = .ok tcp) :
    t.declared.flatMap Statement.tools = [t.name.display] := by
  rw [declared, h]
  rfl

theorem names_of_mem_declared {t : Tool Float} {s : Statement} (hs : s ∈ t.declared) :
    s.names = [] ∧ s.quotes = [] := by
  rw [declared] at hs
  split at hs
  · simp only [List.mem_cons, List.not_mem_nil, or_false] at hs
    rcases hs with rfl | rfl | rfl <;> exact ⟨rfl, rfl⟩
  · cases hs

/-- The declaration of a tool can be read if the name of the tool is an identifier. -/
theorem isReadable_of_mem_declared {t : Tool Float} (hname : isIdentifier t.name.display = true)
    {s : Statement} (hs : s ∈ t.declared) : s.IsReadable := by
  obtain ⟨hnames, hquotes⟩ := names_of_mem_declared hs
  refine ⟨?_, ?_, ?_⟩
  · rw [hnames]
    exact List.forall_mem_nil _
  · intro n hn
    rw [declared] at hs
    split at hs
    · rename_i tcp htcp
      have hn : n ∈ t.declared.flatMap Statement.tools := by
        rw [declared, htcp]
        exact List.mem_flatMap.2 ⟨s, hs, hn⟩
      rw [tools_declared htcp, List.mem_singleton] at hn
      rw [hn]
      exact isWord_of_isIdentifier hname
    · cases hs
  · rw [hquotes]
    exact List.forall_mem_nil _

end Tool

namespace SystemModule

/-- The names in a system module that is written from some statements behind its header. -/
structure KeepsNames (settings : Settings) (tools : List (Tool Float)) (written : String)
    (statements : List Statement) : Prop where
  written_eq : written = joinLines settings
    (header ++ statements.map Statement.text ++ [Statement.moduleEnd.text])
  /-- There are no names but those of tools, and these are the names of the tools in order. -/
  no_names : ∀ s ∈ statements, s.names = [] ∧ s.quotes = []
  toolNames : statements.flatMap Statement.tools = tools.map (·.name.display)
  /-- If these are identifiers, the module has a line for each statement, which is read as the
  tokens of the statement. -/
  lines : (∀ t ∈ tools, isIdentifier t.name.display = true) →
    written = settings.lineEnding.intercalate
      (header ++ statements.map Statement.text ++ [Statement.moduleEnd.text]) ∧
    ∀ s ∈ statements, Token.scan s.text = s.tokens

theorem exists_localTcp_of_toolLines {t : Tool Float} {lines : List String}
    (h : toolLines t = .ok lines) : ∃ tcp, t.localTcp? = .ok tcp := by
  obtain ⟨tcp, htcp, -⟩ := bind_eq_ok.1 h
  exact ⟨tcp, htcp⟩

/-- All tools of a system module are in space. -/
theorem exists_localTcp_of_text {settings : Settings} {tools : List (Tool Float)} {written : String}
    (h : text settings tools = .ok written) {t : Tool Float} (ht : t ∈ tools) :
    ∃ tcp, t.localTcp? = .ok tcp := by
  obtain ⟨all, hall, h⟩ := bind_eq_ok.1 h
  cases h
  obtain ⟨blocks, hblocks, hall⟩ := bind_eq_ok.1 hall
  cases hall
  obtain ⟨lines, -, hlines⟩ := exists_pair_of_mem_left (mapM_eq_ok_iff.1 hblocks) ht
  exact exists_localTcp_of_toolLines hlines

/-- **What the names in a system module are.** -/
theorem keepsNames_of_text {settings : Settings} {tools : List (Tool Float)} {written : String}
    (h : text settings tools = .ok written) :
    KeepsNames settings tools written (tools.flatMap Tool.declared) where
  written_eq := text_eq h
  no_names s hs := by
    obtain ⟨t, -, hs⟩ := List.mem_flatMap.1 hs
    exact Tool.names_of_mem_declared hs
  toolNames := by
    rw [List.flatMap_assoc, List.map_eq_flatMap]
    refine List.flatMap_congr fun t ht => ?_
    obtain ⟨tcp, htcp⟩ := exists_localTcp_of_text h ht
    exact Tool.tools_declared htcp
  lines hnames := by
    have hreadable : ∀ s ∈ tools.flatMap Tool.declared, s.IsReadable := by
      intro s hs
      obtain ⟨t, ht, hs⟩ := List.mem_flatMap.1 hs
      exact Tool.isReadable_of_mem_declared (hnames t ht) hs
    have hheader : ∀ line ∈ header, '\n' ∉ line.toList := by
      have hall : header.all (fun line => !line.toList.contains '\n') = true := by decide +kernel
      intro line hline
      simpa using List.all_eq_true.1 hall line hline
    refine ⟨?_, fun s hs => (hreadable s hs).scan_text⟩
    refine (text_eq h).trans (joinLines_eq ?_ fun line hline => ?_)
    · exact List.append_ne_nil_of_right_ne_nil _ (List.cons_ne_nil _ _)
    · rw [List.mem_append, List.mem_append, List.mem_map, List.mem_singleton] at hline
      rcases hline with (hline | ⟨s, hs, rfl⟩) | rfl
      · exact hheader line hline
      · exact (hreadable s hs).newline_notMem
      · decide

end SystemModule

/-- **Every name in a program and in a system module is an identifier but for the ones that are
taken as they are.** -/
theorem Generator.keepsNames {fields : Datum.Fields} {g : Generator}
    (hsettings : (Settings.ofFields fields).outcome = .ok g.settings) {actions : List Action}
    {moduleName : Option String} {program : String}
    (hprogram : (g.createProgram (programOf actions) moduleName).2 = .ok program)
    {tools : List (Tool Float)} {system : String} (hsystem : g.systemModule tools = .ok system) :
    (∃ rows, g.KeepsNames actions moduleName program rows) ∧
      ∃ statements, SystemModule.KeepsNames g.settings tools system statements := by
  obtain ⟨declared, hwritten⟩ := exists_writtenFrom hprogram
  exact ⟨⟨_, keepsNames_of_writtenFrom hwritten (Settings.isNamed_of_ofFields hsettings)⟩,
    _, SystemModule.keepsNames_of_text hsystem⟩

/-! ### A name of two words -/

/-- A torch whose name is two words. -/
def weldTorch : Tool Float :=
  ⟨"weld torch", .world, .world, .empty, Tool.standardMass, by decide, Tool.standardMass_heavy⟩

theorem isPlainlyNamed_docked : tuckedGenerator.IsPlainlyNamed dockedActions none := by
  have hmovement {m : Movement} (hm : .movement m ∈ dockedActions) :
      ∃ f, m = dockedMovement f := by
    simp only [dockedActions, List.mem_cons, List.not_mem_nil, or_false,
      Action.movement.injEq] at hm
    exact hm.elim (fun h => ⟨_, h⟩) fun h => ⟨_, h⟩
  refine ⟨by decide, fun m hm => ?_, fun m hm x haxis => ?_, fun c hc => .inr ?_⟩
  · obtain ⟨f, rfl⟩ := hmovement hm
    show isIdentifier Tool.standardName = true
    decide
  · obtain ⟨f, rfl⟩ := hmovement hm
    cases haxis
  · exact List.mem_singleton.1 (show c ∈ ['\t'] from hc)

/-- The program of two movements has plain names, while the torch is declared under two words. -/
theorem keepsNames_weldTorch :
    (Settings.ofFields []).outcome = .ok tuckedGenerator.settings ∧
      (tuckedGenerator.createProgram (programOf dockedActions) none).2 = .ok dockedProgram ∧
      tuckedGenerator.IsPlainlyNamed dockedActions none ∧
      (∃ rows, tuckedGenerator.KeepsNames dockedActions none dockedProgram rows) ∧
      ∃ system statements, tuckedGenerator.systemModule [weldTorch] = .ok system ∧
        SystemModule.KeepsNames tuckedGenerator.settings [weldTorch] system statements ∧
        "weld torch" ∈ statements.flatMap Statement.tools ∧
        isIdentifier "weld torch" = false ∧
        Token.scan "weld torch" = [.word "weld", .word "torch"] := by
  obtain ⟨system, hsystem⟩ : ∃ system, tuckedGenerator.systemModule [weldTorch] = .ok system :=
    exists_ok_of_toBool (by decide +kernel)
  have hsettings : (Settings.ofFields []).outcome = .ok tuckedGenerator.settings := rfl
  obtain ⟨hprogram, statements, hstatements⟩ :=
    Generator.keepsNames hsettings text_docked hsystem
  refine ⟨hsettings, text_docked, isPlainlyNamed_docked, hprogram, system, statements, hsystem,
    hstatements, ?_, ?_, ?_⟩
  · rw [hstatements.toolNames]
    exact List.mem_singleton_self _
  · decide
  · decide

end SixAxis
