import SixAxis.Proofs.CodeTokens
import SixAxis.Proofs.CheckedSteps
import SixAxis.Program.Action

/-!
# Statements of generated code

A line of generated code that is not written as it is given is one of a few statements.  A statement
has names, numbers, flags and at most one text in quotes, and everything else in it is fixed.  So
nothing that is not one of its names, numbers or texts can differ between two lines of the same
statement.

* `Statement` — the statements, and `Statement.pieces`, what each is written from;
* `Statement.IsReadable.scan_text` — **a statement is read as its tokens** if its names are words;
* `SpeedData.text_of_declaration` and the like — what the data and the actions of a program are
  written as.
-/

namespace SixAxis

/-- A line of generated code. -/
inductive Statement where
  | moduleStart (name : String)
  | moduleEnd
  | procedureStart (name : String)
  | procedureEnd
  | blank
  | speed (name : String) (speeds : List Float)
  | zone (name : String) (stops : Bool) (sizes : List Float)
  | workObject (name : String) (held : Bool) (axis : Option String)
    (userFrame objectFrame : Frame Float)
  | jointTarget (name : String) (joints : RobotJoints Float) (external : ExternalJoints Float)
  | poseTarget (name : String) (frame : Frame Float) (configuration : Number)
    (external : ExternalJoints Float)
  | jointPosition (kind : JointKind) (name : String) (values : Joints kind Float)
  | wait (seconds : Float)
  | setOutput (name : String) (level : Bool)
  | waitInput (name : String) (level : Bool)
  /-- Switches the checks of axis configurations, those of linear movements or the others. -/
  | check (linear enabled : Bool)
  | move (kind : MoveKind) (target speed zone tool workObject : String)
    (output : Option (String × Bool))
  /-- The first and the second line of the declaration of a tool. -/
  | toolPose (name : String) (tcp : Frame Float)
  | toolLoad (mass : Float)

namespace Statement

open Piece CodeNumber

/-- A flag in a declaration. -/
def flag (b : Bool) : Piece := fixed (if b then "TRUE" else "FALSE")

/-- The level of a signal. -/
def level (b : Bool) : Piece := fixed (if b then "1" else "0")

/-- A frame: its origin and its orientation. -/
def pose (f : Frame Float) : List Piece := [
  fixed "[[", numbers f.point.toList lengthDecimals, fixed "], [",
  numbers f.quaternion.toList unitDecimals, fixed "]]"]

/-- The values of a joint vector. -/
def vector {kind : JointKind} (j : Joints kind Float) : List Piece := [
  fixed "[", numbers j.toList lengthDecimals, fixed "]"]

/-- The type of a joint position. -/
def positionType : JointKind → String
  | .robot => "robjoint"
  | .external => "extjoint"

/-- The word for a kind of movement, which can be one that sets an output. -/
def moveWord : MoveKind → Bool → String
  | kind, false => kind.instruction
  | .absoluteJoint, true => "MoveAbsJDO"
  | .linear, true => "MoveLDO"
  | .joint, true => "MoveJDO"

/-- What a statement is written from. -/
def pieces : Statement → List Piece
  | moduleStart n => [fixed "MODULE ", name n]
  | moduleEnd => [fixed "ENDMODULE"]
  | procedureStart n => [fixed "PROC ", name n, fixed "()"]
  | procedureEnd => [fixed "ENDPROC"]
  | blank => []
  | speed n speeds => [
    fixed "VAR speeddata ", name n, fixed " := [", numbers speeds lengthDecimals, fixed "];"]
  | zone n stops sizes => [
    fixed "VAR zonedata ", name n, fixed " := [", flag stops, fixed ", ",
    numbers sizes lengthDecimals, fixed "];"]
  | workObject n held axis userFrame objectFrame =>
    [fixed "PERS wobjdata ", name n, fixed " := [", flag held, fixed ", ", flag axis.isNone,
      fixed ", ", quoted (axis.getD ""), fixed ", "] ++ pose userFrame ++ fixed ", " ::
      pose objectFrame ++ [fixed "];"]
  | jointTarget n joints external =>
    [fixed "CONST jointtarget ", name n, fixed " := ["] ++ vector joints ++ fixed ", " ::
      vector external ++ [fixed "];"]
  | poseTarget n f c external =>
    [fixed "VAR robtarget ", name n, fixed " := [[", numbers f.point.toList lengthDecimals,
      fixed "], [", numbers f.quaternion.toList unitDecimals, fixed "], ", fixed "[0, 0, 0, ",
      .configuration c, fixed "], "] ++ vector external ++ [fixed "];"]
  | jointPosition kind n values =>
    [fixed "CONST ", fixed (positionType kind), fixed " ", name n, fixed " := "] ++
      vector values ++ [fixed ";"]
  | wait seconds => [fixed "WaitTime ", numbers [seconds] fineDecimals, fixed ";"]
  | setOutput n b => [fixed "SetDO ", name n, fixed ", ", level b, fixed ";"]
  | waitInput n b => [fixed "WaitDI ", name n, fixed ", ", level b, fixed ";"]
  | check linear enabled => [
    fixed (if linear then "ConfL" else "ConfJ"), fixed "\\",
    fixed (if enabled then "On" else "Off"), fixed ";"]
  | move kind target v z t w output =>
    [fixed (moveWord kind output.isSome), fixed " ",
      name target, fixed ", ", name v, fixed ", ", name z, fixed ", ", tool t,
      fixed "\\WObj:=", name w] ++
      match output with
      | none => [fixed ";"]
      | some (n, b) => [fixed ", ", name n, fixed ", ", level b, fixed ";"]
  | toolPose n tcp => [
    fixed " PERS tooldata ", tool n, fixed " := [TRUE, [[", numbers tcp.point.toList lengthDecimals,
    fixed "], [", numbers tcp.quaternion.toList unitDecimals, fixed "]],"]
  | toolLoad mass => [
    fixed "\t\t\t\t\t\t[", numbers [mass] fineDecimals,
    fixed ", [0, 0, 0.001],[1, 0, 0, 0], 0, 0, 0]];"]

/-- A statement as it is written. -/
def text (s : Statement) : String := textOf s.pieces

/-- The tokens that a statement stands for. -/
def tokens (s : Statement) : List Token := s.pieces.flatMap Piece.tokens

/-- The names in a statement but for that of a tool. -/
def names (s : Statement) : List String := s.pieces.filterMap fun
  | .name n => some n
  | _ => none

/-- The names of tools in a statement. -/
def tools (s : Statement) : List String := s.pieces.filterMap fun
  | .tool n => some n
  | _ => none

/-- The texts in quotes in a statement. -/
def quotes (s : Statement) : List String := s.pieces.filterMap fun
  | .quoted q => some q
  | _ => none

/-- The numbers in a statement with the decimals they are written with, but for those of axis
configurations. -/
def numerals (s : Statement) : List (Float × Nat) := s.pieces.flatMap fun
  | .numbers xs decimals => xs.map fun x => (x, decimals)
  | _ => []

/-! ### Reading a statement -/

/-- Nothing in a statement runs into what follows it. -/
theorem areSpaced_pieces (s : Statement) : areSpaced s.pieces = true := by
  cases s with
  | zone n stops sizes => cases stops <;> rfl
  | workObject n held axis userFrame objectFrame =>
    cases held <;> cases axis <;> simp only [pieces, Option.isNone] <;> rfl
  | jointPosition kind n values => cases kind <;> rfl
  | setOutput n b => cases b <;> rfl
  | waitInput n b => cases b <;> rfl
  | check linear enabled => cases linear <;> cases enabled <;> rfl
  | move kind target speed zone t workObject output =>
    cases output with
    | none => rfl
    | some o =>
      obtain ⟨n, b⟩ := o
      cases b <;> rfl
  | _ => rfl

/-- Whether a piece is not fixed code that opens a quote, a remark or another line. -/
def isFixedPlain : Piece → Bool
  | fixed code => isPlain code.toList && !code.toList.contains '\n'
  | _ => true

/-- No fixed code opens a quote, a remark or another line. -/
theorem all_isFixedPlain (s : Statement) : s.pieces.all isFixedPlain = true := by
  cases s with
  | zone n stops sizes => cases stops <;> rfl
  | workObject n held axis userFrame objectFrame =>
    cases held <;> cases axis <;> simp only [pieces, Option.isNone] <;> rfl
  | jointPosition kind n values => cases kind <;> rfl
  | setOutput n b => cases b <;> rfl
  | waitInput n b => cases b <;> rfl
  | check linear enabled => cases linear <;> cases enabled <;> rfl
  | move kind target speed zone t workObject output =>
    cases output with
    | none => cases kind <;> rfl
    | some o =>
      obtain ⟨n, b⟩ := o
      cases kind <;> cases b <;> simp only [pieces, Option.isSome] <;> rfl
  | _ => rfl

/-- Whether the names and the text of a statement are such that it can be read: names that are
words, and no quote or line feed in the text. -/
structure IsReadable (s : Statement) : Prop where
  names : ∀ n ∈ s.names, IsWord n
  tools : ∀ n ∈ s.tools, IsWord n
  quotes : ∀ q ∈ s.quotes, '"' ∉ q.toList ∧ '\n' ∉ q.toList

theorem IsReadable.reads {s : Statement} (h : s.IsReadable) : ∀ p ∈ s.pieces, p.Reads := by
  intro p hp
  cases p with
  | fixed code =>
    have hplain := List.all_eq_true.1 s.all_isFixedPlain _ hp
    rw [isFixedPlain, Bool.and_eq_true, Bool.not_eq_true', List.contains_eq_mem,
      decide_eq_false_iff_not] at hplain
    exact hplain
  | name n => exact h.names n (List.mem_filterMap.2 ⟨_, hp, rfl⟩)
  | tool n => exact h.tools n (List.mem_filterMap.2 ⟨_, hp, rfl⟩)
  | quoted q => exact h.quotes q (List.mem_filterMap.2 ⟨_, hp, rfl⟩)
  | numbers xs decimals => trivial
  | configuration n => trivial

/-- **A statement is read as its tokens.** -/
theorem IsReadable.scan_text {s : Statement} (h : s.IsReadable) :
    Token.scan s.text = s.tokens :=
  scan_textOf h.reads s.areSpaced_pieces

/-- A statement stays on its line. -/
theorem IsReadable.newline_notMem {s : Statement} (h : s.IsReadable) :
    '\n' ∉ s.text.toList :=
  newline_notMem_textOf h.reads

end Statement

/-! ### What data and actions are written as -/

open Statement Piece

theorem Number.value_of_toReal {n : Number} {x : Float} (h : n.toReal = .ok x) : n.value = x := by
  cases n with
  | whole k =>
    rw [toReal] at h
    split at h
    · cases h
    · exact Except.ok.inj h
  | _ => exact Except.ok.inj h

theorem Number.values_of_mapM {ns : List Number} {xs : List Float}
    (h : ns.mapM Number.toReal = .ok xs) : ns.map Numeral.value = xs := by
  rw [mapM_eq_ok_iff] at h
  induction h with
  | nil => rfl
  | cons hone _ ih => rw [List.map_cons, Number.value_of_toReal hone, ih]

/-- The declaration of speed data. -/
def SpeedData.statement (s : SpeedData) : Statement :=
  .speed s.name.text (s.speeds.map Numeral.value)

theorem SpeedData.text_of_declaration {s : SpeedData} {code : String}
    (h : s.declaration = .ok code) (hcode : code ≠ "") : s.statement.text = code := by
  simp only [declaration] at h
  split at h
  · cases h
    exact absurd rfl hcode
  · obtain ⟨values, hvalues, h⟩ := bind_eq_ok.1 h
    obtain ⟨xs, hxs, hvalues⟩ := bind_eq_ok.1 hvalues
    cases hvalues
    cases h
    rw [statement, Number.values_of_mapM hxs]
    simp only [Statement.text, pieces, textOf, Piece.text, toString, String.append_assoc,
      String.append_empty]

/-- The declaration of zone data. -/
def ZoneData.statement (z : ZoneData) : Statement :=
  .zone z.name.text z.stops.isTruthy (z.sizes.toList.map Numeral.value)

theorem ZoneData.text_of_declaration {z : ZoneData} {code : String}
    (h : z.declaration = .ok code) (hcode : code ≠ "") : z.statement.text = code := by
  simp only [declaration] at h
  split at h
  · cases h
    exact absurd rfl hcode
  · obtain ⟨values, hvalues, h⟩ := bind_eq_ok.1 h
    obtain ⟨xs, hxs, hvalues⟩ := bind_eq_ok.1 hvalues
    cases hvalues
    cases h
    rw [statement, Number.values_of_mapM hxs]
    simp only [Statement.text, pieces, flag, textOf, Piece.text, toString, String.append_assoc,
      String.append_empty]

/-- The declaration of a work object. -/
def WorkObject.statement (w : WorkObject) : Statement :=
  .workObject w.name.text w.held.isTruthy (w.axis.map (·.name.display)) w.userFrame w.objectFrame

theorem Statement.textOf_pose (f : Frame Float) : textOf (pose f) = poseCode f := by
  simp only [pose, poseCode, textOf, Piece.text, toString, String.append_assoc, String.append_empty]

theorem Statement.textOf_vector {kind : JointKind} (j : Joints kind Float) :
    textOf (vector j) = j.code := by
  simp only [vector, Joints.code, textOf, Piece.text, String.append_assoc, String.append_empty]

theorem WorkObject.text_of_declaration {w : WorkObject} (h : w.declaration ≠ "") :
    w.statement.text = w.declaration := by
  by_cases hpredefined : w.isPredefined = true
  · rw [declaration, if_pos hpredefined] at h
    exact absurd rfl h
  · rw [declaration, if_neg hpredefined]
    obtain ⟨name, userFrame, objectFrame, axis, held⟩ := w
    have hopen : ", \"" = ", " ++ "\"" := by decide
    have hclose : "\", " = "\"" ++ ", " := by decide
    rw [hopen, hclose]
    cases axis with
    | none =>
      simp only [Statement.text, statement, pieces, flag, textOf, textOf_append, textOf_pose,
        Piece.text, toString, String.append_assoc, String.append_empty, Option.map, Option.isNone,
        Option.getD, ↓reduceIte]
    | some a =>
      simp only [Statement.text, statement, pieces, flag, textOf, textOf_append, textOf_pose,
        Piece.text, toString, String.append_assoc, String.append_empty, Option.map, Option.isNone,
        Option.getD, Bool.false_eq_true, ↓reduceIte]

/-- The declaration of the target of a movement. -/
def Movement.targetStatement (m : Movement) (s : Solution Float) : Statement :=
  if m.isAbsolute then .jointTarget m.target.jointName s.joints s.external
  else .poseTarget m.target.poseName m.target.frame
    (m.target.configuration.getD (.whole s.chosen.configuration.val)) s.external

theorem Movement.text_targetStatement (m : Movement) (s : Solution Float) :
    (m.targetStatement s).text = m.declarationOf s := by
  rw [targetStatement, declarationOf]
  by_cases habsolute : m.isAbsolute = true
  · rw [if_pos habsolute, if_pos habsolute]
    simp only [Statement.text, pieces, textOf, textOf_append, textOf_vector, Piece.text, toString,
      String.append_assoc, String.append_empty]
  · rw [if_neg habsolute, if_neg habsolute]
    cases m.target.configuration with
    | none =>
      simp only [Statement.text, pieces, textOf, textOf_append, textOf_vector, Piece.text, toString,
        String.append_assoc, String.append_empty, Option.getD]
      rfl
    | some n =>
      simp only [Statement.text, pieces, textOf, textOf_append, textOf_vector, Piece.text, toString,
        String.append_assoc, String.append_empty, Option.getD]

/-- The declaration of a joint position. -/
def JointDeclaration.statement (j : JointDeclaration) : Statement :=
  .jointPosition j.position.kind j.name.text j.position.joints

theorem JointDeclaration.text_statement (j : JointDeclaration) :
    j.statement.text = j.declaration := by
  obtain ⟨name, kind, joints⟩ := j
  cases kind <;>
    simp only [Statement.text, statement, declaration, type, pieces, positionType, textOf,
      textOf_append, textOf_vector, Piece.text, toString, String.append_assoc,
      String.append_empty]

/-- The instruction that waits. -/
def Timer.statement (t : Timer) : Statement := .wait t.duration.value

theorem Timer.text_of_instruction {t : Timer} {code : String} (h : t.instruction = .ok code) :
    t.statement.text = code := by
  obtain ⟨time, htime, h⟩ := bind_eq_ok.1 h
  obtain ⟨x, hx, htime⟩ := bind_eq_ok.1 htime
  cases htime
  cases h
  rw [statement, Number.value_of_toReal hx]
  simp only [Statement.text, pieces, textOf, Piece.text, CodeNumber.list_singleton, toString,
    String.append_assoc, String.append_empty]

/-- The instruction that sets an output. -/
def DigitalOutput.statement (d : DigitalOutput) : Statement :=
  .setOutput d.name.text d.active.isTruthy

theorem text_levelOf (flag : Datum) :
    (if flag.isTruthy = true then "1" else "0") = (levelOf flag).repr := by
  rw [levelOf]
  cases flag.isTruthy <;> rfl

theorem DigitalOutput.text_statement (d : DigitalOutput) : d.statement.text = d.instruction := by
  simp only [Statement.text, statement, instruction, DigitalOutput.level, pieces, Statement.level,
    textOf, text_levelOf, Piece.text, toString, String.append_assoc, String.append_empty]

/-- The instruction that waits for an input. -/
def InputWait.statement (w : InputWait) : Statement := .waitInput w.name.text w.value.isTruthy

theorem InputWait.text_statement (w : InputWait) : w.statement.text = w.instruction := by
  simp only [Statement.text, statement, instruction, pieces, Statement.level, textOf, text_levelOf,
    Piece.text, toString, String.append_assoc, String.append_empty]

/-- The instruction of a movement, with the output it sets itself. -/
def Movement.statement (m : Movement) (r : Option (Robot Float)) (output : Option (String × Bool)) :
    Statement :=
  .move m.kind m.variableName m.speed.name.text m.zone.name.text (m.toolName r).display
    m.workObject.name.text output

theorem Movement.text_statement_none (m : Movement) (r : Option (Robot Float)) :
    (m.statement r none).text = m.kind.instruction ++ (" " ++ (m.arguments r ++ ";")) := by
  simp only [Statement.text, statement, pieces, Option.isSome, moveWord, textOf, textOf_append,
    Piece.text, arguments, toString, String.append_assoc, String.append_empty]

theorem Movement.text_statement_some (m : Movement) (r : Option (Robot Float)) (o : DigitalOutput) :
    (m.statement r (some (o.name.text, o.active.isTruthy))).text =
      m.kind.instruction ++ ("DO " ++ (m.arguments r ++ (", " ++
        (o.name.text ++ (", " ++ (o.level.repr ++ ";")))))) := by
  have hword : moveWord m.kind true ++ " " = m.kind.instruction ++ "DO " := by
    cases m.kind <;> decide
  refine Eq.trans ?_ String.append_assoc
  rw [← hword]
  simp only [Statement.text, statement, pieces, Option.isSome, textOf, textOf_append, level,
    text_levelOf, DigitalOutput.level, Piece.text, arguments, toString, String.append_assoc,
    String.append_empty]

/-- The instructions of a movement: two if it goes to joint values and sets an output. -/
def Movement.statements (m : Movement) (r : Option (Robot Float)) : List Statement :=
  match m.output with
  | none => [m.statement r none]
  | some o =>
    if m.isAbsolute then [m.statement r none, o.statement]
    else [m.statement r (some (o.name.text, o.active.isTruthy))]

/-- A statement of a movement is its instruction, or sets its output. -/
theorem Movement.mem_statements {m : Movement} {r : Option (Robot Float)} {s : Statement}
    (h : s ∈ m.statements r) : s = m.statement r none ∨
      ∃ o : DigitalOutput, s = m.statement r (some (o.name.text, o.active.isTruthy)) ∨
        s = o.statement := by
  rw [statements] at h
  split at h
  · exact .inl (List.mem_singleton.1 h)
  · rename_i o _
    split at h
    · rw [List.mem_cons, List.mem_singleton] at h
      exact h.imp_right fun hs => ⟨o, .inr hs⟩
    · exact .inr ⟨o, .inl (List.mem_singleton.1 h)⟩

/-- A movement has an instruction. -/
theorem Movement.exists_statement_mem (m : Movement) (r : Option (Robot Float)) :
    ∃ output, m.statement r output ∈ m.statements r := by
  rw [statements]
  split
  · exact ⟨none, List.mem_cons_self⟩
  · split
    · exact ⟨none, List.mem_cons_self⟩
    · exact ⟨_, List.mem_cons_self⟩

theorem Movement.text_statements (m : Movement) (r : Option (Robot Float)) :
    "\n".intercalate ((m.statements r).map Statement.text) = m.instruction r := by
  rw [statements, instruction]
  cases m.output with
  | none =>
    rw [List.map_singleton, m.text_statement_none r]
    simp only [toString, String.append_assoc]
    rfl
  | some o =>
    simp only
    by_cases habsolute : m.isAbsolute = true
    · have hend : ";\n" = ";" ++ "\n" := by decide
      have hpair (a b : String) : "\n".intercalate [a, b] = a ++ "\n" ++ b := rfl
      rw [if_pos habsolute, if_pos habsolute, List.map_cons, List.map_singleton, hpair, hend,
        m.text_statement_none r, o.text_statement]
      simp only [toString, String.append_assoc]
    · rw [if_neg habsolute, if_neg habsolute, List.map_singleton, m.text_statement_some r o]
      simp only [toString, String.append_assoc]
      rfl

end SixAxis
