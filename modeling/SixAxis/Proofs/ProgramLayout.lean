import SixAxis.Proofs.DeclarationSection
import SixAxis.Proofs.LineEndings
import SixAxis.Proofs.WrittenRows

/-!
# The layout of a program

A program that is cut at its line ending is what it was put together from: the lines around the
parts, every line of a declaration behind one indent, and every line of an instruction behind two.
What a remark adds is as many lines as its text has, each of them marked.  No line of it holds a
character that ends lines, so nothing of a remark is ever read as code.

* `Text.isLineBreak_iff` — the characters that end lines;
* `Comment.Remarks` — what the lines of a remark are;
* `ProgramModule.splitOn_joinLines` — lines are found again behind either line ending;
* `LaidOut` — what is specified for the text of a program;
* `Generator.createProgram_laidOut` — **every program is laid out from its parts**.
-/

namespace SixAxis

/-! ### Remarks -/

namespace Text

/-- The characters that end lines, of whatever kind. -/
def lineBreaks : List Char :=
  ['\n', '\x0b', '\x0c', '\r', '\x1c', '\x1d', '\x1e', '\u0085', '\u2028', '\u2029']

theorem isLineBreak_iff {c : Char} : isLineBreak c = true ↔ c ∈ lineBreaks := by
  simp only [isLineBreak, inRanges, lineBreaks, List.any_cons, List.any_nil, Bool.or_false,
    Bool.or_eq_true, Bool.and_eq_true, decide_eq_true_eq, List.mem_cons, List.not_mem_nil, or_false,
    ← Char.toNat_inj, Char.reduceToNat]
  omega

end Text

/-- What the code of a remark is: its lines are those of the text, each of them marked, and none
of them holds a character that ends lines. -/
structure Comment.Remarks (c : Comment) (code : String) : Prop where
  marked : ∃ s, c.text = .text s ∧ code.splitOn "\n" = (Text.lines s).map ("! " ++ ·)
  unbroken : ∀ line ∈ code.splitOn "\n", ∀ d ∈ line.toList, d ∉ Text.lineBreaks

/-- A marked line holds no character that ends lines. -/
theorem Text.unbroken_of_mem_lines {s line : String} (h : line ∈ lines s) :
    ∀ d ∈ ("! " ++ line).toList, d ∉ lineBreaks := by
  intro d hd hbreak
  have hmark : "! ".toList = ['!', ' '] := String.toList_ofList
  have hplain : ∀ d ∈ ['!', ' '], isLineBreak d = false := by simp [isLineBreak, inRanges]
  have hnone : isLineBreak d = false := by
    rw [String.toList_append, List.mem_append, hmark] at hd
    rcases hd with hd | hd
    · exact hplain d hd
    · exact not_isLineBreak_of_mem_lines h hd
  rw [isLineBreak_iff.2 hbreak] at hnone
  cases hnone

/-- A remark that can be written is not empty, and its lines are marked. -/
theorem Comment.remarks_of_code {c : Comment} {code : String} (h : c.code = .ok code) :
    code ≠ "" ∧ c.Remarks code := by
  rw [Comment.code] at h
  split at h
  · rename_i s hs
    cases h
    have hs_ne : s ≠ "" := by
      have htruthy := c.nonempty
      rw [hs] at htruthy
      rintro rfl
      cases htruthy
    have hlines := Text.lines_ne_nil hs_ne
    have hmapped : (Text.lines s).map ("! " ++ ·) ≠ [] := mt List.map_eq_nil_iff.1 hlines
    have hunbroken : ∀ line ∈ (Text.lines s).map ("! " ++ ·),
        ∀ d ∈ line.toList, d ∉ Text.lineBreaks := by
      intro line hline
      obtain ⟨rest, hrest, rfl⟩ := List.mem_map.1 hline
      exact Text.unbroken_of_mem_lines hrest
    have hsplit : ("\n".intercalate ((Text.lines s).map ("! " ++ ·))).splitOn "\n" =
        (Text.lines s).map ("! " ++ ·) :=
      Text.splitOn_intercalate hmapped fun line hline hbreak =>
        hunbroken line hline '\n' hbreak (by decide)
    refine ⟨?_, ⟨s, hs, hsplit⟩, fun line hline => hunbroken line (hsplit ▸ hline)⟩
    obtain ⟨first, rest, hcons⟩ := List.exists_cons_of_ne_nil hlines
    rw [hcons]
    refine intercalate_cons_ne_empty ?_ "\n" _
    rw [Ne, String.append_eq_empty_iff]
    exact fun hempty => absurd hempty.1 (by decide)
  · cases h

/-! ### Layout -/

namespace ProgramModule

theorem moduleLines_ne_nil (settings : Settings) (moduleName : String)
    (declarations codes : List String) : lines settings moduleName declarations codes ≠ [] := by
  simp [lines]

/-- The lines of a module hold no line feed, if the names and the indent hold none. -/
theorem newline_notMem_moduleLines {settings : Settings} {moduleName line : String}
    {declarations codes : List String} (hindent : '\n' ∉ settings.indent.toList)
    (hname : '\n' ∉ moduleName.toList) (hprocedure : '\n' ∉ settings.procedureName.toList)
    (h : line ∈ lines settings moduleName declarations codes) : '\n' ∉ line.toList := by
  have hdouble : '\n' ∉ (settings.indent ++ settings.indent).toList := by
    rw [String.toList_append, List.mem_append, or_self]
    exact hindent
  simp only [lines, List.mem_append, List.mem_cons, List.not_mem_nil, or_false,
    List.mem_flatMap] at h
  rcases h with (((((rfl | rfl) | ⟨code, -, hline⟩) | hline) | rfl) | ⟨code, -, hline⟩) |
    rfl | rfl | rfl
  · simpa [toString] using hname
  · exact List.not_mem_nil
  · exact notMem_of_mem_indented hindent hline
  · split at hline
    · cases hline
    · rw [List.mem_singleton.1 hline]
      exact List.not_mem_nil
  · simpa [toString] using ⟨hindent, hprocedure⟩
  · exact notMem_of_mem_indented hdouble hline
  · simpa [toString] using hindent
  · exact List.not_mem_nil
  · decide

/-- Lines without line feeds are found again behind either line ending. -/
theorem splitOn_joinLines {settings : Settings} {lines : List String}
    (hending : settings.lineEnding = "\n" ∨ settings.lineEnding = "\r\n") (hne : lines ≠ [])
    (h : ∀ line ∈ lines, '\n' ∉ line.toList) :
    (joinLines settings lines).splitOn settings.lineEnding = lines := by
  rw [joinLines_eq hne h]
  rcases hending with hfeed | hpair
  · rw [hfeed]
    exact Text.splitOn_intercalate hne h
  · rw [hpair]
    exact Text.splitOn_intercalate_pair (by decide) hne h

end ProgramModule

/-! ### The parts that remarks are -/

/-- The item of a comment or a line of code is always one of the first uses. -/
theorem ofLine_mem_firstUses {items : List Item} {code : Checked String}
    (h : Item.ofLine code ∈ used items) : Item.ofLine code ∈ firstUses items := by
  obtain ⟨kept, hkept, rfl | hsame⟩ := exists_mem_eraseDupsBy (r := Item.sameName) h
  · exact hkept
  · cases hsame

section Remarks

variable {c : Comment} {actions : List Action} {r : Robot Float}

/-- A remark is never passed over. -/
theorem Comment.isBlank_ofLine_code (c : Comment) : (Item.ofLine c.code).isBlank = false := by
  refine Item.isBlank_eq_false_iff.2 fun hempty => ?_
  have hcode : c.code = .ok "" := hempty
  exact (Comment.remarks_of_code hcode).1 rfl

/-- A remark among the declarations is an item that is looked at. -/
theorem Comment.item_mem_used (hc : .comment c ∈ actions) (hplace : c.place = .declaration)
    (r : Robot Float) : Item.ofLine c.code ∈ used (itemsOf actions r) := by
  refine mem_used_iff.2 ⟨List.mem_flatMap.2 ⟨_, hc, ?_⟩, ?_⟩
  · refine List.mem_singleton.2 (congrArg Item.ofLine ?_)
    exact (if_pos hplace).symm
  · exact c.isBlank_ofLine_code

/-- A remark among the declarations is declared. -/
theorem Comment.exists_mem_declarations {declarations : List String} (hc : .comment c ∈ actions)
    (hplace : c.place = .declaration)
    (h : (firstUses (itemsOf actions r)).map Item.code = declarations.map .ok) :
    ∃ code ∈ declarations, c.code = .ok code := by
  have hmem : c.code ∈ (firstUses (itemsOf actions r)).map Item.code :=
    List.mem_map.2 ⟨_, ofLine_mem_firstUses (c.item_mem_used hc hplace r), rfl⟩
  rw [h] at hmem
  obtain ⟨code, hcode, heq⟩ := List.mem_map.1 hmem
  exact ⟨code, hcode, heq.symm⟩

/-- A remark in the procedure is one of the instructions. -/
theorem Comment.exists_mem_instructions {all : List String} (hc : .comment c ∈ actions)
    (hplace : c.place = .instruction)
    (h : List.Forall₂ (fun a code => a.instruction (some r) = .ok code) actions all) :
    ∃ code ∈ all.filter (· ≠ ""), c.code = .ok code := by
  obtain ⟨code, hpair, hcode⟩ := exists_pair_of_mem_left h hc
  have hwritten : c.code = .ok code := by
    rw [← hcode]
    exact (if_pos hplace).symm
  refine ⟨code, List.mem_filter.2 ⟨List.of_mem_zip hpair |>.2, ?_⟩, hwritten⟩
  exact decide_eq_true (Comment.remarks_of_code hwritten).1

end Remarks

/-! ### Programs -/

/-- How the text of a program is laid out from declarations and instruction codes. -/
structure LaidOut (g : Generator) (actions : List Action) (moduleName : Option String)
    (program : String) (declarations codes : List String) : Prop where
  /-- The declarations are those of the first uses, in their order. -/
  declarations_eq :
    (firstUses (itemsOf actions g.robot)).map Item.code = declarations.map .ok
  /-- The codes are the instructions of the actions, in their order, but for the empty ones. -/
  codes_eq : ∃ all,
    List.Forall₂ (fun a code => a.instruction (some g.robot) = .ok code) actions all ∧
    codes = all.filter (· ≠ "")
  /-- The lines of the text are those of the parts behind their indents, and the lines around
  them. -/
  lines_eq : program.splitOn g.settings.lineEnding =
    ["MODULE " ++ ProgramModule.nameOr g.settings moduleName, ""] ++
    declarations.flatMap (fun code => (code.splitOn "\n").map fun line =>
      g.settings.indent ++ line) ++
    (if declarations = [] then [] else [""]) ++
    [g.settings.indent ++ "PROC " ++ g.settings.procedureName ++ "()"] ++
    codes.flatMap (fun code => (code.splitOn "\n").map fun line =>
      g.settings.indent ++ g.settings.indent ++ line) ++
    [g.settings.indent ++ "ENDPROC", "", "ENDMODULE"]
  /-- Every remark is one of the parts, and its lines are marked. -/
  remarks : ∀ c, .comment c ∈ actions → ∃ code, c.code = .ok code ∧ c.Remarks code ∧
    match c.place with
    | .declaration => code ∈ declarations
    | .instruction => code ∈ codes

/-- **Every program is laid out from its parts.** -/
theorem Generator.createProgram_laidOut {g : Generator} {actions : List Action}
    {moduleName : Option String} {program : String}
    (h : (g.createProgram (programOf actions) moduleName).2 = .ok program)
    (hending : g.settings.lineEnding = "\n" ∨ g.settings.lineEnding = "\r\n")
    (hindent : '\n' ∉ g.settings.indent.toList)
    (hname : '\n' ∉ (ProgramModule.nameOr g.settings moduleName).toList)
    (hprocedure : '\n' ∉ g.settings.procedureName.toList) :
    ∃ declarations codes, LaidOut g actions moduleName program declarations codes := by
  obtain ⟨-, hlegible, body, hbody, rfl⟩ := createProgram_ok_iff.1 h
  obtain ⟨all, hall, hbody⟩ := bind_eq_ok.1 hbody
  cases hbody
  have hdeclarations := map_code_eq (legible_firstUses hlegible)
  have hinstructions := mapM_eq_ok_iff.1 hall
  refine ⟨_, _, hdeclarations, ⟨all, hinstructions, rfl⟩, ?_, ?_⟩
  · rw [ProgramModule.splitOn_joinLines hending (ProgramModule.moduleLines_ne_nil _ _ _ _)
      fun line hline => ProgramModule.newline_notMem_moduleLines hindent hname hprocedure hline]
    have hcodes : all.filter (!·.isEmpty) = all.filter (· ≠ "") := by
      refine List.filter_congr fun code _ => ?_
      rw [Bool.eq_iff_iff]
      simp
    rw [ProgramModule.lines, hcodes]
    simp only [toString, List.isEmpty_iff]
    rfl
  · intro c hc
    cases hplace : c.place with
    | declaration =>
      obtain ⟨code, hmem, hcode⟩ := Comment.exists_mem_declarations hc hplace hdeclarations
      exact ⟨code, hcode, (Comment.remarks_of_code hcode).2, hmem⟩
    | instruction =>
      obtain ⟨code, hmem, hcode⟩ := Comment.exists_mem_instructions hc hplace hinstructions
      exact ⟨code, hcode, (Comment.remarks_of_code hcode).2, hmem⟩

/-- A remark among the declarations, with line breaks of several kinds. -/
def brokenRemark : Comment :=
  ⟨.text "torch off\r\nclear\x0b the seam\u2028MoveL home;", .declaration, rfl⟩

/-- A remark in the procedure that ends with a carriage return. -/
def openRemark : Comment := ⟨.text "start\r", .instruction, rfl⟩

/-- A generator for another system, with lines that end with two characters. -/
def pairedGenerator : Generator :=
  .fresh tuckedArm ⟨"Remarks", "main", "  ", "\r\n", "Remarks.mod", "BASE.sys"⟩

theorem used_pairedGenerator :
    used (itemsOf [.comment brokenRemark, .comment openRemark] pairedGenerator.robot) =
      [.ofLine brokenRemark.code] := by
  have hitems : itemsOf [.comment brokenRemark, .comment openRemark] pairedGenerator.robot =
      [.ofLine brokenRemark.code, .ofLine (.ok "")] := rfl
  have hsecond : (Item.ofLine (.ok "")).isBlank = true := Item.isBlank_iff.2 rfl
  rw [hitems, used_cons brokenRemark.isBlank_ofLine_code, used_cons_of_blank hsecond]
  rfl

theorem exists_program_pairedGenerator :
    ∃ program, (pairedGenerator.createProgram
      (programOf [.comment brokenRemark, .comment openRemark]) none).2 = .ok program := by
  refine ⟨_, Generator.createProgram_ok_iff.2 ⟨?_, ?_, _, rfl, rfl⟩⟩
  · rw [used_pairedGenerator]
    exact List.pairwise_singleton _ _
  · rw [used_pairedGenerator]
    intro before i after hsplit hasked
    obtain rfl : i = .ofLine brokenRemark.code := by
      have hi : i ∈ before ++ i :: after := List.mem_append_right _ List.mem_cons_self
      rw [← hsplit] at hi
      exact List.mem_singleton.1 hi
    exact ⟨_, rfl⟩

/-- Remarks with line breaks of several kinds stay remarks, also where lines end with two
characters. -/
theorem createProgram_laidOut_remarks :
    ∃ program, (pairedGenerator.createProgram
        (programOf [.comment brokenRemark, .comment openRemark]) none).2 = .ok program ∧
      ∃ declarations codes, LaidOut pairedGenerator [.comment brokenRemark, .comment openRemark]
        none program declarations codes := by
  obtain ⟨program, hprogram⟩ := exists_program_pairedGenerator
  have hindent : '\n' ∉ pairedGenerator.settings.indent.toList := by
    simp [pairedGenerator, Generator.fresh]
  have hname : '\n' ∉ (ProgramModule.nameOr pairedGenerator.settings none).toList := by
    simp [pairedGenerator, Generator.fresh, ProgramModule.nameOr]
  have hprocedure : '\n' ∉ pairedGenerator.settings.procedureName.toList := by
    simp [pairedGenerator, Generator.fresh]
  exact ⟨program, hprogram,
    Generator.createProgram_laidOut hprogram (.inr rfl) hindent hname hprocedure⟩

end SixAxis
