import SixAxis.Proofs.ToolHistories
import SixAxis.Proofs.WrittenNames

/-!
# Names that a system module declares

The header of a system module declares the standard tool, work object and load, and behind it there
is a declaration for each tool of a table.  A table holds each name once and never that of the
standard tool; but it does not know the other two names of the header.  A tool that has one of them
is kept like any other, and the module declares the name twice.

* `declaredName?` — the name that a line declares, as the line is read;
* `SystemModule.Declares` — which names a module declares, and how often;
* `ToolTable.declares_history` — **any history**: what the system module declares that is written
  from the tools it leaves.
-/

namespace SixAxis

/-- The name that a line declares: the one behind the kind and the type of a datum, and in front of
its value. -/
def declaredName? (line : String) : Option String :=
  match Token.scan line with
  | .word _ :: .word _ :: .word name :: .sign ':' :: .sign '=' :: _ => some name
  | _ => none

/-- The names that some lines declare, in order. -/
def declaredNames (lines : List String) : List String := lines.filterMap declaredName?

namespace Tool

variable {t : Tool Float}

/-- A tool whose name is a text. -/
def IsNamedByText (t : Tool Float) : Prop := ∃ s, t.name = .text s

/-- The lines of a tool declare its name, and no other one. -/
theorem declaredNames_declared (hname : isIdentifier t.name.display = true) {tcp : Frame Float}
    (htcp : t.localTcp? = .ok tcp) :
    declaredNames (t.declared.map Statement.text) = [t.name.display] := by
  have hdeclared : t.declared = [.toolPose t.name.display tcp, .toolLoad t.mass.value, .blank] := by
    rw [declared, htcp]
  have hread (s : Statement) (hs : s ∈ t.declared) : Token.scan s.text = s.tokens :=
    (isReadable_of_mem_declared hname hs).scan_text
  have hpose : declaredName? (Statement.toolPose t.name.display tcp).text =
      some t.name.display := by
    have hopening : Token.scan " PERS tooldata " = [.word "PERS", .word "tooldata"] := by
      decide +kernel
    have hassigned : Token.scan " := [TRUE, [[" = .sign ':' :: .sign '=' ::
        [.sign '[', .word "TRUE", .sign ',', .sign '[', .sign '['] := by
      decide +kernel
    rw [declaredName?, hread _ (by rw [hdeclared]; exact List.mem_cons_self)]
    simp only [Statement.tokens, Statement.pieces, List.flatMap_cons, Piece.tokens, hopening,
      hassigned, List.cons_append, List.nil_append]
  have hload : declaredName? (Statement.toolLoad t.mass.value).text = none := by
    have hopening : Token.scan "\t\t\t\t\t\t[" = [.sign '['] := by decide +kernel
    rw [declaredName?, hread _ (by rw [hdeclared]; simp)]
    simp only [Statement.tokens, Statement.pieces, List.flatMap_cons, Piece.tokens, hopening,
      List.cons_append, List.nil_append]
  rw [hdeclared, declaredNames, List.map_cons, List.map_cons, List.map_singleton,
    List.filterMap_cons_some hpose, List.filterMap_cons_none hload]
  rfl

end Tool

namespace SystemModule

/-- The names that the header declares. -/
def headerNames : List String := [Tool.standardName, "wobj0", "load0"]

theorem declaredNames_header : declaredNames header = headerNames := by decide +kernel

/-- The lines of a module. -/
theorem lines_eq {tools : List (Tool Float)} {all : List String} (h : lines tools = .ok all) :
    all = header ++ (tools.flatMap Tool.declared).map Statement.text ++
      [Statement.moduleEnd.text] := by
  obtain ⟨blocks, hblocks, hall⟩ := bind_eq_ok.1 h
  cases hall
  rw [flatten_toolLines hblocks]
  rfl

/-- The names that a module declares are those of its header and of its tools, in order. -/
theorem declaredNames_lines {tools : List (Tool Float)} {all : List String}
    (h : lines tools = .ok all) (hnames : ∀ t ∈ tools, isIdentifier t.name.display = true) :
    declaredNames all = headerNames ++ tools.map (·.name.display) := by
  have htext : text .usual tools = .ok (joinLines .usual all) := by
    rw [text, h]
    rfl
  have hend : declaredNames [Statement.moduleEnd.text] = [] := by decide +kernel
  have htools : declaredNames ((tools.flatMap Tool.declared).map Statement.text) =
      tools.map (·.name.display) := by
    rw [declaredNames, List.map_flatMap, List.filterMap_flatMap, List.map_eq_flatMap]
    refine List.flatMap_congr fun t ht => ?_
    obtain ⟨tcp, htcp⟩ := exists_localTcp_of_text htext ht
    exact Tool.declaredNames_declared (hnames t ht) htcp
  rw [lines_eq h, declaredNames, List.filterMap_append, List.filterMap_append]
  show declaredNames header ++ declaredNames _ ++ declaredNames _ = _
  rw [declaredNames_header, htools, hend, List.append_nil]

/-- What a module declares that is written from some tools. -/
structure Declares (settings : Settings) (tools : List (Tool Float)) (written : String)
    (declared : List String) : Prop where
  /-- The names of the header and of the tools, in order. -/
  declared_eq : declared = headerNames ++ tools.map (·.name.display)
  /-- A name is declared once by the header, if it is one of these, and once for a tool that has it,
  of which there is at most one. -/
  count_eq : ∀ name, declared.count name =
    (if name ∈ headerNames then 1 else 0) + if ∃ t ∈ tools, t.name.display = name then 1 else 0
  standard_once : declared.count Tool.standardName = 1
  /-- All names are declared once exactly if no tool has one of the other names of the header. -/
  nodup_iff : declared.Nodup ↔
    ∀ t ∈ tools, t.name.display ≠ "wobj0" ∧ t.name.display ≠ "load0"
  /-- If the names of tools are identifiers, this is what the lines of the module declare as they are
  read. -/
  read : (∀ t ∈ tools, isIdentifier t.name.display = true) → ∃ all, lines tools = .ok all ∧
    written = settings.lineEnding.intercalate all ∧ declaredNames all = declared

theorem nodup_headerNames : headerNames.Nodup := by decide

section Counts

variable {tools : List (Tool Float)} (hdistinct : (tools.map (·.name.display)).Nodup)

include hdistinct

theorem count_declared (name : String) :
    (headerNames ++ tools.map (·.name.display)).count name =
      (if name ∈ headerNames then 1 else 0) +
        if ∃ t ∈ tools, t.name.display = name then 1 else 0 := by
  rw [List.count_append, nodup_headerNames.count, hdistinct.count]
  simp only [List.mem_map]

variable (hother : ∀ t ∈ tools, t.name.display ≠ Tool.standardName)

include hother

theorem count_standardName :
    (headerNames ++ tools.map (·.name.display)).count Tool.standardName = 1 := by
  have hnone : ¬ ∃ t ∈ tools, t.name.display = Tool.standardName := by
    rintro ⟨t, ht, hname⟩
    exact hother t ht hname
  rw [count_declared hdistinct, if_neg hnone]
  decide

theorem nodup_declared_iff : (headerNames ++ tools.map (·.name.display)).Nodup ↔
    ∀ t ∈ tools, t.name.display ≠ "wobj0" ∧ t.name.display ≠ "load0" := by
  rw [List.nodup_append']
  constructor
  · rintro ⟨-, -, hdisjoint⟩ t ht
    have hname := List.mem_map_of_mem (f := (·.name.display)) ht
    exact ⟨fun hobject => hdisjoint (by decide) (hobject ▸ hname),
      fun hload => hdisjoint (by decide) (hload ▸ hname)⟩
  · intro h
    refine ⟨nodup_headerNames, hdistinct, fun name hheader hname => ?_⟩
    obtain ⟨t, ht, rfl⟩ := List.mem_map.1 hname
    simp only [headerNames, List.mem_cons, List.not_mem_nil, or_false] at hheader
    rcases hheader with hstandard | hobject | hload
    · exact hother t ht hstandard
    · exact (h t ht).1 hobject
    · exact (h t ht).2 hload

end Counts

end SystemModule

namespace ToolTable

/-- Tools that have texts as names stand under these, and so their names differ. -/
theorem IsOrderedMap.nodup_display {t : ToolTable} (h : t.IsOrderedMap)
    (htexts : ∀ tool ∈ t.tools, tool.IsNamedByText) : (t.tools.map (·.name.display)).Nodup := by
  have hname : ∀ e ∈ t.entries, ∃ s, e.1 = .text s ∧ e.2.name.display = s := by
    intro e he
    obtain ⟨s, hs⟩ := htexts e.2 (List.mem_map_of_mem he)
    rw [hs]
    rcases h.named e he with hsame | hsame
    · exact ⟨s, hsame.trans hs, rfl⟩
    · rw [hs] at hsame
      cases hkey : e.1 with
      | text s' =>
        rw [hkey, Datum.same] at hsame
        exact ⟨s', rfl, eq_of_beq hsame⟩
      | _ => simp [hkey, Datum.same] at hsame
  rw [tools, List.map_map, List.Nodup, List.pairwise_map]
  refine (List.pairwise_map.1 h.distinct).imp_of_mem fun {d e} hd he hdiffers => ?_
  obtain ⟨s, hdkey, hdname⟩ := hname d hd
  obtain ⟨s', hekey, hename⟩ := hname e he
  rw [hdkey, hekey, Datum.same] at hdiffers
  show d.2.name.display ≠ e.2.name.display
  rw [hdname, hename]
  exact ne_of_beq_false hdiffers

theorem IsOrderedMap.display_ne_standardName {t : ToolTable} (h : t.IsOrderedMap)
    (htexts : ∀ tool ∈ t.tools, tool.IsNamedByText) {tool : Tool Float} (htool : tool ∈ t.tools) :
    tool.name.display ≠ Tool.standardName := by
  obtain ⟨e, he, rfl⟩ := List.mem_map.1 htool
  obtain ⟨s, hs⟩ := htexts e.2 htool
  have hother := h.tools_other e he
  rw [hs] at hother ⊢
  exact ne_of_beq_false hother

/-- **Any history**: what the system module declares that is written from the tools it leaves. -/
theorem declares_history (g : Generator) (owner : Datum) (calls : List Call) {written : String}
    (h : g.systemModule (history owner calls).tools = .ok written)
    (htexts : ∀ tool ∈ (history owner calls).tools, tool.IsNamedByText) :
    SystemModule.Declares g.settings (history owner calls).tools written
      (SystemModule.headerNames ++
        ((history owner calls).tools.flatMap Tool.declared).flatMap Statement.tools) := by
  have hmap := isOrderedMap_history owner calls
  have hkeeps := SystemModule.keepsNames_of_text h
  have hdistinct := hmap.nodup_display htexts
  have hother (tool : Tool Float) (htool : tool ∈ (history owner calls).tools) :=
    hmap.display_ne_standardName htexts htool
  rw [hkeeps.toolNames]
  refine ⟨rfl, SystemModule.count_declared hdistinct,
    SystemModule.count_standardName hdistinct hother,
    SystemModule.nodup_declared_iff hdistinct hother, fun hnames => ?_⟩
  obtain ⟨lines, hlines, -⟩ := bind_eq_ok.1 h
  have hwritten := (hkeeps.lines hnames).1
  rw [← SystemModule.lines_eq hlines] at hwritten
  exact ⟨lines, hlines, hwritten, SystemModule.declaredNames_lines hlines hnames⟩

/-! ### A tool with the name of the work object -/

/-- A torch with the name of the standard work object. -/
def objectTorch : Tool Float :=
  ⟨"wobj0", .world, .world, .empty, Tool.standardMass, by decide, Tool.standardMass_heavy⟩

/-- The torch is registered, and the module declares the name twice. -/
theorem declares_history_objectTorch :
    ∃ written, tableGenerator.systemModule (history "job" [.register objectTorch false]).tools =
        .ok written ∧
      (∀ tool ∈ (history "job" [.register objectTorch false]).tools, tool.IsNamedByText) ∧
      ∃ lines, written = tableGenerator.settings.lineEnding.intercalate lines ∧
        (declaredNames lines).count "wobj0" = 2 ∧ ¬ (declaredNames lines).Nodup := by
  have htools : (history "job" [.register objectTorch false]).tools = [objectTorch] := rfl
  have htorch : ∀ tool ∈ (history "job" [.register objectTorch false]).tools,
      tool = objectTorch := by
    intro tool htool
    rw [htools] at htool
    exact List.mem_singleton.1 htool
  have htexts : ∀ tool ∈ (history "job" [.register objectTorch false]).tools,
      tool.IsNamedByText := fun tool htool => ⟨"wobj0", by rw [htorch tool htool]; rfl⟩
  obtain ⟨written, hwritten⟩ : ∃ written,
      tableGenerator.systemModule [objectTorch] = .ok written :=
    exists_ok_of_toBool (by decide +kernel)
  rw [← htools] at hwritten
  have hdeclares := declares_history tableGenerator "job" _ hwritten htexts
  obtain ⟨lines, -, hlines, hread⟩ := hdeclares.read fun tool htool => by
    rw [htorch tool htool]
    decide
  have hmember : objectTorch ∈ (history "job" [.register objectTorch false]).tools := by
    rw [htools]
    exact List.mem_cons_self
  have hthere : ∃ tool ∈ (history "job" [.register objectTorch false]).tools,
      tool.name.display = "wobj0" := ⟨objectTorch, hmember, rfl⟩
  refine ⟨written, hwritten, htexts, lines, hlines, ?_, fun hnodup => ?_⟩
  · rw [hread, hdeclares.count_eq, if_pos hthere]
    decide
  · rw [hread] at hnodup
    exact (hdeclares.nodup_iff.1 hnodup objectTorch hmember).1 rfl

end ToolTable

end SixAxis
