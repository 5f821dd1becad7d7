import Mathlib
import SixAxis.Program.ProgramModule

/-!
# Lines of generated text

The text of a module is its lines with line ends between them.  A line that holds a line feed counts
as several, and so the lines that the text is made of are told apart from those that it has.

* `Text.splitOn_singleton` — a text cut at a character, as a list of characters is;
* `Text.splitOn_intercalate` — lines without line feeds are what their text is cut into;
* `Text.not_isLineBreak_of_mem_lines` — no line of a text holds a character that ends lines;
* `joinLines_eq` — **the text of a module has the lines that it is made of**, if none of them holds
  a line feed.
-/

namespace SixAxis

namespace Text

open String

/-! ### Positions -/

section Positions

variable (p r : List Char) (c : Char)

/-- Where a text stands behind what has been read, its end is not reached. -/
theorem not_atEnd_behind : ¬ Pos.Raw.atEnd (ofList (p ++ c :: r)) ⟨utf8Len p⟩ = true := by
  rw [atEnd_of_valid p (c :: r)]
  exact List.cons_ne_nil c r

theorem atEnd_behind : Pos.Raw.atEnd (ofList p) ⟨utf8Len p⟩ = true := by
  have h := atEnd_of_valid p []
  rw [List.append_nil] at h
  exact h.2 rfl

theorem get_behind : Pos.Raw.get (ofList (p ++ c :: r)) ⟨utf8Len p⟩ = c :=
  get_of_valid p (c :: r)

theorem next_behind : Pos.Raw.next (ofList (p ++ c :: r)) ⟨utf8Len p⟩ = ⟨utf8Len (p ++ [c])⟩ := by
  rw [next_of_valid p c r, utf8Len_append, utf8Len_cons, utf8Len_nil, Nat.zero_add]

theorem extract_behind (l m r : List Char) :
    Pos.Raw.extract (ofList (l ++ m ++ r)) ⟨utf8Len l⟩ ⟨utf8Len (l ++ m)⟩ = ofList m := by
  rw [utf8Len_append]
  exact extract_of_valid l m r

theorem extract_to_end (l m : List Char) :
    Pos.Raw.extract (ofList (l ++ m)) ⟨utf8Len l⟩ ⟨utf8Len (l ++ m)⟩ = ofList m := by
  have h := extract_behind l m []
  rwa [List.append_nil] at h

/-- Going back by what was read last. -/
theorem unoffsetBy_behind (q : List Char) :
    (⟨utf8Len (p ++ q)⟩ : Pos.Raw).unoffsetBy ⟨utf8Len q⟩ = ⟨utf8Len p⟩ := by
  rw [utf8Len_append]
  simp [Pos.Raw.unoffsetBy]

/-- Going back by nothing. -/
theorem unoffsetBy_zero_behind : (⟨utf8Len p⟩ : Pos.Raw).unoffsetBy 0 = ⟨utf8Len p⟩ := by
  simp [Pos.Raw.unoffsetBy]

end Positions

/-! ### Cutting at a character -/

/-- The loop that cuts a text at a character, where the characters of `m` have been read since the
last cut, and those of `l` before it. -/
theorem splitOnAux_singleton (c : Char) (l m r : List Char) (acc : List String) :
    splitOnAux (ofList (l ++ m ++ r)) (ofList [c]) ⟨utf8Len l⟩ ⟨utf8Len (l ++ m)⟩ 0 acc =
      acc.reverse ++ (List.splitOnPPrepend (· == c) r m.reverse).map ofList := by
  induction r generalizing l m acc with
  | nil =>
    rw [List.append_nil, splitOnAux, if_pos (atEnd_behind (l ++ m))]
    simp only [extract_to_end, List.reverse_cons, List.splitOnPPrepend_nil, List.reverse_reverse,
      List.map_cons, List.map_nil]
  | cons d r ih =>
    have hgetSep : Pos.Raw.get (ofList [c]) 0 = c := get_behind [] [] c
    have hnextSep : Pos.Raw.next (ofList [c]) 0 = ⟨utf8Len [c]⟩ := next_behind [] [] c
    rw [splitOnAux, if_neg (not_atEnd_behind (l ++ m) r d)]
    simp only [get_behind, next_behind, hgetSep, hnextSep, atEnd_behind, if_true]
    by_cases hsame : (d == c) = true
    · obtain rfl := eq_of_beq hsame
      have hrest := ih (l ++ m ++ [d]) [] (ofList m :: acc)
      rw [if_pos hsame, List.splitOnPPrepend_cons_eq_if, if_pos hsame, unoffsetBy_behind,
        extract_behind]
      simpa using hrest
    · have hrest := ih l (m ++ [d]) acc
      rw [if_neg hsame, List.splitOnPPrepend_cons_eq_if, if_neg hsame, unoffsetBy_zero_behind,
        next_behind]
      simpa using hrest

/-- A text cut at a character, as a list of characters is. -/
theorem splitOn_singleton (s : String) (c : Char) :
    s.splitOn (ofList [c]) = (s.toList.splitOn c).map ofList := by
  have hsep : (ofList [c] == "") = false := by
    rw [beq_eq_false_iff_ne]
    simp
  have h := splitOnAux_singleton c [] [] s.toList []
  rw [splitOn, hsep]
  simpa [List.splitOn] using h

/-- What is cut at a character is whole where the character is not. -/
theorem splitOn_of_notMem {s : String} {c : Char} (h : c ∉ s.toList) :
    s.splitOn (ofList [c]) = [s] := by
  rw [splitOn_singleton, List.splitOn_eq_singleton h]
  simp

/-- No piece of a list holds what the list was cut at. -/
theorem not_of_mem_splitOnPPrepend {p : Char → Bool} {cs acc piece : List Char} {c : Char}
    (hacc : ∀ d ∈ acc, p d = false) (h : piece ∈ List.splitOnPPrepend p cs acc) (hc : c ∈ piece) :
    p c = false := by
  induction cs generalizing acc with
  | nil =>
    rw [List.splitOnPPrepend_nil, List.mem_singleton] at h
    exact hacc c (List.mem_reverse.1 (h ▸ hc))
  | cons d rest ih =>
    rw [List.splitOnPPrepend_cons_eq_if] at h
    by_cases hd : p d = true
    · rw [if_pos hd, List.mem_cons] at h
      rcases h with rfl | h
      · exact hacc c (List.mem_reverse.1 hc)
      · exact ih (fun _ hnil => absurd hnil List.not_mem_nil) h
    · rw [if_neg hd] at h
      exact ih (List.forall_mem_cons.2 ⟨Bool.eq_false_iff.2 hd, hacc⟩) h

/-- No piece holds the character that the text was cut at. -/
theorem notMem_of_mem_splitOn {s piece : String} {c : Char} (h : piece ∈ s.splitOn (ofList [c])) :
    c ∉ piece.toList := by
  rw [splitOn_singleton, List.mem_map] at h
  obtain ⟨cs, hcs, rfl⟩ := h
  intro hc
  rw [toList_ofList] at hc
  have hother := not_of_mem_splitOnPPrepend (fun _ hnil => absurd hnil List.not_mem_nil) hcs hc
  exact beq_eq_false_iff_ne.1 hother rfl

/-- Texts without a character are what they are cut into when it stands between them. -/
theorem splitOn_intercalate {ls : List String} {c : Char} (hne : ls ≠ [])
    (h : ∀ s ∈ ls, c ∉ s.toList) : ((ofList [c]).intercalate ls).splitOn (ofList [c]) = ls := by
  rw [splitOn_singleton, toList_intercalate, toList_ofList, List.splitOn_intercalate]
  · simp
  · simpa using h
  · simpa using hne

/-! ### Lines -/

/-- No line of a text holds a character that ends lines, of whatever kind. -/
theorem not_isLineBreak_of_mem_linesFrom {cs line piece : List Char} {c : Char}
    (hline : ∀ d ∈ line, isLineBreak d = false) (h : piece ∈ linesFrom line cs) (hc : c ∈ piece) :
    isLineBreak c = false := by
  fun_induction linesFrom line cs with
  | case1 line hempty => cases h
  | case2 line hfull =>
    rw [List.mem_singleton.1 h] at hc
    exact hline c (List.mem_reverse.1 hc)
  | case3 line rest ih =>
    rcases List.mem_cons.1 h with rfl | h
    · exact hline c (List.mem_reverse.1 hc)
    · exact ih (fun _ hnil => absurd hnil List.not_mem_nil) h
  | case4 line d rest _ hbreak ih =>
    rcases List.mem_cons.1 h with rfl | h
    · exact hline c (List.mem_reverse.1 hc)
    · exact ih (fun _ hnil => absurd hnil List.not_mem_nil) h
  | case5 line d rest _ hbreak ih =>
    exact ih (List.forall_mem_cons.2 ⟨Bool.eq_false_iff.2 hbreak, hline⟩) h

theorem not_isLineBreak_of_mem_lines {s line : String} {c : Char} (h : line ∈ lines s)
    (hc : c ∈ line.toList) : isLineBreak c = false := by
  obtain ⟨cs, hcs, rfl⟩ := List.mem_map.1 h
  rw [String.toList_ofList] at hc
  exact not_isLineBreak_of_mem_linesFrom (fun _ hnil => absurd hnil List.not_mem_nil) hcs hc

theorem newline_notMem_lines {s line : String} (h : line ∈ lines s) : '\n' ∉ line.toList := by
  intro hc
  cases not_isLineBreak_of_mem_lines h hc

theorem linesFrom_ne_nil {line cs : List Char} (h : line ≠ [] ∨ cs ≠ []) :
    linesFrom line cs ≠ [] := by
  fun_induction linesFrom line cs with
  | case1 line hempty => simp_all
  | case2 line hfull => exact List.cons_ne_nil _ _
  | case3 line rest ih => exact List.cons_ne_nil _ _
  | case4 line c rest _ hbreak ih => exact List.cons_ne_nil _ _
  | case5 line c rest _ hbreak ih => exact ih (.inl (List.cons_ne_nil c line))

/-- A text that is not empty has lines. -/
theorem lines_ne_nil {s : String} (h : s ≠ "") : lines s ≠ [] := by
  rw [lines, Ne, List.map_eq_nil_iff]
  exact linesFrom_ne_nil (.inr (mt String.toList_eq_nil_iff.1 h))

end Text

/-- **The text of a module has the lines that it is made of**, if none of them holds a line feed. -/
theorem joinLines_eq {settings : Settings} {lines : List String} (hne : lines ≠ [])
    (h : ∀ line ∈ lines, '\n' ∉ line.toList) :
    joinLines settings lines = settings.lineEnding.intercalate lines :=
  congrArg settings.lineEnding.intercalate (Text.splitOn_intercalate hne h)

namespace ProgramModule

/-- Code without a line feed is one line. -/
theorem indented_of_notMem {code : String} (indent : String) (h : '\n' ∉ code.toList) :
    indented indent code = [indent ++ code] := by
  rw [indented, show "\n" = String.ofList ['\n'] from rfl, Text.splitOn_of_notMem h]
  rfl

/-- The lines of any code hold no line feed. -/
theorem notMem_of_mem_indented {indent code line : String} (hindent : '\n' ∉ indent.toList)
    (h : line ∈ indented indent code) : '\n' ∉ line.toList := by
  obtain ⟨piece, hpiece, rfl⟩ := List.mem_map.1 h
  rw [String.toList_append, List.mem_append]
  rintro (hline | hline)
  · exact hindent hline
  · exact Text.notMem_of_mem_splitOn hpiece hline

end ProgramModule

end SixAxis
