import SixAxis.Proofs.TextLines

/-!
# Cutting at line endings of two characters

A text that is cut at a carriage return with a line feed behind it is read character by character:
where a carriage return is not followed by a line feed, the loop goes back to the one behind it.  So
the text is cut as a list of characters is, and lines without line feeds are found again, also if
carriage returns stand in them or at their ends.

* `Text.cutPair` — a list of characters cut wherever two stand one behind the other;
* `Text.pairLoop` — the loop over a text, with one equation for each thing it can come to;
* `Text.splitOn_pair` — **a text cut at two characters**, as a list of characters is;
* `Text.splitOn_intercalate_pair` — **lines without the second character** are what their text is
  cut into.
-/

namespace SixAxis

namespace Text

open String

/-- A list cut wherever `b` stands right behind `a`; `piece` has been read since the last cut, and
is reversed. -/
def cutPair (a b : Char) (piece : List Char) : List Char → List (List Char)
  | [] => [piece.reverse]
  | c :: rest =>
    match rest with
    | [] => [(c :: piece).reverse]
    | d :: rest =>
      if c = a ∧ d = b then piece.reverse :: cutPair a b [] rest
      else cutPair a b (c :: piece) (d :: rest)

/-! ### The loop -/

section Loop

variable {a b : Char} (l m : List Char) (acc : List String)

/-- The loop that cuts a text at two characters, where those of `m` have been read since the last
cut, those of `l` before it, and those of `r` are left; none of the separator has been read. -/
def pairLoop (a b : Char) (l m r : List Char) (acc : List String) : List String :=
  splitOnAux (ofList (l ++ m ++ r)) (ofList [a, b]) ⟨utf8Len l⟩ ⟨utf8Len (l ++ m)⟩ 0 acc

theorem pairLoop_nil : pairLoop a b l m [] acc = acc.reverse ++ [ofList m] := by
  rw [pairLoop, List.append_nil, splitOnAux, if_pos (atEnd_behind (l ++ m))]
  simp only [extract_to_end, List.reverse_cons]

theorem pairLoop_other {c : Char} (hc : c ≠ a) (r : List Char) :
    pairLoop a b l m (c :: r) acc = pairLoop a b l (m ++ [c]) r acc := by
  have hgetSep : Pos.Raw.get (ofList [a, b]) 0 = a := get_behind [] [b] a
  rw [pairLoop, splitOnAux, if_neg (not_atEnd_behind (l ++ m) r c)]
  simp only [get_behind, hgetSep]
  rw [if_neg (by simpa using hc), unoffsetBy_zero_behind, next_behind, pairLoop]
  simp only [List.append_assoc, List.singleton_append]

/-- The loop behind the first character of the separator. -/
theorem pairLoop_first (r : List Char) :
    pairLoop a b l m (a :: r) acc =
      splitOnAux (ofList (l ++ m ++ a :: r)) (ofList [a, b]) ⟨utf8Len l⟩
        ⟨utf8Len (l ++ m ++ [a])⟩ ⟨utf8Len [a]⟩ acc := by
  have hgetSep : Pos.Raw.get (ofList [a, b]) 0 = a := get_behind [] [b] a
  have hnextSep : Pos.Raw.next (ofList [a, b]) 0 = ⟨utf8Len [a]⟩ := next_behind [] [b] a
  rw [pairLoop, splitOnAux, if_neg (not_atEnd_behind (l ++ m) r a)]
  simp only [get_behind, next_behind, hgetSep, hnextSep, beq_self_eq_true, if_true]
  exact if_neg (not_atEnd_behind [a] [] b)

theorem pairLoop_first_nil : pairLoop a b l m [a] acc = acc.reverse ++ [ofList (m ++ [a])] := by
  have hextract := extract_to_end l (m ++ [a])
  rw [← List.append_assoc] at hextract
  rw [pairLoop_first, splitOnAux, if_pos (atEnd_behind (l ++ m ++ [a]))]
  simp only [hextract, List.reverse_cons]

theorem pairLoop_pair (r : List Char) :
    pairLoop a b l m (a :: b :: r) acc =
      pairLoop a b (l ++ m ++ [a, b]) [] r (ofList m :: acc) := by
  have hread : l ++ m ++ a :: b :: r = l ++ m ++ [a] ++ b :: r :=
    List.append_cons (l ++ m) a (b :: r)
  have hgetSep : Pos.Raw.get (ofList [a, b]) ⟨utf8Len [a]⟩ = b := get_behind [a] [] b
  have hnextSep : Pos.Raw.next (ofList [a, b]) ⟨utf8Len [a]⟩ = ⟨utf8Len [a, b]⟩ :=
    next_behind [a] [] b
  have hendSep : Pos.Raw.atEnd (ofList [a, b]) ⟨utf8Len [a, b]⟩ = true := atEnd_behind [a, b]
  rw [pairLoop_first, hread, splitOnAux, if_neg (not_atEnd_behind (l ++ m ++ [a]) r b)]
  simp only [get_behind, next_behind, hgetSep, hnextSep, hendSep, beq_self_eq_true, if_true]
  have hback := unoffsetBy_behind (l ++ m) [a, b]
  have hextract := extract_behind l m (a :: b :: r)
  rw [hread] at hextract
  have hboth : l ++ m ++ [a] ++ [b] = l ++ m ++ [a, b] := List.append_assoc (l ++ m) [a] [b]
  rw [pairLoop, List.append_nil, hboth, hback, hextract]
  simp only [List.append_assoc, List.cons_append, List.nil_append]

theorem pairLoop_no_pair {d : Char} (hd : d ≠ b) (r : List Char) :
    pairLoop a b l m (a :: d :: r) acc = pairLoop a b l (m ++ [a]) (d :: r) acc := by
  have hread : l ++ m ++ a :: d :: r = l ++ m ++ [a] ++ d :: r :=
    List.append_cons (l ++ m) a (d :: r)
  have hgetSep : Pos.Raw.get (ofList [a, b]) ⟨utf8Len [a]⟩ = b := get_behind [a] [] b
  rw [pairLoop_first, hread, splitOnAux, if_neg (not_atEnd_behind (l ++ m ++ [a]) r d)]
  simp only [get_behind, hgetSep]
  rw [if_neg (by simpa using hd), unoffsetBy_behind, ← hread, next_behind, pairLoop]
  simp only [List.append_assoc, List.singleton_append]

/-- The loop cuts a text as `cutPair` does. -/
theorem pairLoop_eq (piece r : List Char) :
    pairLoop a b l piece.reverse r acc = acc.reverse ++ (cutPair a b piece r).map ofList := by
  fun_induction cutPair a b piece r generalizing l acc with
  | case1 piece => exact pairLoop_nil l _ acc
  | case2 piece c =>
    by_cases hc : c = a
    · rw [hc, pairLoop_first_nil, List.reverse_cons]
      rfl
    · rw [pairLoop_other l _ acc hc, pairLoop_nil, List.reverse_cons]
      rfl
  | case3 piece c d rest hpair ih =>
    obtain ⟨rfl, rfl⟩ := hpair
    have hrest := ih (l ++ piece.reverse ++ [c, d]) (ofList piece.reverse :: acc)
    rw [List.reverse_nil, List.reverse_cons] at hrest
    rw [pairLoop_pair, hrest, List.append_assoc]
    rfl
  | case4 piece c d rest hother ih =>
    rw [← ih l acc, List.reverse_cons]
    by_cases hc : c = a
    · rw [hc, pairLoop_no_pair l _ acc fun hd => hother ⟨hc, hd⟩]
    · rw [pairLoop_other l _ acc hc]

end Loop

/-- A text cut at two characters. -/
theorem splitOn_pair (s : String) (a b : Char) :
    s.splitOn (ofList [a, b]) = (cutPair a b [] s.toList).map ofList := by
  have hsep : (ofList [a, b] == "") = false := by
    rw [beq_eq_false_iff_ne]
    simp
  have h := pairLoop_eq (a := a) (b := b) [] [] [] s.toList
  rw [pairLoop] at h
  rw [splitOn, hsep]
  simpa using h

/-! ### Pieces -/

section Pieces

variable {a b : Char} {cs : List Char} (piece rest : List Char)

theorem cutPair_pair : cutPair a b piece (a :: b :: rest) = piece.reverse :: cutPair a b [] rest :=
  if_pos ⟨rfl, rfl⟩

theorem cutPair_cons {rest : List Char} (h : rest.head? ≠ some b) (c : Char) :
    cutPair a b piece (c :: rest) = cutPair a b (c :: piece) rest := by
  cases rest with
  | nil => rfl
  | cons d rest => exact if_neg fun hpair => h (congrArg some hpair.2)

/-- What is read up to the pair is one piece. -/
theorem cutPair_append (hab : a ≠ b) (hcs : b ∉ cs) :
    cutPair a b piece (cs ++ a :: b :: rest) = (piece.reverse ++ cs) :: cutPair a b [] rest := by
  induction cs generalizing piece with
  | nil => rw [List.nil_append, cutPair_pair, List.append_nil]
  | cons c cs ih =>
    have hhead : (cs ++ a :: b :: rest).head? ≠ some b := by
      cases cs with
      | nil => simpa using hab
      | cons d cs => simpa using fun h : d = b => hcs (by simp [h])
    rw [List.cons_append, cutPair_cons piece hhead, ih (c :: piece) fun h => hcs (by simp [h]),
      List.reverse_cons, List.append_assoc, List.singleton_append]

/-- What is left without the second character is one piece. -/
theorem cutPair_of_notMem (hcs : b ∉ cs) : cutPair a b piece cs = [piece.reverse ++ cs] := by
  induction cs generalizing piece with
  | nil => rw [cutPair, List.append_nil]
  | cons c cs ih =>
    have hhead : cs.head? ≠ some b := by
      intro h
      exact hcs (List.mem_cons_of_mem c (List.mem_of_mem_head? h))
    rw [cutPair_cons piece hhead, ih (c :: piece) fun h => hcs (by simp [h]), List.reverse_cons,
      List.append_assoc, List.singleton_append]

/-- Lists without the second character are what they are cut into when the pair stands between
them. -/
theorem cutPair_intercalate {ls : List (List Char)} (hab : a ≠ b) (hne : ls ≠ [])
    (h : ∀ cs ∈ ls, b ∉ cs) : cutPair a b [] ([a, b].intercalate ls) = ls := by
  induction ls with
  | nil => exact absurd rfl hne
  | cons cs ls ih =>
    obtain ⟨hcs, hls⟩ := List.forall_mem_cons.1 h
    cases ls with
    | nil =>
      rw [List.intercalate_singleton, cutPair_of_notMem [] hcs]
      rfl
    | cons cs' ls =>
      have hjoined : [a, b].intercalate (cs :: cs' :: ls) =
          cs ++ a :: b :: [a, b].intercalate (cs' :: ls) := by
        rw [List.intercalate_cons_cons, List.append_assoc]
        rfl
      rw [hjoined, cutPair_append [] _ hab hcs, ih (List.cons_ne_nil cs' ls) hls]
      rfl

end Pieces

/-- Texts without the second character are what they are cut into when the pair stands between
them; the first one they can hold, also at their ends. -/
theorem splitOn_intercalate_pair {ls : List String} {a b : Char} (hab : a ≠ b) (hne : ls ≠ [])
    (h : ∀ s ∈ ls, b ∉ s.toList) :
    ((ofList [a, b]).intercalate ls).splitOn (ofList [a, b]) = ls := by
  rw [splitOn_pair, toList_intercalate, toList_ofList, cutPair_intercalate hab]
  · simp
  · simpa using hne
  · simpa using h

end Text

end SixAxis
