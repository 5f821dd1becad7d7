import SixAxis.Decimal.Read
import Mathlib.Data.List.TakeWhile
import Mathlib.Tactic

/-!
# Texts of whole numbers

A whole number is read from a run of decimal digits of any script.  A sign may stand in front of it,
blanks around both, and a single underscore between two digits; the digits are limited in number.

* `IsRun`, `IsSign`, `IsWhole` — the grammar of whole numbers;
* `digitRun_eq_iff` — reading takes the whole text exactly if it is a run;
* `trimNumeral_append` — the blanks around a text that has none at its ends;
* `whole_eq_ok_iff` — **a text is read as a whole number exactly if it is written as one**.
-/

namespace SixAxis

open Text

namespace Decimal

/-! ### The grammar -/

/-- A run of digits of any script, with at most one underscore between two of them. -/
inductive IsRun : List Nat → List Char → Prop where
  | last {c : Char} {d : Nat} (hc : decimalValue? c = some d) : IsRun [d] [c]
  | digit {c : Char} {d : Nat} {ds : List Nat} {cs : List Char} (hc : decimalValue? c = some d)
    (rest : IsRun ds cs) : IsRun (d :: ds) (c :: cs)
  | spaced {c : Char} {d : Nat} {ds : List Nat} {cs : List Char} (hc : decimalValue? c = some d)
    (rest : IsRun ds cs) : IsRun (d :: ds) (c :: '_' :: cs)

/-- A sign, which need not be written, and whether it is a minus. -/
inductive IsSign : Bool → List Char → Prop where
  | minus : IsSign true ['-']
  | plus : IsSign false ['+']
  | none : IsSign false []

/-- Whether a text is written for a whole number. -/
def IsWhole (s : String) (n : Int) : Prop :=
  ∃ before sign run behind negative digits, s.toList = before ++ (sign ++ run) ++ behind ∧
    (∀ c ∈ before, isNumeralBlank c = true) ∧ (∀ c ∈ behind, isNumeralBlank c = true) ∧
    IsSign negative sign ∧ IsRun digits run ∧ digits.length ≤ mostDigits ∧
    n = signed negative (natOf digits)

/-! ### Digits -/

theorem decimalValue?_lt {c : Char} {d : Nat} (h : decimalValue? c = some d) : d < 10 := by
  obtain ⟨first, hfind, rfl⟩ := Option.map_eq_some_iff.1 h
  have hrange := List.find?_some hfind
  rw [Bool.and_eq_true, decide_eq_true_iff, decide_eq_true_iff] at hrange
  omega

/-- The digits of whole numbers are the decimal ones: letters stand for more than nine. -/
theorem digitValue?_ten (c : Char) : digitValue? 10 c = decimalValue? c := by
  rw [digitValue?]
  cases hc : decimalValue? c with
  | some d =>
    rw [Option.some_or, Option.filter_some, if_pos (decide_eq_true (decimalValue?_lt hc))]
  | none =>
    rw [Option.none_or]
    have hvalue {a b : Char} (hrange : a ≤ c ∧ c ≤ b) : a.toNat ≤ c.toNat ∧ c.toNat ≤ b.toNat :=
      hrange
    split
    · rename_i hlower
      have hsize : ¬ c.toNat - 87 < 10 := by
        have := (hvalue hlower).1
        rw [show 'a'.toNat = 97 from rfl] at this
        omega
      rw [Option.filter_some, if_neg (by simpa using hsize)]
    · split
      · rename_i hupper
        have hsize : ¬ c.toNat - 55 < 10 := by
          have := (hvalue hupper).1
          rw [show 'A'.toNat = 65 from rfl] at this
          omega
        rw [Option.filter_some, if_neg (by simpa using hsize)]
      · rfl

/-- A digit is no blank. -/
theorem isNumeralBlank_of_decimalValue? {c : Char} {d : Nat} (h : decimalValue? c = some d) :
    isNumeralBlank c = false := by
  have hapart : ∀ r ∈ blankRanges, ∀ first ∈ decimalZeros, r.2 < first ∨ first + 9 < r.1 := by
    decide
  obtain ⟨first, hfind, -⟩ := Option.map_eq_some_iff.1 h
  have hdigit := List.find?_some hfind
  rw [Bool.and_eq_true, decide_eq_true_iff, decide_eq_true_iff] at hdigit
  rw [isNumeralBlank, isBlank, Bool.and_eq_false_iff]
  refine .inl (List.any_eq_false.2 fun r hr hin => ?_)
  rw [Bool.and_eq_true, decide_eq_true_iff, decide_eq_true_iff] at hin
  rcases hapart r hr first (List.mem_of_find?_eq_some hfind) with h | h <;> omega

theorem ne_of_decimalValue? {c c' : Char} {d : Nat} (h : decimalValue? c = some d)
    (hc' : decimalValue? c' = none) : c ≠ c' := by
  rintro rfl
  cases h.symm.trans hc'

theorem decimalValue?_underscore : decimalValue? '_' = none := by decide

theorem decimalValue?_minus : decimalValue? '-' = none := by decide

theorem decimalValue?_plus : decimalValue? '+' = none := by decide

/-! ### Runs of digits -/

/-- A run starts with a digit. -/
theorem IsRun.exists_cons {ds : List Nat} {cs : List Char} (h : IsRun ds cs) :
    ∃ c rest d, cs = c :: rest ∧ decimalValue? c = some d := by
  cases h with
  | last hc => exact ⟨_, _, _, rfl, hc⟩
  | digit hc => exact ⟨_, _, _, rfl, hc⟩
  | spaced hc => exact ⟨_, _, _, rfl, hc⟩

/-- A run ends in a digit. -/
theorem IsRun.exists_concat {ds : List Nat} {cs : List Char} (h : IsRun ds cs) :
    ∃ front c d, cs = front ++ [c] ∧ decimalValue? c = some d := by
  induction h with
  | last hc => exact ⟨[], _, _, rfl, hc⟩
  | digit hc _ ih =>
    obtain ⟨front, c, d, rfl, hd⟩ := ih
    exact ⟨_ :: front, c, d, rfl, hd⟩
  | spaced hc _ ih =>
    obtain ⟨front, c, d, rfl, hd⟩ := ih
    exact ⟨_ :: '_' :: front, c, d, rfl, hd⟩

theorem IsRun.ne_nil {ds : List Nat} {cs : List Char} (h : IsRun ds cs) : ds ≠ [] := by
  cases h <;> exact List.cons_ne_nil _ _

/-- A digit in front of others is read, and then they are. -/
theorem digitRun_cons {c next : Char} {d : Nat} (hc : decimalValue? c = some d) (b : Bool)
    (rest : List Char) : digitRun 10 b (c :: next :: rest) =
      (d :: (digitRun 10 true (next :: rest)).1, (digitRun 10 true (next :: rest)).2) := by
  have hgap : ¬ (c = '_' ∧ b = true ∧ (digitValue? 10 next).isSome = true) := fun h =>
    ne_of_decimalValue? hc decimalValue?_underscore h.1
  rw [digitRun, if_neg hgap, digitValue?_ten, hc]

/-- An underscore between digits is passed over. -/
theorem digitRun_underscore {next : Char} {d : Nat} (hnext : decimalValue? next = some d)
    (rest : List Char) :
    digitRun 10 true ('_' :: next :: rest) = digitRun 10 false (next :: rest) := by
  rw [digitRun, if_pos ⟨rfl, rfl, by rw [digitValue?_ten, hnext]; rfl⟩]

/-- A run is read to its end. -/
theorem IsRun.digitRun {ds : List Nat} {cs : List Char} (h : IsRun ds cs) (b : Bool) :
    digitRun 10 b cs = (ds, []) := by
  induction h generalizing b with
  | last hc => rw [Decimal.digitRun, digitValue?_ten, hc]
  | digit hc hrest ih =>
    obtain ⟨next, rest, d, rfl, -⟩ := hrest.exists_cons
    rw [digitRun_cons hc, ih]
  | spaced hc hrest ih =>
    obtain ⟨next, rest, d, rfl, hnext⟩ := hrest.exists_cons
    rw [digitRun_cons hc, digitRun_underscore hnext, ih]

/-- What is read to its end is a run, behind an underscore if there was a digit in front. -/
theorem isRun_of_digitRun {b : Bool} {ds : List Nat} {cs : List Char}
    (h : digitRun 10 b cs = (ds, [])) : (cs = [] ∧ ds = []) ∨ IsRun ds cs ∨
      (b = true ∧ ∃ rest, cs = '_' :: rest ∧ IsRun ds rest) := by
  induction cs generalizing b ds with
  | nil =>
    cases h
    exact .inl ⟨rfl, rfl⟩
  | cons c cs ih =>
    cases cs with
    | nil =>
      rw [digitRun, digitValue?_ten] at h
      cases hc : decimalValue? c with
      | none =>
        rw [hc] at h
        cases h
      | some d =>
        rw [hc] at h
        cases h
        exact .inr (.inl (.last hc))
    | cons next rest =>
      by_cases hgap : c = '_' ∧ b = true ∧ (digitValue? 10 next).isSome = true
      · rw [digitRun, if_pos hgap] at h
        obtain ⟨rfl, hb, -⟩ := hgap
        rcases ih h with ⟨hnil, -⟩ | hrun | ⟨hfalse, -⟩
        · cases hnil
        · exact .inr (.inr ⟨hb, _, rfl, hrun⟩)
        · cases hfalse
      · rw [digitRun, if_neg hgap, digitValue?_ten] at h
        cases hc : decimalValue? c with
        | none =>
          rw [hc] at h
          cases h
        | some d =>
          rw [hc] at h
          obtain ⟨rfl, htail⟩ := Prod.mk.inj h
          have hrest : digitRun 10 true (next :: rest) =
            ((digitRun 10 true (next :: rest)).1, []) := Prod.ext rfl htail
          rcases ih hrest with ⟨hnil, -⟩ | hrun | ⟨-, tail, htail, hrun⟩
          · cases hnil
          · exact .inr (.inl (.digit hc hrun))
          · cases htail
            exact .inr (.inl (.spaced hc hrun))

/-- **Reading takes the whole text exactly if it is a run.** -/
theorem digitRun_eq_iff {ds : List Nat} {cs : List Char} (hds : ds ≠ []) :
    digitRun 10 false cs = (ds, []) ↔ IsRun ds cs := by
  constructor
  · intro h
    rcases isRun_of_digitRun h with ⟨-, hnil⟩ | hrun | ⟨hfalse, -⟩
    · exact absurd hnil hds
    · exact hrun
    · cases hfalse
  · exact fun h => h.digitRun false

/-! ### Blanks and signs -/

/-- A text without blanks at its ends is what is left when blanks around it are removed. -/
theorem trimNumeral_append {before behind : List Char} {first last : Char} {front rest : List Char}
    (hbefore : ∀ c ∈ before, isNumeralBlank c = true)
    (hbehind : ∀ c ∈ behind, isNumeralBlank c = true)
    (hfirst : isNumeralBlank first = false) (hlast : isNumeralBlank last = false)
    (hends : first :: rest = front ++ [last]) :
    trimNumeral (before ++ (first :: rest) ++ behind) = first :: rest := by
  have hreversed : ∀ c ∈ behind.reverse, isNumeralBlank c = true := fun c hc =>
    hbehind c (List.mem_reverse.1 hc)
  rw [trimNumeral, List.append_assoc, List.dropWhile_append_of_pos hbefore, List.cons_append,
    List.dropWhile_cons_of_neg (by rw [hfirst]; exact Bool.false_ne_true), ← List.cons_append,
    List.reverse_append, List.dropWhile_append_of_pos hreversed, hends, List.reverse_append,
    List.reverse_singleton, List.singleton_append,
    List.dropWhile_cons_of_neg (by rw [hlast]; exact Bool.false_ne_true), List.reverse_cons,
    List.reverse_reverse]

/-- Only blanks are removed. -/
theorem exists_trimNumeral (cs : List Char) : ∃ before behind,
    cs = before ++ trimNumeral cs ++ behind ∧ (∀ c ∈ before, isNumeralBlank c = true) ∧
      ∀ c ∈ behind, isNumeralBlank c = true := by
  have hsplit (l : List Char) : l = l.takeWhile isNumeralBlank ++ l.dropWhile isNumeralBlank :=
    List.takeWhile_append_dropWhile.symm
  refine ⟨cs.takeWhile isNumeralBlank,
    ((cs.dropWhile isNumeralBlank).reverse.takeWhile isNumeralBlank).reverse, ?_,
    fun c hc => List.mem_takeWhile_imp hc,
    fun c hc => List.mem_takeWhile_imp (List.mem_reverse.1 hc)⟩
  rw [List.append_assoc, trimNumeral, ← List.reverse_append, ← hsplit, List.reverse_reverse,
    ← hsplit]

theorem exists_signOf (cs : List Char) :
    ∃ sign, IsSign (signOf cs).1 sign ∧ cs = sign ++ (signOf cs).2 := by
  rw [signOf.eq_def]
  split
  · exact ⟨['-'], .minus, rfl⟩
  · exact ⟨['+'], .plus, rfl⟩
  · exact ⟨[], .none, rfl⟩

/-- A sign in front of digits is read as one. -/
theorem signOf_append {negative : Bool} {sign run : List Char} {ds : List Nat}
    (hsign : IsSign negative sign) (hrun : IsRun ds run) :
    signOf (sign ++ run) = (negative, run) := by
  cases hsign with
  | minus => rfl
  | plus => rfl
  | none =>
    obtain ⟨c, rest, d, rfl, hc⟩ := hrun.exists_cons
    rw [List.nil_append, signOf.eq_def]
    split
    · rename_i h
      exact absurd (List.cons.inj h).1 (ne_of_decimalValue? hc decimalValue?_minus)
    · rename_i h
      exact absurd (List.cons.inj h).1 (ne_of_decimalValue? hc decimalValue?_plus)
    · rfl

/-- Neither a sign nor a digit is a blank. -/
theorem exists_first {negative : Bool} {sign run : List Char} {ds : List Nat}
    (hsign : IsSign negative sign) (hrun : IsRun ds run) :
    ∃ first rest, sign ++ run = first :: rest ∧ isNumeralBlank first = false := by
  cases hsign with
  | minus => exact ⟨'-', run, rfl, by decide⟩
  | plus => exact ⟨'+', run, rfl, by decide⟩
  | none =>
    obtain ⟨c, rest, d, rfl, hc⟩ := hrun.exists_cons
    exact ⟨c, rest, rfl, isNumeralBlank_of_decimalValue? hc⟩

/-- There is no mark for the usual base. -/
theorem behindMark_ten (cs : List Char) : behindMark 10 cs = cs := by
  rw [behindMark.eq_def]
  split
  · exact if_neg nofun
  · rfl

/-! ### Whole numbers -/

/-- A number is read when the sign and the digits, of which there are some, are all there is. -/
theorem whole_eq_ok_iff_digitRun {s : String} {n : Int} : whole s = .ok n ↔
    ∃ digits, digitRun 10 false (signOf (trimNumeral s.toList)).2 = (digits, []) ∧ digits ≠ [] ∧
      digits.length ≤ mostDigits ∧
      n = signed (signOf (trimNumeral s.toList)).1 (natOf digits) := by
  rw [whole]
  rcases signOf (trimNumeral s.toList) with ⟨negative, cs⟩
  dsimp only
  rw [behindMark_ten]
  rcases digitRun 10 false cs with ⟨digits, rest⟩
  constructor
  · intro h
    split at h
    · cases h
    · rename_i hlength
      split at h
      · cases h
      · rename_i hwhole
        rw [not_or, List.isEmpty_iff, Bool.not_eq_true', Bool.not_eq_false, List.isEmpty_iff]
          at hwhole
        obtain ⟨hdigits, rfl⟩ := hwhole
        refine ⟨digits, rfl, hdigits, not_lt.1 fun hlong => hlength ⟨rfl, hlong⟩,
          (Except.ok.inj h).symm⟩
  · rintro ⟨digits', hdigits', hsome, hlength, rfl⟩
    cases hdigits'
    have hwhole : ¬ (digits.isEmpty = true ∨ (!([] : List Char).isEmpty) = true) := by
      rw [List.isEmpty_iff]
      exact not_or.2 ⟨hsome, nofun⟩
    exact (if_neg fun hlong => hlong.2.not_ge hlength).trans (if_neg hwhole)

/-- **A text is read as a whole number exactly if it is written as one.** -/
theorem whole_eq_ok_iff {s : String} {n : Int} : whole s = .ok n ↔ IsWhole s n := by
  rw [whole_eq_ok_iff_digitRun]
  constructor
  · rintro ⟨digits, hrun, hsome, hlength, hn⟩
    obtain ⟨before, behind, hs, hbefore, hbehind⟩ := exists_trimNumeral s.toList
    obtain ⟨sign, hsign, htrimmed⟩ := exists_signOf (trimNumeral s.toList)
    rw [htrimmed] at hs
    exact ⟨before, sign, _, behind, _, digits, hs, hbefore, hbehind, hsign,
      (digitRun_eq_iff hsome).1 hrun, hlength, hn⟩
  · rintro ⟨before, sign, run, behind, negative, digits, hs, hbefore, hbehind, hsign, hrun, hlength,
      rfl⟩
    have htrimmed : trimNumeral s.toList = sign ++ run := by
      obtain ⟨first, rest, hchars, hfirst⟩ := exists_first hsign hrun
      obtain ⟨front, last, d, rfl, hlast⟩ := hrun.exists_concat
      have hends : first :: rest = (sign ++ front) ++ [last] := by
        rw [← hchars, List.append_assoc]
      rw [hs, hchars]
      exact trimNumeral_append hbefore hbehind hfirst (isNumeralBlank_of_decimalValue? hlast) hends
    rw [htrimmed, signOf_append hsign hrun]
    exact ⟨digits, hrun.digitRun false, hrun.ne_nil, hlength, rfl⟩

/-- A whole number does not start with a letter. -/
theorem IsWhole.exists_cons {s : String} {n : Int} (h : IsWhole s n) {letter : Char}
    (hblank : isNumeralBlank letter = false) (hminus : letter ≠ '-') (hplus : letter ≠ '+')
    (hdigit : decimalValue? letter = none) : ∃ c rest, s.toList = c :: rest ∧ c ≠ letter := by
  obtain ⟨before, sign, run, behind, negative, digits, hs, hbefore, -, hsign, hrun, -⟩ := h
  rw [List.append_assoc] at hs
  cases before with
  | cons c before =>
    refine ⟨c, _, hs, ?_⟩
    rintro rfl
    cases hblank.symm.trans (hbefore _ List.mem_cons_self)
  | nil =>
    cases hsign with
    | minus => exact ⟨'-', _, hs, hminus.symm⟩
    | plus => exact ⟨'+', _, hs, hplus.symm⟩
    | none =>
      obtain ⟨c, rest, d, rfl, hc⟩ := hrun.exists_cons
      exact ⟨c, _, hs, ne_of_decimalValue? hc hdigit⟩

end Decimal

end SixAxis
