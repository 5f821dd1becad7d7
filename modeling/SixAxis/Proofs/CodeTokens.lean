import Mathlib
import SixAxis.CodeNumber
import SixAxis.Program.Identifier

/-!
# Tokens of generated code

A line of code is read as words, texts in quotes, remarks and signs.  A word is a name or a numeral,
and blanks only keep words apart.

A line is written from *pieces*: fixed code, names, numbers, and texts in quotes.  Whether it is
read as the tokens of its pieces depends on where words meet — two of them side by side are read as
one — and on names and texts that hold other characters than they should.

* `Token.scan` — the tokens of a line;
* `isWord_text`, `isWord_shown` — numbers are written as one word;
* `Piece` — what a line is written from, `Piece.Reads` — a piece that is read as it is meant;
* `scan_textOf` — **a line is read as the tokens of its pieces**.
-/

namespace SixAxis

/-! ### Reading a line -/

/-- A token of generated code. -/
inductive Token where
  | word (s : String)
  | quoted (s : String)
  | remark (s : String)
  | sign (c : Char)
deriving Repr, DecidableEq

/-- Whether a character is part of a word, which is a name or a numeral. -/
def isWordChar (c : Char) : Bool := isNameChar c || c = '.' || c = '-' || c = '+'

namespace Token

/-- Inside of what a line is being read, with the characters read of it so far. -/
inductive Reading where
  | code (word : List Char)
  | quotes (inside : List Char)

/-- The token of a word, if there is one. -/
def ofWord (w : List Char) : List Token := if w.isEmpty then [] else [.word (String.ofList w)]

/-- The tokens of the rest of a line.  A quote that is not closed ends with the line, and a remark
always does. -/
def scanFrom : Reading → List Char → List Token
  | .code w, [] => ofWord w
  | .quotes inside, [] => [.quoted (String.ofList inside)]
  | .code w, c :: rest =>
    if isWordChar c then scanFrom (.code (w ++ [c])) rest
    else ofWord w ++
      if c = '"' then scanFrom (.quotes []) rest
      else if c = '!' then [.remark (String.ofList rest)]
      else if c = ' ' ∨ c = '\t' then scanFrom (.code []) rest
      else .sign c :: scanFrom (.code []) rest
  | .quotes inside, c :: rest =>
    if c = '"' then .quoted (String.ofList inside) :: scanFrom (.code []) rest
    else scanFrom (.quotes (inside ++ [c])) rest

/-- The tokens of a line. -/
def scan (line : String) : List Token := scanFrom (.code []) line.toList

end Token

open Token

/-- Whether some characters start with none of a word, so that no word goes on with them. -/
def startsApart (cs : List Char) : Bool := cs.head?.all fun c => !isWordChar c

/-- Whether some characters hold neither a quote nor a mark of a remark. -/
def isPlain (cs : List Char) : Bool := cs.all fun c => c ≠ '"' && c ≠ '!'

theorem scanFrom_append_word {w : List Char} (hw : ∀ c ∈ w, isWordChar c = true)
    (v rest : List Char) :
    scanFrom (.code v) (w ++ rest) = scanFrom (.code (v ++ w)) rest := by
  induction w generalizing v with
  | nil => rw [List.nil_append, List.append_nil]
  | cons c w ih =>
    obtain ⟨hc, hw⟩ := List.forall_mem_cons.1 hw
    rw [List.cons_append, scanFrom, if_pos hc, ih hw, List.append_assoc, List.singleton_append]

/-- A word ends where no character of a word follows. -/
theorem scanFrom_of_startsApart {rest : List Char} (h : startsApart rest = true) (w : List Char) :
    scanFrom (.code w) rest = ofWord w ++ scanFrom (.code []) rest := by
  cases rest with
  | nil => rw [scanFrom, scanFrom, ofWord, ofWord, List.isEmpty_nil, if_pos rfl, List.append_nil]
  | cons c rest =>
    have hc : isWordChar c = false := by simpa [startsApart] using h
    rw [scanFrom, scanFrom, hc, if_neg Bool.false_ne_true, if_neg Bool.false_ne_true]
    rfl

/-- Plain code in front of what starts apart is read by itself. -/
theorem scanFrom_append {a rest : List Char} (ha : isPlain a = true)
    (hrest : startsApart rest = true) (w : List Char) :
    scanFrom (.code w) (a ++ rest) = scanFrom (.code w) a ++ scanFrom (.code []) rest := by
  induction a generalizing w with
  | nil =>
    rw [List.nil_append, scanFrom_of_startsApart hrest, scanFrom]
  | cons c a ih =>
    obtain ⟨hc, ha⟩ : (c ≠ '"' ∧ c ≠ '!') ∧ isPlain a = true := by
      simpa [isPlain] using ha
    rw [List.cons_append, scanFrom, scanFrom]
    by_cases hword : isWordChar c = true
    · rw [if_pos hword, if_pos hword, ih ha]
    · rw [if_neg hword, if_neg hword, if_neg hc.1, if_neg hc.2, if_neg hc.1, if_neg hc.2,
        List.append_assoc]
      congr 1
      by_cases hblank : c = ' ' ∨ c = '\t'
      · rw [if_pos hblank, if_pos hblank, ih ha]
      · rw [if_neg hblank, if_neg hblank, ih ha, List.cons_append]

/-- Plain code that ends apart is read by itself. -/
theorem scanFrom_concat {a rest : List Char} {c : Char} (ha : isPlain (a ++ [c]) = true)
    (hc : isWordChar c = false) (w : List Char) :
    scanFrom (.code w) (a ++ [c] ++ rest) =
      scanFrom (.code w) (a ++ [c]) ++ scanFrom (.code []) rest := by
  obtain ⟨ha, hplain⟩ : isPlain a = true ∧ c ≠ '"' ∧ c ≠ '!' := by
    simpa [isPlain, List.all_append] using ha
  have hstarts (tail : List Char) : startsApart (c :: tail) = true := by
    rw [startsApart, List.head?_cons, Option.all_some, hc]
    rfl
  rw [List.append_assoc, List.singleton_append, scanFrom_append ha (hstarts rest),
    scanFrom_append ha (hstarts []), List.append_assoc]
  congr 1
  simp only [scanFrom, hc, Bool.false_eq_true, ↓reduceIte, hplain.1, hplain.2, ofWord,
    List.isEmpty_nil, List.nil_append]
  by_cases hblank : c = ' ' ∨ c = '\t'
  · rw [if_pos hblank, if_pos hblank, List.nil_append]
  · rw [if_neg hblank, if_neg hblank, List.singleton_append]

/-- A text in quotes is one token. -/
theorem scanFrom_quotes {s : List Char} (hs : '"' ∉ s) (inside rest : List Char) :
    scanFrom (.quotes inside) (s ++ '"' :: rest) =
      .quoted (String.ofList (inside ++ s)) :: scanFrom (.code []) rest := by
  induction s generalizing inside with
  | nil => rw [List.nil_append, scanFrom, if_pos rfl, List.append_nil]
  | cons c s ih =>
    obtain ⟨hc, hs⟩ := not_or.1 (mt List.mem_cons.2 hs)
    rw [List.cons_append, scanFrom, if_neg (Ne.symm hc), ih hs, List.append_assoc,
      List.singleton_append]

/-! ### Words -/

/-- A text that is one word. -/
def IsWord (s : String) : Prop := s ≠ "" ∧ s.toList.all isWordChar = true

theorem isWordChar_of_isNameChar {c : Char} (h : isNameChar c = true) : isWordChar c = true := by
  rw [isWordChar, h]
  rfl

theorem isWord_of_isIdentifier {s : String} (h : isIdentifier s = true) : IsWord s := by
  rw [isIdentifier] at h
  cases hs : s.toList with
  | nil =>
    rw [hs] at h
    cases h
  | cons c rest =>
    rw [hs] at h
    obtain ⟨-, hall⟩ := Bool.and_eq_true_iff.1 h
    refine ⟨fun hempty => ?_, List.all_eq_true.2 fun d hd => ?_⟩
    · rw [hempty] at hs
      cases hs
    · rw [hs] at hd
      exact isWordChar_of_isNameChar (List.all_eq_true.1 hall d hd)

theorem isWordChar_of_isDigit {c : Char} (h : c.isDigit = true) : isWordChar c = true := by
  have hascii : c.toNat < 128 := by
    have hnine : c.toNat ≤ '9'.toNat := (Char.isDigit_iff_toNat.1 h).2
    exact Nat.lt_of_le_of_lt hnine (by decide)
  refine isWordChar_of_isNameChar ?_
  rw [isNameChar, Text.isAlphanumeric, if_pos hascii, Char.isAlphanum, h, Bool.or_true,
    Bool.or_true]

theorem isWordChar_of_mem_digitsOf {c : Char} {n : Nat} (h : c ∈ Decimal.digitsOf n) :
    isWordChar c = true :=
  isWordChar_of_isDigit (Nat.isDigit_of_mem_toDigits (by decide) (by decide) h)

/-- The digits of a number start with one. -/
theorem digitsOf_ne_nil (n : Nat) : Decimal.digitsOf n ≠ [] := Nat.toDigits_ne_nil

/-- Characters of a laid out double, which are those of words. -/
theorem isWordChar_of_mem_positional {digits : List Char} {power : Int}
    (hdigits : ∀ c ∈ digits, isWordChar c = true) {c : Char}
    (h : c ∈ Decimal.Layout.positional digits power) : isWordChar c = true := by
  have hpoint : isWordChar '.' = true := by decide
  have hzero : isWordChar '0' = true := by decide
  rw [Decimal.Layout.positional] at h
  split at h
  · simp only [List.mem_append, List.mem_cons, List.not_mem_nil, or_false] at h
    rcases h with (h | h) | rfl | rfl
    · exact hdigits c h
    · rw [(List.mem_replicate.1 h).2]
      exact hzero
    · exact hpoint
    · exact hzero
  · simp only at h
    split at h
    · rw [List.mem_append, List.mem_cons] at h
      rcases h with h | rfl | h
      · exact hdigits c (List.mem_of_mem_take h)
      · exact hpoint
      · exact hdigits c (List.mem_of_mem_drop h)
    · simp only [List.mem_cons, List.mem_append] at h
      rcases h with rfl | rfl | h | h
      · exact hzero
      · exact hpoint
      · rw [(List.mem_replicate.1 h).2]
        exact hzero
      · exact hdigits c h

theorem isWordChar_of_mem_exponential {l : Decimal.Layout} {digits : List Char} {leading : Int}
    (hdigits : ∀ c ∈ digits, isWordChar c = true) {c : Char}
    (h : c ∈ l.exponential digits leading) : isWordChar c = true := by
  simp only [Decimal.Layout.exponential, List.mem_append, List.mem_cons, List.not_mem_nil,
    or_false] at h
  rcases h with ((h | rfl | rfl) | h) | h
  · cases digits with
    | nil => cases h
    | cons d rest =>
      cases rest with
      | nil => exact hdigits c h
      | cons e rest =>
        rcases List.mem_cons.1 h with rfl | h
        · exact hdigits c List.mem_cons_self
        · rcases List.mem_cons.1 h with rfl | h
          · decide
          · exact hdigits c (List.mem_cons_of_mem _ h)
  · decide
  · split <;> decide
  · rw [(List.mem_replicate.1 h).2]
    decide
  · exact isWordChar_of_mem_digitsOf h

theorem positional_ne_nil {digits : List Char} {power : Int} (hdigits : digits ≠ []) :
    Decimal.Layout.positional digits power ≠ [] := by
  rw [Decimal.Layout.positional]
  split
  · simp only [List.append_assoc, ne_eq, List.append_eq_nil_iff, hdigits, false_and,
      not_false_eq_true]
  · simp only
    split
    · simp
    · simp

theorem exponential_ne_nil {l : Decimal.Layout} {digits : List Char} {leading : Int} :
    l.exponential digits leading ≠ [] := by
  simp [Decimal.Layout.exponential]

/-- Every double is shown as one word. -/
theorem isWord_shownDouble (x : Float) : IsWord (Decimal.shown x) := by
  rw [Decimal.shown]
  split
  · rename_i b _
    have hdigits : ∀ c ∈ Decimal.digitsOf b.shortest.digits, isWordChar c = true :=
      fun c hc => isWordChar_of_mem_digitsOf hc
    constructor
    · rw [Ne, String.ofList_eq_empty_iff, Decimal.Layout.finite, List.append_eq_nil_iff, not_and_or]
      right
      split
      · exact positional_ne_nil (digitsOf_ne_nil _)
      · exact exponential_ne_nil
    · refine List.all_eq_true.2 fun c hc => ?_
      rw [String.toList_ofList, Decimal.Layout.finite, List.mem_append] at hc
      rcases hc with hc | hc
      · split at hc
        · rw [List.mem_singleton.1 hc]
          decide
        · cases hc
      · split at hc
        · exact isWordChar_of_mem_positional hdigits hc
        · exact isWordChar_of_mem_exponential hdigits hc
  · split
    · exact ⟨by decide, by decide⟩
    · split
      · exact ⟨by decide, by decide⟩
      · exact ⟨by decide, by decide⟩

/-- Every number in a message is one word. -/
theorem isWord_shown (n : Number) : IsWord n.shown := by
  cases n with
  | truth b => cases b <;> exact ⟨by decide, by decide⟩
  | whole n =>
    have hdigits (m : Nat) : m.repr.toList.all isWordChar = true := by
      refine List.all_eq_true.2 fun c hc => ?_
      rw [Nat.toList_repr] at hc
      exact isWordChar_of_mem_digitsOf hc
    have hne (m : Nat) : m.repr ≠ "" := by
      intro h
      have hnil := congrArg String.toList h
      rw [Nat.toList_repr] at hnil
      exact digitsOf_ne_nil m hnil
    cases n with
    | ofNat m => exact ⟨hne m, hdigits m⟩
    | negSucc m =>
      show IsWord ("-" ++ m.succ.repr)
      refine ⟨by simp, ?_⟩
      rw [String.toList_append, List.all_append, hdigits]
      decide
  | real x => exact isWord_shownDouble x

theorem mem_of_mem_dropTrailingZeros {digits : List Char} {c : Char}
    (h : c ∈ Decimal.Fixed.dropTrailingZeros digits) : c ∈ digits :=
  List.mem_reverse.1 ((List.dropWhile_sublist _).subset (List.mem_reverse.1 h))

theorem isDigit_of_mem_decimalDigits {f : Decimal.Fixed} {c : Char} (h : c ∈ f.decimalDigits) :
    c.isDigit = true := by
  rw [Decimal.Fixed.decimalDigits] at h
  split at h
  · cases h
  · rcases List.mem_append.1 h with h | h
    · rw [(List.mem_replicate.1 h).2]
      decide
    · exact Nat.isDigit_of_mem_toDigits (by decide) (by decide) h

/-- A number with limited decimals is one word. -/
theorem isWord_trimmed (f : Decimal.Fixed) : IsWord f.trimmed := by
  rw [Decimal.Fixed.trimmed]
  constructor
  · simp [Decimal.Fixed.wholeDigits, digitsOf_ne_nil]
  · refine List.all_eq_true.2 fun c hc => ?_
    rw [String.toList_ofList, List.mem_append, List.mem_append] at hc
    rcases hc with (hc | hc) | hc
    · split at hc
      · rw [List.mem_singleton.1 hc]
        decide
      · cases hc
    · exact isWordChar_of_mem_digitsOf hc
    · split at hc
      · cases hc
      · rcases List.mem_cons.1 hc with rfl | hc
        · decide
        · exact isWordChar_of_isDigit
            (isDigit_of_mem_decimalDigits (mem_of_mem_dropTrailingZeros hc))

/-- Every number in generated code is one word. -/
theorem isWord_text (x : Float) (decimals : Nat) : IsWord (CodeNumber.text x decimals) := by
  rw [CodeNumber.text]
  split
  · exact ⟨by decide, by decide⟩
  · split
    · exact isWord_trimmed _
    · exact isWord_shownDouble x

/-! ### Pieces of a line -/

/-- What a line of generated code is written from. -/
inductive Piece where
  /-- Code that is the same in every program. -/
  | fixed (code : String)
  | name (s : String)
  /-- The name of a tool. -/
  | tool (s : String)
  /-- Numbers with commas between them. -/
  | numbers (xs : List Float) (decimals : Nat)
  /-- The number of an axis configuration. -/
  | configuration (n : Number)
  /-- A text in quotes. -/
  | quoted (s : String)

namespace Piece

/-- A piece as it is written. -/
def text : Piece → String
  | fixed s | name s | tool s => s
  | numbers xs decimals => CodeNumber.list xs decimals
  | configuration n => n.shown
  | quoted s => "\"" ++ s ++ "\""

/-- The tokens that a piece stands for: a name is one, and so is each number. -/
def tokens : Piece → List Token
  | fixed s => scan s
  | name s | tool s => [.word s]
  | numbers xs decimals =>
    (xs.map fun x => .word (CodeNumber.text x decimals)).intersperse (.sign ',')
  | configuration n => [.word n.shown]
  | quoted s => [.quoted s]

/-- A piece that is read as it is meant, and that stays on its line. -/
def Reads : Piece → Prop
  | fixed s => isPlain s.toList = true ∧ '\n' ∉ s.toList
  | name s | tool s => IsWord s
  | numbers _ _ | configuration _ => True
  | quoted s => '"' ∉ s.toList ∧ '\n' ∉ s.toList

/-- Whether no word in front of a piece goes on in it. -/
def isOpenedApart : Piece → Bool
  | fixed s => s.toList.head?.any fun c => !isWordChar c
  | quoted _ => true
  | _ => false

/-- Whether no word of a piece goes on behind it. -/
def isClosedApart : Piece → Bool
  | fixed s => s.toList.getLast?.any fun c => !isWordChar c
  | quoted _ => true
  | _ => false

/-- Whether no two words meet where one piece follows another. -/
def areSpaced : List Piece → Bool
  | p :: q :: rest => (q.isOpenedApart || p.isClosedApart) && areSpaced (q :: rest)
  | _ => true

/-- A line of some pieces. -/
def textOf : List Piece → String
  | [] => ""
  | p :: rest => p.text ++ textOf rest

theorem textOf_append (pieces rest : List Piece) :
    textOf (pieces ++ rest) = textOf pieces ++ textOf rest := by
  induction pieces with
  | nil => rw [List.nil_append, textOf, String.empty_append]
  | cons p pieces ih => rw [List.cons_append, textOf, textOf, ih, String.append_assoc]

theorem toList_textOf (pieces : List Piece) :
    (textOf pieces).toList = pieces.flatMap (·.text.toList) := by
  induction pieces with
  | nil => rfl
  | cons p pieces ih => rw [textOf, String.toList_append, ih, List.flatMap_cons]

end Piece

theorem startsApart_of_isOpenedApart {p : Piece} (h : p.isOpenedApart = true) (rest : List Char) :
    startsApart (p.text.toList ++ rest) = true := by
  cases p with
  | fixed s =>
    rw [Piece.isOpenedApart] at h
    rw [Piece.text]
    cases hs : s.toList with
    | nil =>
      rw [hs] at h
      cases h
    | cons c cs =>
      rw [hs] at h
      exact h
  | quoted s =>
    rw [Piece.text, String.toList_append, String.toList_append]
    show (!isWordChar '"') = true
    decide
  | _ => cases h

/-- A word is read as one where none goes on behind it. -/
theorem scanFrom_word {s : String} (hs : IsWord s) {rest : List Char}
    (hrest : startsApart rest = true) :
    scanFrom (.code []) (s.toList ++ rest) = .word s :: scanFrom (.code []) rest := by
  obtain ⟨hne, hword⟩ := hs
  have hnil : s.toList.isEmpty = false := by
    rw [Bool.eq_false_iff, ne_eq, List.isEmpty_iff, String.toList_eq_nil_iff]
    exact hne
  rw [scanFrom_append_word (List.all_eq_true.1 hword), scanFrom_of_startsApart hrest, ofWord,
    List.nil_append, hnil, String.ofList_toList]
  rfl

theorem CodeNumber.list_singleton (x : Float) (decimals : Nat) :
    list [x] decimals = text x decimals := by
  rw [← String.toList_inj, list, String.toList_intercalate]
  exact List.intercalate_singleton

theorem toList_list_cons_cons (x y : Float) (rest : List Float) (decimals : Nat) :
    (CodeNumber.list (x :: y :: rest) decimals).toList =
      (CodeNumber.text x decimals).toList ++
        ',' :: ' ' :: (CodeNumber.list (y :: rest) decimals).toList := by
  rw [CodeNumber.list, CodeNumber.list, String.toList_intercalate, String.toList_intercalate]
  refine List.intercalate_cons_cons.trans ?_
  rw [List.append_assoc]
  rfl

/-- Numbers are read as one word each. -/
theorem scanFrom_numbers (xs : List Float) (decimals : Nat) {rest : List Char}
    (hrest : startsApart rest = true) :
    scanFrom (.code []) ((CodeNumber.list xs decimals).toList ++ rest) =
      (Piece.numbers xs decimals).tokens ++ scanFrom (.code []) rest := by
  induction xs with
  | nil => rfl
  | cons x xs ih =>
    cases xs with
    | nil =>
      rw [CodeNumber.list_singleton, scanFrom_word (isWord_text x decimals) hrest]
      rfl
    | cons y xs =>
      have hcomma : isWordChar ',' = false := by decide
      have hblank : isWordChar ' ' = false := by decide
      have hstarts (tail : List Char) : startsApart (',' :: tail) = true := by
        rw [startsApart, List.head?_cons, Option.all_some, hcomma]
        rfl
      rw [toList_list_cons_cons, List.append_assoc, List.cons_append,
        scanFrom_word (isWord_text x decimals) (hstarts _)]
      simp only [List.cons_append, scanFrom, hcomma, hblank, Bool.false_eq_true, ↓reduceIte,
        ofWord, List.isEmpty_nil, List.nil_append, ih]
      rfl

/-- A piece is read as its tokens where no word goes on behind it. -/
theorem scanFrom_piece {p : Piece} (hp : p.Reads) {rest : List Char}
    (hrest : p.isClosedApart = true ∨ startsApart rest = true) :
    scanFrom (.code []) (p.text.toList ++ rest) = p.tokens ++ scanFrom (.code []) rest := by
  have hword {s : String} (hs : IsWord s) (hrest : false = true ∨ startsApart rest = true) :
      scanFrom (.code []) (s.toList ++ rest) = [.word s] ++ scanFrom (.code []) rest :=
    scanFrom_word hs (hrest.resolve_left Bool.false_ne_true)
  cases p with
  | fixed s =>
    rcases hrest with hclosed | hrest
    · rw [Piece.isClosedApart] at hclosed
      obtain ⟨c, hlast, hc⟩ := (Option.any_eq_true _ _).1 hclosed
      obtain ⟨front, hs⟩ := List.getLast?_eq_some_iff.1 hlast
      have hplain := hp.1
      rw [Piece.text, Piece.tokens, scan]
      rw [hs] at hplain ⊢
      exact scanFrom_concat hplain (by simpa using hc) []
    · exact scanFrom_append hp.1 hrest []
  | name s => exact hword hp hrest
  | tool s => exact hword hp hrest
  | configuration n => exact hword (isWord_shown n) hrest
  | numbers xs decimals =>
    exact scanFrom_numbers xs decimals (hrest.resolve_left Bool.false_ne_true)
  | quoted s =>
    have hquote : isWordChar '"' = false := by decide
    have htext : (Piece.quoted s).text.toList ++ rest = '"' :: (s.toList ++ '"' :: rest) := by
      rw [Piece.text, String.toList_append, String.toList_append, List.append_assoc,
        List.append_assoc]
      rfl
    rw [htext, scanFrom, hquote, if_neg Bool.false_ne_true, if_pos rfl, scanFrom_quotes hp.1,
      List.nil_append, String.ofList_toList]
    rfl

/-- **A line is read as the tokens of its pieces.** -/
theorem scan_textOf {pieces : List Piece} (hreads : ∀ p ∈ pieces, p.Reads)
    (hspaced : Piece.areSpaced pieces = true) :
    scan (Piece.textOf pieces) = pieces.flatMap Piece.tokens := by
  rw [scan, Piece.toList_textOf]
  induction pieces with
  | nil => rfl
  | cons p pieces ih =>
    obtain ⟨hp, hreads⟩ := List.forall_mem_cons.1 hreads
    rw [List.flatMap_cons, List.flatMap_cons]
    cases pieces with
    | nil => exact scanFrom_piece hp (.inr rfl)
    | cons q pieces =>
      rw [Piece.areSpaced, Bool.and_eq_true, Bool.or_eq_true] at hspaced
      rw [← ih hreads hspaced.2]
      refine scanFrom_piece hp (hspaced.1.symm.imp_right fun hopened => ?_)
      exact startsApart_of_isOpenedApart hopened _

theorem notMem_of_isWord {s : String} (hs : IsWord s) {c : Char} (hc : isWordChar c = false) :
    c ∉ s.toList := by
  intro h
  rw [List.all_eq_true.1 hs.2 c h] at hc
  cases hc

theorem newline_notMem_list (xs : List Float) (decimals : Nat) :
    '\n' ∉ (CodeNumber.list xs decimals).toList := by
  have htext (x : Float) : '\n' ∉ (CodeNumber.text x decimals).toList :=
    notMem_of_isWord (isWord_text x decimals) (by decide)
  induction xs with
  | nil => exact List.not_mem_nil
  | cons x xs ih =>
    cases xs with
    | nil =>
      rw [CodeNumber.list_singleton]
      exact htext x
    | cons y xs =>
      rw [toList_list_cons_cons, List.mem_append, List.mem_cons, List.mem_cons]
      rintro (h | h | h | h)
      · exact htext x h
      · exact absurd h (by decide)
      · exact absurd h (by decide)
      · exact ih h

theorem newline_notMem_text {p : Piece} (hp : p.Reads) : '\n' ∉ p.text.toList := by
  cases p with
  | fixed s => exact hp.2
  | name s => exact notMem_of_isWord hp (by decide)
  | tool s => exact notMem_of_isWord hp (by decide)
  | configuration n => exact notMem_of_isWord (isWord_shown n) (by decide)
  | numbers xs decimals => exact newline_notMem_list xs decimals
  | quoted s =>
    rw [Piece.text, String.toList_append, String.toList_append, List.mem_append, List.mem_append]
    rintro ((h | h) | h)
    · exact absurd h (by decide)
    · exact hp.2 h
    · exact absurd h (by decide)

/-- A line of pieces stays on its line. -/
theorem newline_notMem_textOf {pieces : List Piece} (hreads : ∀ p ∈ pieces, p.Reads) :
    '\n' ∉ (Piece.textOf pieces).toList := by
  rw [Piece.toList_textOf, List.mem_flatMap]
  rintro ⟨p, hp, h⟩
  exact newline_notMem_text (hreads p hp) h

end SixAxis
