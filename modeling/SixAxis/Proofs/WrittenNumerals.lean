import SixAxis.Proofs.Doubles
import SixAxis.Proofs.TargetDeclarations
import SixAxis.Proofs.WrittenRows

/-!
# Numbers in generated code

A finite number is written as a numeral, or as the token of an unconnected axis if it counts as the
marker of one.  A number that is not finite is written by the word that messages have for it, since
nothing on its way to the code stops it: what is checked of durations, speeds, sizes and masses is
a comparison with zero, and positions, orientations and joint values are not checked at all.

* `isNumeral` — digits, with a sign in front or not, with a point and more digits behind or not;
* `CodeNumber.isCodeNumeral_text` — **a number is written as a numeral exactly if it is finite**;
* `Action.values`, `Tool.values` — the numbers that an action or a tool can write;
* `Generator.writesNumbers` — **all numbers in a program and a system module** are written so.
-/

namespace SixAxis

/-! ### Numerals -/

/-- Whether some characters are digits, one at least. -/
def isDigits (cs : List Char) : Bool := !cs.isEmpty && cs.all Char.isDigit

/-- Whether some characters are a numeral without a sign. -/
def isUnsigned (cs : List Char) : Bool :=
  match cs.splitOn '.' with
  | [whole] => isDigits whole
  | [whole, behind] => isDigits whole && isDigits behind
  | _ => false

/-- Whether a text is a numeral: digits with a sign in front or not, and with a point and digits
behind or not. -/
def isNumeral (s : String) : Bool :=
  match s.toList with
  | '-' :: rest => isUnsigned rest
  | cs => isUnsigned cs

/-- Whether a text is a numeral or the token of an unconnected axis. -/
def isCodeNumeral (s : String) : Bool := isNumeral s || s == CodeNumber.unconnectedToken

theorem isDigits_digitsOf (n : Nat) : isDigits (Decimal.digitsOf n) = true := by
  have hall : (Decimal.digitsOf n).all Char.isDigit = true :=
    List.all_eq_true.2 fun c hc => Nat.isDigit_of_mem_toDigits (by decide) (by decide) hc
  rw [isDigits, hall, Bool.and_true, Bool.not_eq_true', List.isEmpty_eq_false_iff]
  exact digitsOf_ne_nil n

theorem notMem_of_isDigits {cs : List Char} (h : isDigits cs = true) {c : Char}
    (hc : c.isDigit = false) : c ∉ cs := by
  intro hmem
  rw [isDigits, Bool.and_eq_true] at h
  rw [List.all_eq_true.1 h.2 c hmem] at hc
  cases hc

theorem isUnsigned_of_isDigits {cs : List Char} (h : isDigits cs = true) :
    isUnsigned cs = true := by
  rw [isUnsigned, List.splitOn_eq_singleton (notMem_of_isDigits h (by decide))]
  exact h

theorem isUnsigned_of_decimals {whole behind : List Char} (hwhole : isDigits whole = true)
    (hbehind : isDigits behind = true) : isUnsigned (whole ++ '.' :: behind) = true := by
  rw [isUnsigned, List.splitOn_append_cons_self,
    List.splitOn_eq_singleton (notMem_of_isDigits hwhole (by decide)),
    List.splitOn_eq_singleton (notMem_of_isDigits hbehind (by decide))]
  show (isDigits whole && isDigits behind) = true
  rw [hwhole, hbehind]
  rfl

theorem isNumeral_of_digit {c : Char} {rest : List Char} (hdigit : c.isDigit = true)
    (h : isUnsigned (c :: rest) = true) : isNumeral (String.ofList (c :: rest)) = true := by
  rw [isNumeral, String.toList_ofList]
  split
  · rename_i hsign
    obtain ⟨rfl, -⟩ := List.cons.inj hsign
    exact absurd hdigit (by decide)
  · exact h

theorem isNumeral_of_sign {cs : List Char} (h : isUnsigned cs = true) :
    isNumeral (String.ofList ('-' :: cs)) = true := by
  rw [isNumeral, String.toList_ofList]
  exact h

/-- A sign, digits, and a point with digits behind it make a numeral; only the digits have to be
there. -/
theorem isNumeral_parts (negative : Bool) {whole decimals : List Char}
    (hwhole : isDigits whole = true) (hdecimals : decimals.all Char.isDigit = true) :
    isNumeral (String.ofList ((if negative then ['-'] else []) ++ whole ++
      if decimals.isEmpty then [] else '.' :: decimals)) = true := by
  have hunsigned : isUnsigned (whole ++ if decimals.isEmpty then [] else '.' :: decimals) =
      true := by
    split
    · rw [List.append_nil]
      exact isUnsigned_of_isDigits hwhole
    · rename_i hfull
      refine isUnsigned_of_decimals hwhole ?_
      rw [isDigits, hdecimals, Bool.and_true, Bool.eq_false_iff.2 hfull]
      rfl
  cases negative with
  | true => exact isNumeral_of_sign hunsigned
  | false =>
    cases whole with
    | nil => cases hwhole
    | cons c rest =>
      have hc : c.isDigit = true := by
        rw [isDigits, List.all_cons, Bool.and_eq_true, Bool.and_eq_true] at hwhole
        exact hwhole.2.1
      exact isNumeral_of_digit hc hunsigned

theorem all_isDigit_dropTrailingZeros (f : Decimal.Fixed) :
    (Decimal.Fixed.dropTrailingZeros f.decimalDigits).all Char.isDigit = true :=
  List.all_eq_true.2 fun _ hc => isDigit_of_mem_decimalDigits (mem_of_mem_dropTrailingZeros hc)

/-- A number with limited decimals is a numeral. -/
theorem isNumeral_trimmed (f : Decimal.Fixed) : isNumeral f.trimmed = true := by
  have hwhole : isDigits f.wholeDigits = true := isDigits_digitsOf _
  rw [Decimal.Fixed.trimmed]
  exact isNumeral_parts (f.negative && f.units ≠ 0) hwhole (all_isDigit_dropTrailingZeros f)

/-! ### Finite doubles -/

namespace Double

variable {x : Float}

open Float.Model in
/-- The exponent in the bits of a double. -/
theorem toNat_unpackExponent :
    (@UnpackedFloat.unpackExponent Format.binary64 x.toBits.toBitVec).toNat =
      x.toBits.toNat / Decimal.Binary.fractionSize % 2048 := by
  simp [UnpackedFloat.unpackExponent, Nat.shiftRight_eq_div_pow]
  rfl

open Float.Model in
/-- The exponent bits of a double are all ones where it has no exact value. -/
theorem unpackExponent_eq_iff :
    @UnpackedFloat.unpackExponent Format.binary64 x.toBits.toBitVec = -1#_ ↔
      x.toBits.toNat / Decimal.Binary.fractionSize % 2048 = 2047 := by
  rw [← BitVec.toNat_inj, toNat_unpackExponent]
  rfl

open Float.Model in
/-- A double has an exact value if it is finite. -/
theorem isSome_ofFloat? : (Decimal.Binary.ofFloat? x).isSome = x.isFinite := by
  show _ = (UnpackedFloat.unpack Format.binary64 x.toBits.toBitVec).isFinite
  rw [UnpackedFloat.unpack, Decimal.Binary.ofFloat?]
  by_cases hones : x.toBits.toNat / Decimal.Binary.fractionSize % 2048 = 2047
  · have hexponent := unpackExponent_eq_iff.2 hones
    simp only [if_pos hexponent, if_pos hones]
    split <;> rfl
  · have hexponent := mt unpackExponent_eq_iff.1 hones
    simp only [if_neg hexponent, if_neg hones]
    split
    · split
      · split <;> rfl
      · rfl
    · split
      · split <;> rfl
      · rfl

/-- A double that is not finite is infinite or no number. -/
theorem isInf_or_isNaN (h : x.isFinite = false) : x.isInf = true ∨ x.isNaN = true := by
  have hparts : x.toModel.unpack.isFinite = false := h
  show x.toModel.unpack.isInf = true ∨ x.toModel.unpack.isNaN = true
  revert hparts
  cases x.toModel.unpack with
  | notANumber => exact fun _ => .inr rfl
  | infinity s => exact fun _ => .inl rfl
  | _ => exact fun h => nomatch h

/-- An infinite double equals no finite one. -/
theorem beq_of_isInf (hx : x.isInf = true) {y : Float} (hy : y.isFinite = true) :
    (x == y) = false := by
  rw [Bool.eq_false_iff, Ne, beq_iff]
  replace hx : x.toModel.unpack.isInf = true := hx
  replace hy : y.toModel.unpack.isFinite = true := hy
  revert hx hy
  cases x.toModel.unpack with
  | infinity s =>
    cases y.toModel.unpack with
    | zero t => cases s <;> exact fun _ _ h => nomatch h
    | finite t => cases s <;> exact fun _ _ h => nomatch h
    | _ => exact fun _ h => nomatch h
  | _ => exact fun h => nomatch h

end Double

namespace CodeNumber

variable {x : Float}

/-- The marker of an unconnected axis is finite. -/
theorem isUnconnected_of_not_isFinite (h : x.isFinite = false) : isUnconnected x = false := by
  rcases Double.isInf_or_isNaN h with hinf | hnan
  · have hother : (x == unconnected) = false := Double.beq_of_isInf hinf (by decide +kernel)
    rw [isUnconnected, hother, show Scalar.infinite x = true from hinf]
    rfl
  · rw [Double.eq_of_isNaN hnan (y := 0.0 / 0.0) (by decide +kernel)]
    decide +kernel

/-- A number that is not finite is written as in messages. -/
theorem text_of_not_isFinite (h : x.isFinite = false) (decimals : Nat) :
    text x decimals = if x.isNaN then "nan" else if x < 0.0 then "-inf" else "inf" := by
  have hexact : Decimal.Binary.ofFloat? x = none := by
    rw [← Option.isNone_iff_eq_none, ← Option.not_isSome, Double.isSome_ofFloat?, h]
    rfl
  rw [text, isUnconnected_of_not_isFinite h, Decimal.Fixed.ofFloat?, hexact]
  simp only [Bool.false_eq_true, if_false, Option.map_none, Decimal.shown, hexact]

theorem text_mem_of_not_isFinite (h : x.isFinite = false) (decimals : Nat) :
    text x decimals ∈ ["nan", "inf", "-inf"] := by
  rw [text_of_not_isFinite h]
  split
  · decide
  · split <;> decide

/-- A finite number is written as a numeral, or as the token if it counts as the marker. -/
theorem text_of_isFinite (h : x.isFinite = true) (decimals : Nat) :
    (isUnconnected x = true ∧ text x decimals = unconnectedToken) ∨
      isNumeral (text x decimals) = true := by
  rw [text]
  by_cases hmarker : isUnconnected x = true
  · rw [if_pos hmarker]
    exact .inl ⟨hmarker, rfl⟩
  · rw [if_neg hmarker]
    obtain ⟨b, hb⟩ := Option.isSome_iff_exists.1 (Double.isSome_ofFloat?.trans h)
    rw [Decimal.Fixed.ofFloat?, hb]
    exact .inr (isNumeral_trimmed _)

/-- **A number is written as a numeral exactly if it is finite.** -/
theorem isCodeNumeral_text (x : Float) (decimals : Nat) :
    isCodeNumeral (text x decimals) = x.isFinite := by
  cases h : x.isFinite with
  | false =>
    have hwords := text_mem_of_not_isFinite h decimals
    simp only [List.mem_cons, List.not_mem_nil, or_false] at hwords
    rcases hwords with hword | hword | hword <;> rw [hword] <;> decide
  | true =>
    rw [isCodeNumeral]
    rcases text_of_isFinite h decimals with ⟨-, htoken⟩ | hnumeral
    · rw [htoken, beq_self_eq_true, Bool.or_true]
    · rw [hnumeral, Bool.true_or]

end CodeNumber

/-! ### Numbers that are written -/

/-- The numbers of a frame: its origin and its orientation. -/
def Frame.numbers (f : Frame Float) : List Float := f.point.toList ++ f.quaternion.toList

/-- The numbers that a movement of a robot can write. -/
def Movement.values (m : Movement) (r : Robot Float) : List Float :=
  m.speed.speeds.map Numeral.value ++ m.zone.sizes.toList.map Numeral.value
    ++ m.workObject.userFrame.numbers ++ m.workObject.objectFrame.numbers
    ++ match m.solution r with
      | .ok s => (if m.isAbsolute then s.joints.toList else m.target.frame.numbers)
          ++ s.external.toList
      | .error _ => []

/-- The numbers that an action can write. -/
def Action.values (a : Action) (r : Robot Float) : List Float :=
  match a with
  | movement m => m.values r
  | joints j => j.position.joints.toList
  | timer t => [t.duration.value]
  | comment _ | code _ | output _ | wait _ | freeConfiguration _ => []

/-- The numbers in the declaration of a tool, which has none if the tool is not in space. -/
def Tool.values (t : Tool Float) : List Float :=
  match t.localTcp? with
  | .ok tcp => tcp.numbers ++ [t.mass.value]
  | .error _ => []

namespace Statement

/-- The numbers in a statement, but for those of axis configurations. -/
def values (s : Statement) : List Float := s.numerals.map (·.1)

theorem values_eq (s : Statement) : s.values = s.pieces.flatMap fun
    | .numbers xs _ => xs
    | _ => [] := by
  rw [values, numerals, List.map_flatMap]
  refine List.flatMap_congr fun p _ => ?_
  cases p with
  | numbers xs decimals => exact (List.map_map ..).trans (List.map_id' ..)
  | _ => rfl

theorem mem_intersperse {α : Type} {a : α} {as : List α} (h : a ∈ as) (sep : α) :
    a ∈ as.intersperse sep := by
  induction as with
  | nil => cases h
  | cons b as ih =>
    cases as with
    | nil => exact h
    | cons c as =>
      rcases List.mem_cons.1 h with rfl | h
      · exact List.mem_cons_self
      · exact List.mem_cons_of_mem _ (List.mem_cons_of_mem _ (ih h))

/-- Every number in a statement is a word of it. -/
theorem word_mem_tokens {s : Statement} {x : Float} {decimals : Nat}
    (h : (x, decimals) ∈ s.numerals) : Token.word (CodeNumber.text x decimals) ∈ s.tokens := by
  obtain ⟨p, hp, hx⟩ := List.mem_flatMap.1 h
  refine List.mem_flatMap.2 ⟨p, hp, ?_⟩
  cases p with
  | numbers xs k =>
    obtain ⟨y, hy, hpair⟩ := List.mem_map.1 hx
    cases hpair
    exact mem_intersperse (List.mem_map_of_mem hy) _
  | _ => cases hx

end Statement

/-- The numbers in the declaration of a target. -/
theorem Movement.values_targetStatement (m : Movement) (s : Solution Float) :
    (m.targetStatement s).values =
      (if m.isAbsolute then s.joints.toList else m.target.frame.numbers) ++ s.external.toList := by
  rw [Statement.values_eq, targetStatement]
  split
  · simp [Statement.pieces, Statement.vector]
  · simp [Statement.pieces, Statement.vector, Frame.numbers]

theorem WorkObject.values_statement (w : WorkObject) :
    w.statement.values = w.userFrame.numbers ++ w.objectFrame.numbers := by
  rw [Statement.values_eq]
  simp [statement, Statement.pieces, Statement.pose, Statement.flag, Frame.numbers]

/-- What a movement declares has numbers of it. -/
theorem Movement.mem_values_of_declared {m : Movement} {r : Robot Float} {s : Statement}
    (hs : s ∈ m.declared r) {x : Float} (hx : x ∈ s.values) : x ∈ m.values r := by
  rw [values]
  rcases mem_declared_iff.1 hs with rfl | rfl | rfl | ⟨solution, hsolution, rfl⟩
  · have hspeed : x ∈ m.speed.speeds.map Numeral.value := by
      simpa [Statement.values_eq, SpeedData.statement, Statement.pieces] using hx
    simp only [List.mem_append, hspeed, true_or]
  · have hzone : x ∈ m.zone.sizes.toList.map Numeral.value := by
      simpa [Statement.values_eq, ZoneData.statement, Statement.pieces, Statement.flag] using hx
    simp only [List.mem_append, hzone, true_or, or_true]
  · rw [WorkObject.values_statement, List.mem_append] at hx
    rcases hx with hx | hx <;> simp only [List.mem_append, hx, true_or, or_true]
  · rw [values_targetStatement] at hx
    rw [hsolution]
    exact List.mem_append_right _ hx

theorem Timer.values_statement (t : Timer) : t.statement.values = [t.duration.value] := rfl

/-- The instructions of a movement have no numbers. -/
theorem Movement.values_of_mem_statements {m : Movement} {r : Option (Robot Float)} {s : Statement}
    (hs : s ∈ m.statements r) : s.values = [] := by
  rcases mem_statements hs with rfl | ⟨o, rfl | rfl⟩
  · rfl
  · rfl
  · rfl

namespace Action

variable {a : Action} {r : Robot Float} {s : Statement} {x : Float}

/-- What an action declares has numbers of it. -/
theorem mem_values_of_declared (hs : .statement s ∈ a.declared r) (hx : x ∈ s.values) :
    x ∈ a.values r := by
  cases a with
  | comment c =>
    obtain ⟨line, hrow, -⟩ := Comment.exists_of_mem_rowsIn hs
    cases hrow
  | code c => cases CodeLine.eq_of_mem_rowsIn hs
  | joints j =>
    cases List.mem_singleton.1 hs
    have hjoint : x ∈ j.position.joints.toList := by
      simpa [Statement.values_eq, JointDeclaration.statement, Statement.pieces, Statement.vector]
        using hx
    exact hjoint
  | movement m =>
    obtain ⟨s', hs', hrow⟩ := List.mem_map.1 hs
    cases hrow
    exact Movement.mem_values_of_declared hs' hx
  | _ => cases hs

/-- What an action performs has numbers of it. -/
theorem mem_values_of_performed (hs : .statement s ∈ a.performed (some r)) (hx : x ∈ s.values) :
    x ∈ a.values r := by
  cases a with
  | comment c =>
    obtain ⟨line, hrow, -⟩ := Comment.exists_of_mem_rowsIn hs
    cases hrow
  | code c => cases CodeLine.eq_of_mem_rowsIn hs
  | joints j => cases hs
  | movement m =>
    obtain ⟨s', hs', hrow⟩ := List.mem_map.1 hs
    cases hrow
    rw [Movement.values_of_mem_statements hs'] at hx
    cases hx
  | timer t =>
    cases List.mem_singleton.1 hs
    rw [t.values_statement] at hx
    exact hx
  | output d =>
    cases List.mem_singleton.1 hs
    cases hx
  | wait w =>
    cases List.mem_singleton.1 hs
    cases hx
  | freeConfiguration enabled =>
    rcases List.mem_cons.1 hs with hs | hs
    · cases hs
      cases hx
    · cases List.mem_singleton.1 hs
      cases hx

end Action

namespace Tool

/-- The declaration of a tool has the numbers of the tool. -/
theorem values_declared (t : Tool Float) : t.declared.flatMap Statement.values = t.values := by
  rw [declared, values]
  cases t.localTcp? with
  | ok tcp => simp [Statement.values_eq, Statement.pieces, Frame.numbers]
  | error f => rfl

end Tool

/-- The statements among some rows. -/
def statementsOf (rows : List Row) : List Statement := rows.filterMap fun
  | .statement s => some s
  | _ => none

theorem mem_statementsOf {rows : List Row} {s : Statement} :
    s ∈ statementsOf rows ↔ .statement s ∈ rows := by
  rw [statementsOf, List.mem_filterMap]
  constructor
  · rintro ⟨row, hrow, hs⟩
    cases row with
    | statement s' =>
      cases hs
      exact hrow
    | _ => cases hs
  · exact fun h => ⟨_, h, rfl⟩

/-- How the numbers in some statements are written, and which values they can be. -/
structure WritesNumbers (statements : List Statement) (values : List Float) : Prop where
  values : ∀ s ∈ statements, ∀ x ∈ s.values, x ∈ values
  /-- Every number is a word of its statement. -/
  word : ∀ s ∈ statements, ∀ x decimals, (x, decimals) ∈ s.numerals →
    Token.word (CodeNumber.text x decimals) ∈ s.tokens
  /-- This word is a numeral or the token of an unconnected axis exactly if the number is finite. -/
  numeral : ∀ s ∈ statements, ∀ x decimals, (x, decimals) ∈ s.numerals →
    isCodeNumeral (CodeNumber.text x decimals) = x.isFinite
  /-- Otherwise it is one of three others. -/
  other : ∀ s ∈ statements, ∀ x decimals, (x, decimals) ∈ s.numerals → x.isFinite = false →
    CodeNumber.text x decimals ∈ ["nan", "inf", "-inf"]

theorem writesNumbers_of_values {statements : List Statement} {values : List Float}
    (h : ∀ s ∈ statements, ∀ x ∈ s.values, x ∈ values) : WritesNumbers statements values where
  values := h
  word _ _ _ _ hx := Statement.word_mem_tokens hx
  numeral _ _ x decimals _ := CodeNumber.isCodeNumeral_text x decimals
  other _ _ _ decimals _ hfinite := CodeNumber.text_mem_of_not_isFinite hfinite decimals

namespace Generator

variable {g : Generator} {actions : List Action} {moduleName : Option String} {program : String}
  {declared : List Row}

/-- The statements of a program that is written with some declarations. -/
def statements (g : Generator) (actions : List Action) (declared : List Row) : List Statement :=
  statementsOf (declared ++ actions.flatMap (·.performed (some g.robot)))

/-- The numbers in a program are those of its actions. -/
theorem WrittenFrom.mem_values (h : g.WrittenFrom actions moduleName declared program)
    {s : Statement} (hs : s ∈ g.statements actions declared) {x : Float} (hx : x ∈ s.values) :
    x ∈ actions.flatMap (·.values g.robot) := by
  rw [statements, mem_statementsOf, List.mem_append] at hs
  rcases hs with hs | hs
  · obtain ⟨a, ha, hdeclared⟩ := h.declared _ hs
    exact List.mem_flatMap.2 ⟨a, ha, Action.mem_values_of_declared hdeclared hx⟩
  · obtain ⟨a, ha, hperformed⟩ := List.mem_flatMap.1 hs
    exact List.mem_flatMap.2 ⟨a, ha, Action.mem_values_of_performed hperformed hx⟩

/-- Every timer of a program writes its duration. -/
theorem statement_timer_mem {t : Timer} (ht : .timer t ∈ actions) :
    t.statement ∈ g.statements actions declared := by
  rw [statements, mem_statementsOf]
  exact List.mem_append_right _ (List.mem_flatMap.2 ⟨_, ht, List.mem_singleton_self _⟩)

/-- **All numbers in a program and in a system module** are numerals exactly as far as they are
finite. -/
theorem writesNumbers (hprogram : (g.createProgram (programOf actions) moduleName).2 = .ok program)
    {tools : List (Tool Float)} {system : String} (hsystem : g.systemModule tools = .ok system) :
    (∃ declared, g.WrittenFrom actions moduleName declared program ∧
      WritesNumbers (g.statements actions declared) (actions.flatMap (·.values g.robot)) ∧
      ∀ t, .timer t ∈ actions → ∃ s ∈ g.statements actions declared, t.duration.value ∈ s.values) ∧
    ∃ statements, system = joinLines g.settings (SystemModule.header ++
        statements.map Statement.text ++ [Statement.moduleEnd.text]) ∧
      WritesNumbers statements (tools.flatMap Tool.values) ∧
      ∀ x ∈ tools.flatMap Tool.values, ∃ s ∈ statements, x ∈ s.values := by
  constructor
  · obtain ⟨declared, hwritten⟩ := exists_writtenFrom hprogram
    refine ⟨declared, hwritten, writesNumbers_of_values fun s hs x hx =>
      hwritten.mem_values hs hx, fun t ht => ⟨_, statement_timer_mem ht, ?_⟩⟩
    rw [t.values_statement]
    exact List.mem_singleton_self _
  · have hvalues (x : Float) : x ∈ tools.flatMap Tool.values ↔
        ∃ s ∈ tools.flatMap Tool.declared, x ∈ s.values := by
      rw [← List.mem_flatMap, List.flatMap_assoc]
      simp only [Tool.values_declared]
    refine ⟨_, SystemModule.text_eq hsystem, writesNumbers_of_values fun s hs x hx => ?_,
      fun x hx => (hvalues x).1 hx⟩
    exact (hvalues x).2 ⟨s, hs, hx⟩

end Generator

/-! ### A mass that is no number -/

/-- A torch whose mass is no number, and so not zero or less. -/
def masslessTorch : Tool Float :=
  ⟨"torch", .world, .world, .empty, .real (0.0 / 0.0), by decide, by decide +kernel⟩

/-- The mass of the torch is written as it is shown, which is no numeral. -/
theorem writesNumbers_masslessTorch :
    (tuckedGenerator.createProgram (programOf dockedActions) none).2 = .ok dockedProgram ∧
    ∃ system, tuckedGenerator.systemModule [masslessTorch] = .ok system ∧
      (∃ declared, tuckedGenerator.WrittenFrom dockedActions none declared dockedProgram ∧
        WritesNumbers (tuckedGenerator.statements dockedActions declared)
          (dockedActions.flatMap (·.values tuckedGenerator.robot))) ∧
      (∃ statements, system = joinLines tuckedGenerator.settings (SystemModule.header ++
          statements.map Statement.text ++ [Statement.moduleEnd.text]) ∧
        WritesNumbers statements masslessTorch.values ∧
        ∃ s ∈ statements, (0.0 / 0.0 : Float) ∈ s.values) ∧
      CodeNumber.text (0.0 / 0.0) CodeNumber.fineDecimals = "nan" ∧
      isCodeNumeral "nan" = false := by
  obtain ⟨system, hsystem⟩ : ∃ system, tuckedGenerator.systemModule [masslessTorch] = .ok system :=
    exists_ok_of_toBool (by decide +kernel)
  obtain ⟨⟨declared, hwritten, hnumbers, -⟩, statements, htext, hnumerals, hvalues⟩ :=
    Generator.writesNumbers text_docked hsystem
  rw [List.flatMap_singleton] at hnumerals hvalues
  have hmass : (0.0 / 0.0 : Float) ∈ masslessTorch.values := by
    obtain ⟨tcp, htcp⟩ : ∃ tcp, masslessTorch.localTcp? = .ok tcp :=
      exists_ok_of_toBool (by decide +kernel)
    rw [Tool.values, htcp]
    exact List.mem_append_right _ (List.mem_singleton_self _)
  exact ⟨text_docked, system, hsystem, ⟨declared, hwritten, hnumbers⟩,
    ⟨statements, htext, hnumerals, hvalues _ hmass⟩, by decide +kernel, by decide⟩

end SixAxis
