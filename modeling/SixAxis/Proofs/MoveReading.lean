import SixAxis.Proofs.WrittenNames

/-!
# Reading a move instruction

A move instruction names a target, a speed, a zone, a tool and a work object, and can set an output.
The name of a tool is any text, commas and line feeds included.  All other names are identifiers,
and each is bounded by characters that are not part of names.  So everything in front of the tool is
read from the left, everything behind it from the right, and what is left is its name.

* `append_names_inj`, `names_append_inj` — names at either end of a text, **whatever the rest is**;
* `MoveCall` — what a move instruction calls for, and `MoveCall.text_injective` — **no two calls are
  written alike**;
* `Movement.call`, `Movement.text_call` — the call of a movement is its instruction;
* `Movement.callsAlike_of_instruction` — movements with the same instruction.
-/

namespace SixAxis

/-! ### Names at the ends of a text -/

/-- A text that starts with a name, and goes on with something else, is read in one way. -/
theorem names_append_inj {u v r r' : List Char} {c c' : Char} (hu : u.all isNameChar = true)
    (hv : v.all isNameChar = true) (hc : isNameChar c = false) (hc' : isNameChar c' = false)
    (h : u ++ c :: r = v ++ c' :: r') : u = v ∧ c = c' ∧ r = r' := by
  induction u generalizing v with
  | nil =>
    cases v with
    | nil =>
      obtain ⟨rfl, rfl⟩ := List.cons.inj h
      exact ⟨rfl, rfl, rfl⟩
    | cons b v =>
      -- the character behind the shorter name is none of a name
      obtain ⟨rfl, -⟩ := List.cons.inj h
      rw [List.all_cons, hc] at hv
      cases hv
  | cons a u ih =>
    cases v with
    | nil =>
      obtain ⟨rfl, -⟩ := List.cons.inj h
      rw [List.all_cons, hc'] at hu
      cases hu
    | cons b v =>
      obtain ⟨rfl, htail⟩ := List.cons.inj h
      rw [List.all_cons, Bool.and_eq_true] at hu hv
      obtain ⟨rfl, hrest⟩ := ih hu.2 hv.2 htail
      exact ⟨rfl, hrest⟩

/-- A text that ends in a name, behind something else, is read in one way. -/
theorem append_names_inj {u v r r' : List Char} {c c' : Char} (hu : u.all isNameChar = true)
    (hv : v.all isNameChar = true) (hc : isNameChar c = false) (hc' : isNameChar c' = false)
    (h : r ++ c :: u = r' ++ c' :: v) : r = r' ∧ c = c' ∧ u = v := by
  have hreversed := congrArg List.reverse h
  simp only [List.reverse_append, List.reverse_cons, List.append_assoc, List.singleton_append]
    at hreversed
  rw [← List.all_reverse] at hu hv
  obtain ⟨huv, hcc, hrr⟩ := names_append_inj hu hv hc hc' hreversed
  exact ⟨List.reverse_injective hrr, hcc, List.reverse_injective huv⟩

theorem Identifier.all_isNameChar (n : Identifier) : n.text.toList.all isNameChar = true := by
  have hvalid := n.valid
  rw [isIdentifier] at hvalid
  cases hchars : n.text.toList with
  | nil => rfl
  | cons c rest =>
    rw [hchars] at hvalid
    exact (Bool.and_eq_true_iff.1 hvalid).2

theorem Identifier.ext_text {m n : Identifier} (h : m.text.toList = n.text.toList) : m = n := by
  cases m
  cases n
  cases String.toList_injective h
  rfl

/-! ### Calls -/

/-- What a move instruction calls for. -/
structure MoveCall where
  kind : MoveKind
  target : Identifier
  speed : Identifier
  zone : Identifier
  /-- The name of the tool as it is written. -/
  tool : String
  workObject : Identifier
  /-- The output that is set, and its level. -/
  output : Option (Identifier × Bool)

namespace MoveCall

open Statement

/-- The instructions of a call: two if it goes to joint values and sets an output. -/
def statements (c : MoveCall) : List Statement :=
  let move := Statement.move c.kind c.target.text c.speed.text c.zone.text c.tool c.workObject.text
  match c.output with
  | none => [move none]
  | some (n, b) =>
    if c.kind = .absoluteJoint then [move none, .setOutput n.text b] else [move (some (n.text, b))]

/-- A call as it is written. -/
def text (c : MoveCall) : String := "\n".intercalate (c.statements.map Statement.text)

/-- Whether the call sets its output by the instruction that moves. -/
def setsOutput (c : MoveCall) : Bool := c.output.isSome && decide (c.kind ≠ .absoluteJoint)

/-- The characters from the tool to the work object. -/
def held (c : MoveCall) : List Char :=
  c.tool.toList ++ "\\WObj:".toList ++ '=' :: c.workObject.text.toList

/-- The characters between the work object and the output. -/
def glue (c : MoveCall) : List Char :=
  if c.kind = .absoluteJoint then ";\nSetDO".toList else [',']

/-- The characters from the tool to the end. -/
def ending (c : MoveCall) : List Char :=
  match c.output with
  | none => c.held ++ [';']
  | some (n, b) =>
    c.held ++ c.glue ++ ' ' :: n.text.toList ++ [','] ++ ' ' :: [if b then '1' else '0'] ++ [';']

theorem toList_move (kind : MoveKind) (target v z t w : String) (output : Option (String × Bool)) :
    (Statement.move kind target v z t w output).text.toList =
      (moveWord kind output.isSome).toList ++ ' ' :: (target.toList ++ ',' :: ' ' ::
        (v.toList ++ ',' :: ' ' :: (z.toList ++ ',' :: ' ' :: (t.toList ++ "\\WObj:".toList ++
          '=' :: w.toList ++ match output with
            | none => [';']
            | some (n, b) =>
              ',' :: ' ' :: n.toList ++ [','] ++ ' ' :: [if b then '1' else '0'] ++ [';'])))) := by
  have hcomma : ", ".toList = [',', ' '] := by decide
  have hword : "\\WObj:=".toList = "\\WObj:".toList ++ ['='] := by decide
  have hlevel (b : Bool) : (if b then "1" else "0").toList = [if b then '1' else '0'] := by
    cases b <;> decide
  rw [Statement.text, Piece.toList_textOf]
  cases output with
  | none => simp [pieces, Piece.text, hcomma, hword]
  | some o => simp [pieces, Piece.text, hcomma, hword, level, hlevel]

theorem toList_setOutput (n : String) (b : Bool) : (Statement.setOutput n b).text.toList =
    "SetDO".toList ++ ' ' :: n.toList ++ [','] ++ ' ' :: [if b then '1' else '0'] ++ [';'] := by
  have hcomma : ", ".toList = [',', ' '] := by decide
  have hword : "SetDO ".toList = "SetDO".toList ++ [' '] := by decide
  have hlevel : (if b then "1" else "0").toList = [if b then '1' else '0'] := by
    cases b <;> decide
  rw [Statement.text, Piece.toList_textOf]
  simp [pieces, Piece.text, hcomma, hword, level, hlevel]

theorem toList_text (c : MoveCall) : c.text.toList =
    (moveWord c.kind c.setsOutput).toList ++ ' ' :: (c.target.text.toList ++ ',' :: ' ' ::
      (c.speed.text.toList ++ ',' :: ' ' :: (c.zone.text.toList ++ ',' :: ' ' :: c.ending))) := by
  obtain ⟨kind, target, v, z, t, w, output⟩ := c
  cases output with
  | none => exact toList_move kind target.text v.text z.text t w.text none
  | some o =>
    obtain ⟨n, b⟩ := o
    by_cases habsolute : kind = .absoluteJoint
    · subst habsolute
      have hglue : ";\nSetDO".toList = ';' :: '\n' :: "SetDO".toList := by decide
      show ((move _ _ _ _ _ _ none).text ++ "\n" ++ (setOutput _ _).text).toList = _
      rw [String.toList_append, String.toList_append, toList_move, toList_setOutput]
      simp [setsOutput, ending, held, glue, hglue]
    · have hone : statements ⟨kind, target, v, z, t, w, some (n, b)⟩ =
          [move kind target.text v.text z.text t w.text (some (n.text, b))] := if_neg habsolute
      rw [text, hone]
      show (move _ _ _ _ _ _ (some _)).text.toList = _
      rw [toList_move]
      simp [setsOutput, ending, held, glue, habsolute]

/-! ### Reading a call -/

theorem all_isNameChar_moveWord (kind : MoveKind) (b : Bool) :
    (moveWord kind b).toList.all isNameChar = true := by
  cases kind <;> cases b <;> decide

theorem moveWord_inj {kind kind' : MoveKind} {b b' : Bool}
    (h : (moveWord kind b).toList = (moveWord kind' b').toList) : kind = kind' ∧ b = b' := by
  revert h
  cases kind <;> cases kind' <;> cases b <;> cases b' <;> decide

theorem isNameChar_comma : isNameChar ',' = false := by decide

theorem isNameChar_blank : isNameChar ' ' = false := by decide

theorem isNameChar_equals : isNameChar '=' = false := by decide

theorem all_isNameChar_level (b : Bool) : [if b then '1' else '0'].all isNameChar = true := by
  cases b <;> decide

theorem level_inj {b b' : Bool} (h : [if b then '1' else '0'] = [if b' then '1' else '0']) :
    b = b' := by
  revert h
  cases b <;> cases b' <;> decide

variable {c c' : MoveCall}

theorem held_inj (h : c.held = c'.held) : c.tool = c'.tool ∧ c.workObject = c'.workObject := by
  obtain ⟨htool, -, hobject⟩ := append_names_inj c.workObject.all_isNameChar
    c'.workObject.all_isNameChar isNameChar_equals isNameChar_equals h
  exact ⟨String.toList_injective (List.append_cancel_right htool), Identifier.ext_text hobject⟩

/-- What follows the zone is read from its end: the level and the name of the output, if there are
any, and the work object.  The rest is the name of the tool. -/
theorem ending_inj (hkind : c.kind = c'.kind) (h : c.ending = c'.ending) :
    c.tool = c'.tool ∧ c.workObject = c'.workObject ∧ c.output = c'.output := by
  have hglue : c.glue = c'.glue := by rw [glue, glue, hkind]
  rw [ending, ending] at h
  cases hc : c.output with
  | none =>
    cases hc' : c'.output with
    | none =>
      simp only [hc, hc'] at h
      obtain ⟨htool, hobject⟩ := held_inj (List.append_cancel_right h)
      exact ⟨htool, hobject, rfl⟩
    | some o =>
      -- a work object is behind an equals sign, and a level behind a blank
      simp only [hc, hc'] at h
      obtain ⟨-, hcontra, -⟩ := append_names_inj c.workObject.all_isNameChar
        (all_isNameChar_level o.2) isNameChar_equals isNameChar_blank (List.append_cancel_right h)
      exact absurd hcontra (by decide)
  | some o =>
    cases hc' : c'.output with
    | none =>
      simp only [hc, hc'] at h
      obtain ⟨-, hcontra, -⟩ := append_names_inj (all_isNameChar_level o.2)
        c'.workObject.all_isNameChar isNameChar_blank isNameChar_equals (List.append_cancel_right h)
      exact absurd hcontra (by decide)
    | some o' =>
      simp only [hc, hc'] at h
      obtain ⟨hfront, -, hlevel⟩ := append_names_inj (all_isNameChar_level o.2)
        (all_isNameChar_level o'.2) isNameChar_blank isNameChar_blank (List.append_cancel_right h)
      obtain ⟨hheld, -, hname⟩ := append_names_inj o.1.all_isNameChar o'.1.all_isNameChar
        isNameChar_blank isNameChar_blank (List.append_cancel_right hfront)
      rw [hglue] at hheld
      obtain ⟨htool, hobject⟩ := held_inj (List.append_cancel_right hheld)
      exact ⟨htool, hobject,
        congrArg some (Prod.ext (Identifier.ext_text hname) (level_inj hlevel))⟩

/-- **No two calls are written alike.** -/
theorem text_injective : Function.Injective text := by
  intro c c' h
  have hchars := congrArg String.toList h
  rw [toList_text, toList_text] at hchars
  obtain ⟨hword, -, hchars⟩ := names_append_inj (all_isNameChar_moveWord _ _)
    (all_isNameChar_moveWord _ _) isNameChar_blank isNameChar_blank hchars
  obtain ⟨htarget, -, hchars⟩ := names_append_inj c.target.all_isNameChar c'.target.all_isNameChar
    isNameChar_comma isNameChar_comma hchars
  obtain ⟨hspeed, -, hchars⟩ := names_append_inj c.speed.all_isNameChar c'.speed.all_isNameChar
    isNameChar_comma isNameChar_comma (List.cons.inj hchars).2
  obtain ⟨hzone, -, hchars⟩ := names_append_inj c.zone.all_isNameChar c'.zone.all_isNameChar
    isNameChar_comma isNameChar_comma (List.cons.inj hchars).2
  have hkind := (moveWord_inj hword).1
  obtain ⟨htool, hobject, houtput⟩ := ending_inj hkind (List.cons.inj hchars).2
  cases c
  cases c'
  cases hkind
  cases Identifier.ext_text htarget
  cases Identifier.ext_text hspeed
  cases Identifier.ext_text hzone
  cases htool
  cases hobject
  cases houtput
  rfl

end MoveCall

/-! ### Movements with the same instruction -/

namespace Movement

variable {m m' : Movement} {r r' : Option (Robot Float)}

/-- What the instruction of a movement calls for. -/
def call (m : Movement) (r : Option (Robot Float)) : MoveCall where
  kind := m.kind
  target := ⟨m.variableName, m.isIdentifier_variableName⟩
  speed := m.speed.name
  zone := m.zone.name
  tool := (m.toolName r).display
  workObject := m.workObject.name
  output := m.output.map fun o => (o.name, o.active.isTruthy)

theorem isAbsolute_iff (m : Movement) : m.isAbsolute = true ↔ m.kind = .absoluteJoint := by
  rw [isAbsolute]
  cases m.kind <;> decide

theorem statements_call (m : Movement) (r : Option (Robot Float)) :
    (m.call r).statements = m.statements r := by
  rw [MoveCall.statements, statements, call]
  cases m.output with
  | none => rfl
  | some o =>
    by_cases habsolute : m.kind = .absoluteJoint
    · simp only [Option.map_some, if_pos habsolute, if_pos (m.isAbsolute_iff.2 habsolute)]
      rfl
    · simp only [Option.map_some, if_neg habsolute, if_neg (mt m.isAbsolute_iff.1 habsolute)]
      rfl

/-- The instruction of a movement is its call as it is written. -/
theorem text_call (m : Movement) (r : Option (Robot Float)) :
    (m.call r).text = m.instruction r := by
  rw [MoveCall.text, statements_call, text_statements]

/-- Movements that go to the same place alike, as far as their instructions say. -/
structure CallsAlike (m : Movement) (r : Option (Robot Float)) (m' : Movement)
    (r' : Option (Robot Float)) : Prop where
  kind : m.kind = m'.kind
  variableName : m.variableName = m'.variableName
  speed : m.speed.name = m'.speed.name
  zone : m.zone.name = m'.zone.name
  /-- Tools have the same name as it is written, and so the same one if both names are texts. -/
  tool : (m.toolName r).display = (m'.toolName r').display
  toolText : ∀ t t', m.toolName r = .text t → m'.toolName r' = .text t' → t = t'
  workObject : m.workObject.name = m'.workObject.name
  /-- Both set an output or neither does, and it is the same one at the same level. -/
  output : m.output.map (fun o => (o.name, o.level)) = m'.output.map fun o => (o.name, o.level)

/-- **Movements with the same instruction call for the same.** -/
theorem callsAlike_of_instruction (m : Movement) (r : Option (Robot Float)) (m' : Movement)
    (r' : Option (Robot Float)) (h : m.instruction r = m'.instruction r') :
    m.CallsAlike r m' r' := by
  rw [← text_call, ← text_call] at h
  have hcall := MoveCall.text_injective h
  have htool : (m.toolName r).display = (m'.toolName r').display := congrArg MoveCall.tool hcall
  have houtput := congrArg MoveCall.output hcall
  refine ⟨congrArg MoveCall.kind hcall, congrArg (·.target.text) hcall,
    congrArg MoveCall.speed hcall, congrArg MoveCall.zone hcall, htool, fun t t' ht ht' => ?_,
    congrArg MoveCall.workObject hcall, ?_⟩
  · rw [ht, ht'] at htool
    exact htool
  · have hlevels := congrArg (Option.map fun o : Identifier × Bool => (o.1, if o.2 then 1 else 0))
      houtput
    rw [call, call, Option.map_map, Option.map_map] at hlevels
    exact hlevels

end Movement

/-- A movement to a frame, with a tool of some name, that sets an output. -/
def fittedMovement (f : Frame Float) (name : Datum) (named : name.isTruthy = true)
    (active : Datum) : Movement :=
  { usualMovement ⟨⟨"p", isIdentifier_p⟩, f, none, default, Target.inRange_none⟩ with
    tool := some ⟨name, .world, .world, .empty, Tool.standardMass, named, Tool.standardMass_heavy⟩
    output := some ⟨⟨"part", isIdentifier_part⟩, active⟩ }

/-- Their instructions are the same if the names of the tools are shown alike and the output is set
to the same level, wherever they go. -/
theorem instruction_fittedMovement {f f' : Frame Float} {name name' active active' : Datum}
    {named : name.isTruthy = true} {named' : name'.isTruthy = true}
    (hname : name.display = name'.display) (hactive : active.isTruthy = active'.isTruthy) :
    (fittedMovement f name named active).instruction none =
      (fittedMovement f' name' named' active').instruction none := by
  have hcall : (fittedMovement f name named active).call none =
      (fittedMovement f' name' named' active').call none := by
    rw [Movement.call, Movement.call, MoveCall.mk.injEq]
    exact ⟨rfl, rfl, rfl, rfl, hname, rfl, congrArg (fun level => some (_, level)) hactive⟩
  rw [← Movement.text_call, ← Movement.text_call, hcall]

/-- The name of a tool that looks like the end of an instruction and the start of another one. -/
def forgedName : String := "torch\\WObj:=wobj0;\nMoveL p, v100, fine, torch"

/-- The movement with that tool. -/
def forgedMovement (f : Frame Float) (active : Datum) : Movement :=
  fittedMovement f forgedName (by decide) active

theorem callsAlike_forgedMovement :
    (forgedMovement .world (.bool true)).instruction none =
      (forgedMovement quarterTurn (.number (.whole 2))).instruction none ∧
    (forgedMovement .world (.bool true)).CallsAlike none
      (forgedMovement quarterTurn (.number (.whole 2))) none := by
  have hsame : (forgedMovement .world (.bool true)).instruction none =
      (forgedMovement quarterTurn (.number (.whole 2))).instruction none :=
    instruction_fittedMovement rfl (by decide)
  exact ⟨hsame, Movement.callsAlike_of_instruction _ _ _ _ hsame⟩

/-- A number that names a tool is written as the text is that shows it. -/
theorem instruction_numberedTool :
    (fittedMovement .world (.number (.whole 5)) (by decide) (.bool true)).instruction none =
      (fittedMovement .world "5" (by decide) (.bool true)).instruction none ∧
    (fittedMovement .world (.number (.whole 5)) (by decide) (.bool true)).toolName none ≠
      (fittedMovement .world "5" (by decide) (.bool true)).toolName none :=
  ⟨instruction_fittedMovement (by decide) rfl, fun h => Datum.noConfusion h⟩

end SixAxis
