import SixAxis.CodeNumber
import SixAxis.Proofs.CheckedSteps
import SixAxis.Space.Frame

/-!
# Faults in computing with doubles

Computing with doubles fails where a number is beyond all of them, where nothing gives a direction,
where a frame leaves space, and where an angle has no sine.  These are misuses, and what only
computes has no other faults, whatever it is a part of.

* `NumericFault`, `FaultsInNumbers` — these faults, and computations that have no others;
* `FaultsInNumbers.among` — such a computation in one that has more faults;
* `Number.faultsInNumbers_toReal`, `Vec.faultsInNumbers_unit`, `Frame.faultsInNumbers_moved?` — the
  computations that others are made of.
-/

namespace SixAxis

/-- Whether a misuse comes from computing with doubles: a division by zero, a result beyond all
doubles, a frame that is not in space, or an angle that has no sine. -/
def Misuse.isNumeric : Misuse → Bool
  | zeroDivisor none | overflow => true
  | unreadable why => why == "no frame" || why == "math domain error"
  | _ => false

/-- A fault of computing with doubles. -/
inductive NumericFault : Fault → Prop where
  | misuse {m : Misuse} (h : m.isNumeric = true) : NumericFault (.misuse m)

/-- A computation whose faults are those of computing with doubles. -/
abbrev FaultsInNumbers {α : Type} (x : Checked α) : Prop := FaultsIn NumericFault x

namespace FaultsInNumbers

variable {α : Type} {x : Checked α}

/-- The faults of computing are among others if all numeric misuses are. -/
theorem among (hx : FaultsInNumbers x) {P : Fault → Prop}
    (h : ∀ m : Misuse, m.isNumeric = true → P (.misuse m)) : FaultsIn P x := by
  refine hx.mono fun f hf => ?_
  cases hf with
  | misuse hm => exact h _ hm

theorem noActionFault (hx : FaultsInNumbers x) : NoActionFault x :=
  noActionFault_iff.2 <| hx.among fun _ _ _ hf => by cases hf

end FaultsInNumbers

theorem Number.faultsInNumbers_toReal (n : Number) : FaultsInNumbers n.toReal := by
  cases n with
  | truth b => exact .ok _
  | real x => exact .ok _
  | whole n => exact .ite (fun _ => .error (.misuse rfl)) (fun _ => .ok _)

theorem CodeNumber.faultsInNumbers_ofNumber (n : Number) (decimals : Nat) :
    FaultsInNumbers (CodeNumber.ofNumber n decimals) :=
  n.faultsInNumbers_toReal.bind fun _ _ => .ok _

theorem CodeNumber.faultsInNumbers_ofNumbers (ns : List Number) :
    FaultsInNumbers (CodeNumber.ofNumbers ns) :=
  (FaultsIn.mapM fun n _ => n.faultsInNumbers_toReal).bind fun _ _ => .ok _

theorem Vec.faultsInNumbers_unit (v : Vec Float) : FaultsInNumbers v.unit :=
  .ite (fun _ => .error (.misuse rfl)) fun _ =>
    .ite (fun _ => .error (.misuse rfl)) (fun _ => .ok _)

theorem Frame.faultsInNumbers_moved? (f : Frame Float) (m : Motion Float) :
    FaultsInNumbers (f.moved? m) :=
  .ite (fun _ => .ok _) (fun _ => .error (.misuse rfl))

end SixAxis
