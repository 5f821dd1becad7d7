import SixAxis.Program.SpeedData

/-!
# Zone data

How closely a movement comes to its target before the next one takes over: a stop at the point, or
a corner path of a size.  The controller knows a number of zones by name; any other one is
declared.  None of the six sizes is negative.

* `ZoneData.make` — zone data with given parts;
* `ZoneData.fine`, `ZoneData.ofKnown?` — the zones that the controller knows;
* `ZoneData.ofRadius` — the zone of a radius in millimetres;
* `ZoneData.declaration` — the declaration, empty for a known zone.
-/

namespace SixAxis

/-- The six sizes of a corner path. -/
structure ZoneSizes where
  /-- In millimetres: of the path, of turning, and of the external axes. -/
  path : Number
  turning : Number
  axes : Number
  /-- In degrees and millimetres: of turning, of linear and of rotational external axes. -/
  turningAngle : Number
  linearAxes : Number
  rotaryAxes : Number

namespace ZoneSizes

/-- The sizes in order. -/
def toList (z : ZoneSizes) : List Number :=
  [z.path, z.turning, z.axes, z.turningAngle, z.linearAxes, z.rotaryAxes]

/-- The sizes that follow from three: of the path, of the other parts in millimetres, and of the
angles. -/
def ofThree (path other angle : Number) : ZoneSizes := ⟨path, other, other, angle, other, angle⟩

/-- The sizes of a corner path with a radius, in the proportions of the known zones. -/
def ofRadius (radius : Number) : ZoneSizes :=
  ofThree radius (.real (1.5 * radius.value)) (.real (0.15 * radius.value))

end ZoneSizes

/-- The end of a movement. -/
structure ZoneData where
  name : Identifier
  /-- Whether the robot stops at the target. -/
  stops : Datum
  sizes : ZoneSizes
  /-- Whether the controller knows the zone by its name. -/
  predefined : Datum
  nonnegative : anyNegative sizes.toList = false

namespace ZoneData

/-- The corner paths that the controller knows: the radius in the name, and the sizes of the path,
of the other parts and of the angles. -/
def known : List (String × ZoneSizes) := [
  ("z0", .ofThree (.real 0.3) (.real 0.3) (.real 0.03)),
  ("z1", .ofThree (.whole 1) (.whole 1) (.real 0.1)),
  ("z5", .ofThree (.whole 5) (.whole 8) (.real 0.8)),
  ("z10", .ofThree (.whole 10) (.whole 15) (.real 1.5)),
  ("z15", .ofThree (.whole 15) (.whole 23) (.real 2.3)),
  ("z20", .ofThree (.whole 20) (.whole 30) (.real 3.0)),
  ("z30", .ofThree (.whole 30) (.whole 45) (.real 4.5)),
  ("z40", .ofThree (.whole 40) (.whole 60) (.real 6.0)),
  ("z50", .ofThree (.whole 50) (.whole 75) (.real 7.5)),
  ("z60", .ofThree (.whole 60) (.whole 90) (.real 9.0)),
  ("z80", .ofThree (.whole 80) (.whole 120) (.whole 12)),
  ("z100", .ofThree (.whole 100) (.whole 150) (.whole 15)),
  ("z150", .ofThree (.whole 150) (.whole 225) (.whole 23)),
  ("z200", .ofThree (.whole 200) (.whole 300) (.whole 30))]

/-- The size of a part that is not given. -/
def noSize : Datum := .real 0.0

/-- Zone data with the given sizes. -/
def ofSizes (name stops : Datum) (sizes : ZoneSizes) (predefined : Datum) : Checked ZoneData := do
  let name ← Identifier.ofData name (ActionFault.zoneName name)
  if h : anyNegative sizes.toList then .error (ActionFault.negativeZone name.text)
  else return ⟨name, stops, sizes, predefined, by simpa using h⟩

/-- Zone data with the given parts. -/
def make (name stops path turning axes turningAngle linearAxes rotaryAxes predefined : Datum) :
    Checked ZoneData := do
  let _ ← Identifier.ofData name (ActionFault.zoneName name)
  let sizes : ZoneSizes :=
    { path := ← path.toNumber
      turning := ← turning.toNumber
      axes := ← axes.toNumber
      turningAngle := ← turningAngle.toNumber
      linearAxes := ← linearAxes.toNumber
      rotaryAxes := ← rotaryAxes.toNumber }
  ofSizes name stops sizes predefined

/-- The name of the zone that stops at the target. -/
def fineName : String := "fine"

/-- The zone that stops at the target. -/
def fine : Checked ZoneData :=
  make (.text fineName) (.bool true) noSize noSize noSize noSize noSize noSize (.bool true)

/-- The corner path that the controller knows by a name. -/
def ofKnown? (name : String) : Option (Checked ZoneData) :=
  (known.find? (·.1 == name)).map fun (name, sizes) =>
    ofSizes (.text name) (.bool false) sizes (.bool true)

/-- The zone of a radius: minus one stops at the target, the radius of a known zone gives that
zone, and any other one a zone of its own. -/
def ofRadius (radius : Datum) : Checked ZoneData := do
  let n ← radius.toNumber
  if n.same (.whole (-1)) then fine
  else if n < .whole 0 then .error (ActionFault.zonePrecision n)
  else
    let text ← CodeNumber.ofNumber n
    match ofKnown? ("z" ++ text) with
    | some zone => zone
    | none =>
      let name := "zone" ++ text.map fun c => if c = '.' then '_' else c
      ofSizes (.text name) (.bool false) (.ofRadius n) (.bool false)

/-- The declaration, empty for a zone that the controller knows. -/
def declaration (z : ZoneData) : Checked String := do
  if z.predefined.isTruthy then return ""
  let stops := if z.stops.isTruthy then "TRUE" else "FALSE"
  return s!"VAR zonedata {z.name.text} := [{stops}, {← CodeNumber.ofNumbers z.sizes.toList}];"

end ZoneData

end SixAxis
