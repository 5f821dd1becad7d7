import SixAxis.Console.Help
import SixAxis.Disk.Basic
import SixAxis.Job.Build

/-!
# The command line

Four commands: the robot models, the tool centre point for joint values, the joint values for a
target, and the modules of a job.  What a command shows and the disk that it leaves are its report.

* `Console.run` — the report of some arguments.
-/

namespace SixAxis.Console

/-- The version of the program. -/
def version : String := "0.1.0"

/-! ### Reports -/

/-- A table of texts. -/
structure Table where
  title : String
  header : List String
  rows : List (List String)

/-- What a command shows and the disk that it leaves; the fault is one that is not meant for the
user. -/
structure Output where
  table : Option Table := none
  messages : List String := []
  disk : Option Disk := none
  fault : Option Fault := none

/-- The outcome of a call. -/
structure Report where
  exit : Nat
  table : Option Table := none
  /-- The lines below the table, without blanks around them; none is empty. -/
  lines : List String := []
  disk : Disk
  uncaught : Option Fault := none
  log : List Entry := []

/-- The report of arguments that make no sense. -/
def Report.usage (disk : Disk) : Report := { exit := 2, disk := disk }

/-- The report of a fault that is not meant for the user. -/
def Report.broken (disk : Disk) (f : Fault) : Report :=
  { exit := 1, disk := disk, uncaught := some f }

/-- A warning to the user. -/
def warning (message : String) : String := "⚠ " ++ message

/-- A success. -/
def success (message : String) : String := "✓ " ++ message

/-- A failure. -/
def failure (message : String) : String := "✗ " ++ message

/-- A truth value in a table. -/
def mark (b : Bool) : String := if b then "✓" else "✗"

/-- The lines of messages that are shown one after the other, up to one that cannot be. -/
def shownMessages : List String → List String × Option Fault
  | [] => ([], none)
  | message :: rest =>
    match shownLines message with
    | .error f => ([], some f)
    | .ok lines =>
      let (more, fault) := shownMessages rest
      (lines ++ more, fault)

/-! ### Commands -/

/-- The table of the robot models. -/
def presets : Output where
  table := some {
    title := "Robot Presets"
    header := ["Name", "Manufacturer", "Payload (kg)", "Joint Limits (deg)"]
    rows := Model.all.map fun m =>
      let limits := m.jointLimits.map fun (low, high) =>
        s!"[{CodeNumber.text low}, {CodeNumber.text high}]"
      [m.name, m.manufacturer, CodeNumber.text m.payload, ", ".intercalate limits] }

/-- A robot of a named model with the standard tool at the origin. -/
def robotOf (model : String) : Work (Robot Float) := Work.ofModel model .world .standard []

/-- The tool centre point for joint values. -/
def forward (model : String) (joints : List Float) : Work Output := do
  let robot ← robotOf model
  let joints ← Joints.ofData (joints.map .real)
  let posture ← Work.pose robot joints default true
  let position := CodeNumber.list posture.tcp.point.toList
  let orientation := CodeNumber.list posture.tcp.quaternion.toList CodeNumber.unitDecimals
  return {
    table := some {
      title := "Forward Kinematics: " ++ robot.name.display
      header := ["Property", "Value"]
      rows := [
        ["Position", position], ["Quaternion", orientation], ["In limits", mark posture.inLimits]] }
    messages := posture.reports.map fun r => warning r.text }

/-- The joint values for a target. -/
def inverse (model : String) (point : Vec Float) (orientation : Quaternion Float)
    (configuration : Option Int) : Work Output := do
  let robot ← robotOf model
  let target ← Frame.ofQuaternion orientation point
  let solution ← Work.solve robot target default (configuration.map .whole) default
  let row (i : Fin 6) : List String :=
    [toString (i.val + 1), CodeNumber.text (solution.joints.get i),
      mark (solution.chosen.flags.get i)]
  return {
    table := some {
      title := "Inverse Kinematics: " ++ robot.name.display
      header := ["Axis", "Value (deg)", "In limits"]
      rows := (List.finRange 6).map row }
    messages := s!"Axis configuration: {solution.chosen.configuration.val}"
      :: solution.reports.map fun r => warning r.text }

/-- Texts written to files below a directory, up to the first that cannot be. -/
def written (disk : Disk) : List (Path × String) → Disk × Option Fault
  | [] => (disk, none)
  | (path, text) :: rest =>
    match disk.write path text with
    | (disk, none) => written disk rest
    | stopped => stopped

/-- The job in a file of a disk. -/
def jobIn (disk : Disk) (file : Path) : Checked Job :=
  Job.load file.text ((disk.find file).toOption.getD .nothing)

/-- The files for the modules of a job. -/
def modulePaths (job : Job) (directory : Path) : Path × Path :=
  (directory.join (Path.ofString job.settings.programFile),
    directory.join (Path.ofString job.settings.systemFile))

/-- The modules of a job. -/
def generate (job output : String) (disk : Disk) : Work Output := do
  let file := Path.ofString job
  let directory := Path.ofString output
  let job ← jobIn disk file
  let modules ← job.generate file.text
  let (program, system) := modulePaths job directory
  match disk.makeDirectories directory with
  | .error f => return { fault := some f }
  | .ok disk =>
    let (disk, fault) := written disk [(program, modules.program), (system, modules.system)]
    if fault.isSome then return { disk := disk, fault := fault }
    let linear := if modules.generator.startsWithJoints = some false then
      ["The first movement is linear; start with a joint movement"] else []
    return {
      disk := disk
      messages := [success ("Wrote " ++ program.text), success ("Wrote " ++ system.text)]
        ++ (linear ++ modules.generator.warnings).map warning }

/-! ### Calls -/

/-- The rank of the least serious entries in a log of some level; that of a level that there is
not is the one for information.  Two words name other settings of a log, the form of its entries
and its table of styles. -/
def threshold (level : String) : Checked Nat :=
  match Text.upper level with
  | "NOTSET" => .ok 0
  | "DEBUG" => .ok 10
  | "WARN" | "WARNING" => .ok 30
  | "ERROR" => .ok 40
  | "CRITICAL" | "FATAL" => .ok 50
  | "BASIC_FORMAT" => .error (Misuse.unreadable "the form of an entry is no level")
  | "_STYLES" => .error Misuse.illTyped
  | _ => .ok 20

/-- What carries out a command, and the words before a fault that is meant for the user. -/
def work (disk : Disk) : Command → Work Output × String
  | .presets => (pure presets, "")
  | .forward model joints => (forward model joints, "")
  | .inverse model point orientation configuration =>
    (inverse model point orientation configuration, "")
  | .generate job output => (generate job output disk, "Failed to generate: ")

/-- What keeps a command from being carried out: a job that there is not or a file as the directory
makes no sense, and a text that cannot be a path is a fault. -/
def obstacle? (disk : Disk) : Command → Option Report
  | .generate job output =>
    match disk.findText output, disk.findText job with
    | .error (.misuse .unencodable), _ => some (.broken disk Misuse.unencodable)
    | .error (.misuse (.unreadable why)), _ => some (.broken disk (Misuse.unreadable why))
    | .ok (.file _), _ => some (.usage disk)
    | _, .error (.misuse .unencodable) => some (.broken disk Misuse.unencodable)
    | _, .error (.misuse (.unreadable why)) => some (.broken disk (Misuse.unreadable why))
    | _, .error _ => some (.usage disk)
    | _, .ok _ => none
  | _ => none

/-- The report of a command. -/
def carryOut (disk : Disk) (command : Command) (least : Nat) (jsonLogs : Bool) : Report :=
  let (work, before) := work disk command
  let (result, entries) := work.result
  let log := if jsonLogs then entries.filter (least ≤ ·.level.rank) else []
  match result with
  | .ok out =>
    let (lines, fault) := shownMessages out.messages
    let fault := out.fault.or fault
    { exit := if fault.isSome then 1 else 0
      table := out.table
      lines := lines
      disk := out.disk.getD disk
      uncaught := fault
      log := log }
  | .error f =>
    if f.isExpected then
      let (lines, fault) := shownMessages [failure (before ++ f.text)]
      { exit := 1, lines := lines, disk := disk, uncaught := fault, log := log }
    else { exit := 1, disk := disk, uncaught := some f, log := log }

/-- The paths that a call reads or writes at, as far as a disk tells. -/
def pathsOf (args : List String) (disk : Disk) : List Path :=
  match Request.ofArguments? args with
  | some (.call _ _ (some (.command (.generate job output)))) =>
    let file := Path.ofString job
    let directory := Path.ofString output
    match jobIn disk file with
    | .ok job =>
      let (program, system) := modulePaths job directory
      [file, directory, program, system]
    | .error _ => [file, directory]
  | _ => []

/-- The report of some arguments. -/
def run (args : List String) (disk : Disk) : Report :=
  match Request.ofArguments? args with
  | none => .usage disk
  | some .help => { exit := 0, lines := generalHelp, disk := disk }
  | some .version =>
    { exit := 0, lines := [programName ++ ", version " ++ version], disk := disk }
  | some (.call level jsonLogs call) =>
    match threshold level, call with
    | .error f, _ => .broken disk f
    | .ok _, none => .usage disk
    | .ok _, some (.help form) => { exit := 0, lines := form.help, disk := disk }
    | .ok least, some (.command c) =>
      (obstacle? disk c).getD (carryOut disk c least jsonLogs)

end SixAxis.Console
