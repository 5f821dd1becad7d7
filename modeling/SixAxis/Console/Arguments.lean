import SixAxis.Decimal.Read
import SixAxis.Space.Frame

/-!
# Command line arguments

Options come before the command and behind it, each kind with its own; behind the command they
may stand among its other arguments.  An option takes the arguments that follow it as its values,
whatever they look like, or the text behind an equals sign as the first one.  Letters of options
without values can be put together.  What follows two hyphens is no option.

* `Option.scan?` — options and other arguments told apart;
* `Request.ofArguments?` — what is asked for, if the arguments name it.
-/

namespace SixAxis.Console

/-! ### Options -/

/-- An option: its names, the number of values that it takes with a word for one, and what it is
for. -/
structure OptionForm where
  long : String
  purpose : String
  short : Option Char := none
  values : Nat := 0
  value : String := ""

/-- The options that were given, by their long names, in order. -/
abbrev GivenOptions := List (String × List String)

namespace OptionForm

/-- The values of an option at the start of some arguments, and the rest. -/
def take? (o : OptionForm) (args : List String) : Option (GivenOptions × List String) :=
  if args.length < o.values then none
  else some ([(o.long, args.take o.values)], args.drop o.values)

/-- The options of letters put together; what stands behind the letter of an option with values is
its first one. -/
def cluster? (forms : List OptionForm) : List Char → List String →
    Option (GivenOptions × List String)
  | [], args => some ([], args)
  | letter :: more, args => do
    let o ← forms.find? (·.short == some letter)
    if o.values = 0 then
      let (given, args) ← cluster? forms more args
      return ((o.long, []) :: given, args)
    else o.take? (if more.isEmpty then args else String.ofList more :: args)

/-- The options of an argument that is one, with the arguments behind it. -/
def read? (forms : List OptionForm) (arg : String) (rest : List String) :
    Option (GivenOptions × List String) :=
  let (name, behind) := arg.toList.span (· ≠ '=')
  match forms.find? (·.long == String.ofList name), behind with
  | some o, [] => o.take? rest
  | some o, _ :: value => if o.values = 0 then none else o.take? (String.ofList value :: rest)
  | none, _ =>
    match arg.toList with
    | '-' :: '-' :: _ => none
    | _ :: letters => cluster? forms letters rest
    | [] => none

/-- Whether an argument is meant as an option. -/
def isMeant (arg : String) : Bool := arg.startsWith "-" && arg != "-"

/-- Options and other arguments told apart.  Unless they are `mixed`, the options end at the first
other argument.  `fuel` bounds the number of arguments. -/
def scan? (forms : List OptionForm) (mixed : Bool) :
    Nat → List String → Option (GivenOptions × List String)
  | _, [] => some ([], [])
  | 0, _ => none
  | fuel + 1, arg :: rest =>
    if arg = "--" then some ([], rest)
    else if isMeant arg then do
      let (first, rest) ← read? forms arg rest
      let (given, others) ← scan? forms mixed fuel rest
      return (first ++ given, others)
    else if mixed then do
      let (given, others) ← scan? forms mixed fuel rest
      return (given, arg :: others)
    else some ([], arg :: rest)

/-- The values of the option that was given last under a name. -/
def last? (given : GivenOptions) (name : String) : Option (List String) :=
  (given.reverse.find? (·.1 == name)).map (·.2)

end OptionForm

/-! ### Requests -/

/-- What a command is to do. -/
inductive Command where
  | presets
  | forward (model : String) (joints : List Float)
  | inverse (model : String) (point : Vec Float) (orientation : Quaternion Float)
      (configuration : Option Int)
  | generate (job output : String)

/-- A command as it is called: its name, words for its arguments, what it does, and its options. -/
structure CommandForm where
  name : String
  arguments : List String
  purpose : String
  options : List OptionForm

/-- A command, or help with it. -/
inductive Call where
  | help (form : CommandForm)
  | command (c : Command)

/-- What is asked for on the command line. -/
inductive Request where
  | version
  | help
  /-- One of the commands, with the arguments behind it if they make sense. -/
  | call (logLevel : String) (jsonLogs : Bool) (call : Option Call)

/-- The option that asks for help. -/
def helpForm : OptionForm := { long := "--help", purpose := "Show this message and exit." }

/-- The options before a command. -/
def generalForms : List OptionForm := [
  { long := "--version", purpose := "Show the version and exit." },
  { long := "--log-level", values := 1, value := "TEXT", purpose := "Minimum log level" },
  { long := "--json-logs", purpose := "Write logs as JSON lines" },
  helpForm]

/-- The commands in the order of their names. -/
def commandForms : List CommandForm := [
  { name := "fk"
    arguments := ["PRESET", "JOINTS..."]
    purpose := "Tool centre point for six joint values (degrees)."
    options := [helpForm] },
  { name := "generate"
    arguments := ["JOB"]
    purpose := "Generate the RAPID program and system modules of a job file."
    options := [
      { long := "--output-dir", short := some 'o', values := 1, value := "DIRECTORY",
        purpose := "Directory for the generated modules" },
      helpForm] },
  { name := "ik"
    arguments := ["PRESET", "X", "Y", "Z"]
    purpose := "Joint values for a target position and orientation."
    options := [
      { long := "--quaternion", short := some 'q', values := 4, value := "FLOAT",
        purpose := "Target orientation as q1 q2 q3 q4 (default: tool pointing down)" },
      { long := "--config", short := some 'c', values := 1, value := "INTEGER",
        purpose := "Axis configuration 0-7" },
      helpForm] },
  { name := "presets"
    arguments := []
    purpose := "List available robot presets."
    options := [helpForm] }]

/-- The orientation of a tool that points down. -/
def pointingDown : Quaternion Float := ⟨0.0, 0.0, 1.0, 0.0⟩

/-- A quaternion of four values. -/
def quaternion? (values : List String) : Option (Quaternion Float) := do
  match ← values.mapM Decimal.float? with
  | [w, x, y, z] => return ⟨w, x, y, z⟩
  | _ => none

/-- A command with its options and other arguments. -/
def Command.of? (name : String) (given : GivenOptions) (args : List String) : Option Command :=
  match name, args with
  | "presets", [] => some .presets
  | "fk", [model, a, b, c, d, e, f] =>
    ([a, b, c, d, e, f].mapM Decimal.float?).map (.forward model)
  | "ik", [model, x, y, z] => do
    let x ← Decimal.float? x
    let y ← Decimal.float? y
    let z ← Decimal.float? z
    let orientation ← match OptionForm.last? given "--quaternion" with
      | some values => quaternion? values
      | none => some pointingDown
    let configuration ← match OptionForm.last? given "--config" with
      | some values => (values.mapM Decimal.int?).map (·.head?)
      | none => some none
    return .inverse model ⟨x, y, z⟩ orientation configuration
  | "generate", [job] =>
    let output := ((OptionForm.last? given "--output-dir").bind (·.head?)).getD "."
    some (.generate job output)
  | _, _ => none

/-- A command with the arguments behind it, if they make sense. -/
def Call.of? (form : CommandForm) (args : List String) : Option Call := do
  let (given, others) ← OptionForm.scan? form.options true (args.length + 1) args
  if (OptionForm.last? given "--help").isSome then return .help form
  return .command (← Command.of? form.name given others)

/-- What is asked for, if the arguments up to the name of a command make sense. -/
def Request.ofArguments? (args : List String) : Option Request := do
  let (general, rest) ← OptionForm.scan? generalForms false (args.length + 1) args
  match general.find? fun o => o.1 == "--version" || o.1 == "--help" with
  | some o => return if o.1 == "--version" then .version else .help
  | none =>
    match rest with
    | [] => none
    | name :: rest => do
      let form ← commandForms.find? (·.name == name)
      let level := ((OptionForm.last? general "--log-level").bind (·.head?)).getD "WARNING"
      return .call level (OptionForm.last? general "--json-logs").isSome (Call.of? form rest)

end SixAxis.Console
