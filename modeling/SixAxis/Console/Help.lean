import SixAxis.Console.Arguments
import SixAxis.Console.Lines

/-!
# Help

Help names the arguments, says what is done with them, and lists options and commands in two
columns.  A text that does not fit into the second column goes on below.

* `generalHelp` — help with the commands;
* `CommandForm.help` — help with one of them.
-/

namespace SixAxis.Console

/-- The cells of a line of help behind the blanks it starts with. -/
def helpWidth : Nat := 76

/-- The name that the program is called by. -/
def programName : String := "main"

/-- The names of an option, with a word for its values. -/
def OptionForm.shown (o : OptionForm) : String :=
  let names := ((o.short.map fun c => String.ofList ['-', c, ',', ' ']).getD "") ++ o.long
  match o.values with
  | 0 => names
  | 1 => names ++ " " ++ o.value
  | _ => names ++ " " ++ o.value ++ "..."

/-- Two columns, the second of which starts two cells behind the widest text of the first. -/
def columns (rows : List (String × String)) : List String :=
  let start := rows.foldl (fun cells row => max cells row.1.length) 0 + 2
  rows.flatMap fun (name, text) =>
    match wrapped (helpWidth - start) text.toList with
    | [] => [name]
    | first :: more =>
      let gap := List.replicate (start - name.length) ' '
      (name ++ String.ofList (gap ++ first)) :: more.map String.ofList

/-- The lines of help: how a call is written, what is done, and what else can be written. -/
def helpLines (words : List String) (purpose : String) (options : List OptionForm)
    (commands : List CommandForm) : List String :=
  let listed := if commands.isEmpty then []
    else "Commands:" :: columns (commands.map fun c => (c.name, c.purpose))
  ["Usage: " ++ " ".intercalate (programName :: words), purpose, "Options:"]
    ++ (columns (options.map fun o => (o.shown, o.purpose)) ++ listed).map Text.trim

/-- Help with the commands. -/
def generalHelp : List String :=
  helpLines ["[OPTIONS]", "COMMAND", "[ARGS]..."]
    "rapidgen - ABB RAPID code generation and robot kinematics." generalForms commandForms

/-- Help with a command. -/
def CommandForm.help (c : CommandForm) : List String :=
  helpLines (c.name :: "[OPTIONS]" :: c.arguments) c.purpose c.options []

end SixAxis.Console
