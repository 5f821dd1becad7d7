import SixAxis.Datum.Yaml.Read
import SixAxis.Job.Schema

/-!
# Loading a job

A job file is a YAML text with one record, or with nothing that counts as yes, which stands for
an empty record.  Whatever is wrong with the text or with its sections, the fault is the same; but
a scalar that does not fit its own kind is a misuse of that kind.

* `JobFile.fields` — the fields that a job file holds;
* `Job.load` — the job of a path.
-/

namespace SixAxis

/-- The content of a job file: as text, or as data that has been read already. -/
inductive JobFile where
  | text (s : String)
  | parsed (d : Datum)

/-- What a path leads to. -/
inductive PathContent where
  | nothing
  | directory
  | file (content : JobFile)

namespace JobFile

/-- The datum of a job file. -/
def datum : JobFile → Except Yaml.Flaw Datum
  | text s => do (← Yaml.Node.ofText s).datum
  | parsed d => .ok d

/-- The fields of a job file, which all have to be named by texts. -/
def fields (file : JobFile) : Except Yaml.Flaw Datum.Fields := do
  match ← file.datum with
  | .record fields => if fields.all (·.1 matches .text _) then return fields else .error .malformed
  | d => if d.isTruthy then .error .malformed else return []

end JobFile

namespace Job

/-- The job of a path. -/
def load (path : String) : PathContent → Checked Job
  | .nothing => .error (ConfigurationFault.missingJob path)
  | .directory => .error Misuse.notAFile
  | .file content =>
    match content.fields with
    | .error .malformed => .error (ConfigurationFault.unreadableJob path)
    | .error (.misfit m) => .error m
    | .ok fields =>
      (ofFields fields).toChecked.mapError fun _ => ConfigurationFault.unreadableJob path

end Job

end SixAxis
