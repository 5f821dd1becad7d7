import SixAxis.Disk.Path
import SixAxis.Job.Load

/-!
# Disks

A disk knows directories and files by their places: some from the start, others because they have
been made since.  A path is walked from the root or from the working directory, name by name, and
each step starts from a directory.  The directories above the working directory are all there,
whatever they are called.

* `Disk.find` — what a path leads to;
* `Disk.makeDirectories` — a directory with those that it is in;
* `Disk.write` — a file with a text.
-/

namespace SixAxis

/-- A place on a disk: names below the root, or below the directory so many steps above the working
directory. -/
structure Place where
  fromRoot : Bool
  above : Nat
  names : List String
deriving Repr, BEq, DecidableEq

namespace Place

/-- Where a path from the root or another one starts. -/
def start (fromRoot : Bool) : Place := ⟨fromRoot, 0, []⟩

/-- The place that a name leads to. -/
def step (p : Place) (name : String) : Place :=
  if name = "." then p
  else if name ≠ ".." then { p with names := p.names ++ [name] }
  else if !p.names.isEmpty then { p with names := p.names.dropLast }
  else if p.fromRoot then p
  else { p with above := p.above + 1 }

/-- A path to a place. -/
def path (p : Place) : Path := ⟨p.fromRoot, List.replicate p.above ".." ++ p.names⟩

end Place

/-- A disk. -/
structure Disk where
  /-- What is known from the start. -/
  known : List (Place × PathContent) := []
  /-- What has been made since, in order; the later entry for a place counts. -/
  made : List (Place × PathContent) := []

namespace Disk

/-- What is at a place. -/
def at' (d : Disk) (p : Place) : PathContent :=
  if p.names.isEmpty then .directory
  else match (d.made.reverse ++ d.known).find? (·.1 == p) with
    | some (_, content) => content
    | none => .nothing

/-- A disk with new content at a place. -/
def put (d : Disk) (p : Place) (content : PathContent) : Disk :=
  { d with made := d.made ++ [(p, content)] }

/-- The most bytes of a name. -/
def longestName : Nat := 255

/-- The bytes that a path has to stay below. -/
def longestPath : Nat := 4096

/-- Whether a character is a stand-in for a lone surrogate that no name can hold; those for a byte
that is no text can. -/
def isUnnamable (c : Char) : Bool :=
  Text.isSurrogate c && !(56448 ≤ Text.codeOf c && Text.codeOf c ≤ 56575)

/-- Whether a text can be a path at all. -/
def checkText (s : String) : Checked Unit :=
  if s.toList.any isUnnamable then .error Misuse.unencodable
  else if s.toList.contains '\x00' then .error (Misuse.unreadable "embedded null byte")
  else if longestPath ≤ s.utf8ByteSize then .error Misuse.badPath
  else .ok ()

/-- A step of a walk. -/
def step (d : Disk) (here : Place) (name : String) : Checked Place :=
  match d.at' here with
  | .nothing => .error Misuse.noDirectory
  | .file _ => .error Misuse.notADirectory
  | .directory =>
    if longestName < name.utf8ByteSize then .error Misuse.badPath else .ok (here.step name)

/-- The place of a path: each name but the last one leads to a directory. -/
def place (d : Disk) (p : Path) : Checked Place := do
  checkText p.text
  p.names.foldlM d.step (Place.start p.fromRoot)

/-- What a path leads to; it is not nothing. -/
def find (d : Disk) (p : Path) : Checked PathContent := do
  match d.at' (← d.place p) with
  | .nothing => .error Misuse.noDirectory
  | content => return content

/-- What a path leads to that is walked as its text says. -/
def findText (d : Disk) (s : String) : Checked PathContent :=
  if s.isEmpty then .error Misuse.noDirectory else d.find (Path.steps s)

/-- The disk with one more directory. -/
def makeDirectory (d : Disk) (p : Path) : Checked Disk := do
  let place ← d.place p
  match d.at' place with
  | .nothing => return d.put place .directory
  | _ => .error Misuse.inTheWay

/-- The disk with a directory that may be there already. -/
def ensureDirectory (d : Disk) (p : Path) : Checked Disk :=
  match d.makeDirectory p with
  | .error (.misuse .inTheWay) =>
    match d.find p with
    | .ok .directory => .ok d
    | _ => .error Misuse.inTheWay
  | result => result

/-- The disk with a directory of reversed names and with those that it is in. -/
def makeBelow (d : Disk) (fromRoot : Bool) : List String → Checked Disk
  | [] => d.ensureDirectory ⟨fromRoot, []⟩
  | name :: outer =>
    let p : Path := ⟨fromRoot, (name :: outer).reverse⟩
    match d.ensureDirectory p with
    | .error (.misuse .noDirectory) => do (← d.makeBelow fromRoot outer).ensureDirectory p
    | result => result

/-- The disk with a directory and with those that it is in, as far as they are not there. -/
def makeDirectories (d : Disk) (p : Path) : Checked Disk := d.makeBelow p.fromRoot p.names.reverse

/-- The disk with a text in a file, and the fault if there is one.  A text that cannot be written
leaves an empty file. -/
def write (d : Disk) (p : Path) (text : String) : Disk × Option Fault :=
  let put (place : Place) : Disk × Option Fault :=
    if Text.isEncodable text then (d.put place (.file (.text text)), none)
    else (d.put place (.file (.text "")), some (Misuse.unencodable : Fault))
  match d.place p with
  | .error f => (d, some f)
  | .ok place =>
    if d.at' place matches .directory then (d, some (Misuse.notAFile : Fault)) else put place

/-- The files that have been made, each with its text, in the order of their first writing. -/
def newFiles (d : Disk) : List (Place × String) :=
  d.made.foldl (fun files (place, content) =>
    match content with
    | .file (.text text) =>
      if files.any (·.1 == place) then files.map fun f => if f.1 == place then (place, text) else f
      else files ++ [(place, text)]
    | _ => files) []

end Disk

end SixAxis
