import RouteTypes.Files.Host
import RouteTypes.OrderedMap

/-!
# Disks in Memory

A host whose files are values, so that a run on it is a function.

A disk maps places, which are the names on the way from the root, to files and
directories. A path is followed name by name from the root or from the working
directory. Every name but the last must lead to a directory, and the last may lead to
nothing: where it leads is known even when nothing is there.

## Main definitions

* `Disk`: Files and directories by place, and a working directory.
* `Disk.locate`: Where a path leads.
* `Disk.read`, `Disk.write`, `Disk.makeDirectory`, `Disk.isDirectory`: The actions on files.
* `Disk.filesUnlike`: The files in which a disk differs from another one.
* `Disk.Session`, `Disk.host`: A disk in use, and the host it is.
-/

namespace RouteTypes

/-- The names on the way from the root to a file or directory. -/
abbrev DiskPlace := List String

/-- What can be at a place. -/
inductive DiskEntry where
  | file (content : ByteArray)
  | directory

/-- Files and directories by place, below a root that is always there. -/
structure Disk where
  entries : OrderedMap DiskPlace DiskEntry := OrderedMap.empty
  working : DiskPlace := []

namespace Disk

/-- What is at a place. -/
def entry? (disk : Disk) : DiskPlace → Option DiskEntry
  | [] => some .directory
  | place => disk.entries.get? place

/-- The disk with something at a place. -/
def set (disk : Disk) (place : DiskPlace) (entry : DiskEntry) : Disk :=
  { disk with entries := disk.entries.insert place entry }

/-- The most bytes that a name can have. -/
def nameLimit : Nat := 255

/-- The number of bytes from which a path is too long. -/
def pathLimit : Nat := 4096

/-- Where a name leads from a place. -/
def step (disk : Disk) (place : DiskPlace) (name : List Char) :
    Except FileError DiskPlace :=
  match disk.entry? place with
  | none => .error (.system .missing)
  | some (.file _) => .error (.system .notDirectory)
  | some .directory =>
    if name.isEmpty || name = ['.'] then .ok place
    else if name = ['.', '.'] then .ok place.dropLast
    else
      let name := String.ofList name
      if name.utf8ByteSize > nameLimit then .error (.system .nameTooLong)
      else .ok (place ++ [name])

/-- Where a path leads. Nothing has to be there. -/
def locate (disk : Disk) (path : String) : Except FileError DiskPlace :=
  if path.isEmpty then .error (.system .missing)
  else if path.utf8ByteSize ≥ pathLimit then .error (.system .nameTooLong)
  else
    let names := path.toList.splitOn '/'
    if Path.isAbsolute path.toList then names.foldlM disk.step []
    else names.foldlM disk.step disk.working

/-- The content of a file. -/
def read (disk : Disk) (path : String) : Except FileError ByteArray := do
  match disk.entry? (← disk.locate path) with
  | none => .error (.system .missing)
  | some .directory => .error (.system .isDirectory)
  | some (.file content) => .ok content

/-- The disk with a text as the only content of a file. -/
def write (disk : Disk) (path text : String) : Except FileError Disk := do
  let place ← disk.locate path
  match disk.entry? place with
  | some .directory => .error (.system .isDirectory)
  | none | some (.file _) => .ok (disk.set place (.file text.toUTF8))

/-- The disk with another directory. -/
def makeDirectory (disk : Disk) (path : String) : Except FileError Disk := do
  let place ← disk.locate path
  match disk.entry? place with
  | some _ => .error (.system .alreadyExists)
  | none => .ok (disk.set place .directory)

/-- Whether a path leads to a directory. -/
def isDirectory (disk : Disk) (path : String) : Bool :=
  match disk.locate path with
  | .ok place => (disk.entry? place matches some .directory)
  | .error _ => false

/-- The disk with a file at a place, and with directories on the way to it. -/
def putFile (disk : Disk) (place : DiskPlace) (content : ByteArray) : Disk :=
  -- The first of the ways is the root, which is never added.
  let ways := (List.range place.length).map place.take
  (ways.foldl (fun disk way => if (disk.entry? way).isSome then disk else disk.set way .directory)
    disk).set place (.file content)

/-- The contents of all files, with their places. -/
def files (disk : Disk) : List (DiskPlace × ByteArray) :=
  disk.entries.entries.filterMap fun entry =>
    match entry.2 with
    | .file content => some (entry.1, content)
    | .directory => none

/-- A place below the working directory, as a path from there. -/
def pathFromWorking? (disk : Disk) (place : DiskPlace) : Option String :=
  if disk.working.isPrefixOf place then
    some ("/".intercalate (place.drop disk.working.length))
  else none

/-- The files below the working directory that another disk does not have like this, by
    their paths. -/
def filesUnlike (disk other : Disk) : List (String × ByteArray) :=
  let changed := disk.files.filter fun (place, content) =>
    match other.entry? place with
    | some (.file old) => old != content
    | _ => true
  let written := changed.filterMap fun (place, content) =>
    (disk.pathFromWorking? place).map (·, content)
  written.mergeSort fun a b => a.1 ≤ b.1

/-- A disk in use, and what was reported so far. -/
structure Session where
  disk : Disk
  events : List RunEvent := []

namespace Session

/-- An action that answers with another disk. -/
def change (act : Disk → Except FileError Disk) : StateM Session (Except FileError Unit) :=
  fun session =>
    match act session.disk with
    | .ok disk => (.ok (), { session with disk })
    | .error error => (.error error, session)

end Session

/-- The host that a disk is. -/
def host : Host (StateM Session) where
  read path := do return (← get).disk.read path
  write path text := Session.change (·.write path text)
  makeDirectory path := Session.change (·.makeDirectory path)
  isDirectory path := do return (← get).disk.isDirectory path
  report event := modify fun session => { session with events := session.events ++ [event] }

end Disk

end RouteTypes
