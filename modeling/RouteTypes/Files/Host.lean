import RouteTypes.Files.Path
import RouteTypes.Log.Event

/-!
# Hosts

What a run needs from the system it runs on: files, directories, and a place to report
events to.

A run does nothing else to the world around it, so a host is only a record of these few
actions, in any monad. The actions that take several steps are built from them here:
reading a text, and creating a directory with all that hold it.

## Main definitions

* `SystemError`, `FileError`: Why an action on a file fails.
* `Host`: The actions of a system.
* `Host.readText`: The text of a file.
* `Host.createDirectories`: A directory and all that hold it.
* `Host.writeText`: A text as the only content of a file.
-/

namespace RouteTypes

/-- An error of the system. -/
inductive SystemError where
  | missing
  | denied
  | alreadyExists
  | notDirectory
  | isDirectory
  | nameTooLong
  deriving DecidableEq, Repr

namespace SystemError

/-- All errors of the system. -/
def all : List SystemError :=
  [missing, denied, alreadyExists, notDirectory, isDirectory, nameTooLong]

/-- The number of an error. -/
def number : SystemError → Nat
  | missing => 2
  | denied => 13
  | alreadyExists => 17
  | notDirectory => 20
  | isDirectory => 21
  | nameTooLong => 36

/-- The error with a number. -/
def ofNumber? (number : Nat) : Option SystemError :=
  all.find? (·.number == number)

/-- The name of an error. -/
def name : SystemError → String
  | missing => "No such file or directory"
  | denied => "Permission denied"
  | alreadyExists => "File exists"
  | notDirectory => "Not a directory"
  | isDirectory => "Is a directory"
  | nameTooLong => "File name too long"

end SystemError

/-- Why an action on a file fails. -/
inductive FileError where
  | system (error : SystemError)
  /-- The content of the file is not valid UTF-8. -/
  | notText
  /-- No file can have such a name. -/
  | nulInName
  /-- An error that has no name here. -/
  | unknown (description : String)
  deriving DecidableEq, Repr

/-- The error in words. -/
def FileError.message : FileError → String
  | system error => error.name ++ " (os error " ++ toString error.number ++ ")"
  | notText => "stream did not contain valid UTF-8"
  | nulInName => "file name contained an unexpected NUL byte"
  | unknown description => description

/-- The actions of a system. -/
structure Host (m : Type → Type) where
  /-- The content of a file. -/
  read : String → m (Except FileError ByteArray)
  /-- Make a text the only content of a file, which is created if it is missing. -/
  write : String → String → m (Except FileError Unit)
  /-- Create a directory in a directory that exists. -/
  makeDirectory : String → m (Except FileError Unit)
  /-- Whether a path leads to a directory. -/
  isDirectory : String → m Bool
  /-- Report an event. -/
  report : RunEvent → m Unit

namespace Host

variable {m : Type → Type} [Monad m]

/-- The text of a file. -/
def readText (host : Host m) (path : String) : m (Except FileError String) := do
  if !Path.isPossible path then return .error .nulInName
  match ← host.read path with
  | .error error => return .error error
  | .ok bytes =>
    match String.fromUTF8? bytes with
    | some text => return .ok text
    | none => return .error .notText

/-- A failed attempt to create a directory counts when there is no directory. -/
def orDirectory (host : Host m) (path : String) (error : FileError) :
    m (Except FileError Unit) := do
  if ← host.isDirectory path then return .ok () else return .error error

/-- Create the first directory of a list of directories that hold one another. When the
    one that holds it is missing, the rest of the list is created first. -/
def createFirst (host : Host m) : List String → m (Except FileError Unit)
  | [] => return .ok ()
  | path :: holders => do
    match ← host.makeDirectory path with
    | .ok () => return .ok ()
    | .error (.system .missing) =>
      match ← host.createFirst holders with
      | .error error => return .error error
      | .ok () =>
        match ← host.makeDirectory path with
        | .ok () => return .ok ()
        | .error error => host.orDirectory path error
    | .error error => host.orDirectory path error

/-- Create a directory and all that hold it, as far as they are missing. -/
def createDirectories (host : Host m) (path : String) : m (Except FileError Unit) :=
  if Path.isPossible path then host.createFirst (Path.ancestors path)
  else return .error .nulInName

/-- Make a text the only content of a file. -/
def writeText (host : Host m) (path text : String) : m (Except FileError Unit) :=
  if Path.isPossible path then host.write path text else return .error .nulInName

end Host

end RouteTypes
