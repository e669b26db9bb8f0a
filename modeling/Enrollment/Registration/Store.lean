import Enrollment.Failure
import Enrollment.Files.Path
import Enrollment.Files.Request
import Enrollment.Json.Printer
import Enrollment.Json.Reader
import Enrollment.Registration.Basic
/-!
# Keeping the registration record

The record lies in one file. It is written to a file beside it first, which is then put in its
place, so that a file that was begun and not ended is never taken for the record.
-/

namespace Enrollment.Registration

open Files (Disk)

/-- Where the record is kept. -/
structure Store where
  path : String
  deriving DecidableEq, Repr

namespace Store

/-- The file that is written first. -/
def draft (s : Store) : String :=
  Files.Path.withFileName s.path ((Files.Path.fileName? s.path).getD "" ++ ".tmp")

def writeFailure (s : Store) (fault : Files.Fault) : Failure :=
  .record ("cannot write " ++ s.path ++ ": " ++ fault.message)

/-- What the file holds as a record; there is none if there is no file. -/
def interpret (s : Store) (read : Except Files.Fault String) : Except Failure (Option Record) :=
  match read with
  | .error .notFound => .ok none
  | .error fault => .error (.record ("cannot read " ++ s.path ++ ": " ++ fault.message))
  | .ok text =>
    match Json.decode Record.codec text with
    | .ok record => .ok (some record)
    | .error fault =>
      .error (.record ("corrupt record " ++ s.path ++ ": " ++ fault.message))

def load (s : Store) : Plan Disk (Except Failure (Option Record)) := do
  return s.interpret (← Disk.readText s.path)

/-- Makes the directory of the file, unless it is the one where one is. -/
def prepare (s : Store) : Plan Disk (Except Files.Fault Unit) :=
  match Files.Path.parent? s.path with
  | none => pure (.ok ())
  | some directory =>
    if directory.isEmpty then pure (.ok ()) else Disk.makeDirectories directory

def save (s : Store) (record : Record) : Plan Disk (Except Failure Unit) := do
  match ← s.prepare with
  | .error fault => return .error (s.writeFailure fault)
  | .ok () =>
    match ← Disk.writeText s.draft (Json.pretty (Record.codec.encode record)) with
    | .error fault => return .error (s.writeFailure fault)
    | .ok () =>
      match ← Disk.move s.draft s.path with
      | .error fault => return .error (s.writeFailure fault)
      | .ok () =>
        Disk.note .debug "Saved registration record"
          [("path", s.path), ("address", record.address.text)]
        return .ok ()

/-- Forgets the record, if there is one. -/
def clear (s : Store) : Plan Disk (Except Failure Unit) := do
  match ← Disk.remove s.path with
  | .ok () =>
    Disk.note .debug "Removed registration record" [("path", s.path)]
    return .ok ()
  | .error .notFound => return .ok ()
  | .error fault => return .error (s.writeFailure fault)

end Store

end Enrollment.Registration
