import Enrollment.Files.Fault
import Enrollment.Log.Event
import Enrollment.Plan
import Enrollment.Text.Utf8
/-!
# What is done with files

The questions of computations that work with files. Each is one step: it happens or it fails.
-/

namespace Enrollment.Files

open Text (Bytes)

/-- A question to the file system. -/
inductive Step
  | read (path : String)
  | probe (path : String)
  | makeDirectories (path : String)
  | write (path : String) (content : Bytes)
  | move (source target : String)
  | remove (path : String)
  /-- Opens a file at whose end the events are written from now on that pass a filter. -/
  | openLog (path filter : String)
  | note (e : Log.Event)

@[reducible] def Step.Answer : Step → Type
  | read _ => Except Fault Bytes
  | probe _ => Bool
  | note _ => Unit
  | _ => Except Fault Unit

abbrev Disk : Interface where
  Request := Step
  Answer := Step.Answer

namespace Disk

/-- What a file holds, if it is a text. -/
def readText (path : String) : Plan Disk (Except Fault String) := do
  let read : Except Fault Bytes ← Plan.request (I := Disk) (.read path)
  match read with
  | .error fault => return .error fault
  | .ok bytes =>
    match Text.decodeUtf8? bytes with
    | some s => return .ok (String.ofList s)
    | none => return .error .notText

def probe (path : String) : Plan Disk Bool :=
  Plan.request (I := Disk) (.probe path)

def makeDirectories (path : String) : Plan Disk (Except Fault Unit) :=
  Plan.request (I := Disk) (.makeDirectories path)

/-- Makes a file hold a text. -/
def writeText (path text : String) : Plan Disk (Except Fault Unit) :=
  Plan.request (I := Disk) (.write path (Text.encodeUtf8 text.toList))

/-- Puts a file in the place of another. -/
def move (source target : String) : Plan Disk (Except Fault Unit) :=
  Plan.request (I := Disk) (.move source target)

def remove (path : String) : Plan Disk (Except Fault Unit) :=
  Plan.request (I := Disk) (.remove path)

/-- Opens a file at whose end the events are written from now on that pass a filter. -/
def openLog (path filter : String) : Plan Disk (Except Fault Unit) :=
  Plan.request (I := Disk) (.openLog path filter)

def note (level : Log.Level) (message : String) (fields : List (String × String) := []) :
    Plan Disk Unit :=
  Plan.request (I := Disk) (.note ⟨level, message, fields⟩)

end Disk

end Enrollment.Files
