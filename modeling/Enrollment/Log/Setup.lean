import Enrollment.Files.Path
import Enrollment.Host.Basic
import Enrollment.Log.Filter
import Enrollment.Settings.Loading
import Enrollment.Trouble
/-!
# Setting up logging

Before a command runs, the filters of console and log file are checked, and the log file is opened.
-/

namespace Enrollment.Log

open Files (Disk)

/-- The filter of the console when the environment names none. -/
def consoleLevel (s : Settings.Log) (verbose : Bool) : String :=
  if verbose then "debug" else s.level

/-- Checks a filter; the context is said if it is none. -/
def checkFilter (context filter : String) : Except Trouble Unit :=
  match Filter.check filter with
  | .ok () => .ok ()
  | .error fault => .error ⟨context ++ filter, fault.message :: fault.causes⟩

/-- Checks the filter of the console. One in the environment counts if it is a filter at all. -/
def checkConsole (s : Settings.Log) (env : Environment) (verbose : Bool) : Except Trouble Unit :=
  if (env.value? "RUST_LOG").any fun filter => (Filter.check filter).isOk then .ok ()
  else checkFilter "invalid log level: " (consoleLevel s verbose)

/-- What is added to the name of a file for the time in which it is written to. -/
def periodText (rotation : Settings.Rotation) (t : Instant) : List Char :=
  match rotation with
  | .never => []
  | .daily => '.' :: t.dateText
  | .hourly => '.' :: t.dateText ++ '-' :: Text.toDecimalPadded 2 (t.second / 3600)

/-- The name of the file that is written to at an instant. -/
def fileNameAt (rotation : Settings.Rotation) (name : String) (t : Instant) : String :=
  name ++ String.ofList (periodText rotation t)

/-- The file that events are written to at an instant, and the directory that it lies in, if the path to
log to names a file. -/
def fileAt? (s : Settings.Log) (path : String) (t : Instant) : Option (String × String) :=
  let directory := match Files.Path.parent? path with
    | none => "."
    | some d => if d.isEmpty then "." else d
  (Files.Path.fileName? path).map fun name =>
    (directory, Files.Path.join directory (fileNameAt s.rotation name t))

/-- Opens a file for writing events, if need be after making its directory. -/
def openFile (path filter : String) : Plan Disk (Except Trouble Unit) := do
  match ← Disk.openLog path filter with
  | .ok () => return .ok ()
  | .error _ =>
    let failed (what : String) (fault : Files.Fault) : Trouble :=
      ⟨what ++ ": " ++ fault.message, [fault.message]⟩
    match ← Disk.makeDirectories ((Files.Path.parent? path).getD "") with
    | .error fault => return .error (failed "failed to create log directory" fault)
    | .ok () =>
      return (← Disk.openLog path filter).mapError (failed "failed to create initial log file")

/-- Opens the log file at an instant. Older files of that name are left alone, whatever the settings say
of how many there may be. -/
def openLogFile (s : Settings.Log) (path : String) (t : Instant) :
    Plan Disk (Except Trouble Unit) := do
  match fileAt? s path t with
  | none => return .error ⟨"log path has no file name: " ++ path, []⟩
  | some (directory, file) =>
    match ← Disk.makeDirectories directory with
    | .error fault =>
      return .error ⟨"cannot create log directory " ++ directory, [fault.message]⟩
    | .ok () =>
      let opened ← openFile file s.fileLevel
      return opened.mapError fun trouble => trouble.within ("cannot open log file " ++ path)

/-- Sets up logging to the console and, if a path is given, to a file. -/
def setUp (s : Settings.Log) (env : Environment) (file : Option String) (verbose : Bool) :
    Plan Host (Except Trouble Unit) :=
  match checkConsole s env verbose, file with
  | .error trouble, _ => return .error trouble
  | .ok (), none => return .ok ()
  | .ok (), some path =>
    match checkFilter "invalid log file level: " s.fileLevel with
    | .error trouble => return .error trouble
    | .ok () => do Host.onDisk (openLogFile s path (← Host.now))

end Enrollment.Log
