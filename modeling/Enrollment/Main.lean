import Enrollment.Program
import Std.Time.DateTime.Timestamp
/-!
# The command line

Runs the program on the machine at hand, with its disk, its clock and its terminal. There is no
network in here: every request is answered as one that reached nobody.
-/

namespace Enrollment.Machine

/-- The fault that an error of the system stands for. -/
def faultOf : IO.Error → Files.Fault
  | .noFileOrDirectory _ _ _ => .notFound
  | .alreadyExists _ _ _ => .exists
  | .inappropriateType _ 20 _ => .notDirectory
  | .inappropriateType _ 21 _ => .isDirectory
  | .resourceBusy _ _ => .busy
  | e => .other (toString e)

/-- Does something on the disk, and says why if it fails. -/
def attempted {α : Type} (act : IO α) : IO (Except Files.Fault α) := do
  try
    return .ok (← act)
  catch e =>
    return .error (faultOf e)

/-- Prints an event that a user should know of. -/
def showEvent (e : Log.Event) : IO Unit :=
  if e.level = .warn ∨ e.level = .error then IO.eprintln (e.level.name ++ " " ++ e.message)
  else return ()

def answerDisk : (s : Files.Step) → IO s.Answer
  | .read path => attempted do return (← IO.FS.readBinFile path).toList
  | .probe path => do
    match ← attempted (IO.FS.Handle.mk path .read) with
    | .error .notFound => return false
    | .error .notDirectory => return false
    | _ => return true
  | .makeDirectories path => attempted (IO.FS.createDirAll path)
  | .write path content => attempted (IO.FS.writeBinFile path ⟨content.toArray⟩)
  | .move source target => attempted (IO.FS.rename source target)
  | .remove path => attempted (IO.FS.removeFile path)
  | .openLog path _ => attempted do
    let _ ← IO.FS.Handle.mk path .append
  | .note e => showEvent e

def answerWire : (r : Client.WireRequest) → IO r.Answer
  | .send _ _ => return .unreachable
  | .wait s => IO.sleep (UInt32.ofNat (min s.millis 4294967295))
  | .note e => showEvent e

def epoch : Instant :=
  ⟨0, 0, 0, by decide, by decide, by decide, by decide, by decide⟩

def answerHost : (s : Host.Step) → IO s.Answer
  | .disk s => answerDisk s
  | .wire r => answerWire r
  | .now => do
    let t ← Std.Time.Timestamp.now
    return (Instant.ofNanoCount? t.toNanosecondsSinceUnixEpoch.val).getD epoch
  | .note e => showEvent e
  | .print s => IO.print s

/-- Runs a plan on the machine at hand. -/
def onMachine {α : Type} : Plan Host α → IO α
  | .done a => return a
  | .ask s next => do onMachine (next (← answerHost s))

/-- The variables that the program was started with. -/
def processEnvironment : IO Environment := do
  let block ← IO.FS.readBinFile "/proc/self/environ"
  return Environment.ofBlock (String.ofList (Text.decodeLenient block.toList))

/-- Runs the program, and tells the code that it ends with. -/
def runProgram (words : List String) : IO UInt32 := do
  let isTerminal ← (← IO.getStdout).isTty
  let ending ← onMachine (Program.run words (← processEnvironment) isTerminal)
  IO.eprint ending.complaint
  return UInt32.ofNat ending.code

end Enrollment.Machine

def main (words : List String) : IO UInt32 :=
  Enrollment.Machine.runProgram words
