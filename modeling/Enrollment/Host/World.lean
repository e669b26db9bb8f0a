import Enrollment.Files.Drive
import Enrollment.Host.Basic
import Enrollment.Http.Redirect
/-!
# A world in memory

A machine whose disk is a tree in memory, whose clock stands still, and whose network answers as
was written down before. What was sent, noted and printed is kept.
-/

namespace Enrollment.Host

open Client (WireRequest)

/-- What a server does with a request. -/
inductive Reply
  | answer (r : Http.Response)
  | close
  | hang
  deriving DecidableEq, Repr

/-- A machine in memory. -/
structure World where
  disk : Files.Tree
  online : Bool
  script : List Reply
  clock : Instant
  /-- The requests that arrived, the last one first. -/
  sent : List Http.Request := []
  events : List Log.Event := []
  printed : List String := []
  log : Option Files.Sink := none
  /-- What is written to a log file of an event that is noted at an instant. By default that is nothing. -/
  written : (filter : String) → Log.Event → Instant → Text.Bytes := fun _ _ _ => []

namespace World

/-- What a server without further instructions answers. -/
def unscripted : Http.Response :=
  ⟨500, [], some (Text.encodeUtf8 "unscripted".toList)⟩

def scribe (w : World) : Files.Scribe Unit :=
  fun filter e _ => (w.written filter e w.clock, ())

def drive (w : World) : Files.Drive Unit :=
  ⟨w.disk, w.log, ()⟩

def withDrive (w : World) (d : Files.Drive Unit) : World :=
  { w with disk := d.tree, log := d.log }

/-- Notes an event, and writes it to the log file. -/
def note (w : World) (e : Log.Event) : World :=
  let w := w.withDrive (w.drive.note w.scribe e)
  { w with events := e :: w.events }

/-- What comes of a request that arrived. -/
def outcomeOf : Option Reply → Http.Outcome
  | none => .answered unscripted
  | some (.answer r) => .answered r.arriving
  | some .close => .closed
  | some .hang => .timedOut

def exchange (r : Http.Request) (w : World) : Http.Outcome × World :=
  if !w.online || r.url.isSecure then (.unreachable, w)
  else
    (outcomeOf w.script.head?, { w with sent := r :: w.sent, script := w.script.tail })

/-- Sends a request, and goes where the answers send the client on to. -/
def send (w : World) (r : Http.Request) : Http.Outcome × World :=
  let way := Http.journey exchange r w
  (way.outcome, way.network)

def answerWire (w : World) : (r : WireRequest) → r.Answer × World
  | .send r _ => w.send r
  | .wait _ => ((), w)
  | .note e => ((), w.note e)

def answerDisk (w : World) : (s : Files.Step) → s.Answer × World
  | .note e => ((), w.note e)
  | s =>
    let (reply, d) := Files.Drive.answer w.scribe s w.drive
    (reply, w.withDrive d)

def answer : (s : Host.Step) → World → s.Answer × World
  | .disk s, w => w.answerDisk s
  | .wire r, w => w.answerWire r
  | .now, w => (w.clock, w)
  | .note e, w => ((), w.note e)
  | .print s, w => ((), { w with printed := s :: w.printed })

def run {α : Type} (w : World) (p : Plan Host α) : α × World :=
  p.run answer w

end World

end Enrollment.Host
