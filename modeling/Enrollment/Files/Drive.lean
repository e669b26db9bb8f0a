import Enrollment.Files.Tree
/-!
# Drives

A file system with a log file that may be open. Events are written at its end as they are noted, also when
it was given another name in between, until it is removed or something else is put in its place. What is
written of an event, and whether anything is, is up to a scribe.
-/

namespace Enrollment.Files

open Text (Bytes)

/-- What writes events down: for a filter and an event, the bytes that are written, and a state to go on
with. -/
abbrev Scribe (τ : Type) := (filter : String) → Log.Event → τ → Bytes × τ

/-- An open log file. -/
structure Sink where
  place : Place
  filter : String
  deriving DecidableEq, Repr

/-- A file system, the log file that is open in it, and the state of a scribe. -/
structure Drive (τ : Type) where
  tree : Tree
  log : Option Sink := none
  scribe : τ

/-- The place of the file that a path names. -/
def Tree.placeAt? (t : Tree) (path : String) : Option Place :=
  match t.follow path with
  | .ok (.named directory name _) => some (directory ++ [name])
  | _ => none

/-- The tree with more bytes at the end of a file, if there is one. -/
def Tree.extend (t : Tree) (place : Place) (more : Bytes) : Tree :=
  match t.entryAt? place with
  | some (.file content) => t.put place (.file (content ++ more))
  | _ => t

/-- The log file when one file was put in the place of another. -/
def Sink.moved (source target : Option Place) (log : Sink) : Option Sink :=
  if source = some log.place then target.map fun place => { log with place }
  else if target = some log.place then none
  else some log

/-- The log file when a file was removed. -/
def Sink.kept (removed : Option Place) (log : Sink) : Option Sink :=
  if removed = some log.place then none else some log

namespace Drive

variable {τ : Type}

def note (scribe : Scribe τ) (e : Log.Event) (d : Drive τ) : Drive τ :=
  match d.log with
  | none => d
  | some log =>
    let (line, state) := scribe log.filter e d.scribe
    { d with tree := d.tree.extend log.place line, scribe := state }

def answer (scribe : Scribe τ) : (s : Step) → Drive τ → s.Answer × Drive τ
  | .openLog path filter, d =>
    match d.tree.openFile path id with
    | .ok tree => (.ok (), { d with tree, log := (d.tree.placeAt? path).map (⟨·, filter⟩) })
    | .error fault => (.error fault, d)
  | .move source target, d =>
    match d.tree.move source target with
    | .ok tree =>
      let log := d.log.bind (Sink.moved (d.tree.placeAt? source) (d.tree.placeAt? target))
      (.ok (), { d with tree, log })
    | .error fault => (.error fault, d)
  | .remove path, d =>
    match d.tree.remove path with
    | .ok tree => (.ok (), { d with tree, log := d.log.bind (Sink.kept (d.tree.placeAt? path)) })
    | .error fault => (.error fault, d)
  | .note e, d => ((), d.note scribe e)
  | .read path, d => (d.tree.read path, d)
  | .probe path, d => ((d.tree.look path).toBool, d)
  | .makeDirectories path, d =>
    ((d.tree.makeDirectories path).1, { d with tree := (d.tree.makeDirectories path).2 })
  | .write path content, d =>
    match d.tree.write path content with
    | .ok tree => (.ok (), { d with tree })
    | .error fault => (.error fault, d)

end Drive

end Enrollment.Files
