import Enrollment.Files.Path
import Enrollment.Files.Request
/-!
# A file system in memory

Files and directories below one root, with a directory from which paths that do not start at the
root are followed. Directories are entered one after the other, so a path through something that
is missing, or that is no directory, leads nowhere.

Main statements: what was put somewhere is found there, and what lies elsewhere stays
(`entryAt?_put`, `entryAt?_put_of_ne`, `entryAt?_drop`, `entryAt?_drop_of_ne`).
-/

namespace Enrollment.Files

open Text (Bytes)

/-- What lies at a place. -/
inductive Entry
  | file (content : Bytes)
  | directory
  | sealedDirectory
  deriving DecidableEq, Repr

def Entry.isDirectory : Entry → Bool
  | file _ => false
  | _ => true

abbrev Place := List String

structure Tree where
  entries : List (Place × Entry)
  here : Place
  deriving DecidableEq, Repr

namespace Tree

def entryAt? (t : Tree) (place : Place) : Option Entry :=
  if place = [] then some .directory
  else (t.entries.find? fun e => e.1 == place).map (·.2)

/-- The tree without what lies at a place. -/
def drop (t : Tree) (place : Place) : Tree :=
  { t with entries := t.entries.filter fun e => e.1 != place }

/-- The tree with something else at a place. -/
def put (t : Tree) (place : Place) (entry : Entry) : Tree :=
  { t with entries := (place, entry) :: (t.drop place).entries }

theorem find?_filter_ne {entries : List (Place × Entry)} {place other : Place}
    (h : other ≠ place) :
    (entries.filter fun e => e.1 != place).find? (fun e => e.1 == other) =
      entries.find? fun e => e.1 == other := by
  induction entries with
  | nil => rfl
  | cons e rest ih =>
    by_cases he : e.1 = place
    · have ho : (e.1 == other) = false := by
        rw [he]
        exact beq_false_of_ne (Ne.symm h)
      simp [he, ih, beq_false_of_ne (Ne.symm h)]
    · simp only [List.filter_cons, bne_iff_ne, ne_eq, he, not_false_eq_true, ↓reduceIte,
        List.find?_cons, ih]

theorem entryAt?_drop {t : Tree} {place : Place} (h : place ≠ []) :
    (t.drop place).entryAt? place = none := by
  simp [entryAt?, drop, h]

theorem entryAt?_drop_of_ne {t : Tree} {place other : Place} (h : other ≠ place) :
    (t.drop place).entryAt? other = t.entryAt? other := by
  unfold entryAt? drop
  split
  · rfl
  · rw [find?_filter_ne h]

theorem entryAt?_put {t : Tree} {place : Place} {entry : Entry} (h : place ≠ []) :
    (t.put place entry).entryAt? place = some entry := by
  simp [entryAt?, put, h]

theorem entryAt?_put_of_ne {t : Tree} {place other : Place} {entry : Entry} (h : other ≠ place) :
    (t.put place entry).entryAt? other = t.entryAt? other := by
  have hb : (place == other) = false := beq_false_of_ne (Ne.symm h)
  unfold entryAt? put
  split
  · rfl
  · simp only [List.find?_cons, hb]
    exact congrArg _ (find?_filter_ne h)

/-! ## Following paths -/

def nameLimit : Nat := 255

def pathLimit : Nat := 4095

def enter (t : Tree) : Place → List String → Except Fault Place
  | place, [] => .ok place
  | place, name :: rest =>
    if name = "." then t.enter place rest
    else if name = ".." then t.enter place.dropLast rest
    else if Text.byteLength name.toList > nameLimit then .error .nameTooLong
    else
      match t.entryAt? (place ++ [name]) with
      | none => .error .notFound
      | some entry =>
        if entry.isDirectory then t.enter (place ++ [name]) rest else .error .notDirectory

inductive Target
  | named (directory : Place) (name : String) (slash : Bool)
  | entered (place : Place)

def follow (t : Tree) (path : String) : Except Fault Target :=
  if path.toList.contains '\x00' then .error .badName
  else if path.isEmpty then .error .notFound
  else if Text.byteLength path.toList > pathLimit then .error .nameTooLong
  else
    let names := (Path.cut 0 [] path.toList).map fun p => String.ofList p.name
    let start := if Path.isAbsolute path then [] else t.here
    match names.getLast? with
    | none => .ok (.entered start)
    | some last =>
      match t.enter start names.dropLast with
      | .error fault => .error fault
      | .ok directory =>
        if last = "." then .ok (.entered directory)
        else if last = ".." then .ok (.entered directory.dropLast)
        else if Text.byteLength last.toList > nameLimit then .error .nameTooLong
        else .ok (.named directory last (path.toList.getLast? == some '/'))

def look (t : Tree) (path : String) : Except Fault Entry :=
  match t.follow path with
  | .error fault => .error fault
  | .ok (.entered _) => .ok .directory
  | .ok (.named directory name slash) =>
    match t.entryAt? (directory ++ [name]) with
    | none => .error .notFound
    | some entry => if slash && !entry.isDirectory then .error .notDirectory else .ok entry

def isDirectoryAt (t : Tree) (path : String) : Bool :=
  match t.look path with
  | .ok entry => entry.isDirectory
  | .error _ => false

/-- Whether things can be made in a directory. -/
def isOpen (t : Tree) (directory : Place) : Bool :=
  t.entryAt? directory != some .sealedDirectory

/-! ## The steps -/

def read (t : Tree) (path : String) : Except Fault Bytes :=
  match t.look path with
  | .error fault => .error fault
  | .ok (.file content) => .ok content
  | .ok _ => .error .isDirectory

/-- Opens a file for writing; if it is not there it is made. What it holds may be changed. -/
def openFile (t : Tree) (path : String) (change : Bytes → Bytes) : Except Fault Tree :=
  match t.follow path with
  | .error fault => .error fault
  | .ok (.entered _) => .error .isDirectory
  | .ok (.named directory name slash) =>
    if slash then .error .isDirectory
    else
      match t.entryAt? (directory ++ [name]) with
      | some (.file content) => .ok (t.put (directory ++ [name]) (.file (change content)))
      | some _ => .error .isDirectory
      | none =>
        if t.isOpen directory then .ok (t.put (directory ++ [name]) (.file (change [])))
        else .error .notFound

/-- Makes a file hold some bytes. -/
def write (t : Tree) (path : String) (content : Bytes) : Except Fault Tree :=
  t.openFile path fun _ => content

def makeDirectory (t : Tree) (path : String) : Except Fault Tree :=
  match t.follow path with
  | .error fault => .error fault
  | .ok (.entered _) => .error .exists
  | .ok (.named directory name _) =>
    if (t.entryAt? (directory ++ [name])).isSome then .error .exists
    else if t.isOpen directory then .ok (t.put (directory ++ [name]) .directory)
    else .error .notFound

/-- The tree behind a step, and what came of it. -/
def after (t : Tree) : Except Fault Tree → Except Fault Unit × Tree
  | .ok t => (.ok (), t)
  | .error fault => (.error fault, t)

/-- Makes a directory where the step may find that there is one. -/
def ensureDirectory (t : Tree) (path : String) : Except Fault Unit × Tree :=
  match t.makeDirectory path with
  | .ok t => (.ok (), t)
  | .error fault => (if t.isDirectoryAt path then .ok () else .error fault, t)

/-- Makes a directory and those above it; the bound is on how many there are. What was made above
stays where the step comes to nothing. -/
def makeDirectoriesUpTo (t : Tree) : Nat → String → Except Fault Unit × Tree
  | 0, _ => (.error .notFound, t)
  | bound + 1, path =>
    if path.isEmpty then (.ok (), t)
    else
      match t.makeDirectory path with
      | .error .notFound =>
        match Path.parent? path with
        | none => (.error (.other "failed to create whole tree"), t)
        | some above =>
          match t.makeDirectoriesUpTo bound above with
          | (.ok (), t) => t.ensureDirectory path
          | r => r
      | _ => t.ensureDirectory path

def makeDirectories (t : Tree) (path : String) : Except Fault Unit × Tree :=
  t.makeDirectoriesUpTo (path.length + 1) path

/-- Puts a file in the place of another. -/
def move (t : Tree) (source target : String) : Except Fault Tree :=
  match t.follow source, t.follow target with
  | .error fault, _ => .error fault
  | _, .error fault => .error fault
  | .ok (.entered _), _ => .error .busy
  | _, .ok (.entered _) => .error .busy
  | .ok (.named fromDirectory name sourceSlash), .ok (.named toDirectory toName targetSlash) =>
    match t.entryAt? (fromDirectory ++ [name]) with
    | none => .error .notFound
    | some (.file content) =>
      if sourceSlash || targetSlash then .error .notDirectory
      else
        match t.entryAt? (toDirectory ++ [toName]) with
        | some (.file _) =>
          .ok ((t.drop (fromDirectory ++ [name])).put (toDirectory ++ [toName]) (.file content))
        | some _ => .error .isDirectory
        | none =>
          if t.isOpen toDirectory then
            .ok ((t.drop (fromDirectory ++ [name])).put (toDirectory ++ [toName]) (.file content))
          else .error .notFound
    | some _ => .error (.other "Only files are moved")

def remove (t : Tree) (path : String) : Except Fault Tree :=
  match t.follow path with
  | .error fault => .error fault
  | .ok (.entered _) => .error .isDirectory
  | .ok (.named directory name slash) =>
    match t.entryAt? (directory ++ [name]) with
    | none => .error .notFound
    | some (.file _) =>
      if slash then .error .notDirectory else .ok (t.drop (directory ++ [name]))
    | some _ => .error .isDirectory

def answer (t : Tree) : (s : Step) → s.Answer × Tree
  | .read path => (t.read path, t)
  | .probe path => ((t.look path).toBool, t)
  | .makeDirectories path => t.makeDirectories path
  | .write path content => t.after (t.write path content)
  | .move source target => t.after (t.move source target)
  | .remove path => t.after (t.remove path)
  | .openLog path _ => t.after (t.openFile path id)
  | .note _ => ((), t)

end Tree

end Enrollment.Files
