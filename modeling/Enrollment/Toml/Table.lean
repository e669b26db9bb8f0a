import Enrollment.Document.Tree
/-!
# Tables of TOML

A document is a sequence of statements that open tables and assign values. A table may be opened
once, and only if what is there came about by opening tables below it; keys with points make
tables that no header opens, and assign nothing in tables that a header opened.
-/

namespace Enrollment.Toml

open Document (Tree)

/-- How a table came about. -/
inductive Origin
  | header
  | above
  | dotted
  deriving DecidableEq, Repr

/-- What a key stands for. -/
inductive Item
  | value (t : Tree)
  | table (origin : Origin) (members : List (String × Item))
  /-- Tables that were opened one after the other, the last one first. -/
  | tables (items : List (List (String × Item)))

abbrev Members := List (String × Item)

/-- What a key stands for in a table. -/
def Members.item? (members : Members) (key : String) : Option Item :=
  (members.find? fun m => m.1 == key).map (·.2)

/-- The table in which a key stands for something else; what is new comes last. -/
def Members.set (key : String) (item : Item) : Members → Members
  | [] => [(key, item)]
  | (k, v) :: rest => if k = key then (k, item) :: rest else (k, v) :: Members.set key item rest

/-- Assigns a value to a key, given the table that the key is in and how that table came about. -/
def assign (origin : Origin) (members : Members) : List String → Item → Option Members
  | [], _ => none
  | [key], item =>
    match members.item? key with
    | some _ => none
    | none => if origin = .above then none else some (members.set key item)
  | key :: rest, item =>
    match members.item? key with
    | none => (assign .dotted [] rest item).map fun inner => members.set key (.table .dotted inner)
    | some (.table .dotted inner) =>
      (assign .dotted inner rest item).map fun inner => members.set key (.table .dotted inner)
    | some (.table .above inner) =>
      (assign .above inner rest item).map fun inner => members.set key (.table .above inner)
    | some (.tables (last :: earlier)) =>
      (assign .above last rest item).map fun last => members.set key (.tables (last :: earlier))
    | _ => none

/-- Changes the table at the end of a path of headers, making those in between. -/
def alter (members : Members) (change : Members → Option Members) : List String → Option Members
  | [] => change members
  | key :: rest =>
    match members.item? key with
    | none => (alter [] change rest).map fun inner => members.set key (.table .above inner)
    | some (.table origin inner) =>
      (alter inner change rest).map fun inner => members.set key (.table origin inner)
    | some (.tables (last :: earlier)) =>
      (alter last change rest).map fun last => members.set key (.tables (last :: earlier))
    | _ => none

def openTable (key : String) (members : Members) : Option Members :=
  match members.item? key with
  | none => some (members.set key (.table .header []))
  | some (.table .above inner) => some (members.set key (.table .header inner))
  | _ => none

/-- Opens one more table of a list in another table. -/
def openNext (key : String) (members : Members) : Option Members :=
  match members.item? key with
  | none => some (members.set key (.tables [[]]))
  | some (.tables items) => some (members.set key (.tables ([] :: items)))
  | _ => none

/-- A line that says something. -/
inductive Statement
  | table (path : List String) (key : String)
  | next (path : List String) (key : String)
  | assign (key : List String) (value : Tree)

/-- A document as far as it was read: its root, and the path to the table that is open. -/
structure Outline where
  root : Members := []
  current : List String := []

def Outline.follow (o : Outline) : Statement → Option Outline
  | .table path key =>
    (alter o.root (openTable key) path).map fun root => ⟨root, path ++ [key]⟩
  | .next path key =>
    (alter o.root (openNext key) path).map fun root => ⟨root, path ++ [key]⟩
  | .assign key value =>
    (alter o.root (fun members => Toml.assign .header members key (.value value)) o.current).map
      fun root => ⟨root, o.current⟩

mutual

def Item.tree : Item → Tree
  | .value t => t
  | .table _ members => .record (memberTrees members) .closed
  | .tables items => .list (tableTrees items).reverse .closed

/-- The members of a table as those of a document. -/
def memberTrees : List (String × Item) → List (Option String × Tree)
  | [] => []
  | (key, item) :: rest => (some key, item.tree) :: memberTrees rest

def tableTrees : List (List (String × Item)) → List Tree
  | [] => []
  | members :: rest => .record (memberTrees members) .closed :: tableTrees rest

end

end Enrollment.Toml
