import Enrollment.Document.Codec
import Enrollment.Toml.Scalar
import Enrollment.Toml.Table
/-!
# Reading TOML

A text is read line by line into statements, which are followed one after the other. A text that is
not well-formed is no document at all, so no fault within it is reported.
-/

namespace Enrollment.Toml

open Document (Tree Codec Fault)

/-! ## Values -/

/-- Assigns a value in a table between braces; the tables that keys with points made grow. -/
def assignInline (members : Members) (key : List String) (value : Tree) : Option Members :=
  assign .header members key (.value value)

mutual

/-- Reads a value nested at most so deep; the bound is on the steps. -/
def readValue : Nat → Nat → List Char → Option (Tree × List Char)
  | 0, _, _ => none
  | bound + 1, depth, s =>
    match s with
    | '[' :: rest => if depth = 0 then none else readItems bound (depth - 1) [] rest
    | '\x7b' :: rest =>
      if depth = 0 then none
      else
        match skipBlanks rest with
        | '\x7d' :: rest => some (.record [] .closed, rest)
        | rest => readMembers bound (depth - 1) [] rest
    | 't' :: 'r' :: 'u' :: 'e' :: rest => some (.boolean true, rest)
    | 'f' :: 'a' :: 'l' :: 's' :: 'e' :: rest => some (.boolean false, rest)
    | '"' :: _ => (readText s).map fun (text, rest) => (.text (some (String.ofList text)), rest)
    | '\'' :: _ => (readText s).map fun (text, rest) => (.text (some (String.ofList text)), rest)
    | s => readDateOrNumber s

/-- Reads the items of a list behind those read before, backwards, and the bracket behind them. -/
def readItems : Nat → Nat → List Tree → List Char → Option (Tree × List Char)
  | 0, _, _, _ => none
  | bound + 1, depth, done, s =>
    match skipLines s.length s with
    | ']' :: rest => some (.list done.reverse .closed, rest)
    | s =>
      match readValue bound depth s with
      | none => none
      | some (t, rest) =>
        match skipLines rest.length rest with
        | ',' :: rest => readItems bound depth (t :: done) rest
        | ']' :: rest => some (.list (t :: done).reverse .closed, rest)
        | _ => none

/-- Reads the members of a table between braces behind those read before, and the brace behind
them. -/
def readMembers : Nat → Nat → Members → List Char → Option (Tree × List Char)
  | 0, _, _, _ => none
  | bound + 1, depth, members, s =>
    match readKey depthLimit s with
    | some (key, '=' :: rest) =>
      match readValue bound depth (skipBlanks rest) with
      | none => none
      | some (t, rest) =>
        match assignInline members key t, skipBlanks rest with
        | some members, ',' :: rest => readMembers bound depth members rest
        | some members, '\x7d' :: rest => some ((Item.table .header members).tree, rest)
        | _, _ => none
    | _ => none

end

/-! ## Documents -/

/-- The key of a header, of which the last part is the table that it opens. -/
def headerKey (key : List String) : Option (List String × String) :=
  match key.getLast? with
  | some last => some (key.dropLast, last)
  | none => none

/-- Reads a statement and the rest of its line. -/
def readStatement (s : List Char) : Option (Statement × List Char) :=
  match s with
  | '[' :: '[' :: rest => do
    let (key, rest) ← readKey depthLimit rest
    let (path, key) ← headerKey key
    match rest with
    | ']' :: ']' :: rest => some (.next path key, ← skipRestOfLine? rest)
    | _ => none
  | '[' :: rest => do
    let (key, rest) ← readKey depthLimit rest
    let (path, key) ← headerKey key
    match rest with
    | ']' :: rest => some (.table path key, ← skipRestOfLine? rest)
    | _ => none
  | s => do
    let (key, rest) ← readKey depthLimit s
    match rest with
    | '=' :: rest =>
      let (t, rest) ← readValue (rest.length + 1) depthLimit (skipBlanks rest)
      some (.assign key t, ← skipRestOfLine? rest)
    | _ => none

/-- Reads statements and follows them; the bound is on their number. -/
def readStatements : Nat → Outline → List Char → Option Outline
  | 0, _, _ => none
  | bound + 1, o, s =>
    let s := skipBlanks (skipLines s.length s)
    match skipComment s with
    | [] => some o
    | _ =>
      match readStatement s with
      | none => none
      | some (statement, rest) =>
        match o.follow statement with
        | some o => readStatements bound o rest
        | none => none

/-- What a reader sees of a text: a record, or nothing of it. -/
def read (s : String) : Tree :=
  let s := match s.toList with
    | '\uFEFF' :: rest => rest
    | s => s
  match readStatements (s.length + 1) {} s with
  | some o => (Item.table .header o.root).tree
  | none => .broken

/-- Reads a value of a type. Faults are not told apart. -/
def decode {α : Type} (c : Codec α) (s : String) : Except Fault α :=
  (c.decode .toml (read s)).mapError fun _ => .malformed

end Enrollment.Toml
