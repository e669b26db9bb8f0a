/-!
# Documents

Two views of a structured document. A `Tree` is what a reader saw of a text: it keeps numerals as
they were written, and it says where the text stopped being well-formed, because a fault in front
of that place is to be reported first. A `Value` is what a printer writes.

Main statement: the tree of a value is whole (`Value.isWhole_tree`).
-/

namespace Enrollment.Document

/-- The notation a document is written in. -/
inductive Format
  | json
  | toml
  deriving DecidableEq, Repr

structure Numeral where
  negative : Bool
  whole : List Char
  fraction : Option (List Char)
  exponent : Option (Bool × List Char)
  deriving DecidableEq, Repr

/-- Whether a list or a record was read up to its end. -/
inductive Ending
  | closed
  | broken
  deriving DecidableEq, Repr

/-- What a reader saw of a document. -/
inductive Tree
  | null
  | boolean (b : Bool)
  | numeral (n : Numeral)
  /-- A text; none if an escape in it stands for no character. -/
  | text (s : Option String)
  | list (items : List Tree) (ending : Ending)
  /-- Members in order of appearance, with a key that is none like such a text. -/
  | record (members : List (Option String × Tree)) (ending : Ending)
  | broken

/-- What a printer writes. -/
inductive Value
  | null
  | boolean (b : Bool)
  | natural (n : Nat)
  | text (s : String)
  | list (items : List Value)
  | record (members : List (String × Value))

namespace Tree

mutual

/-- Whether no part of a tree is broken. -/
def isWhole : Tree → Bool
  | null => true
  | boolean _ => true
  | numeral _ => true
  | text _ => true
  | list items ending => ending == .closed && areWhole items
  | record members ending => ending == .closed && membersWhole members
  | broken => false

/-- Whether no part of some trees is broken. -/
def areWhole : List Tree → Bool
  | [] => true
  | t :: rest => isWhole t && areWhole rest

/-- Whether the values of some members are all there; their keys stand for nothing here. -/
def membersWhole : List (Option String × Tree) → Bool
  | [] => true
  | (_, t) :: rest => isWhole t && membersWhole rest

end

end Tree

namespace Value

mutual

/-- The tree that a reader sees of a written value. -/
def tree (digits : Nat → List Char) : Value → Tree
  | null => .null
  | boolean b => .boolean b
  | natural n => .numeral ⟨false, digits n, none, none⟩
  | text s => .text (some s)
  | list items => .list (trees digits items) .closed
  | record members => .record (memberTrees digits members) .closed

def trees (digits : Nat → List Char) : List Value → List Tree
  | [] => []
  | v :: rest => tree digits v :: trees digits rest

def memberTrees (digits : Nat → List Char) : List (String × Value) → List (Option String × Tree)
  | [] => []
  | (key, v) :: rest => (some key, tree digits v) :: memberTrees digits rest

end

mutual

theorem isWhole_tree (digits : Nat → List Char) : (v : Value) → (v.tree digits).isWhole = true
  | null => rfl
  | boolean _ => rfl
  | natural _ => rfl
  | text _ => rfl
  | list items => by simp [tree, Tree.isWhole, areWhole_trees digits items]
  | record members => by simp [tree, Tree.isWhole, membersWhole_memberTrees digits members]

theorem areWhole_trees (digits : Nat → List Char) :
    (vs : List Value) → Tree.areWhole (trees digits vs) = true
  | [] => rfl
  | v :: rest => by
    simp [trees, Tree.areWhole, isWhole_tree digits v, areWhole_trees digits rest]

theorem membersWhole_memberTrees (digits : Nat → List Char) :
    (ms : List (String × Value)) → Tree.membersWhole (memberTrees digits ms) = true
  | [] => rfl
  | (_, v) :: rest => by
    simp [memberTrees, Tree.membersWhole, isWhole_tree digits v,
      membersWhole_memberTrees digits rest]

end

end Value

end Enrollment.Document
