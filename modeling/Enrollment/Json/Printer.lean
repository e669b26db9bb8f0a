import Enrollment.Document.Tree
import Enrollment.Text.Digits
/-!
# Writing JSON

The two written forms of a document: on one line without any blanks, and one member or item to a
line, indented by two blanks for each level. Of the characters of a text only quotes, backslashes
and control characters are escaped.
-/

namespace Enrollment.Json

open Document (Value)

/-- The letter that stands for a control character behind a backslash, if it has one. -/
def letterOf? (c : Char) : Option Char :=
  if c = '"' ∨ c = '\\' then some c
  else if c = '\x08' then some 'b'
  else if c = '\x0c' then some 'f'
  else if c = '\n' then some 'n'
  else if c = '\r' then some 'r'
  else if c = '\t' then some 't'
  else none

def writeChar (c : Char) : List Char :=
  match letterOf? c with
  | some letter => ['\\', letter]
  | none =>
    if c.toNat < 0x20 then
      ['\\', 'u', '0', '0', Text.digit (c.toNat / 16), Text.digit (c.toNat % 16)]
    else [c]

def writeText (s : String) : List Char :=
  '"' :: s.toList.flatMap writeChar ++ ['"']

/-- What stands between the parts of a document and has no meaning. -/
structure Spacing where
  line : Nat → List Char
  colon : List Char

def Spacing.compact : Spacing where
  line _ := []
  colon := [':']

def Spacing.indented : Spacing where
  line level := '\n' :: List.replicate (2 * level) ' '
  colon := [':', ' ']

/-- What follows an item: a comma, or nothing behind the last one. -/
def separator {α : Type} (rest : List α) : List Char :=
  if rest.isEmpty then [] else [',']

/-- What precedes a closing bracket; nothing if there are no items. -/
def Spacing.closing {α : Type} (spacing : Spacing) (level : Nat) (items : List α) : List Char :=
  if items.isEmpty then [] else spacing.line level

mutual

def write (spacing : Spacing) (level : Nat) : Value → List Char
  | .null => ['n', 'u', 'l', 'l']
  | .boolean true => ['t', 'r', 'u', 'e']
  | .boolean false => ['f', 'a', 'l', 's', 'e']
  | .natural n => Text.toDecimal n
  | .text s => writeText s
  | .list items =>
    '[' :: writeItems spacing (level + 1) items ++ spacing.closing level items ++ [']']
  | .record members =>
    '\x7b' :: writeMembers spacing (level + 1) members ++ spacing.closing level members ++
      ['\x7d']

def writeItems (spacing : Spacing) (level : Nat) : List Value → List Char
  | [] => []
  | v :: rest =>
    spacing.line level ++ write spacing level v ++ separator rest ++ writeItems spacing level rest

def writeMembers (spacing : Spacing) (level : Nat) : List (String × Value) → List Char
  | [] => []
  | (key, v) :: rest =>
    spacing.line level ++ writeText key ++ spacing.colon ++ write spacing level v ++
      separator rest ++ writeMembers spacing level rest

end

def compact (v : Value) : String :=
  String.ofList (write .compact 0 v)

/-- A document with a line for each member and item. -/
def pretty (v : Value) : String :=
  String.ofList (write .indented 0 v)

end Enrollment.Json
