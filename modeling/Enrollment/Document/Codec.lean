import Enrollment.Document.Fault
import Enrollment.Document.Tree
import Enrollment.Instant.Text
/-!
# Codecs

How values of a type are read from a document and written to one.

A record is described once, field by field (`Layout`). From that description follow its written
form and both forms in which it is read: as members with names, in any order and with unknown ones
among them, and as a list of its fields in order. The first fault in the order of the text is
reported, a missing field when the record ends.

Main statements: the codecs of texts, truth values, words and addresses read back what they write,
and so do those of lists of such values and of values that may be left open.
-/

namespace Enrollment.Document

variable {α β ρ : Type}

/-- How values of a type are read and written. -/
structure Codec (α : Type) where
  decode : Format → Tree → Except Fault α
  encode : α → Value

/-- A fault if a list or a record was not read up to its end. -/
def Ending.check : Ending → Except Fault Unit
  | .closed => .ok ()
  | .broken => .error .malformed

/-- The natural that a numeral stands for, if it is written like one. -/
def Numeral.toNat? (n : Numeral) : Option Nat :=
  if n.negative || n.fraction.isSome || n.exponent.isSome then none
  else Text.ofDecimal? n.whole

namespace Codec

/-! ## Single values -/

def text : Codec String where
  decode
    | _, .text (some s) => .ok s
    | _, _ => .error .malformed
  encode := .text

def boolean : Codec Bool where
  decode
    | _, .boolean b => .ok b
    | _, _ => .error .malformed
  encode := .boolean

/-- The natural that a tree stands for, if there is one below a limit. -/
def naturalBelow (limit : Nat) : Tree → Except Fault Nat
  | .numeral n =>
    match n.toNat? with
    | some n => if n < limit then .ok n else .error .malformed
    | none => .error .malformed
  | _ => .error .malformed

/-- Naturals of 64 bits. -/
def word64 : Codec UInt64 where
  decode _ t := (naturalBelow UInt64.size t).map UInt64.ofNat
  encode n := .natural n.toNat

/-- Naturals of 32 bits. -/
def word32 : Codec UInt32 where
  decode _ t := (naturalBelow UInt32.size t).map UInt32.ofNat
  encode n := .natural n.toNat

def address : Codec Address where
  decode
    | _, .text (some s) =>
      match Address.parse s with
      | .ok a => .ok a
      | .error fault => .error (.address fault)
    | _, _ => .error .malformed
  encode a := .text a.text

def instant : Codec Instant where
  decode
    | _, .text (some s) =>
      match Instant.parse? s with
      | some t => .ok t
      | none => .error .malformed
    | _, _ => .error .malformed
  encode t := .text t.text

/-- Whether a tree is the way in which a notation writes that a name carries nothing. -/
def carriesNothing : Format → Tree → Bool
  | .json, .null => true
  | .toml, .list [] .closed => true
  | .toml, .record [] .closed => true
  | _, _ => false

def byName (name : α → String) (all : List α) (given : String) : Except Fault α :=
  match all.find? fun a => name a == given with
  | some a => .ok a
  | none => .error (.unknownVariant given (all.map name))

/-- Values with names, written as the name. A record with the name as its only key is read too. -/
def named (name : α → String) (all : List α) : Codec α where
  decode
    | _, .text (some s) => byName name all s
    | format, .record ((some key, payload) :: rest) ending => do
      let a ← byName name all key
      if carriesNothing format payload && rest.isEmpty && ending == .closed then .ok a
      else .error .malformed
    | _, _ => .error .malformed
  encode a := .text (name a)

/-! ## Values made of others -/

/-- A value that may be left open, written as null. -/
def optional (c : Codec α) : Codec (Option α) where
  decode
    | _, .null => .ok none
    | format, t => do
      let a ← c.decode format t
      .ok (some a)
  encode
    | none => .null
    | some a => c.encode a

def listOf (c : Codec α) : Codec (List α) where
  decode
    | format, .list items ending => do
      let values ← items.mapM (c.decode format)
      ending.check
      .ok values
    | _, _ => .error .malformed
  encode values := .list (values.map c.encode)

end Codec

/-! ## Records -/

/-- A field of a record: its name, and whether a value may stand there. -/
structure Field where
  name : String
  check : Format → Tree → Except Fault Unit

/-- The members of a record by name. -/
structure Members where
  find? : String → Option Tree
  missing : String → Fault

/-- The description of a record `ρ`, or of the first fields of one, from which a value of type `α`
is made. -/
structure Layout (ρ α : Type) where
  fields : List Field
  read : Format → Members → Except Fault α
  write : ρ → List (String × Value)

namespace Layout

def make (a : α) : Layout ρ α where
  fields := []
  read _ _ := .ok a
  write _ := []

/-- One field more: what stands for it when it is absent, and what is written of it. -/
def slot (l : Layout ρ (α → β)) (name : String) (absent : Option α) (c : Codec α)
    (written : ρ → Option α) : Layout ρ β where
  fields := l.fields ++ [⟨name, fun format t => (c.decode format t).map fun _ => ()⟩]
  read format members := do
    let f ← l.read format members
    match members.find? name, absent with
    | some t, _ => do
      let a ← c.decode format t
      .ok (f a)
    | none, some a => .ok (f a)
    | none, none => .error (members.missing name)
  write r := l.write r ++
    match written r with
    | some a => [(name, c.encode a)]
    | none => []

def required (l : Layout ρ (α → β)) (name : String) (c : Codec α) (get : ρ → α) : Layout ρ β :=
  l.slot name none c fun r => some (get r)

/-- A field that may be absent and has a value then. -/
def defaulted (l : Layout ρ (α → β)) (name : String) (c : Codec α) (absent : α) (get : ρ → α) :
    Layout ρ β :=
  l.slot name (some absent) c fun r => some (get r)

/-- A field that may be absent or null, and is left out where it is open. -/
def elided (l : Layout ρ (Option α → β)) (name : String) (c : Codec α) (get : ρ → Option α) :
    Layout ρ β :=
  l.slot name (some none) c.optional fun r => (get r).map some

/-- Checks members in the order of the text. Unknown ones have to be well-formed, known ones to
appear once and to have no fault. -/
def checkMembers (fields : List Field) (format : Format) :
    List String → List (Option String × Tree) → Except Fault Unit
  | _, [] => .ok ()
  | _, (none, _) :: _ => .error .malformed
  | seen, (some key, t) :: rest =>
    match fields.find? fun field => field.name == key with
    | none => if t.isWhole then checkMembers fields format seen rest else .error .malformed
    | some field =>
      if key ∈ seen then .error (.duplicateField key)
      else do
        field.check format t
        checkMembers fields format (key :: seen) rest

/-- Checks a list of values as the fields of a record in order. -/
def checkItems (format : Format) : List Field → List Tree → Except Fault Unit
  | _, [] => .ok ()
  | [], _ :: _ => .error .malformed
  | field :: fields, t :: rest => do
    field.check format t
    checkItems format fields rest

def membersOf (members : List (Option String × Tree)) : Members where
  find? name := (members.find? fun m => m.1 == some name).map fun m => m.2
  missing := .missingField

/-- The members of a record that is written as a list. -/
def itemsOf (fields : List Field) (items : List Tree) : Members where
  find? name := ((fields.zip items).find? fun m => m.1.name == name).map fun m => m.2
  missing _ := .malformed

def codec (l : Layout ρ ρ) : Codec ρ where
  decode
    | format, .record members ending => do
      checkMembers l.fields format [] members
      ending.check
      l.read format (membersOf members)
    | format, .list items ending => do
      checkItems format l.fields items
      ending.check
      l.read format (itemsOf l.fields items)
    | _, _ => .error .malformed
  encode r := .record (l.write r)

end Layout

/-! ## What is written reads back -/

namespace Codec

/-- What a codec writes of a value reads back as that value. -/
def Faithful (c : Codec α) (a : α) : Prop :=
  c.decode .json ((c.encode a).tree Text.toDecimal) = .ok a

theorem ok_bind {ε : Type} (a : α) (f : α → Except ε β) : (Except.ok a >>= f) = f a := rfl

theorem faithful_text (s : String) : text.Faithful s := rfl

theorem faithful_boolean (b : Bool) : boolean.Faithful b := rfl

theorem naturalBelow_tree {limit n : Nat} (h : n < limit) :
    naturalBelow limit ((Value.natural n).tree Text.toDecimal) = .ok n := by
  simp [naturalBelow, Value.tree, Numeral.toNat?, Text.ofDecimal?_toDecimal, h]

theorem faithful_word64 (n : UInt64) : word64.Faithful n := by
  simp only [Faithful, word64, naturalBelow_tree n.toNat_lt]
  simp [Except.map]

theorem faithful_word32 (n : UInt32) : word32.Faithful n := by
  simp only [Faithful, word32, naturalBelow_tree n.toNat_lt]
  simp [Except.map]

theorem faithful_address (a : Address) : address.Faithful a := by
  simp [Faithful, address, Value.tree, Address.parse_text]

theorem faithful_optional_none (c : Codec α) : c.optional.Faithful none := rfl

theorem faithful_optional_some {c : Codec α} {a : α} (h : c.Faithful a)
    (hnull : c.encode a ≠ .null) : c.optional.Faithful (some a) := by
  unfold Faithful at h
  simp only [Faithful, optional]
  cases hv : c.encode a with
  | null => exact absurd hv hnull
  | boolean b => simp only [hv, Value.tree] at h ⊢; rw [h]; rfl
  | natural n => simp only [hv, Value.tree] at h ⊢; rw [h]; rfl
  | text s => simp only [hv, Value.tree] at h ⊢; rw [h]; rfl
  | list items => simp only [hv, Value.tree] at h ⊢; rw [h]; rfl
  | record members => simp only [hv, Value.tree] at h ⊢; rw [h]; rfl

theorem faithful_listOf {c : Codec α} {values : List α} (h : ∀ a ∈ values, c.Faithful a) :
    c.listOf.Faithful values := by
  have hitems : (Value.trees Text.toDecimal (values.map c.encode)).mapM (c.decode .json) =
      .ok values := by
    induction values with
    | nil => rfl
    | cons a rest ih =>
      have ha : c.decode .json ((c.encode a).tree Text.toDecimal) = .ok a := h a List.mem_cons_self
      have hrest := ih fun b hb => h b (List.mem_cons_of_mem a hb)
      rw [List.map_cons, Value.trees, List.mapM_cons, ha, ok_bind, hrest, ok_bind]
      rfl
  simp only [Faithful, listOf, Value.tree, hitems, ok_bind, Ending.check]

end Codec

end Enrollment.Document
