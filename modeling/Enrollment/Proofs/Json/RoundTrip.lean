import Enrollment.Proofs.Json.Grammar
/-!
# Written JSON reads back

A document that was written, on one line or indented, reads back as the tree of its value, because
it is written as the grammar has it. What stands between the parts has to be blank
(`Spacing.Blank`).

Results:
 1. `spells_write`, `spellsItems_write`, `spellsMembers_write`: a written part is in the grammar.
 2. `decode_pretty`, `decode_compact`: what a codec writes and reads back as a tree, it reads back
    as a text.
-/

namespace Enrollment.Json

open Document (Value Tree Codec Fault)
open Text (toDecimal)

/-- Only blanks stand between the parts of a document. -/
structure Spacing.Blank (spacing : Spacing) : Prop where
  line : ∀ level, ∀ c ∈ spacing.line level, isSpace c = true
  colon : ∃ blanks, spacing.colon = ':' :: blanks ∧ ∀ c ∈ blanks, isSpace c = true

theorem blank_compact : Spacing.compact.Blank where
  line _ c hc := by cases hc
  colon := ⟨[], rfl, fun c hc => by cases hc⟩

theorem blank_indented : Spacing.indented.Blank where
  line level c hc := by
    rcases List.mem_cons.1 hc with rfl | hc
    · rfl
    · rw [List.eq_of_mem_replicate hc]
      rfl
  colon := ⟨[' '], rfl, fun c hc => by rw [List.mem_singleton.1 hc]; rfl⟩

theorem Spacing.Blank.closing {spacing : Spacing} (h : spacing.Blank) {α : Type} (level : Nat)
    (items : List α) : ∀ c ∈ spacing.closing level items, isSpace c = true := by
  unfold Spacing.closing
  split
  · intro c hc
    cases hc
  · exact h.line level

/-! ## Whole documents -/

section

variable {spacing : Spacing}

theorem spellsKey_write (hspacing : spacing.Blank) (level : Nat) (key : String) :
    SpellsKey key (spacing.line level ++ writeText key) := by
  have h := SpellsKey.mk (hspacing.line level) (writesAll_written key.toList) allSpace_nil
  rw [String.ofList_toList] at h
  rwa [← List.append_nil (writeText key), writeText_append]

mutual

theorem spells_write (hspacing : spacing.Blank) : (v : Value) → (level : Nat) →
    Spells (v.tree toDecimal) (write spacing level v)
  | .null, _ => .null
  | .boolean true, _ => .yes
  | .boolean false, _ => .no
  | .natural n, _ => .numeral (spellsNumeral_natural n)
  | .text s, _ => by
    have h := Spells.text (writesAll_written s.toList)
    rw [String.ofList_toList] at h
    exact h
  | .list [], _ => .emptyList allSpace_nil
  | .list (v :: items), level => by
    rw [write, List.cons_append, List.cons_append]
    exact .list (spellsItems_write hspacing (v :: items) (List.cons_ne_nil v items) (level + 1)
      (hspacing.closing level (v :: items)))
  | .record [], _ => .emptyRecord allSpace_nil
  | .record ((key, v) :: members), level => by
    rw [write, List.cons_append, List.cons_append]
    exact .record (spellsMembers_write hspacing ((key, v) :: members)
      (List.cons_ne_nil (key, v) members) (level + 1)
      (hspacing.closing level ((key, v) :: members)))

theorem spellsItems_write (hspacing : spacing.Blank) : (items : List Value) → items ≠ [] →
    (level : Nat) → {close : List Char} → AllSpace close →
    SpellsItems (Value.trees toDecimal items) (writeItems spacing level items ++ close)
  | [], hne, _, _, _ => absurd rfl hne
  | [v], _, level, close, hclose => by
    simp only [writeItems, separator, List.isEmpty_nil, ↓reduceIte, List.append_nil,
      List.append_assoc]
    exact .last (.mk (hspacing.line level) (spells_write hspacing v level) hclose)
  | v :: w :: items, _, level, close, hclose => by
    have h := SpellsPadded.mk (hspacing.line level) (spells_write hspacing v level) allSpace_nil
    rw [writeItems]
    simp only [separator, List.isEmpty_cons, Bool.false_eq_true, ↓reduceIte, List.append_assoc,
      List.cons_append, List.nil_append]
    rw [List.append_nil] at h
    rw [← List.append_assoc]
    exact .more h (spellsItems_write hspacing (w :: items) (List.cons_ne_nil w items) level hclose)

theorem spellsMembers_write (hspacing : spacing.Blank) : (members : List (String × Value)) →
    members ≠ [] → (level : Nat) → {close : List Char} → AllSpace close →
    SpellsMembers (Value.memberTrees toDecimal members)
      (writeMembers spacing level members ++ close)
  | [], hne, _, _, _ => absurd rfl hne
  | [(key, v)], _, level, close, hclose => by
    have hkey := spellsKey_write hspacing level key
    obtain ⟨blanks, hcolon, hblanks⟩ := hspacing.colon
    simp only [writeMembers, separator, List.isEmpty_nil, ↓reduceIte, List.append_nil, hcolon,
      List.append_assoc, List.cons_append]
    rw [← List.append_assoc]
    exact .last hkey (.mk hblanks (spells_write hspacing v level) hclose)
  | (key, v) :: (next, w) :: members, _, level, close, hclose => by
    have hkey := spellsKey_write hspacing level key
    obtain ⟨blanks, hcolon, hblanks⟩ := hspacing.colon
    have h := SpellsPadded.mk hblanks (spells_write hspacing v level) allSpace_nil
    rw [writeMembers]
    simp only [separator, List.isEmpty_cons, Bool.false_eq_true, ↓reduceIte, hcolon,
      List.append_assoc, List.cons_append, List.nil_append]
    rw [List.append_nil] at h
    rw [← List.append_assoc, ← List.append_assoc blanks]
    exact .more hkey h (spellsMembers_write hspacing ((next, w) :: members)
      (List.cons_ne_nil (next, w) members) level hclose)

end

/-- A written document is read up to its end. -/
theorem read_write (hspacing : spacing.Blank) (v : Value) :
    read (String.ofList (write spacing 0 v)) = (v.tree toDecimal, true) := by
  have h := SpellsPadded.mk allSpace_nil (spells_write hspacing v 0) allSpace_nil
  rw [List.nil_append, List.append_nil] at h
  refine read_of_spellsPadded ?_
  rw [String.toList_ofList]
  exact h

end

variable {α : Type}

/-- What a codec writes and reads back as a tree, it reads back as a text. -/
theorem decode_write {spacing : Spacing} (hspacing : spacing.Blank) {c : Codec α} {a : α}
    (h : c.Faithful a) :
    decode c (String.ofList (write spacing 0 (c.encode a))) = .ok a := by
  unfold decode
  rw [read_write hspacing]
  show (c.decode .json ((c.encode a).tree toDecimal) >>= fun a =>
    if true then Except.ok a else .error Fault.malformed) = .ok a
  rw [h]
  rfl

theorem decode_pretty {c : Codec α} {a : α} (h : c.Faithful a) :
    decode c (pretty (c.encode a)) = .ok a :=
  decode_write blank_indented h

theorem decode_compact {c : Codec α} {a : α} (h : c.Faithful a) :
    decode c (compact (c.encode a)) = .ok a :=
  decode_write blank_compact h

end Enrollment.Json
