import Enrollment.Proofs.Json.Numeral
import Enrollment.Proofs.Json.Text
/-!
# How values are written in JSON

The grammar of JSON, as a relation between a tree and the characters it is written with: blanks may
stand around every value and every key, and nowhere else. Of a tree without broken parts and without
characters that stand for nothing, the reader sees exactly what is written.

Results:
 1. `readValue_of_spells`, `readItems_of_spells`, `readMembers_of_spells`: what is written is read,
    and what follows it is left.
 2. `read_of_spellsPadded`: a written document is read up to its end.
-/

namespace Enrollment.Json

open Document (Tree)

/-! ## The grammar -/

def AllSpace (s : List Char) : Prop :=
  ∀ c ∈ s, isSpace c = true

/-- A key is a text between quotes, with blanks around. -/
inductive SpellsKey : String → List Char → Prop
  | mk {before cs s behind : List Char} (hbefore : AllSpace before) (h : WritesAll cs s)
      (hbehind : AllSpace behind) :
      SpellsKey (String.ofList cs) (before ++ '"' :: (s ++ '"' :: behind))

mutual

/-- A value is written as a word, a numeral, a text between quotes, a list or a record. -/
inductive Spells : Tree → List Char → Prop
  | null : Spells .null ['n', 'u', 'l', 'l']
  | yes : Spells (.boolean true) ['t', 'r', 'u', 'e']
  | no : Spells (.boolean false) ['f', 'a', 'l', 's', 'e']
  | numeral {n s} (h : SpellsNumeral n s) : Spells (.numeral n) s
  | text {cs s} (h : WritesAll cs s) :
      Spells (.text (some (String.ofList cs))) ('"' :: (s ++ ['"']))
  | emptyList {blanks} (h : AllSpace blanks) : Spells (.list [] .closed) ('[' :: (blanks ++ [']']))
  | list {items s} (h : SpellsItems items s) : Spells (.list items .closed) ('[' :: (s ++ [']']))
  | emptyRecord {blanks} (h : AllSpace blanks) :
      Spells (.record [] .closed) ('\x7b' :: (blanks ++ ['\x7d']))
  | record {members s} (h : SpellsMembers members s) :
      Spells (.record members .closed) ('\x7b' :: (s ++ ['\x7d']))

/-- A value with blanks around. A document is written in this way. -/
inductive SpellsPadded : Tree → List Char → Prop
  | mk {t before s behind} (hbefore : AllSpace before) (h : Spells t s)
      (hbehind : AllSpace behind) :
      SpellsPadded t (before ++ (s ++ behind))

/-- One or more items, with commas in between. -/
inductive SpellsItems : List Tree → List Char → Prop
  | last {t s} (h : SpellsPadded t s) : SpellsItems [t] s
  | more {t items s u} (h : SpellsPadded t s) (hu : SpellsItems items u) :
      SpellsItems (t :: items) (s ++ ',' :: u)

/-- One or more members, with commas in between, and with a colon between a key and its value. -/
inductive SpellsMembers : List (Option String × Tree) → List Char → Prop
  | last {key t s u} (hkey : SpellsKey key s) (h : SpellsPadded t u) :
      SpellsMembers [(some key, t)] (s ++ ':' :: u)
  | more {key t members s u v} (hkey : SpellsKey key s) (h : SpellsPadded t u)
      (hv : SpellsMembers members v) :
      SpellsMembers ((some key, t) :: members) (s ++ ':' :: (u ++ ',' :: v))

end

/-! ## Blanks -/

theorem allSpace_nil : AllSpace [] := by
  intro c hc
  cases hc

/-- Blanks in front of something clear are clear. -/
theorem Clear.blanks {blanks s : List Char} (hblanks : AllSpace blanks) (h : Clear s) :
    Clear (blanks ++ s) := by
  cases blanks with
  | nil => exact h
  | cons c blanks =>
    refine clear_cons _ ?_
    have hc := hblanks c List.mem_cons_self
    simp only [isSpace, Bool.or_eq_true, beq_iff_eq] at hc
    rcases hc with ((rfl | rfl) | rfl) | rfl <;> decide

theorem skipSpace_blanks {blanks : List Char} (h : AllSpace blanks) {c : Char}
    (hc : isSpace c = false) (s : List Char) : skipSpace (blanks ++ c :: s) = c :: s := by
  unfold skipSpace
  rw [List.dropWhile_append_of_pos h, List.dropWhile_cons_of_neg (by simp [hc])]

/-- What is skipped are blanks. -/
theorem eq_blanks_skipSpace (s : List Char) :
    ∃ blanks, AllSpace blanks ∧ s = blanks ++ skipSpace s :=
  ⟨s.takeWhile isSpace, fun _ hc => List.mem_takeWhile_imp hc, List.takeWhile_append_dropWhile.symm⟩

/-! ## One step of the reader -/

theorem readValue_scalar {bound : Nat} {s s' : List Char} {c : Char} (hs : skipSpace s = c :: s')
    (hquote : c ≠ '"') (hlist : c ≠ '[') (hrecord : c ≠ '\x7b') :
    readValue (bound + 1) s = readScalar (c :: s') := by
  rw [readValue, hs]
  split
  · next heq => exact absurd (List.cons.inj heq).1 hquote
  · next heq => exact absurd (List.cons.inj heq).1 hlist
  · next heq => exact absurd (List.cons.inj heq).1 hrecord
  · rfl

theorem readValue_items {bound : Nat} {s inner c cs} (hs : skipSpace s = '[' :: inner)
    (hinner : skipSpace inner = c :: cs) (hc : c ≠ ']') :
    readValue (bound + 1) s =
      (.list (readItems bound inner).1 (endingOf (readItems bound inner).2),
        (readItems bound inner).2) := by
  rw [readValue, hs]
  simp only [hinner]
  split
  · next heq => exact absurd (List.cons.inj heq).1 hc
  · rfl

theorem readValue_members {bound : Nat} {s inner c cs} (hs : skipSpace s = '\x7b' :: inner)
    (hinner : skipSpace inner = c :: cs) (hc : c ≠ '\x7d') :
    readValue (bound + 1) s =
      (.record (readMembers bound inner).1 (endingOf (readMembers bound inner).2),
        (readMembers bound inner).2) := by
  rw [readValue, hs]
  simp only [hinner]
  split
  · next heq => exact absurd (List.cons.inj heq).1 hc
  · rfl

/-- A decimal digit or a minus starts no other value. -/
theorem SpellsNumeral.start {n : Document.Numeral} {s : List Char} (h : SpellsNumeral n s) :
    ∃ c cs, s = c :: cs ∧ isSpace c = false ∧ c ≠ '"' ∧ c ≠ '[' ∧ c ≠ '\x7b' ∧ c ≠ ']' ∧ c ≠ 'n' ∧
      c ≠ 't' ∧ c ≠ 'f' := by
  obtain ⟨c, cs, hs, hc⟩ := h.head
  refine ⟨c, cs, hs, ?_⟩
  rcases hc with rfl | hc
  · decide
  · refine ⟨?_, ?_, ?_, ?_, ?_, ?_, ?_, ?_⟩
    · rw [Bool.eq_false_iff]
      intro hspace
      simp only [isSpace, Bool.or_eq_true, beq_iff_eq] at hspace
      rcases hspace with ((rfl | rfl) | rfl) | rfl <;> exact absurd hc (by decide)
    all_goals
      rintro rfl
      exact absurd hc (by decide)

theorem readScalar_numeral {n : Document.Numeral} {s rest : List Char} (h : SpellsNumeral n s)
    (hrest : Clear rest) : readScalar (s ++ rest) = (.numeral n, some rest) := by
  obtain ⟨c, cs, hs, -, -, -, -, -, hn, ht, hf⟩ := h.start
  unfold readScalar
  split
  · next heq =>
    rw [hs, List.cons_append, List.cons.injEq] at heq
    exact absurd heq.1 hn
  · next heq =>
    rw [hs, List.cons_append, List.cons.injEq] at heq
    exact absurd heq.1 ht
  · next heq =>
    rw [hs, List.cons_append, List.cons.injEq] at heq
    exact absurd heq.1 hf
  · rw [readNumeral_of_spells h hrest]

/-! ## What is written is read -/

/-- What a value starts with is neither a blank nor the end of a list. -/
theorem Spells.head {t : Tree} {s : List Char} (h : Spells t s) :
    ∃ c cs, s = c :: cs ∧ isSpace c = false ∧ c ≠ ']' := by
  cases h with
  | null => exact ⟨'n', _, rfl, by decide⟩
  | yes => exact ⟨'t', _, rfl, by decide⟩
  | no => exact ⟨'f', _, rfl, by decide⟩
  | numeral h =>
    obtain ⟨c, cs, hs, hspace, -, -, -, hend, -⟩ := h.start
    exact ⟨c, cs, hs, hspace, hend⟩
  | text => exact ⟨'"', _, rfl, by decide⟩
  | emptyList => exact ⟨'[', _, rfl, by decide⟩
  | list => exact ⟨'[', _, rfl, by decide⟩
  | emptyRecord => exact ⟨'\x7b', _, rfl, by decide⟩
  | record => exact ⟨'\x7b', _, rfl, by decide⟩

theorem SpellsPadded.head {t : Tree} {s : List Char} (h : SpellsPadded t s) (rest : List Char) :
    ∃ c cs, skipSpace (s ++ rest) = c :: cs ∧ c ≠ ']' := by
  obtain ⟨hbefore, h, hbehind⟩ := h
  obtain ⟨c, cs, rfl, hspace, hend⟩ := h.head
  rw [List.append_assoc, List.append_assoc, List.cons_append]
  exact ⟨c, _, skipSpace_blanks hbefore hspace _, hend⟩

theorem SpellsItems.head {items : List Tree} {s : List Char} (h : SpellsItems items s)
    (rest : List Char) : ∃ c cs, skipSpace (s ++ rest) = c :: cs ∧ c ≠ ']' := by
  cases h with
  | last h => exact h.head rest
  | more h =>
    rw [List.append_assoc]
    exact h.head _

theorem SpellsKey.head {key : String} {s : List Char} (h : SpellsKey key s) (rest : List Char) :
    ∃ cs behind, skipSpace (s ++ rest) = '"' :: cs ∧
      readText cs = some (some key.toList, behind ++ rest) ∧ AllSpace behind := by
  obtain ⟨hbefore, h, hbehind⟩ := h
  rw [List.append_assoc, List.cons_append, List.append_assoc, List.cons_append]
  refine ⟨_, _, skipSpace_blanks hbefore (by decide) _, ?_, hbehind⟩
  rw [readText_of_writesAll h, String.toList_ofList]

theorem SpellsMembers.head {members : List (Option String × Tree)} {s : List Char}
    (h : SpellsMembers members s) (rest : List Char) : ∃ cs, skipSpace (s ++ rest) = '"' :: cs := by
  cases h with
  | last hkey =>
    obtain ⟨cs, _, hs, -⟩ := hkey.head (':' :: _ ++ rest)
    rw [List.append_assoc]
    exact ⟨cs, hs⟩
  | more hkey =>
    obtain ⟨cs, _, hs, -⟩ := hkey.head (':' :: _ ++ rest)
    rw [List.append_assoc]
    exact ⟨cs, hs⟩

-- The induction is on the bound, which is the length of what is read: each step of the reader takes
-- a character.
mutual

theorem readValue_of_spells : (bound : Nat) → {t : Tree} → {before s : List Char} →
    AllSpace before → Spells t s → (rest : List Char) → Clear rest → s.length ≤ bound →
    readValue bound (before ++ (s ++ rest)) = (t, some rest)
  | 0, _, _, _, _, h, _, _, hbound => by
    obtain ⟨c, cs, rfl, -⟩ := h.head
    exact absurd hbound (Nat.not_succ_le_zero _)
  | bound + 1, _, _, _, hbefore, .null, rest, _, _ =>
    readValue_scalar (skipSpace_blanks hbefore (c := 'n') rfl _) (by decide) (by decide) (by decide)
  | bound + 1, _, _, _, hbefore, .yes, rest, _, _ =>
    readValue_scalar (skipSpace_blanks hbefore (c := 't') rfl _) (by decide) (by decide) (by decide)
  | bound + 1, _, _, _, hbefore, .no, rest, _, _ =>
    readValue_scalar (skipSpace_blanks hbefore (c := 'f') rfl _) (by decide) (by decide) (by decide)
  | bound + 1, _, _, s, hbefore, .numeral h, rest, hrest, _ => by
    obtain ⟨c, cs, rfl, hspace, hquote, hlist, hrecord, -⟩ := h.start
    rw [← readScalar_numeral h hrest]
    exact readValue_scalar (skipSpace_blanks hbefore hspace _) hquote hlist hrecord
  | bound + 1, _, _, _, hbefore, .text h, rest, _, _ => by
    rw [List.cons_append, List.append_assoc, readValue, skipSpace_blanks hbefore rfl]
    simp only [List.cons_append, List.nil_append, readText_of_writesAll h, Option.map_some]
  | bound + 1, _, _, _, hbefore, .emptyList h, rest, _, _ => by
    rw [List.cons_append, List.append_assoc, readValue, skipSpace_blanks hbefore rfl]
    simp only [List.cons_append, List.nil_append, skipSpace_blanks h (c := ']') rfl]
  | bound + 1, _, _, _, hbefore, .list (s := s) h, rest, _, hbound => by
    simp only [List.length_cons, List.length_append, List.length_nil] at hbound
    rw [List.cons_append, List.append_assoc, List.cons_append, List.nil_append]
    obtain ⟨c, cs, hinner, hend⟩ := h.head (']' :: rest)
    rw [readValue_items (skipSpace_blanks hbefore rfl _) hinner hend,
      readItems_of_spells bound h rest (by omega)]
    rfl
  | bound + 1, _, _, _, hbefore, .emptyRecord h, rest, _, _ => by
    rw [List.cons_append, List.append_assoc, readValue, skipSpace_blanks hbefore rfl]
    simp only [List.cons_append, List.nil_append, skipSpace_blanks h (c := '\x7d') rfl]
  | bound + 1, _, _, _, hbefore, .record (s := s) h, rest, _, hbound => by
    simp only [List.length_cons, List.length_append, List.length_nil] at hbound
    rw [List.cons_append, List.append_assoc, List.cons_append, List.nil_append]
    obtain ⟨cs, hinner⟩ := h.head ('\x7d' :: rest)
    rw [readValue_members (skipSpace_blanks hbefore rfl _) hinner (by decide),
      readMembers_of_spells bound h rest (by omega)]
    rfl

theorem readItems_of_spells : (bound : Nat) → {items : List Tree} → {s : List Char} →
    SpellsItems items s → (rest : List Char) → s.length < bound →
    readItems bound (s ++ ']' :: rest) = (items, some rest)
  | 0, _, _, _, _, hbound => absurd hbound (Nat.not_lt_zero _)
  | bound + 1, _, _, .last (.mk hbefore h hbehind), rest, hbound => by
    simp only [List.length_append] at hbound
    rw [List.append_assoc, List.append_assoc, readItems,
      readValue_of_spells bound hbefore h _ (.blanks hbehind (clear_cons rest (by decide)))
        (by omega)]
    simp only [skipSpace_blanks hbehind (c := ']') rfl]
  | bound + 1, _, _, .more (.mk hbefore h hbehind) hu, rest, hbound => by
    simp only [List.length_append, List.length_cons] at hbound
    rw [List.append_assoc, List.append_assoc, List.append_assoc, List.cons_append, readItems,
      readValue_of_spells bound hbefore h _ (.blanks hbehind (clear_cons _ (by decide))) (by omega)]
    simp only [skipSpace_blanks hbehind (c := ',') rfl]
    rw [readItems_of_spells bound hu rest (by omega)]

theorem readMembers_of_spells : (bound : Nat) → {members : List (Option String × Tree)} →
    {s : List Char} → SpellsMembers members s → (rest : List Char) → s.length < bound →
    readMembers bound (s ++ '\x7d' :: rest) = (members, some rest)
  | 0, _, _, _, _, hbound => absurd hbound (Nat.not_lt_zero _)
  | bound + 1, _, _, .last hkey (.mk hbefore h hbehind), rest, hbound => by
    simp only [List.length_append, List.length_cons] at hbound
    rw [List.append_assoc, List.cons_append, List.append_assoc, List.append_assoc]
    obtain ⟨cs, blanks, hquote, htext, hblanks⟩ := hkey.head (':' :: _)
    rw [readMembers, hquote]
    simp only [htext, skipSpace_blanks hblanks (c := ':') rfl]
    rw [readValue_of_spells bound hbefore h _ (.blanks hbehind (clear_cons rest (by decide)))
      (by omega)]
    simp only [skipSpace_blanks hbehind (c := '\x7d') rfl, Option.map_some, String.ofList_toList]
  | bound + 1, _, _, .more hkey (.mk hbefore h hbehind) hv, rest, hbound => by
    simp only [List.length_append, List.length_cons] at hbound
    rw [List.append_assoc, List.cons_append, List.append_assoc, List.append_assoc,
      List.append_assoc, List.cons_append]
    obtain ⟨cs, blanks, hquote, htext, hblanks⟩ := hkey.head (':' :: _)
    rw [readMembers, hquote]
    simp only [htext, skipSpace_blanks hblanks (c := ':') rfl]
    rw [readValue_of_spells bound hbefore h _ (.blanks hbehind (clear_cons _ (by decide)))
      (by omega)]
    simp only [skipSpace_blanks hbehind (c := ',') rfl]
    rw [readMembers_of_spells bound hv rest (by omega)]
    simp only [Option.map_some, String.ofList_toList]

end

/-- A written document is read up to its end. -/
theorem read_of_spellsPadded {t : Tree} {s : String} (h : SpellsPadded t s.toList) :
    read s = (t, true) := by
  unfold read
  generalize s.toList = cs at h
  cases h with
  | @mk _ before s behind hbefore h hbehind =>
    have hclear := Clear.blanks hbehind clear_nil
    rw [List.append_nil] at hclear
    have hlength : s.length ≤ (before ++ (s ++ behind)).length + 1 := by
      rw [List.length_append, List.length_append]
      omega
    dsimp only
    rw [readValue_of_spells _ hbefore h behind hclear hlength]
    exact congrArg (Prod.mk t) (List.all_eq_true.2 hbehind)

end Enrollment.Json
