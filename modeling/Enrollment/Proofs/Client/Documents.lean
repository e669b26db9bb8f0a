import Enrollment.Client.Refusal
import Enrollment.Proofs.Json.Grammar
/-!
# Documents that are taken at their word

The reader keeps what it saw of a text that is no document. A tree that is taken at its word has no
broken part, and no text in it has half of a pair of code units, so it was read from a document that
the grammar has.

Results:
 1. `spells_of_readValue`, `spells_of_readItems`, `spells_of_readMembers`: what was read as such a
    tree is written like it.
 2. `isTaken_iff`: which texts are taken at their word.
-/

namespace Enrollment.Client

open Document (Tree)
open Json

/-- A text is taken at its word, as a document that is this tree: it is written as the grammar has
it, is not nested too deep, and has no numeral that is too large. -/
def IsTaken (s : String) (t : Tree) : Prop :=
  SpellsPadded t s.toList ∧ isDocument depthLimit t = true

theorem spells_of_readScalar {s rest : List Char} {t : Tree} (h : readScalar s = (t, some rest)) :
    ∃ u, Spells t u ∧ s = u ++ rest := by
  unfold readScalar at h
  split at h
  · cases h
    exact ⟨_, .null, rfl⟩
  · cases h
    exact ⟨_, .yes, rfl⟩
  · cases h
    exact ⟨_, .no, rfl⟩
  · split at h
    · next n rest' hn =>
      cases h
      obtain ⟨u, hu, hs⟩ := spells_of_readNumeral hn
      exact ⟨u, .numeral hu, hs⟩
    · cases h

theorem isDocument_list {depth : Nat} {items : List Tree} {ending : Document.Ending}
    (h : isDocument depth (.list items ending) = true) :
    ending = .closed ∧ areDocuments (depth - 1) items = true := by
  simp only [isDocument, Bool.and_eq_true, beq_iff_eq] at h
  exact ⟨h.1.2, h.2⟩

theorem isDocument_record {depth : Nat} {members : List (Option String × Tree)}
    {ending : Document.Ending}
    (h : isDocument depth (.record members ending) = true) :
    ending = .closed ∧ membersAreDocuments (depth - 1) members = true := by
  simp only [isDocument, Bool.and_eq_true, beq_iff_eq] at h
  exact ⟨h.1.2, h.2⟩

/-- A key that was read, up to the colon behind it. -/
theorem spellsKey_of_read {cs : Option (List Char)} {s inner afterKey afterColon : List Char}
    (hquote : skipSpace s = '"' :: inner) (htext : readText inner = some (cs, afterKey))
    (hcolon : skipSpace afterKey = ':' :: afterColon) (hcs : (cs.map String.ofList).isSome = true) :
    ∃ key u, cs.map String.ofList = some key ∧ SpellsKey key u ∧ s = u ++ ':' :: afterColon := by
  cases cs with
  | none => cases hcs
  | some cs =>
    obtain ⟨before, hbefore, hs⟩ := eq_blanks_skipSpace s
    obtain ⟨behind, hbehind, hafter⟩ := eq_blanks_skipSpace afterKey
    obtain ⟨u, rfl, hu⟩ := writesAll_of_readText htext
    refine ⟨_, _, rfl, .mk hbefore hu hbehind, ?_⟩
    rw [hs, hquote, hafter, hcolon]
    simp only [List.append_assoc, List.cons_append]

/-- A value that was read, up to what follows the blanks behind it. -/
theorem spellsPadded_of_read {t : Tree} {s rest : List Char}
    (h : ∃ before u, AllSpace before ∧ Spells t u ∧ s = before ++ (u ++ rest)) :
    ∃ u, SpellsPadded t u ∧ s = u ++ skipSpace rest := by
  obtain ⟨before, u, hbefore, hu, rfl⟩ := h
  obtain ⟨behind, hbehind, hrest⟩ := eq_blanks_skipSpace rest
  refine ⟨_, .mk hbefore hu hbehind, ?_⟩
  rw [List.append_assoc, List.append_assoc, ← hrest]

/-- What is enclosed by two characters, and what follows it. -/
theorem enclosed_append (first last : Char) (s rest : List Char) :
    first :: (s ++ last :: rest) = first :: (s ++ [last]) ++ rest := by
  rw [List.cons_append, List.append_assoc]
  rfl

mutual

theorem spells_of_readValue : (bound : Nat) → {depth : Nat} → {s rest : List Char} → {t : Tree} →
    readValue bound s = (t, some rest) → isDocument depth t = true →
    ∃ before u, AllSpace before ∧ Spells t u ∧ s = before ++ (u ++ rest)
  | 0, _, _, _, _, h, _ => by cases h
  | bound + 1, depth, s, rest, t, h, hdocument => by
    obtain ⟨before, hbefore, hs⟩ := eq_blanks_skipSpace s
    suffices hvalue : ∃ u, Spells t u ∧ skipSpace s = u ++ rest by
      obtain ⟨u, hu, hskip⟩ := hvalue
      exact ⟨before, u, hbefore, hu, hs.trans (congrArg (before ++ ·) hskip)⟩
    rw [readValue] at h
    split at h
    · next inner hskip =>
      split at h
      · next cs rest' htext =>
        cases h
        cases cs with
        | none => cases hdocument
        | some cs =>
          obtain ⟨u, rfl, hu⟩ := writesAll_of_readText htext
          exact ⟨_, .text hu, hskip.trans (enclosed_append _ _ u rest)⟩
      · cases h
    · next inner hskip =>
      split at h
      · next rest' hinner =>
        cases h
        obtain ⟨blanks, hblanks, hspace⟩ := eq_blanks_skipSpace inner
        rw [hspace, hinner] at hskip
        exact ⟨_, .emptyList hblanks, hskip.trans (enclosed_append _ _ blanks rest)⟩
      · cases hitems : readItems bound inner with
        | mk items after =>
          rw [hitems] at h
          cases h
          obtain ⟨u, hu, rfl⟩ := spells_of_readItems bound hitems (isDocument_list hdocument).2
          exact ⟨_, .list hu, hskip.trans (enclosed_append _ _ u rest)⟩
    · next inner hskip =>
      split at h
      · next rest' hinner =>
        cases h
        obtain ⟨blanks, hblanks, hspace⟩ := eq_blanks_skipSpace inner
        rw [hspace, hinner] at hskip
        exact ⟨_, .emptyRecord hblanks, hskip.trans (enclosed_append _ _ blanks rest)⟩
      · cases hmembers : readMembers bound inner with
        | mk members after =>
          rw [hmembers] at h
          cases h
          obtain ⟨u, hu, rfl⟩ :=
            spells_of_readMembers bound hmembers (isDocument_record hdocument).2
          exact ⟨_, .record hu, hskip.trans (enclosed_append _ _ u rest)⟩
    · exact spells_of_readScalar h

theorem spells_of_readItems : (bound : Nat) → {depth : Nat} → {s rest : List Char} →
    {items : List Tree} → readItems bound s = (items, some rest) →
    areDocuments depth items = true → ∃ u, SpellsItems items u ∧ s = u ++ ']' :: rest
  | 0, _, _, _, _, h, _ => by cases h
  | bound + 1, depth, s, rest, items, h, hdocuments => by
    rw [readItems] at h
    split at h
    · cases h
    · next t rest' hvalue =>
      split at h
      · next rest'' hskip =>
        cases hitems : readItems bound rest'' with
        | mk items' after =>
          rw [hitems] at h
          cases h
          rw [areDocuments, Bool.and_eq_true] at hdocuments
          obtain ⟨u, hu, hs⟩ := spellsPadded_of_read (spells_of_readValue bound hvalue hdocuments.1)
          obtain ⟨v, hv, rfl⟩ := spells_of_readItems bound hitems hdocuments.2
          refine ⟨_, .more hu hv, ?_⟩
          rw [hs, hskip, List.append_assoc, List.cons_append]
      · next rest'' hskip =>
        cases h
        rw [areDocuments, Bool.and_eq_true] at hdocuments
        obtain ⟨u, hu, hs⟩ := spellsPadded_of_read (spells_of_readValue bound hvalue hdocuments.1)
        refine ⟨u, .last hu, ?_⟩
        rw [hs, hskip]
      · cases h

theorem spells_of_readMembers : (bound : Nat) → {depth : Nat} → {s rest : List Char} →
    {members : List (Option String × Tree)} → readMembers bound s = (members, some rest) →
    membersAreDocuments depth members = true →
    ∃ u, SpellsMembers members u ∧ s = u ++ '\x7d' :: rest
  | 0, _, _, _, _, h, _ => by cases h
  | bound + 1, depth, s, rest, members, h, hdocuments => by
    rw [readMembers] at h
    split at h
    · next inner hquote =>
      split at h
      · cases h
      · next cs afterKey htext =>
        split at h
        · next afterColon hcolon =>
          split at h
          · cases h
          · next t rest' hvalue =>
            split at h
            · next rest'' hskip =>
              cases hmembers : readMembers bound rest'' with
              | mk members' after =>
                rw [hmembers] at h
                cases h
                rw [membersAreDocuments, Bool.and_eq_true, Bool.and_eq_true] at hdocuments
                obtain ⟨⟨hkey, hvalue'⟩, hmore⟩ := hdocuments
                obtain ⟨key, u, hcs, hu, hs⟩ := spellsKey_of_read hquote htext hcolon hkey
                obtain ⟨v, hv, hafter⟩ :=
                  spellsPadded_of_read (spells_of_readValue bound hvalue hvalue')
                obtain ⟨w, hw, rfl⟩ := spells_of_readMembers bound hmembers hmore
                rw [hcs]
                refine ⟨_, .more hu hv hw, ?_⟩
                rw [hs, hafter, hskip]
                simp only [List.append_assoc, List.cons_append]
            · next rest'' hskip =>
              cases h
              rw [membersAreDocuments, Bool.and_eq_true, Bool.and_eq_true] at hdocuments
              obtain ⟨⟨hkey, hvalue'⟩, -⟩ := hdocuments
              obtain ⟨key, u, hcs, hu, hs⟩ := spellsKey_of_read hquote htext hcolon hkey
              obtain ⟨v, hv, hafter⟩ :=
                spellsPadded_of_read (spells_of_readValue bound hvalue hvalue')
              rw [hcs]
              refine ⟨_, .last hu hv, ?_⟩
              rw [hs, hafter, hskip, List.append_assoc, List.cons_append]
            · cases h
        · cases h
    · cases h

end

/-- What is read up to its end, and is taken at its word, is a document that is written as the
grammar has it. -/
theorem isTaken_iff {s : String} {t : Tree} :
    IsTaken s t ↔ Json.read s = (t, true) ∧ isDocument depthLimit t = true := by
  constructor
  · rintro ⟨hspelled, hdocument⟩
    exact ⟨read_of_spellsPadded hspelled, hdocument⟩
  · rintro ⟨hread, hdocument⟩
    refine ⟨?_, hdocument⟩
    unfold Json.read at hread
    generalize s.toList = cs at hread ⊢
    dsimp only at hread
    cases hvalue : readValue (cs.length + 1) cs with
    | mk t' after =>
      rw [hvalue] at hread
      cases after with
      | none => cases hread
      | some rest =>
        obtain ⟨rfl, hrest⟩ := Prod.mk.inj hread
        obtain ⟨before, u, hbefore, hu, hcs⟩ := spells_of_readValue _ hvalue hdocument
        rw [hcs]
        exact .mk hbefore hu (List.all_eq_true.1 hrest)

end Enrollment.Client
