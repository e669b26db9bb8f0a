import Enrollment.Proofs.Text.Digits
import Enrollment.Release.Manifest
/-!
# Versions of manifests

A manifest names a version where, from the start of a line on, it assigns one: the word `version`, an equals
sign, and three numbers joined by points in quotes, with any blanks in between, which may go on over the ends
of lines. The reader takes every run of blanks and digits as far as it goes, and loses nothing by that, since
what has to follow is neither; so it finds the first place where there is an assignment, if there is one.

Results:
 1. `versionAt_eq_some_iff`: what the reader finds at one place.
 2. `findFrom_finds`: what it finds in a text.
 3. `version?_first`: the version of a manifest is the one that is assigned first.
-/

namespace Enrollment.Release

open Text (isBlank isDecimal trimStart spanDecimal)

variable {s rest v w : List Char}

/-! ## Assignments -/

def IsNumber (s : List Char) : Prop :=
  s ≠ [] ∧ ∀ c ∈ s, '0' ≤ c ∧ c ≤ '9'

/-- Three numbers joined by points. -/
def IsVersion (v : List Char) : Prop :=
  ∃ major minor patch, IsNumber major ∧ IsNumber minor ∧ IsNumber patch ∧
    v = major ++ '.' :: (minor ++ '.' :: patch)

/-- A text begins with the assignment of a version. -/
def Assigns (s v : List Char) : Prop :=
  ∃ margin before behind rest, (∀ c ∈ margin, isBlank c = true) ∧ (∀ c ∈ before, isBlank c = true) ∧
    (∀ c ∈ behind, isBlank c = true) ∧ IsVersion v ∧
    s = margin ++ ("version".toList ++ (before ++ '=' :: (behind ++ '"' :: (v ++ '"' :: rest))))

/-- A line starts at a place of a text, which at its beginning may or may not start one. -/
def StartsLine (atStart : Bool) (s : List Char) : Nat → Prop
  | 0 => atStart = true
  | p + 1 => s[p]? = some '\n'

/-- A version is assigned from a place on at which a line starts. -/
def AssignsAt (atStart : Bool) (s : List Char) (p : Nat) (v : List Char) : Prop :=
  StartsLine atStart s p ∧ Assigns (s.drop p) v

/-- A version is assigned at a place, and none at a place before. -/
def AssignsFirst (atStart : Bool) (s v : List Char) : Prop :=
  ∃ p, AssignsAt atStart s p v ∧ ∀ q < p, ∀ w, ¬ AssignsAt atStart s q w

/-! ## Words and numbers -/

theorem skipWord_eq_some_iff {word : List Char} : skipWord word s = some rest ↔ s = word ++ rest := by
  unfold skipWord
  split
  · next h =>
    obtain ⟨t, rfl⟩ := List.isPrefixOf_iff_prefix.1 h
    rw [List.drop_left, Option.some.injEq, List.append_cancel_left_eq]
  · next h =>
    constructor
    · rintro ⟨⟩
    · rintro rfl
      exact absurd (List.isPrefixOf_iff_prefix.2 (List.prefix_append word rest)) h

/-- Behind any blanks, a word that starts with none. -/
theorem skipWord_trimStart {c : Char} {word : List Char} (hc : isBlank c = false) :
    skipWord (c :: word) (trimStart s) = some rest ↔
      ∃ blanks, (∀ b ∈ blanks, isBlank b = true) ∧ s = blanks ++ (c :: word ++ rest) := by
  rw [skipWord_eq_some_iff]
  constructor
  · intro h
    refine ⟨s.takeWhile isBlank, List.all_eq_true.1 List.all_takeWhile, ?_⟩
    rw [← h]
    exact List.takeWhile_append_dropWhile.symm
  · rintro ⟨blanks, hblanks, rfl⟩
    rw [Text.trimStart_blanks hblanks]
    exact Text.trimStart_of_head hc

theorem isDecimal_iff {c : Char} : isDecimal c = true ↔ '0' ≤ c ∧ c ≤ '9' := by
  unfold isDecimal
  rw [Option.isSome_iff_exists]
  constructor
  · rintro ⟨n, hn⟩
    exact (Text.decimalValue?_eq_some_iff.1 hn).1
  · intro hc
    exact ⟨_, Text.decimalValue?_eq_some_iff.2 ⟨hc, rfl⟩⟩

theorem readNumber_run {digits : List Char} (h : IsNumber digits) (hrest : Text.NoDigit rest) :
    readNumber (digits ++ rest) = some (digits, rest) := by
  obtain ⟨hne, hdigits⟩ := h
  obtain ⟨c, digits, rfl⟩ := List.exists_cons_of_ne_nil hne
  unfold readNumber
  rw [Text.spanDecimal_of_run (fun c hc => isDecimal_iff.2 (hdigits c hc)) hrest]

theorem of_readNumber {digits : List Char} (h : readNumber s = some (digits, rest)) :
    IsNumber digits ∧ s = digits ++ rest := by
  have hall : ∀ c ∈ s.takeWhile isDecimal, isDecimal c = true := List.all_eq_true.1 List.all_takeWhile
  have hsplit : s.takeWhile isDecimal ++ s.dropWhile isDecimal = s := List.takeWhile_append_dropWhile
  unfold readNumber spanDecimal at h
  cases hdigits : s.takeWhile isDecimal with
  | nil =>
    rw [hdigits] at h
    cases h
  | cons c digits =>
    rw [hdigits] at h hall hsplit
    cases h
    exact ⟨⟨List.cons_ne_nil _ _, fun c hc => isDecimal_iff.1 (hall c hc)⟩, hsplit.symm⟩

/-! ## Versions -/

theorem readVersion_run (hv : IsVersion v) (hrest : Text.NoDigit rest) :
    readVersion (v ++ rest) = some (v, rest) := by
  obtain ⟨major, minor, patch, hmajor, hminor, hpatch, rfl⟩ := hv
  have hpoint : ∀ s, skipWord ['.'] ('.' :: s) = some s := fun s => skipWord_eq_some_iff.2 rfl
  unfold readVersion
  rw [List.append_assoc, List.cons_append, readNumber_run hmajor (Text.noDigit_cons _ (by decide))]
  simp only [Option.bind_eq_bind, Option.bind_some, hpoint]
  rw [List.append_assoc, List.cons_append, readNumber_run hminor (Text.noDigit_cons _ (by decide))]
  simp only [Option.bind_some, hpoint]
  rw [readNumber_run hpatch hrest]
  simp

theorem of_readVersion (h : readVersion s = some (v, rest)) : IsVersion v ∧ s = v ++ rest := by
  unfold readVersion at h
  simp only [Option.bind_eq_bind, Option.bind_eq_some_iff, Prod.exists] at h
  obtain ⟨major, s₁, hmajor, s₂, hpoint, minor, s₃, hminor, s₄, hpoint', patch, s₅, hpatch, hend⟩ := h
  cases hend
  obtain ⟨hmajorNumber, rfl⟩ := of_readNumber hmajor
  obtain rfl := skipWord_eq_some_iff.1 hpoint
  obtain ⟨hminorNumber, rfl⟩ := of_readNumber hminor
  obtain rfl := skipWord_eq_some_iff.1 hpoint'
  obtain ⟨hpatchNumber, rfl⟩ := of_readNumber hpatch
  exact ⟨⟨major, minor, patch, hmajorNumber, hminorNumber, hpatchNumber, by simp⟩, by simp⟩

theorem versionAt_eq_some_iff : versionAt s = some v ↔ Assigns s v := by
  have hword : "version".toList = ['v', 'e', 'r', 's', 'i', 'o', 'n'] := by decide
  unfold versionAt Assigns
  rw [hword]
  simp only [Option.bind_eq_bind, Option.bind_eq_some_iff, Prod.exists]
  constructor
  · rintro ⟨s₁, hversion, s₂, hequals, s₃, hquote, v', s₄, hread, s₅, hclosing, hv⟩
    cases hv
    obtain ⟨margin, hmargin, rfl⟩ := (skipWord_trimStart (by decide)).1 hversion
    obtain ⟨before, hbefore, rfl⟩ := (skipWord_trimStart (by decide)).1 hequals
    obtain ⟨behind, hbehind, rfl⟩ := (skipWord_trimStart (by decide)).1 hquote
    obtain ⟨hv, rfl⟩ := of_readVersion hread
    obtain rfl := skipWord_eq_some_iff.1 hclosing
    exact ⟨margin, before, behind, s₅, hmargin, hbefore, hbehind, hv, rfl⟩
  · rintro ⟨margin, before, behind, rest, hmargin, hbefore, hbehind, hv, rfl⟩
    exact ⟨_, (skipWord_trimStart (by decide)).2 ⟨margin, hmargin, rfl⟩,
      _, (skipWord_trimStart (by decide)).2 ⟨before, hbefore, rfl⟩,
      _, (skipWord_trimStart (by decide)).2 ⟨behind, hbehind, rfl⟩,
      v, '"' :: rest, readVersion_run hv (Text.noDigit_cons _ (by decide)),
      rest, skipWord_eq_some_iff.2 rfl, rfl⟩

theorem Assigns.unique (h : Assigns s v) (h' : Assigns s w) : w = v :=
  Option.some.inj ((versionAt_eq_some_iff.2 h').symm.trans (versionAt_eq_some_iff.2 h))

theorem not_assigns_nil : ¬ Assigns [] v := by
  intro h
  cases versionAt_eq_some_iff.2 h

/-! ## The first place -/

theorem startsLine_cons_succ {atStart : Bool} {c : Char} {p : Nat} :
    StartsLine atStart (c :: s) (p + 1) ↔ StartsLine (c == '\n') s p := by
  cases p with
  | zero => simp [StartsLine]
  | succ p => rfl

theorem assignsAt_cons_succ {atStart : Bool} {c : Char} {p : Nat} :
    AssignsAt atStart (c :: s) (p + 1) v ↔ AssignsAt (c == '\n') s p v := by
  unfold AssignsAt
  rw [startsLine_cons_succ, List.drop_succ_cons]

/-- What is assigned first is assigned first still behind a place at which nothing is assigned. -/
theorem AssignsFirst.cons {atStart : Bool} {c : Char} (h : AssignsFirst (c == '\n') s v)
    (hnone : ∀ w, ¬ AssignsAt atStart (c :: s) 0 w) : AssignsFirst atStart (c :: s) v := by
  obtain ⟨p, hp, hfirst⟩ := h
  refine ⟨p + 1, assignsAt_cons_succ.2 hp, ?_⟩
  rintro (_ | q) hq w
  · exact hnone w
  · rw [assignsAt_cons_succ]
    exact hfirst q (Nat.lt_of_succ_lt_succ hq) w

theorem AssignsFirst.unique {atStart : Bool} (h : AssignsFirst atStart s v)
    (h' : AssignsFirst atStart s w) : w = v := by
  obtain ⟨p, hp, hfirst⟩ := h
  obtain ⟨q, hq, hfirst'⟩ := h'
  rcases Nat.lt_trichotomy p q with hlt | rfl | hlt
  · exact absurd hp (hfirst' p hlt v)
  · exact hp.2.unique hq.2
  · exact absurd hq (hfirst q hlt w)

/-- The reader finds what is assigned first; if it finds nothing, nothing is assigned. -/
theorem findFrom_finds (atStart : Bool) (s : List Char) :
    match findFrom atStart s with
    | some v => AssignsFirst atStart s v
    | none => ∀ p v, ¬ AssignsAt atStart s p v := by
  induction s generalizing atStart with
  | nil =>
    rintro p v ⟨-, h⟩
    rw [List.drop_nil] at h
    exact not_assigns_nil h
  | cons c s ih =>
    have hhere : ∀ v, AssignsAt atStart (c :: s) 0 v ↔
        (if atStart then versionAt (c :: s) else none) = some v := by
      intro v
      unfold AssignsAt StartsLine
      rw [List.drop_zero, ← versionAt_eq_some_iff]
      cases atStart <;> simp
    have hbehind := ih (c == '\n')
    rw [findFrom]
    cases hfound : (if atStart then versionAt (c :: s) else none) with
    | some v => exact ⟨0, (hhere v).2 hfound, fun q hq => absurd hq q.not_lt_zero⟩
    | none =>
      have hnot : ∀ v, ¬ AssignsAt atStart (c :: s) 0 v := by
        intro v h
        cases hfound.symm.trans ((hhere v).1 h)
      cases hlater : findFrom (c == '\n') s with
      | some v =>
        rw [hlater] at hbehind
        exact hbehind.cons hnot
      | none =>
        rw [hlater] at hbehind
        rintro (_ | p) v
        · exact hnot v
        · rw [assignsAt_cons_succ]
          exact hbehind p v

theorem findFrom_eq_some_iff {atStart : Bool} :
    findFrom atStart s = some v ↔ AssignsFirst atStart s v := by
  have hfinds := findFrom_finds atStart s
  split at hfinds
  · next w hw =>
    rw [hw, Option.some.injEq]
    constructor
    · rintro rfl
      exact hfinds
    · exact fun h => h.unique hfinds
  · next hnone =>
    rw [hnone]
    refine iff_of_false (fun h => by cases h) ?_
    rintro ⟨p, hp, -⟩
    exact hfinds p v hp

theorem findFrom_eq_none_iff {atStart : Bool} :
    findFrom atStart s = none ↔ ∀ p v, ¬ AssignsAt atStart s p v := by
  have hfinds := findFrom_finds atStart s
  split at hfinds
  · next w hw =>
    obtain ⟨p, hp, -⟩ := hfinds
    rw [hw]
    exact iff_of_false (fun h => by cases h) fun h => h p w hp
  · next hnone => exact iff_of_true hnone hfinds

/-- The version of a manifest is the one that is assigned at the first start of a line from which on one is
assigned, and no other is assigned there; there is none exactly if none is assigned from the start of a line
on. -/
theorem version?_first (manifest : String) :
    (∀ v, version? manifest = some v ↔ ∃ p, AssignsAt true manifest.toList p v.toList ∧
      ∀ q < p, ∀ w, ¬ AssignsAt true manifest.toList q w) ∧
    (∀ p v w, AssignsAt true manifest.toList p v → AssignsAt true manifest.toList p w → w = v) ∧
    (version? manifest = none ↔ ∀ p v, ¬ AssignsAt true manifest.toList p v) := by
  refine ⟨fun v => ?_, fun p v w h h' => h.2.unique h'.2, ?_⟩
  · have htext : version? manifest = some v ↔ findFrom true manifest.toList = some v.toList := by
      unfold version?
      rw [Option.map_eq_some_iff]
      constructor
      · rintro ⟨cs, hcs, rfl⟩
        rw [hcs, String.toList_ofList]
      · intro h
        exact ⟨_, h, String.ofList_toList⟩
    rw [htext, findFrom_eq_some_iff]
    rfl
  · unfold version?
    rw [Option.map_eq_none_iff, findFrom_eq_none_iff]

/-- A version of four parts hides no version behind it, and blanks may go on over the ends of lines. -/
example : version? "version = \"1.2.3.4\"\n\nversion\n=\"01.2.3\"" = some "01.2.3" := by decide +kernel

end Enrollment.Release
