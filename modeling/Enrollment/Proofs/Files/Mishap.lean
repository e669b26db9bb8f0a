import Enrollment.Proofs.Files.Growth
/-!
# A disk with mishaps

A disk in memory on which any step may go wrong: it fails, and leaves behind what it had done so
far. Of the directories that were to be made, those nearest to the root may be there; of the bytes
that were to be written, the first may be there, or not even the file. A file is put in the place of
another, or removed, at once or not at all.

Results:
 1. `answer_cases`: a step does what it does on the tree, or it is broken off.
 2. `Grounded.unreliable`: files go on lying in directories.
-/

namespace Enrollment.Files

/-- What goes wrong with a step. -/
structure Mishap where
  words : String
  progress : Nat
  deriving DecidableEq, Repr

/-- A disk in memory, and what goes wrong with the next steps. -/
structure Unreliable where
  tree : Tree
  mishaps : List (Option Mishap)
  deriving DecidableEq, Repr

/-- The directory so many levels above a path. -/
def Path.above? : Nat → String → Option String
  | 0, path => some path
  | levels + 1, path => (Path.parent? path).bind (above? levels)

/-- The answer to a step that fails; none to one that cannot fail. -/
def Step.failed? : (s : Step) → Fault → Option s.Answer
  | .read _, fault => some (.error fault)
  | .probe _, _ => none
  | .makeDirectories _, fault => some (.error fault)
  | .write _ _, fault => some (.error fault)
  | .move _ _, fault => some (.error fault)
  | .remove _, fault => some (.error fault)
  | .openLog _ _, fault => some (.error fault)
  | .note _, _ => none

/-- What is left behind by a step that is broken off. -/
def Tree.brokenOff (t : Tree) (progress : Nat) : Step → Tree
  | .makeDirectories path =>
    match Path.above? progress path with
    | none => t
    | some above => (t.makeDirectories above).2
  | .write path content =>
    match progress with
    | 0 => t
    | written + 1 => (t.after (t.write path (content.take written))).2
  | _ => t

namespace Unreliable

def answer (s : Step) (d : Unreliable) : s.Answer × Unreliable :=
  match d.mishaps.head?.join with
  | none => ((d.tree.answer s).1, ⟨(d.tree.answer s).2, d.mishaps.tail⟩)
  | some m =>
    match s.failed? (.other m.words) with
    | none => ((d.tree.answer s).1, ⟨(d.tree.answer s).2, d.mishaps.tail⟩)
    | some reply => (reply, ⟨d.tree.brokenOff m.progress s, d.mishaps.tail⟩)

/-- A step does what it does on the tree, or it fails and is broken off. -/
theorem answer_cases (s : Step) (d : Unreliable) :
    ((answer s d).1 = (d.tree.answer s).1 ∧ (answer s d).2.tree = (d.tree.answer s).2) ∨
    ∃ words progress, s.failed? (.other words) = some (answer s d).1 ∧
      (answer s d).2.tree = d.tree.brokenOff progress s := by
  unfold answer
  split
  · exact .inl ⟨rfl, rfl⟩
  next m hm =>
  split
  · exact .inl ⟨rfl, rfl⟩
  next reply hreply => exact .inr ⟨m.words, m.progress, hreply, rfl⟩

theorem note_tree (e : Log.Event) (d : Unreliable) : (answer (.note e) d).2.tree = d.tree := by
  rcases answer_cases (.note e) d with ⟨-, htree⟩ | ⟨words, progress, hfailed, -⟩
  · exact htree
  · cases hfailed

end Unreliable

namespace Tree

variable {t : Tree}

theorem after_ok {result : Except Fault Tree} (h : (t.after result).1 = .ok ()) :
    result = .ok (t.after result).2 := by
  cases result with
  | error fault => cases h
  | ok t' => rfl

theorem after_error {result : Except Fault Tree} {fault : Fault}
    (h : (t.after result).1 = .error fault) : result = .error fault ∧ (t.after result).2 = t := by
  cases result with
  | error fault => cases h; exact ⟨rfl, rfl⟩
  | ok t' => cases h

/-- Directories stay, whatever goes wrong. -/
theorem keeps_unreliable (s : Step) (d : Unreliable) :
    Keeps d.tree (Unreliable.answer s d).2.tree := by
  rcases Unreliable.answer_cases s d with ⟨-, htree⟩ | ⟨words, progress, -, htree⟩
  · rw [htree]
    exact keeps_answer d.tree s
  · rw [htree]
    cases s with
    | makeDirectories path =>
      unfold Tree.brokenOff
      simp only
      split
      · exact Keeps.refl _
      · exact keeps_makeDirectories _ _
    | write path content =>
      cases progress with
      | zero => exact Keeps.refl _
      | succ written => exact keeps_after fun _ hwrite => keeps_openFile hwrite
    | read path => exact Keeps.refl _
    | probe path => exact Keeps.refl _
    | move source target => exact Keeps.refl _
    | remove path => exact Keeps.refl _
    | openLog path filter => exact Keeps.refl _
    | note e => exact Keeps.refl _

theorem Grounded.brokenOff (h : t.Grounded) (progress : Nat) (s : Step) :
    (t.brokenOff progress s).Grounded := by
  cases s with
  | makeDirectories path =>
    unfold Tree.brokenOff
    simp only
    split
    · exact h
    · exact h.makeDirectories _
  | write path content =>
    cases progress with
    | zero => exact h
    | succ written => exact h.after fun _ hwrite => h.openFile hwrite
  | read path => exact h
  | probe path => exact h
  | move source target => exact h
  | remove path => exact h
  | openLog path filter => exact h
  | note e => exact h

theorem Grounded.unreliable {d : Unreliable} (h : d.tree.Grounded) (s : Step) :
    (Unreliable.answer s d).2.tree.Grounded := by
  rcases Unreliable.answer_cases s d with ⟨-, htree⟩ | ⟨words, progress, -, htree⟩
  · rw [htree]
    exact h.answer s
  · rw [htree]
    exact h.brokenOff progress s

/-- A directory above a plain path is plain, starts where the path does, and has its first steps. -/
theorem above?_steps {levels : Nat} {path above : String} (hplain : Path.Plain path)
    (h : Path.above? levels path = some above) :
    Path.Plain above ∧ Path.isAbsolute above = Path.isAbsolute path ∧
      Path.steps above <+: Path.steps path := by
  induction levels generalizing path with
  | zero =>
    cases h
    exact ⟨hplain, rfl, List.prefix_refl _⟩
  | succ levels ih =>
    obtain ⟨parent, hparent, habove⟩ := Option.bind_eq_some_iff.1 h
    obtain ⟨habsolute, -, hsteps⟩ := Path.parent_steps hparent
    obtain ⟨hplain', habsolute', hway⟩ := ih (hplain.parent hparent) habove
    refine ⟨hplain', habsolute'.trans habsolute, hway.trans ?_⟩
    rw [hsteps]
    exact List.dropLast_prefix _

/-- Making directories changes only what is on the way, also when it is broken off. -/
theorem grown_unreliable {d : Unreliable} {way : List String} {path directory : String}
    (hplain : Path.Plain directory)
    (habsolute : Path.isAbsolute directory = Path.isAbsolute path)
    (hsteps : Path.steps directory <+: way) :
    Grown (d.tree.start path) way d.tree
      (Unreliable.answer (.makeDirectories directory) d).2.tree := by
  rcases Unreliable.answer_cases (.makeDirectories directory) d with
    ⟨-, htree⟩ | ⟨words, progress, -, htree⟩
  · rw [htree]
    exact grown_makeDirectories hplain habsolute hsteps
  · rw [htree, brokenOff]
    cases habove : Path.above? progress directory with
    | none => exact Grown.refl _ _ _
    | some above =>
      obtain ⟨hplain', habsolute', hway⟩ := above?_steps hplain habove
      exact grown_makeDirectories hplain' (habsolute'.trans habsolute) (hway.trans hsteps)

/-- A file is written, or not at all, or in part; nothing else changes. -/
theorem write_unreliable (d : Unreliable) (path : String) (content : Text.Bytes) :
    (Unreliable.answer (.write path content) d).2.tree = d.tree ∨
    ∃ directory name content', d.tree.follow path = .ok (.named directory name false) ∧
      (Unreliable.answer (.write path content) d).2.tree =
        d.tree.put (directory ++ [name]) (.file content') := by
  have hafter : ∀ content', (d.tree.after (d.tree.write path content')).2 = d.tree ∨
      ∃ directory name content'', d.tree.follow path = .ok (.named directory name false) ∧
        (d.tree.after (d.tree.write path content')).2 =
          d.tree.put (directory ++ [name]) (.file content'') := by
    intro content'
    cases hwrite : d.tree.write path content' with
    | error fault => exact .inl rfl
    | ok t' =>
      obtain ⟨directory, name, hfollow, -, rfl⟩ := write_ok hwrite
      exact .inr ⟨directory, name, content', hfollow, rfl⟩
  rcases Unreliable.answer_cases (.write path content) d with
    ⟨-, htree⟩ | ⟨words, progress, -, htree⟩
  · rw [htree]
    exact hafter content
  · rw [htree]
    cases progress with
    | zero => exact .inl rfl
    | succ written => exact hafter (content.take written)

end Tree

namespace Unreliable

variable {d : Unreliable} {path source target : String}

theorem write_ok {content : Text.Bytes} (h : (answer (.write path content) d).1 = .ok ()) :
    d.tree.write path content = .ok (answer (.write path content) d).2.tree := by
  rcases answer_cases (.write path content) d with ⟨hsame, htree⟩ | ⟨words, progress, hfailed, -⟩
  · rw [htree]
    exact Tree.after_ok (hsame.symm.trans h)
  · rw [h] at hfailed
    cases hfailed

theorem move_ok (h : (answer (.move source target) d).1 = .ok ()) :
    d.tree.move source target = .ok (answer (.move source target) d).2.tree := by
  rcases answer_cases (.move source target) d with ⟨hsame, htree⟩ | ⟨words, progress, hfailed, -⟩
  · rw [htree]
    exact Tree.after_ok (hsame.symm.trans h)
  · rw [h] at hfailed
    cases hfailed

theorem move_error {fault : Fault} (h : (answer (.move source target) d).1 = .error fault) :
    (answer (.move source target) d).2.tree = d.tree := by
  rcases answer_cases (.move source target) d with ⟨hsame, htree⟩ | ⟨words, progress, -, htree⟩
  · rw [htree]
    exact (Tree.after_error (hsame.symm.trans h)).2
  · exact htree

theorem remove_ok (h : (answer (.remove path) d).1 = .ok ()) :
    d.tree.remove path = .ok (answer (.remove path) d).2.tree := by
  rcases answer_cases (.remove path) d with ⟨hsame, htree⟩ | ⟨words, progress, hfailed, -⟩
  · rw [htree]
    exact Tree.after_ok (hsame.symm.trans h)
  · rw [h] at hfailed
    cases hfailed

/-- What cannot be removed stays. If there is said to be nothing, there is nothing. -/
theorem remove_error {fault : Fault} (h : (answer (.remove path) d).1 = .error fault) :
    (answer (.remove path) d).2.tree = d.tree ∧
      (fault = .notFound → d.tree.remove path = .error .notFound) := by
  rcases answer_cases (.remove path) d with ⟨hsame, htree⟩ | ⟨words, progress, hfailed, htree⟩
  · obtain ⟨hremove, hstays⟩ := Tree.after_error (hsame.symm.trans h)
    rw [htree]
    refine ⟨hstays, ?_⟩
    rintro rfl
    exact hremove
  · refine ⟨htree, ?_⟩
    rintro rfl
    rw [h] at hfailed
    cases hfailed

end Unreliable

end Enrollment.Files
