import Enrollment.Files.Tree
/-!
# Directories stay

No step on files takes a directory away, so a path that led somewhere still leads there: what was
written to a path is read from it, whatever the path is made of. And where every file lies in a
directory (`Grounded`), that stays so.

Results:
 1. `follow_mono`: a path that leads somewhere still leads there when the directories stay.
 2. `keeps_answer`: directories stay with every step.
 3. `Grounded.answer`: with every step files go on lying in directories.
 4. `read_of_move`, `read_of_remove`: what is read after a file was put in place or removed;
    `look_of_move`: what is left where it was before.
-/

namespace Enrollment.Files

def Path.names (path : String) : List String :=
  (cut 0 [] path.toList).map fun p => String.ofList p.name

namespace Tree

open Text (Bytes)

variable {t t' t'' : Tree}

/-! ## Directories -/

def HasDirectory (t : Tree) (place : Place) : Prop :=
  ∃ entry, t.entryAt? place = some entry ∧ entry.isDirectory = true

theorem hasDirectory_root (t : Tree) : t.HasDirectory [] :=
  ⟨.directory, rfl, rfl⟩

theorem not_hasDirectory_of_none {place : Place} (h : t.entryAt? place = none) :
    ¬ t.HasDirectory place := by
  rintro ⟨entry, hentry, -⟩
  rw [h] at hentry
  cases hentry

theorem not_hasDirectory_of_file {place : Place} {content : Bytes}
    (h : t.entryAt? place = some (.file content)) : ¬ t.HasDirectory place := by
  rintro ⟨entry, hentry, hdirectory⟩
  rw [h] at hentry
  cases hentry
  cases hdirectory

/-- Every directory of a tree is one of another, and paths start where they did. -/
structure Keeps (t t' : Tree) : Prop where
  here : t'.here = t.here
  directories : ∀ place, t.HasDirectory place → t'.HasDirectory place

theorem Keeps.refl (t : Tree) : Keeps t t where
  here := rfl
  directories _ h := h

theorem Keeps.trans (h : Keeps t t') (h' : Keeps t' t'') : Keeps t t'' where
  here := h'.here.trans h.here
  directories place hplace := h'.directories place (h.directories place hplace)

/-- Nothing is put in the place of a directory but a directory. -/
theorem keeps_put {place : Place} {entry : Entry} (hplace : place ≠ [])
    (h : t.HasDirectory place → entry.isDirectory = true) : Keeps t (t.put place entry) where
  here := rfl
  directories other hother := by
    by_cases heq : other = place
    · subst heq
      exact ⟨entry, entryAt?_put hplace, h hother⟩
    · obtain ⟨e, he, hdirectory⟩ := hother
      exact ⟨e, by rw [entryAt?_put_of_ne heq, he], hdirectory⟩

/-- What is no directory is dropped. -/
theorem keeps_drop {place : Place} (h : ¬ t.HasDirectory place) : Keeps t (t.drop place) where
  here := rfl
  directories other hother := by
    by_cases heq : other = place
    · exact absurd (heq ▸ hother) h
    · obtain ⟨e, he, hdirectory⟩ := hother
      exact ⟨e, by rw [entryAt?_drop_of_ne heq, he], hdirectory⟩

theorem not_hasDirectory_drop {place other : Place} (h : ¬ t.HasDirectory other) :
    ¬ (t.drop place).HasDirectory other := by
  rintro ⟨entry, hentry, hdirectory⟩
  by_cases heq : other = place
  · subst heq
    by_cases hroot : other = []
    · exact h (hroot ▸ hasDirectory_root t)
    · rw [entryAt?_drop hroot] at hentry
      cases hentry
  · rw [entryAt?_drop_of_ne heq] at hentry
    exact h ⟨entry, hentry, hdirectory⟩

/-! ## Following paths -/

def start (t : Tree) (path : String) : Place :=
  if Path.isAbsolute path then [] else t.here

/-- Where the last name of a path leads. -/
def finish (path : String) (last : String) (directory : Place) : Except Fault Target :=
  if last = "." then .ok (.entered directory)
  else if last = ".." then .ok (.entered directory.dropLast)
  else if Text.byteLength last.toList > nameLimit then .error .nameTooLong
  else .ok (.named directory last (path.toList.getLast? == some '/'))

/-- Where a path leads that may be one at all: its names but the last are entered one after the
other. -/
theorem follow_eq {path : String} (hname : ¬ path.toList.contains '\x00' = true)
    (hempty : ¬ path.isEmpty = true) (hlong : ¬ Text.byteLength path.toList > pathLimit) (t : Tree) :
    t.follow path =
      match (Path.names path).getLast? with
      | none => .ok (.entered (t.start path))
      | some last =>
        match t.enter (t.start path) (Path.names path).dropLast with
        | .error fault => .error fault
        | .ok directory => finish path last directory := by
  rw [follow, if_neg hname, if_neg hempty, if_neg hlong]
  rfl

/-- A path leads nowhere in any tree, or it has no names, or all of its names but the last are
entered one after the other. -/
theorem follow_cases (path : String) :
    (∃ fault, ∀ t : Tree, t.follow path = .error fault) ∨
    (Path.names path = [] ∧ ∀ t : Tree, t.follow path = .ok (.entered (t.start path))) ∨
    ∃ before last, Path.names path = before ++ [last] ∧
      ∀ t : Tree, t.follow path = (t.enter (t.start path) before).bind (finish path last) := by
  by_cases hname : path.toList.contains '\x00' = true
  · exact .inl ⟨.badName, fun t => by rw [follow, if_pos hname]⟩
  by_cases hempty : path.isEmpty = true
  · exact .inl ⟨.notFound, fun t => by rw [follow, if_neg hname, if_pos hempty]⟩
  by_cases hlong : Text.byteLength path.toList > pathLimit
  · exact .inl ⟨.nameTooLong, fun t => by rw [follow, if_neg hname, if_neg hempty, if_pos hlong]⟩
  rcases List.eq_nil_or_concat (Path.names path) with hnil | ⟨before, last, hlast⟩
  · refine .inr (.inl ⟨hnil, fun t => ?_⟩)
    rw [follow_eq hname hempty hlong, hnil]
    rfl
  · rw [List.concat_eq_append] at hlast
    refine .inr (.inr ⟨before, last, hlast, fun t => ?_⟩)
    rw [follow_eq hname hempty hlong, hlast, List.getLast?_concat, List.dropLast_concat]
    cases t.enter (t.start path) before <;> rfl

theorem finish_named {path last : String} {place directory : Place} {name : String} {slash : Bool}
    (h : finish path last place = .ok (.named directory name slash)) :
    last ≠ "." ∧ directory = place ∧ name = last := by
  unfold finish at h
  split at h
  · cases h
  next hpoint =>
  split at h
  · cases h
  split at h
  · cases h
  · cases h
    exact ⟨hpoint, rfl, rfl⟩

theorem enter_mono (h : Keeps t t') {place place' : Place} {names : List String}
    (henter : t.enter place names = .ok place') : t'.enter place names = .ok place' := by
  induction names generalizing place with
  | nil => exact henter
  | cons name names ih =>
    rw [enter] at henter ⊢
    split at henter
    · next hdot =>
      rw [if_pos hdot]
      exact ih henter
    next hdot =>
    rw [if_neg hdot]
    split at henter
    · next hup =>
      rw [if_pos hup]
      exact ih henter
    next hup =>
    rw [if_neg hup]
    split at henter
    · cases henter
    next hlong =>
    rw [if_neg hlong]
    cases hentry : t.entryAt? (place ++ [name]) with
    | none =>
      rw [hentry] at henter
      cases henter
    | some entry =>
      simp only [hentry] at henter
      split at henter
      · next hdirectory =>
        obtain ⟨entry', hentry', hdirectory'⟩ := h.directories _ ⟨entry, hentry, hdirectory⟩
        simp only [hentry', hdirectory', ↓reduceIte]
        exact ih henter
      · cases henter

/-- A path that leads somewhere leads there in every tree that keeps the directories. -/
theorem follow_mono (h : Keeps t t') {path : String} {target : Target}
    (hfollow : t.follow path = .ok target) : t'.follow path = .ok target := by
  have hstart : t'.start path = t.start path := by
    rw [start, start, h.here]
  rcases follow_cases path with ⟨fault, hfault⟩ | ⟨-, hnone⟩ | ⟨before, last, -, hnames⟩
  · rw [hfault] at hfollow
    cases hfollow
  · rw [hnone] at hfollow ⊢
    rw [hstart]
    exact hfollow
  · rw [hnames] at hfollow ⊢
    cases henter : t.enter (t.start path) before with
    | error fault =>
      rw [henter] at hfollow
      cases hfollow
    | ok directory =>
      rw [henter] at hfollow
      rw [hstart, enter_mono h henter]
      exact hfollow

theorem read_named {path : String} {directory : Place} {name : String} {content : Bytes}
    (hfollow : t.follow path = .ok (.named directory name false))
    (hentry : t.entryAt? (directory ++ [name]) = some (.file content)) :
    t.read path = .ok content := by
  simp only [read, look, hfollow, hentry, Bool.false_and, Bool.false_eq_true, ↓reduceIte]

/-! ## What a step has done -/

theorem openFile_ok {path : String} {change : Bytes → Bytes}
    (h : t.openFile path change = .ok t') :
    ∃ directory name content, t.follow path = .ok (.named directory name false) ∧
      ¬ t.HasDirectory (directory ++ [name]) ∧
      t' = t.put (directory ++ [name]) (.file (change content)) := by
  unfold openFile at h
  split at h
  · cases h
  · cases h
  next directory name slash hfollow =>
  split at h
  · cases h
  next hslash =>
  obtain rfl : slash = false := by simpa using hslash
  split at h
  · next content hentry =>
    cases h
    exact ⟨directory, name, content, hfollow, not_hasDirectory_of_file hentry, rfl⟩
  · cases h
  · next hentry =>
    split at h
    · cases h
      exact ⟨directory, name, [], hfollow, not_hasDirectory_of_none hentry, rfl⟩
    · cases h

theorem write_ok {path : String} {content : Bytes} (h : t.write path content = .ok t') :
    ∃ directory name, t.follow path = .ok (.named directory name false) ∧
      ¬ t.HasDirectory (directory ++ [name]) ∧
      t' = t.put (directory ++ [name]) (.file content) := by
  obtain ⟨directory, name, -, hfollow, hplace, rfl⟩ := openFile_ok h
  exact ⟨directory, name, hfollow, hplace, rfl⟩

theorem makeDirectory_ok {path : String} (h : t.makeDirectory path = .ok t') :
    ∃ directory name slash, t.follow path = .ok (.named directory name slash) ∧
      t.entryAt? (directory ++ [name]) = none ∧
      t' = t.put (directory ++ [name]) .directory := by
  unfold makeDirectory at h
  split at h
  · cases h
  · cases h
  next directory name slash hfollow =>
  split at h
  · cases h
  next hentry =>
  split at h
  · cases h
    exact ⟨directory, name, slash, hfollow, by simpa using hentry, rfl⟩
  · cases h

theorem move_ok {source target : String} (h : t.move source target = .ok t') :
    ∃ fromDirectory fromName toDirectory toName content,
      t.follow source = .ok (.named fromDirectory fromName false) ∧
      t.follow target = .ok (.named toDirectory toName false) ∧
      t.entryAt? (fromDirectory ++ [fromName]) = some (.file content) ∧
      ¬ t.HasDirectory (toDirectory ++ [toName]) ∧
      t' = (t.drop (fromDirectory ++ [fromName])).put (toDirectory ++ [toName]) (.file content) := by
  unfold move at h
  split at h
  · cases h
  · cases h
  · cases h
  · cases h
  next fromDirectory fromName sourceSlash toDirectory toName targetSlash hsource htarget =>
  split at h
  · cases h
  · next content hentry =>
    split at h
    · cases h
    next hslash =>
    obtain ⟨rfl, rfl⟩ : sourceSlash = false ∧ targetSlash = false := by simpa using hslash
    split at h
    · next old hold =>
      cases h
      exact ⟨_, _, _, _, content, hsource, htarget, hentry, not_hasDirectory_of_file hold, rfl⟩
    · cases h
    · next hnone =>
      split at h
      · cases h
        exact ⟨_, _, _, _, content, hsource, htarget, hentry, not_hasDirectory_of_none hnone, rfl⟩
      · cases h
  · cases h

theorem remove_ok {path : String} (h : t.remove path = .ok t') :
    ∃ directory name content, t.follow path = .ok (.named directory name false) ∧
      t.entryAt? (directory ++ [name]) = some (.file content) ∧ t' = t.drop (directory ++ [name]) := by
  unfold remove at h
  split at h
  · cases h
  · cases h
  next directory name slash hfollow =>
  split at h
  · cases h
  · next content hentry =>
    split at h
    · cases h
    next hslash =>
    obtain rfl : slash = false := by simpa using hslash
    cases h
    exact ⟨directory, name, content, hfollow, hentry, rfl⟩
  · cases h

/-! ## Directories stay -/

theorem place_ne_nil {directory : Place} {name : String} : directory ++ [name] ≠ [] :=
  List.append_ne_nil_of_right_ne_nil _ (List.cons_ne_nil _ _)

theorem keeps_openFile {path : String} {change : Bytes → Bytes}
    (h : t.openFile path change = .ok t') : Keeps t t' := by
  obtain ⟨directory, name, content, -, hplace, rfl⟩ := openFile_ok h
  exact keeps_put place_ne_nil fun hdirectory => absurd hdirectory hplace

theorem keeps_makeDirectory {path : String} (h : t.makeDirectory path = .ok t') : Keeps t t' := by
  obtain ⟨directory, name, slash, -, -, rfl⟩ := makeDirectory_ok h
  exact keeps_put place_ne_nil fun _ => rfl

theorem keeps_move {source target : String} (h : t.move source target = .ok t') : Keeps t t' := by
  obtain ⟨fromDirectory, fromName, toDirectory, toName, content, -, -, hentry, hplace, rfl⟩ :=
    move_ok h
  have hdrop := keeps_drop (not_hasDirectory_of_file hentry)
  refine hdrop.trans (keeps_put place_ne_nil ?_)
  intro hdirectory
  exact absurd hdirectory (not_hasDirectory_drop hplace)

theorem keeps_remove {path : String} (h : t.remove path = .ok t') : Keeps t t' := by
  obtain ⟨directory, name, content, -, hentry, rfl⟩ := remove_ok h
  exact keeps_drop (not_hasDirectory_of_file hentry)

theorem keeps_after {result : Except Fault Tree} (h : ∀ t', result = .ok t' → Keeps t t') :
    Keeps t (t.after result).2 := by
  cases result with
  | error fault => exact Keeps.refl t
  | ok t' => exact h t' rfl

theorem ensureDirectory_tree (t : Tree) (path : String) :
    (t.ensureDirectory path).2 = (t.after (t.makeDirectory path)).2 := by
  unfold ensureDirectory
  cases t.makeDirectory path <;> rfl

theorem keeps_ensureDirectory (t : Tree) (path : String) :
    Keeps t (t.ensureDirectory path).2 := by
  rw [ensureDirectory_tree]
  exact keeps_after fun _ h => keeps_makeDirectory h

/-- What making one directory keeps, making a directory and those above it keeps; the paths may be
told apart by what holds of every path above as well. -/
theorem makeDirectoriesUpTo_preserves {P : Tree → Prop} {Q : String → Prop}
    (hmade : ∀ t path, Q path → P t → P (t.ensureDirectory path).2)
    (habove : ∀ path above, Q path → Path.parent? path = some above → Q above)
    (bound : Nat) (t : Tree) (path : String) (hpath : Q path) (ht : P t) :
    P (t.makeDirectoriesUpTo bound path).2 := by
  induction bound generalizing path with
  | zero => exact ht
  | succ bound ih =>
    rw [makeDirectoriesUpTo]
    split
    · exact ht
    split
    · next hnone =>
      split
      · exact ht
      next above hparent =>
      have hab := ih above (habove path above hpath hparent)
      split
      · next t' heq =>
        rw [heq] at hab
        exact hmade t' path hpath hab
      · exact hab
    · exact hmade t path hpath ht

theorem keeps_makeDirectories (t : Tree) (path : String) : Keeps t (t.makeDirectories path).2 :=
  makeDirectoriesUpTo_preserves (P := Keeps t) (Q := fun _ => True)
    (fun t' path _ h => h.trans (keeps_ensureDirectory t' path)) (fun _ _ _ _ => trivial) _ t path
    trivial (Keeps.refl t)

/-- Directories stay with every step. -/
theorem keeps_answer (t : Tree) (s : Step) : Keeps t (t.answer s).2 := by
  cases s with
  | read path => exact Keeps.refl t
  | probe path => exact Keeps.refl t
  | makeDirectories path => exact keeps_makeDirectories t path
  | write path content => exact keeps_after fun _ h => keeps_openFile h
  | move source target => exact keeps_after fun _ h => keeps_move h
  | remove path => exact keeps_after fun _ h => keeps_remove h
  | openLog path filter => exact keeps_after fun _ h => keeps_openFile h
  | note e => exact Keeps.refl t

/-! ## Reading what was put in place -/

/-- A file that was written and put in the place of another is read there. -/
theorem read_of_move {source target : String} {content : Bytes}
    (hwrite : t.write source content = .ok t') (hmove : t'.move source target = .ok t'') :
    t''.read target = .ok content := by
  obtain ⟨directory, name, hsource, -, rfl⟩ := write_ok hwrite
  obtain ⟨_, _, toDirectory, toName, content', hsource', htarget, hentry, -, rfl⟩ := move_ok hmove
  have hsame := follow_mono (keeps_openFile hwrite) hsource
  rw [hsource'] at hsame
  obtain ⟨rfl, rfl, -⟩ := Target.named.inj (Except.ok.inj hsame)
  rw [entryAt?_put place_ne_nil] at hentry
  cases hentry
  exact read_named (follow_mono (keeps_move hmove) htarget) (entryAt?_put place_ne_nil)

/-- Nothing is left where a file was before it was put in the place of another. -/
theorem look_of_move {source target : String} (hmove : t.move source target = .ok t')
    (hother : ∀ {directory name directory' name'},
      t.follow source = .ok (.named directory name false) →
      t.follow target = .ok (.named directory' name' false) →
      directory ++ [name] ≠ directory' ++ [name']) :
    t'.look source = .error .notFound := by
  obtain ⟨directory, name, directory', name', content, hsource, htarget, hentry, -, rfl⟩ :=
    move_ok hmove
  have hgone : (t.drop (directory ++ [name])).entryAt? (directory ++ [name]) = none :=
    entryAt?_drop place_ne_nil
  rw [look, follow_mono (keeps_move hmove) hsource]
  simp only [entryAt?_put_of_ne (hother hsource htarget), hgone]

/-- Nothing is read where a file was removed. -/
theorem read_of_remove {path : String} (h : t.remove path = .ok t') :
    t'.read path = .error .notFound := by
  obtain ⟨directory, name, content, hfollow, -, rfl⟩ := remove_ok h
  have hfollow' := follow_mono (keeps_remove h) hfollow
  simp only [read, look, hfollow', entryAt?_drop place_ne_nil]

/-- Nothing is read where there is nothing to remove. -/
theorem read_of_remove_notFound {path : String} (h : t.remove path = .error .notFound) :
    t.read path = .error .notFound := by
  unfold remove at h
  split at h
  · next fault hfollow =>
    cases h
    simp only [read, look, hfollow]
  · cases h
  next directory name slash hfollow =>
  split at h
  · next hentry => simp only [read, look, hfollow, hentry]
  · split at h <;> cases h
  · cases h

/-- Nothing is removed where nothing can be read. -/
theorem remove_of_read_notFound {path : String} (h : t.read path = .error .notFound) :
    t.remove path = .error .notFound := by
  cases hfollow : t.follow path with
  | error fault =>
    simp only [read, look, hfollow] at h
    cases h
    simp only [remove, hfollow]
  | ok target =>
    cases target with
    | entered place =>
      simp only [read, look, hfollow] at h
      cases h
    | named directory name slash =>
      cases hentry : t.entryAt? (directory ++ [name]) with
      | none => simp only [remove, hfollow, hentry]
      | some entry =>
        -- There is something, and whatever it is, reading does not fail so.
        simp only [read, look, hfollow, hentry] at h
        split at h
        · next fault hlook =>
          split at hlook
          · cases hlook
            cases h
          · cases hlook
        · cases h
        · cases h

/-! ## Files lie in directories -/

/-- Whatever there is lies in a directory, and relative paths start at one. -/
structure Grounded (t : Tree) : Prop where
  above : ∀ place name, t.entryAt? (place ++ [name]) ≠ none → t.HasDirectory place
  here : t.HasDirectory t.here

theorem grounded_empty : (⟨[], []⟩ : Tree).Grounded where
  above place name h := by
    refine absurd ?_ h
    simp [entryAt?]
  here := hasDirectory_root _

/-- Where nothing lies, nothing lies below. -/
theorem Grounded.none_below (h : t.Grounded) {place : Place} (hplace : t.entryAt? place = none)
    (name : String) : t.entryAt? (place ++ [name]) = none := by
  cases hentry : t.entryAt? (place ++ [name]) with
  | none => rfl
  | some entry =>
    have habove := h.above place name (by rw [hentry]; exact Option.some_ne_none entry)
    exact absurd habove (not_hasDirectory_of_none hplace)

theorem Grounded.dropLast (h : t.Grounded) {place : Place} (hplace : t.HasDirectory place) :
    t.HasDirectory place.dropLast := by
  rcases List.eq_nil_or_concat place with rfl | ⟨above, name, rfl⟩
  · exact hplace
  · rw [List.concat_eq_append, List.dropLast_concat]
    obtain ⟨entry, hentry, -⟩ := hplace
    apply h.above above name
    rw [← List.concat_eq_append, hentry]
    exact Option.some_ne_none entry

theorem Grounded.enter (h : t.Grounded) {place place' : Place} {names : List String}
    (hplace : t.HasDirectory place) (henter : t.enter place names = .ok place') :
    t.HasDirectory place' := by
  induction names generalizing place with
  | nil =>
    cases henter
    exact hplace
  | cons name names ih =>
    rw [Tree.enter] at henter
    split at henter
    · exact ih hplace henter
    split at henter
    · exact ih (h.dropLast hplace) henter
    split at henter
    · cases henter
    cases hentry : t.entryAt? (place ++ [name]) with
    | none =>
      rw [hentry] at henter
      cases henter
    | some entry =>
      simp only [hentry] at henter
      split at henter
      · next hdirectory => exact ih ⟨entry, hentry, hdirectory⟩ henter
      · cases henter

theorem Grounded.start (h : t.Grounded) (path : String) : t.HasDirectory (t.start path) := by
  unfold Tree.start
  split
  · exact hasDirectory_root t
  · exact h.here

/-- A path leads to a name in a directory. -/
theorem Grounded.follow (h : t.Grounded) {path : String} {directory : Place} {name : String}
    {slash : Bool} (hfollow : t.follow path = .ok (.named directory name slash)) :
    t.HasDirectory directory := by
  rcases follow_cases path with ⟨fault, hfault⟩ | ⟨-, hnone⟩ | ⟨before, last, -, hnames⟩
  · rw [hfault] at hfollow
    cases hfollow
  · rw [hnone] at hfollow
    cases hfollow
  · rw [hnames] at hfollow
    cases henter : t.enter (t.start path) before with
    | error fault =>
      rw [henter] at hfollow
      cases hfollow
    | ok place =>
      rw [henter] at hfollow
      obtain ⟨-, rfl, -⟩ := finish_named hfollow
      exact h.enter (h.start path) henter

theorem Grounded.put (h : t.Grounded) {directory : Place} {name : String} {entry : Entry}
    (hdirectory : t.HasDirectory directory)
    (hplace : t.HasDirectory (directory ++ [name]) → entry.isDirectory = true) :
    (t.put (directory ++ [name]) entry).Grounded where
  above place name' hentry := by
    have hkeeps := keeps_put place_ne_nil hplace
    apply hkeeps.directories
    by_cases heq : place ++ [name'] = directory ++ [name]
    · obtain ⟨rfl, -⟩ := List.append_inj' heq rfl
      exact hdirectory
    · rw [entryAt?_put_of_ne heq] at hentry
      exact h.above place name' hentry
  here := (keeps_put place_ne_nil hplace).directories _ h.here

theorem Grounded.drop (h : t.Grounded) {place : Place} (hplace : ¬ t.HasDirectory place) :
    (t.drop place).Grounded where
  above place' name hentry := by
    apply (keeps_drop hplace).directories
    by_cases heq : place' ++ [name] = place
    · subst heq
      rw [entryAt?_drop place_ne_nil] at hentry
      exact absurd rfl hentry
    · rw [entryAt?_drop_of_ne heq] at hentry
      exact h.above place' name hentry
  here := (keeps_drop hplace).directories _ h.here

theorem Grounded.openFile (h : t.Grounded) {path : String} {change : Bytes → Bytes}
    (hopen : t.openFile path change = .ok t') : t'.Grounded := by
  obtain ⟨directory, name, content, hfollow, hplace, rfl⟩ := openFile_ok hopen
  exact h.put (h.follow hfollow) fun hdirectory => absurd hdirectory hplace

theorem Grounded.makeDirectory (h : t.Grounded) {path : String}
    (hmake : t.makeDirectory path = .ok t') : t'.Grounded := by
  obtain ⟨directory, name, slash, hfollow, -, rfl⟩ := makeDirectory_ok hmake
  exact h.put (h.follow hfollow) fun _ => rfl

theorem Grounded.move (h : t.Grounded) {source target : String}
    (hmove : t.move source target = .ok t') : t'.Grounded := by
  obtain ⟨fromDirectory, fromName, toDirectory, toName, content, -, htarget, hentry, hplace, rfl⟩ :=
    move_ok hmove
  have hfile := not_hasDirectory_of_file hentry
  refine (h.drop hfile).put ((keeps_drop hfile).directories _ (h.follow htarget)) ?_
  intro hdirectory
  exact absurd hdirectory (not_hasDirectory_drop hplace)

theorem Grounded.remove (h : t.Grounded) {path : String} (hremove : t.remove path = .ok t') :
    t'.Grounded := by
  obtain ⟨directory, name, content, -, hentry, rfl⟩ := remove_ok hremove
  exact h.drop (not_hasDirectory_of_file hentry)

theorem Grounded.after (h : t.Grounded) {result : Except Fault Tree}
    (hresult : ∀ t', result = .ok t' → t'.Grounded) : (t.after result).2.Grounded := by
  cases result with
  | error fault => exact h
  | ok t' => exact hresult t' rfl

theorem Grounded.makeDirectories (h : t.Grounded) (path : String) :
    (t.makeDirectories path).2.Grounded :=
  makeDirectoriesUpTo_preserves (P := Grounded) (Q := fun _ => True)
    (fun t' path _ h => by
      rw [ensureDirectory_tree]
      exact h.after fun _ hmake => h.makeDirectory hmake)
    (fun _ _ _ _ => trivial) _ t path trivial h

/-- With every step files go on lying in directories. -/
theorem Grounded.answer (h : t.Grounded) (s : Step) : (t.answer s).2.Grounded := by
  cases s with
  | read path => exact h
  | probe path => exact h
  | makeDirectories path => exact h.makeDirectories path
  | write path content => exact h.after fun _ hwrite => h.openFile hwrite
  | move source target => exact h.after fun _ hmove => h.move hmove
  | remove path => exact h.after fun _ hremove => h.remove hremove
  | openLog path filter => exact h.after fun _ hopen => h.openFile hopen
  | note e => exact h

end Tree

end Enrollment.Files
