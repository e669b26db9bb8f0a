import Enrollment.Proofs.Files.Paths
/-!
# What does not touch a file

Reading a plain path looks at the places on the way to the file and at nothing else. So a file
beside it may be written at any time, and directories above it may be made. There is one exception
to the second: below a directory that is missing no name is looked at, so one that is too long is
only noticed once the directory has been made.

Results:
 1. `read_congr`: a path is read the same in trees that are the same on the way.
 2. `read_put_beside`: a file beside another one does not matter to it.
 3. `grown_makeDirectories`: what making the directories above a file changes.
 4. `read_grown`: what making the directories above a file means for reading it.
 5. `read_ne_ok_of_long`: there is no file under a name that is too long.
 6. `read_of_nothing`: what is read below directories where there is no file.
-/

namespace Enrollment.Files.Tree

open Files.Path (Plain names steps)

variable {t t' t'' : Tree}

theorem read_error {path : String} {fault : Fault} (h : t.follow path = .error fault) :
    t.read path = .error fault := by
  simp only [read, look, h]

theorem read_congr_place {path : String} {directory : Place} {name : String} {slash : Bool}
    (h : t.follow path = .ok (.named directory name slash))
    (h' : t'.follow path = .ok (.named directory name slash))
    (hentry : t'.entryAt? (directory ++ [name]) = t.entryAt? (directory ++ [name])) :
    t'.read path = t.read path := by
  simp only [read, look, h, h', hentry]

theorem read_congr_follow {path : String} (hfollow : t'.follow path = t.follow path)
    (hentry : ∀ directory name slash, t.follow path = .ok (.named directory name slash) →
      t'.entryAt? (directory ++ [name]) = t.entryAt? (directory ++ [name])) :
    t'.read path = t.read path := by
  cases h : t.follow path with
  | error fault =>
    rw [h] at hfollow
    rw [read_error h, read_error hfollow]
  | ok target =>
    rw [h] at hfollow
    cases target with
    | entered place => simp only [read, look, h, hfollow]
    | named directory name slash => exact read_congr_place h hfollow (hentry _ _ _ h)

/-! ## What is looked at -/

theorem enter_congr {ns : List String} (hplain : ".." ∉ ns) {place : Place}
    (h : ∀ q, q ≠ [] → q <+: ns.filter (fun name => name ≠ ".") →
      t'.entryAt? (place ++ q) = t.entryAt? (place ++ q)) :
    t'.enter place ns = t.enter place ns := by
  induction ns generalizing place with
  | nil => rfl
  | cons name ns ih =>
    have hrest : ".." ∉ ns := fun hmem => hplain (List.mem_cons_of_mem name hmem)
    have hup : name ≠ ".." := by
      rintro rfl
      exact hplain List.mem_cons_self
    rw [enter, enter]
    by_cases hpoint : name = "."
    · rw [if_pos hpoint, if_pos hpoint]
      apply ih hrest
      intro q hq hway
      apply h q hq
      simpa [hpoint] using hway
    rw [if_neg hpoint, if_neg hpoint, if_neg hup, if_neg hup]
    have hfilter : (name :: ns).filter (fun name => name ≠ ".") =
        name :: ns.filter fun name => name ≠ "." := by
      simp [hpoint]
    rw [hfilter] at h
    have hentry := h [name] (List.cons_ne_nil _ _)
      (List.prefix_cons_inj name |>.2 (List.nil_prefix))
    have hbelow : t'.enter (place ++ [name]) ns = t.enter (place ++ [name]) ns := by
      apply ih hrest
      intro q hq hway
      rw [List.append_assoc]
      exact h (name :: q) (List.cons_ne_nil _ _) (List.prefix_cons_inj name |>.2 hway)
    rw [hentry, hbelow]

/-- A plain path is read the same in trees that are the same on the way to its place. -/
theorem read_congr {path : String} (hplain : Plain path) (hhere : t'.here = t.here)
    (h : ∀ q, q ≠ [] → q <+: steps path →
      t'.entryAt? (t.start path ++ q) = t.entryAt? (t.start path ++ q)) :
    t'.read path = t.read path := by
  have hstart : t'.start path = t.start path := by
    rw [start, start, hhere]
  have hfollow : t'.follow path = t.follow path := by
    rcases follow_cases path with ⟨fault, hfault⟩ | ⟨-, hnone⟩ | ⟨before, last, hlast, hnames⟩
    · rw [hfault, hfault]
    · rw [hnone, hnone, hstart]
    · rw [hnames, hnames, hstart]
      congr 1
      apply enter_congr
      · intro hmem
        exact hplain (hlast ▸ List.mem_append_left _ hmem)
      · intro q hq hway
        apply h q hq
        rw [steps, hlast, List.filter_append]
        exact hway.trans (List.prefix_append _ _)
  apply read_congr_follow hfollow
  intro directory name slash hto
  obtain ⟨hplace, hne⟩ := placeOf_of_follow hplain hto
  rw [hplace, placeOf]
  exact h _ hne (List.prefix_refl _)

/-- A place beside a file is not on the way to it. -/
theorem beside_ne {base : Place} {ns q : List String} {other : String}
    (hother : ns ≠ ns.dropLast ++ [other]) (hne : ns ≠ []) (hway : q <+: ns) :
    base ++ q ≠ base ++ (ns.dropLast ++ [other]) := by
  intro heq
  obtain rfl := List.append_cancel_left heq
  have hlength : (ns.dropLast ++ [other]).length = ns.length := by
    have hpos := List.length_pos_iff.2 hne
    rw [List.length_append, List.length_dropLast, List.length_singleton]
    omega
  exact hother (hway.eq_of_length hlength).symm

/-- What lies beside a file does not matter to it. -/
theorem read_put_beside {path : String} (hplain : Plain path) {other : String} {entry : Entry}
    (hother : steps path ≠ (steps path).dropLast ++ [other]) :
    (t.put (t.start path ++ ((steps path).dropLast ++ [other])) entry).read path = t.read path := by
  refine read_congr (t := t) hplain rfl ?_
  intro q hq hway
  apply entryAt?_put_of_ne
  apply beside_ne hother _ hway
  rintro hnil
  rw [hnil, List.prefix_nil] at hway
  exact hq hway

/-! ## Directories above -/

/-- A tree with more directories, at places that are on a way down. -/
structure Grown (base : Place) (way : List String) (t t' : Tree) : Prop where
  here : t'.here = t.here
  entry : ∀ place, t'.entryAt? place = t.entryAt? place ∨
    t.entryAt? place = none ∧ t'.entryAt? place = some .directory ∧
      ∃ q, q <+: way ∧ place = base ++ q

theorem Grown.refl (base : Place) (way : List String) (t : Tree) : Grown base way t t where
  here := rfl
  entry _ := .inl rfl

theorem Grown.makeDirectory {base : Place} {way : List String} (h : Grown base way t t')
    {path : String} (hplain : Plain path) (hstart : t'.start path = base) (hsteps : steps path <+: way)
    (hmake : t'.makeDirectory path = .ok t'') : Grown base way t t'' := by
  obtain ⟨directory, name, slash, hfollow, hnone, rfl⟩ := makeDirectory_ok hmake
  obtain ⟨hplace, -⟩ := placeOf_of_follow hplain hfollow
  refine ⟨h.here, ?_⟩
  intro place
  by_cases heq : place = directory ++ [name]
  · subst heq
    right
    refine ⟨?_, entryAt?_put place_ne_nil, steps path, hsteps, ?_⟩
    · rcases h.entry (directory ++ [name]) with hsame | ⟨hwas, -⟩
      · rw [← hsame, hnone]
      · exact hwas
    · rw [hplace, placeOf, hstart]
  · rw [entryAt?_put_of_ne heq]
    exact h.entry place

/-- Making a plain path below a base, and all above it, makes directories on the way. -/
theorem grown_makeDirectories {way : List String} {path directory : String}
    (hplain : Plain directory) (habsolute : Path.isAbsolute directory = Path.isAbsolute path)
    (hsteps : steps directory <+: way) :
    Grown (t.start path) way t (t.makeDirectories directory).2 := by
  apply makeDirectoriesUpTo_preserves (P := Grown (t.start path) way t)
    (Q := fun p => Plain p ∧ Path.isAbsolute p = Path.isAbsolute path ∧ steps p <+: way)
  · rintro t' p ⟨hp, habs, hway⟩ h
    rw [ensureDirectory_tree]
    cases hmake : t'.makeDirectory p with
    | error fault => exact h
    | ok t'' =>
      refine h.makeDirectory hp ?_ hway hmake
      rw [start, start, h.here, habs]
  · rintro p above ⟨hp, habs, hway⟩ hparent
    obtain ⟨habs', -, hsteps'⟩ := Path.parent_steps hparent
    refine ⟨hp.parent hparent, habs'.trans habs, ?_⟩
    rw [hsteps']
    exact (List.dropLast_prefix _).trans hway
  · exact ⟨hplain, habsolute, hsteps⟩
  · exact Grown.refl _ _ t

/-! ## Reading below new directories -/

def HasLongName (ns : List String) : Prop :=
  ∃ name ∈ ns, Text.byteLength name.toList > nameLimit

/-- Below a directory that was missing, there are new directories or nothing. -/
theorem enter_missing (ht : t.Grounded) {base : Place} {way : List String}
    (h : Grown base way t t') {ns : List String} (hplain : ".." ∉ ns) {place : Place}
    (hnone : t.entryAt? place = none) (hplace : t'.HasDirectory place) :
    t'.enter place ns = .error .notFound ∨
    (t'.enter place ns = .error .nameTooLong ∧ HasLongName ns) ∨
    ∃ place', t'.enter place ns = .ok place' ∧ t.entryAt? place' = none ∧
      t'.HasDirectory place' := by
  induction ns generalizing place with
  | nil => exact .inr (.inr ⟨place, rfl, hnone, hplace⟩)
  | cons name ns ih =>
    have hrest : ".." ∉ ns := fun hmem => hplain (List.mem_cons_of_mem name hmem)
    have hup : name ≠ ".." := by
      rintro rfl
      exact hplain List.mem_cons_self
    have hlater : HasLongName ns → HasLongName (name :: ns) := by
      rintro ⟨long, hmem, hlong⟩
      exact ⟨long, List.mem_cons_of_mem name hmem, hlong⟩
    rw [enter]
    by_cases hpoint : name = "."
    · rw [if_pos hpoint]
      rcases ih hrest hnone hplace with hmissing | ⟨hto, hlong⟩ | hfound
      · exact .inl hmissing
      · exact .inr (.inl ⟨hto, hlater hlong⟩)
      · exact .inr (.inr hfound)
    rw [if_neg hpoint, if_neg hup]
    by_cases hlong : Text.byteLength name.toList > nameLimit
    · rw [if_pos hlong]
      exact .inr (.inl ⟨rfl, name, List.mem_cons_self, hlong⟩)
    rw [if_neg hlong]
    have hbelow := ht.none_below hnone name
    rcases h.entry (place ++ [name]) with hsame | ⟨-, hnew, -⟩
    · rw [hsame, hbelow]
      exact .inl rfl
    · rw [hnew]
      rcases ih hrest hbelow ⟨.directory, hnew, rfl⟩ with hmissing | ⟨hto, hlong⟩ | hfound
      · exact .inl hmissing
      · exact .inr (.inl ⟨hto, hlater hlong⟩)
      · exact .inr (.inr hfound)

/-- New directories change nothing on the way down, or there was something missing. -/
theorem enter_grown (ht : t.Grounded) {base : Place} {way : List String}
    (h : Grown base way t t') {ns : List String} (hplain : ".." ∉ ns) (place : Place) :
    t'.enter place ns = t.enter place ns ∨
    t.enter place ns = .error .notFound ∧
      ((t'.enter place ns = .error .nameTooLong ∧ HasLongName ns) ∨
        ∃ place', t'.enter place ns = .ok place' ∧ t.entryAt? place' = none ∧
          t'.HasDirectory place') := by
  induction ns generalizing place with
  | nil => exact .inl rfl
  | cons name ns ih =>
    have hrest : ".." ∉ ns := fun hmem => hplain (List.mem_cons_of_mem name hmem)
    have hup : name ≠ ".." := by
      rintro rfl
      exact hplain List.mem_cons_self
    have hlater : HasLongName ns → HasLongName (name :: ns) := by
      rintro ⟨long, hmem, hlong⟩
      exact ⟨long, List.mem_cons_of_mem name hmem, hlong⟩
    rw [enter, enter]
    by_cases hpoint : name = "."
    · rw [if_pos hpoint, if_pos hpoint]
      rcases ih hrest place with hsame | ⟨hwas, ⟨hto, hlong⟩ | hfound⟩
      · exact .inl hsame
      · exact .inr ⟨hwas, .inl ⟨hto, hlater hlong⟩⟩
      · exact .inr ⟨hwas, .inr hfound⟩
    rw [if_neg hpoint, if_neg hpoint, if_neg hup, if_neg hup]
    by_cases hlong : Text.byteLength name.toList > nameLimit
    · rw [if_pos hlong, if_pos hlong]
      exact .inl rfl
    rw [if_neg hlong, if_neg hlong]
    -- Either the name leads where it led, or there was nothing and from here on all is new.
    rcases h.entry (place ++ [name]) with hsame | ⟨hwas, hnew, -⟩
    · rw [hsame]
      cases hentry : t.entryAt? (place ++ [name]) with
      | none => exact .inl rfl
      | some entry =>
        by_cases hdirectory : entry.isDirectory = true
        · simp only [hdirectory, ↓reduceIte]
          rcases ih hrest (place ++ [name]) with hsame | ⟨hwas, ⟨hto, hlong⟩ | hfound⟩
          · exact .inl hsame
          · exact .inr ⟨hwas, .inl ⟨hto, hlater hlong⟩⟩
          · exact .inr ⟨hwas, .inr hfound⟩
        · left
          simp only [hdirectory, Bool.false_eq_true, ↓reduceIte]
    · rw [hwas, hnew]
      have hdirectory : t'.HasDirectory (place ++ [name]) := ⟨.directory, hnew, rfl⟩
      rcases enter_missing ht h hrest hwas hdirectory with hmissing | ⟨hto, hlong⟩ | hfound
      · exact .inl hmissing
      · exact .inr ⟨rfl, .inl ⟨hto, hlater hlong⟩⟩
      · exact .inr ⟨rfl, .inr hfound⟩

/-- A file is no directory on the way to itself. -/
theorem Grown.at_end {base : Place} {ns : List String} (h : Grown base ns.dropLast t t')
    (hne : ns ≠ []) : t'.entryAt? (base ++ ns) = t.entryAt? (base ++ ns) := by
  rcases h.entry (base ++ ns) with hsame | ⟨-, -, q, hway, heq⟩
  · exact hsame
  · obtain rfl := List.append_cancel_left heq
    have hle := hway.length_le
    have hpos := List.length_pos_iff.2 hne
    rw [List.length_dropLast] at hle
    omega

theorem finish_long {path last : String} (hlong : Text.byteLength last.toList > nameLimit)
    (place : Place) : finish path last place = .error .nameTooLong := by
  have hpoint : last ≠ "." := by
    rintro rfl
    exact absurd hlong (by decide)
  have hup : last ≠ ".." := by
    rintro rfl
    exact absurd hlong (by decide)
  rw [finish, if_neg hpoint, if_neg hup, if_pos hlong]

/-- In a directory that is new there is no file, if its name is not too long to be one. -/
theorem read_new (ht : t.Grounded) {path : String} (hplain : Plain path)
    (h : Grown (t.start path) (steps path).dropLast t t') {before : List String} {last : String}
    (hlast : names path = before ++ [last]) {place : Place}
    (hto : t'.enter (t.start path) before = .ok place)
    (hfollow : t'.follow path = finish path last place) (hmissing : t.entryAt? place = none)
    (hdirectory : t'.HasDirectory place) :
    t'.read path = .error .notFound ∨
      HasLongName (names path) ∧ t'.read path = .error .nameTooLong := by
  have hbefore : ".." ∉ before := by
    intro hmem
    exact hplain (hlast ▸ List.mem_append_left _ hmem)
  have hplace := enter_plain hbefore hto
  by_cases hpoint : last = "."
  · -- The directory itself would have been made, but only those above it were.
    have hsteps : steps path = before.filter fun name => name ≠ "." := by
      rw [steps, hlast, List.filter_append]
      simp [hpoint]
    rw [hplace, ← hsteps] at hmissing hdirectory
    by_cases hne : steps path = []
    · rw [hne, List.append_nil] at hmissing
      exact absurd (ht.start path) (not_hasDirectory_of_none hmissing)
    · rw [← h.at_end hne] at hmissing
      exact absurd hdirectory (not_hasDirectory_of_none hmissing)
  have hup : last ≠ ".." := by
    rintro rfl
    exact hplain (hlast ▸ List.mem_append_right _ (List.mem_singleton_self _))
  by_cases hlong : Text.byteLength last.toList > nameLimit
  · right
    refine ⟨⟨last, hlast ▸ List.mem_append_right _ (List.mem_singleton_self _), hlong⟩, ?_⟩
    apply read_error
    rw [hfollow, finish_long hlong]
  · left
    have hto' : t'.follow path = .ok (.named place last (path.toList.getLast? == some '/')) := by
      rw [hfollow, finish, if_neg hpoint, if_neg hup, if_neg hlong]
    have hsteps : steps path = before.filter (fun name => name ≠ ".") ++ [last] := by
      rw [steps, hlast, List.filter_append]
      simp [hpoint]
    have hend : t'.entryAt? (place ++ [last]) = none := by
      have hne : steps path ≠ [] := by
        rw [hsteps]
        exact List.append_ne_nil_of_right_ne_nil _ (List.cons_ne_nil _ _)
      rw [hplace, List.append_assoc, ← hsteps, h.at_end hne, hsteps, ← List.append_assoc, ← hplace]
      exact ht.none_below hmissing last
    simp only [read, look, hto', hend]

/-- Directories that are made above a file do not matter to reading it, but for a name that is too
long below one that was missing. -/
theorem read_grown (ht : t.Grounded) {path : String} (hplain : Plain path)
    (h : Grown (t.start path) (steps path).dropLast t t') :
    t'.read path = t.read path ∨
      HasLongName (names path) ∧ t.read path = .error .notFound ∧
        t'.read path = .error .nameTooLong := by
  have hstart : t'.start path = t.start path := by
    rw [start, start, h.here]
  have hends : ∀ directory name slash, t.follow path = .ok (.named directory name slash) →
      t'.entryAt? (directory ++ [name]) = t.entryAt? (directory ++ [name]) := by
    intro directory name slash hto
    obtain ⟨hplace, hne⟩ := placeOf_of_follow hplain hto
    rw [hplace, placeOf]
    exact h.at_end hne
  rcases follow_cases path with ⟨fault, hfault⟩ | ⟨-, hnone⟩ | ⟨before, last, hlast, hnames⟩
  · exact .inl (read_congr_follow (by rw [hfault, hfault]) hends)
  · exact .inl (read_congr_follow (by rw [hnone, hnone, hstart]) hends)
  have hbefore : ".." ∉ before := by
    intro hmem
    exact hplain (hlast ▸ List.mem_append_left _ hmem)
  rcases enter_grown ht h hbefore (t.start path) with hsame | ⟨hwas, hgrown⟩
  · exact .inl (read_congr_follow (by rw [hnames, hnames, hstart, hsame]) hends)
  have hread : t.read path = .error .notFound := by
    apply read_error
    rw [hnames, hwas]
    rfl
  rcases hgrown with ⟨hto, long, hmem, hlong⟩ | ⟨place, hto, hmissing, hdirectory⟩
  · right
    refine ⟨⟨long, hlast ▸ List.mem_append_left _ hmem, hlong⟩, hread, ?_⟩
    apply read_error
    rw [hnames, hstart, hto]
    rfl
  have hfollow : t'.follow path = finish path last place := by
    rw [hnames, hstart, hto]
    rfl
  rcases read_new ht hplain h hlast hto hfollow hmissing hdirectory with hnew | ⟨hlong, hnew⟩
  · exact .inl (hnew.trans hread.symm)
  · exact .inr ⟨hlong, hread, hnew⟩

/-! ## A last name that is too long -/

/-- There is no file under a name that is too long. -/
theorem read_ne_ok_of_long {path last : String} {before : List String}
    (hnames : names path = before ++ [last]) (hlong : Text.byteLength last.toList > nameLimit)
    (t : Tree) (content : Text.Bytes) : t.read path ≠ .ok content := by
  have hfollow : ∃ fault, t.follow path = .error fault := by
    rcases follow_cases path with ⟨fault, hfault⟩ | ⟨hnil, -⟩ | ⟨before', last', hlast, hto⟩
    · exact ⟨fault, hfault t⟩
    · rw [hnames] at hnil
      exact absurd hnil (List.append_ne_nil_of_right_ne_nil _ (List.cons_ne_nil _ _))
    · obtain ⟨rfl, rfl⟩ : before = before' ∧ last = last' := by
        simpa using hnames.symm.trans hlast
      rw [hto]
      cases t.enter (t.start path) before with
      | error fault => exact ⟨fault, rfl⟩
      | ok place => exact ⟨_, finish_long hlong place⟩
  obtain ⟨fault, hfault⟩ := hfollow
  rw [read_error hfault]
  intro h
  cases h

/-! ## Where there is no file -/

/-- There can be a file with such a path. -/
structure Possible (path : String) : Prop where
  character : '\x00' ∉ path.toList
  length : Text.byteLength path.toList ≤ pathLimit
  names : ∀ name ∈ names path, Text.byteLength name.toList ≤ nameLimit

theorem not_possible_of_long {path : String} (h : HasLongName (names path)) : ¬ Possible path := by
  obtain ⟨name, hmem, hlong⟩ := h
  intro hpossible
  exact Nat.not_lt.2 (hpossible.names name hmem) hlong

/-- Nothing but directories lies above the file of a path. -/
def OpenTo (t : Tree) (path : String) : Prop :=
  ∀ q entry, q <+: (steps path).dropLast →
    t.entryAt? (t.start path ++ q) = some entry → entry.isDirectory = true

/-- A path of one step lies where it starts. -/
theorem Grounded.openTo (ht : t.Grounded) {path name : String} (h : steps path = [name]) :
    t.OpenTo path := by
  intro q entry hq hentry
  rw [h, List.dropLast_singleton, List.prefix_nil] at hq
  obtain ⟨entry', hentry', hdirectory⟩ := ht.start path
  rw [hq, List.append_nil, hentry'] at hentry
  cases hentry
  exact hdirectory

/-- Where nothing but directories is in the way, the way down is only stopped by what is missing or
by a name that is too long. -/
theorem enter_open {ns : List String} (hplain : ".." ∉ ns) (place : Place)
    (h : ∀ q entry, q <+: ns.filter (fun name => name ≠ ".") →
      t.entryAt? (place ++ q) = some entry → entry.isDirectory = true) :
    (∃ place', t.enter place ns = .ok place') ∨ t.enter place ns = .error .notFound ∨
      t.enter place ns = .error .nameTooLong ∧ HasLongName ns := by
  induction ns generalizing place with
  | nil => exact .inl ⟨place, rfl⟩
  | cons name ns ih =>
    have hrest : ".." ∉ ns := fun hmem => hplain (List.mem_cons_of_mem name hmem)
    have hup : name ≠ ".." := by
      rintro rfl
      exact hplain List.mem_cons_self
    have hlater : HasLongName ns → HasLongName (name :: ns) := by
      rintro ⟨long, hmem, hlong⟩
      exact ⟨long, List.mem_cons_of_mem name hmem, hlong⟩
    rw [enter]
    by_cases hpoint : name = "."
    · rw [if_pos hpoint]
      have hbelow := ih hrest place fun q entry hq => h q entry (by simpa [hpoint] using hq)
      exact hbelow.imp_right (Or.imp_right (And.imp_right hlater))
    rw [if_neg hpoint, if_neg hup]
    by_cases hlong : Text.byteLength name.toList > nameLimit
    · rw [if_pos hlong]
      exact .inr (.inr ⟨rfl, name, List.mem_cons_self, hlong⟩)
    rw [if_neg hlong]
    have hfilter : (name :: ns).filter (fun name => name ≠ ".") =
        name :: ns.filter fun name => name ≠ "." := by
      simp [hpoint]
    rw [hfilter] at h
    cases hentry : t.entryAt? (place ++ [name]) with
    | none => exact .inr (.inl rfl)
    | some entry =>
      have hdirectory := h [name] entry (List.prefix_cons_inj name |>.2 List.nil_prefix) hentry
      simp only [hdirectory, ↓reduceIte]
      have hbelow := ih hrest (place ++ [name]) fun q entry hq hlies =>
        h (name :: q) entry (List.prefix_cons_inj name |>.2 hq)
          (by rw [List.append_assoc] at hlies; exact hlies)
      exact hbelow.imp_right (Or.imp_right (And.imp_right hlater))

/-- Where there is no file, whatever lies on the way to it is a directory. -/
theorem OpenTo.way {path : String} (hopen : t.OpenTo path)
    (hnone : t.entryAt? (t.placeOf path) = none) {q : List String} {entry : Entry}
    (hq : q <+: steps path) (hentry : t.entryAt? (t.start path ++ q) = some entry) :
    entry.isDirectory = true := by
  rcases List.eq_nil_or_concat (steps path) with hnil | ⟨above, last, hconcat⟩
  · exact hopen q entry (by rw [hnil] at hq ⊢; exact hq) hentry
  rw [List.concat_eq_append] at hconcat
  rw [hconcat, List.prefix_concat_iff] at hq
  rcases hq with rfl | habove
  · rw [placeOf, hconcat, hentry] at hnone
    cases hnone
  · exact hopen q entry (by rw [hconcat, List.dropLast_concat]; exact habove) hentry

/-- Where the directory of a path has been entered, and there is no file, nothing is read. -/
theorem read_of_entered (ht : t.Grounded) {path : String} (hplain : Plain path)
    (hnone : t.entryAt? (t.placeOf path) = none) {before : List String} {last : String}
    (hlast : names path = before ++ [last]) {place : Place}
    (hto : t.enter (t.start path) before = .ok place)
    (hfollow : t.follow path = finish path last place) :
    t.read path = .error .notFound ∨ ¬ Possible path ∧ t.read path = .error .nameTooLong := by
  have hmem : last ∈ names path := hlast ▸ List.mem_append_right _ (List.mem_singleton_self _)
  have hplace : place = t.start path ++ before.filter fun name => name ≠ "." := by
    apply enter_plain _ hto
    intro hup
    exact hplain (hlast ▸ List.mem_append_left _ hup)
  rw [placeOf, steps, hlast, List.filter_append, ← List.append_assoc, ← hplace] at hnone
  by_cases hpoint : last = "."
  · -- The directory that was entered would be what the path leads to.
    have hnone' : t.entryAt? place = none := by simpa [hpoint] using hnone
    exact absurd (ht.enter (ht.start path) hto) (not_hasDirectory_of_none hnone')
  have hup : last ≠ ".." := by
    rintro rfl
    exact hplain hmem
  by_cases hlong : Text.byteLength last.toList > nameLimit
  · exact .inr ⟨not_possible_of_long ⟨last, hmem, hlong⟩,
      read_error (hfollow.trans (finish_long hlong place))⟩
  · have hend : t.entryAt? (place ++ [last]) = none := by simpa [hpoint] using hnone
    left
    simp only [read, look, hfollow, finish, if_neg hpoint, if_neg hup, if_neg hlong, hend]

/-- Where there is no file, and nothing but directories above it, nothing is read. Of a path that can
be none of a file, it may be told so. -/
theorem read_of_nothing (ht : t.Grounded) {path : String} (hplain : Plain path)
    (hopen : t.OpenTo path) (hnone : t.entryAt? (t.placeOf path) = none) :
    t.read path = .error .notFound ∨
      ¬ Possible path ∧ (t.read path = .error .nameTooLong ∨ t.read path = .error .badName) := by
  by_cases hname : path.toList.contains '\x00' = true
  · refine .inr ⟨fun hpossible => hpossible.character (by simpa using hname), .inr ?_⟩
    exact read_error (by rw [follow, if_pos hname])
  by_cases hempty : path.isEmpty = true
  · exact .inl (read_error (by rw [follow, if_neg hname, if_pos hempty]))
  by_cases hlong : Text.byteLength path.toList > pathLimit
  · refine .inr ⟨fun hpossible => Nat.not_lt.2 hpossible.length hlong, .inl ?_⟩
    exact read_error (by rw [follow, if_neg hname, if_neg hempty, if_pos hlong])
  have hfollow := follow_eq hname hempty hlong t
  rcases List.eq_nil_or_concat (names path) with hnil | ⟨before, last, hlast⟩
  · -- Where a path starts there is a directory.
    rw [placeOf, steps, hnil, List.filter_nil, List.append_nil] at hnone
    exact absurd (ht.start path) (not_hasDirectory_of_none hnone)
  rw [List.concat_eq_append] at hlast
  rw [hlast, List.getLast?_concat, List.dropLast_concat] at hfollow
  have hway : ∀ q entry, q <+: before.filter (fun name => name ≠ ".") →
      t.entryAt? (t.start path ++ q) = some entry → entry.isDirectory = true := by
    intro q entry hq hentry
    refine hopen.way hnone ?_ hentry
    rw [steps, hlast, List.filter_append]
    exact hq.trans (List.prefix_append _ _)
  have hbefore : ".." ∉ before := by
    intro hmem
    exact hplain (hlast ▸ List.mem_append_left _ hmem)
  rcases enter_open hbefore _ hway with ⟨place, hto⟩ | hmissing | ⟨hto, long, hmem, hlong⟩
  · rw [hto] at hfollow
    rcases read_of_entered ht hplain hnone hlast hto hfollow with hread | ⟨himpossible, hread⟩
    · exact .inl hread
    · exact .inr ⟨himpossible, .inl hread⟩
  · exact .inl (read_error (by rw [hfollow, hmissing]))
  · refine .inr ⟨not_possible_of_long ⟨long, hlast ▸ List.mem_append_left _ hmem, hlong⟩, .inl ?_⟩
    exact read_error (by rw [hfollow, hto])

end Enrollment.Files.Tree
