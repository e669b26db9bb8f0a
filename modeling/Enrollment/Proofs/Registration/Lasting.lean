import Enrollment.Proofs.Registration.Keeping
/-!
# A record that is there

A record that can be loaded lies in a file that a path leads to. Whatever the path is made of, the
record stays when another one cannot be put in its place: the directories above the file are there
already, and the draft of the other record is another file. Where nothing goes wrong it can be
forgotten.

Results:
 1. `Tree.read_of_makeDirectories`: a file stays when directories are made.
 2. `Store.draft_beside`: the draft of a record lies beside the file, wherever that is.
 3. `Store.lasts_of_save_error`: a record stays when another one cannot be kept.
 4. `Store.clear_run_reliable`: where nothing goes wrong, a record can be forgotten.
-/

namespace Enrollment.Files

/-- The last name of a path is the name of a file, unless it is made of points. -/
theorem Path.fileName?_of_names {path name : String} {before : List String}
    (h : names path = before ++ [name]) (hpoint : name ≠ ".") (hup : name ≠ "..") :
    fileName? path = some name := by
  obtain ⟨cut₁, cut₂, hcut, -, hlast⟩ := List.map_eq_append_iff.1 h
  obtain ⟨p, rfl, rfl⟩ := List.map_eq_singleton_iff.1 hlast
  have hname : ∀ dots, String.ofList p.name ≠ String.ofList dots → p.name ≠ dots :=
    fun dots hne heq => hne (congrArg String.ofList heq)
  have hpoint' := hname ['.'] hpoint
  have hup' := hname ['.', '.'] hup
  have hparts : (parts path).getLast? = some p := by
    have hcounts : addsNothing p = false := by simp [addsNothing, hpoint']
    rw [parts, hcut, List.filter_append, List.filter_cons_of_pos (by simp [hcounts]),
      List.filter_nil, List.getLast?_concat]
  rw [fileName?, hparts]
  simp only [hpoint', hup', or_self, ↓reduceIte]

namespace Tree

variable {t t' : Tree}

/-- A file that can be read lies where its path leads. -/
theorem read_ok {path : String} {content : Text.Bytes} (h : t.read path = .ok content) :
    ∃ directory name, t.follow path = .ok (.named directory name false) ∧
      t.entryAt? (directory ++ [name]) = some (.file content) := by
  unfold read look at h
  cases hfollow : t.follow path with
  | error fault =>
    rw [hfollow] at h
    cases h
  | ok target =>
    cases target with
    | entered place =>
      rw [hfollow] at h
      cases h
    | named directory name slash =>
      simp only [hfollow] at h
      cases hentry : t.entryAt? (directory ++ [name]) with
      | none =>
        rw [hentry] at h
        cases h
      | some entry =>
        simp only [hentry] at h
        cases entry with
        | file held =>
          cases slash with
          | true => cases h
          | false =>
            cases h
            exact ⟨directory, name, rfl, hentry⟩
        | directory => cases slash <;> cases h
        | sealedDirectory => cases slash <;> cases h

/-- Points on the way add nothing. -/
theorem enter_points (t : Tree) (names : List String) (place : Place) :
    t.enter place (names.filter fun name => name ≠ ".") = t.enter place names := by
  induction names generalizing place with
  | nil => rfl
  | cons name names ih =>
    by_cases hpoint : name = "."
    · rw [List.filter_cons_of_neg (by simp [hpoint]), ih, enter, if_pos hpoint]
    · rw [List.filter_cons_of_pos (by simp [hpoint]), enter, enter, ih]
      simp only [ih]

/-- Where a path leads to a name, the names before it have been entered. -/
theorem follow_named {path : String} {directory : Place} {name : String} {slash : Bool}
    (h : t.follow path = .ok (.named directory name slash)) :
    (∃ before, Path.names path = before ++ [name]) ∧ name ≠ "." ∧ name ≠ ".." ∧
      t.enter (t.start path) (Path.steps path).dropLast = .ok directory := by
  rcases follow_cases path with ⟨fault, hfault⟩ | ⟨-, hnone⟩ | ⟨before, last, hlast, hnames⟩
  · rw [hfault] at h
    cases h
  · rw [hnone] at h
    cases h
  rw [hnames] at h
  cases henter : t.enter (t.start path) before with
  | error fault =>
    rw [henter] at h
    cases h
  | ok place =>
    rw [henter] at h
    obtain ⟨hpoint, rfl, rfl⟩ := finish_named h
    have hup : name ≠ ".." := by
      rintro rfl
      cases h
    refine ⟨⟨before, hlast⟩, hpoint, hup, ?_⟩
    have hsteps : Path.steps path = before.filter (fun name => name ≠ ".") ++ [name] := by
      rw [Path.steps, hlast, List.filter_append]
      simp [hpoint]
    rw [hsteps, List.dropLast_concat, enter_points, henter]

/-! ## Making directories -/

/-- What lies somewhere stays when a directory is made. -/
theorem entryAt?_ensureDirectory (path : String) {place : Place} {entry : Entry}
    (h : t.entryAt? place = some entry) : (t.ensureDirectory path).2.entryAt? place = some entry := by
  rw [ensureDirectory_tree]
  cases hmade : t.makeDirectory path with
  | error fault => exact h
  | ok t' =>
    obtain ⟨directory, name, slash, -, hnone, rfl⟩ := makeDirectory_ok hmade
    have hne : place ≠ directory ++ [name] := by
      rintro rfl
      rw [hnone] at h
      cases h
    exact (entryAt?_put_of_ne hne).trans h

theorem entryAt?_makeDirectories (path : String) {place : Place} {entry : Entry}
    (h : t.entryAt? place = some entry) :
    (t.makeDirectories path).2.entryAt? place = some entry :=
  makeDirectoriesUpTo_preserves (P := fun t => t.entryAt? place = some entry) (Q := fun _ => True)
    (fun _ path _ h => entryAt?_ensureDirectory path h) (fun _ _ _ _ => trivial) _ t path trivial h

/-- What lies somewhere stays when directories are made, also when that is broken off. -/
theorem entryAt?_unreliable (d : Unreliable) (path : String) {place : Place} {entry : Entry}
    (h : d.tree.entryAt? place = some entry) :
    (Unreliable.answer (.makeDirectories path) d).2.tree.entryAt? place = some entry := by
  rcases Unreliable.answer_cases (.makeDirectories path) d with
    ⟨-, htree⟩ | ⟨words, progress, -, htree⟩
  · rw [htree]
    exact entryAt?_makeDirectories path h
  · rw [htree, brokenOff]
    cases Path.above? progress path with
    | none => exact h
    | some above => exact entryAt?_makeDirectories above h

/-- A file stays when directories are made. -/
theorem read_of_makeDirectories (d : Unreliable) (directory : String) {path : String}
    {content : Text.Bytes} (h : d.tree.read path = .ok content) :
    (Unreliable.answer (.makeDirectories directory) d).2.tree.read path = .ok content := by
  obtain ⟨above, name, hfollow, hentry⟩ := read_ok h
  exact read_named (follow_mono (keeps_unreliable _ d) hfollow)
    (entryAt?_unreliable d directory hentry)

/-- A file that can be read can be removed. -/
theorem remove_of_read {path : String} {content : Text.Bytes} (h : t.read path = .ok content) :
    ∃ t', t.remove path = .ok t' := by
  obtain ⟨directory, name, hfollow, hentry⟩ := read_ok h
  exact ⟨t.drop (directory ++ [name]), by simp [remove, hfollow, hentry]⟩

end Tree

end Enrollment.Files

namespace Enrollment.Registration.Store

open Files (Tree Unreliable Disk Fault)

/-- The draft of a record lies beside the file, wherever that is. -/
theorem draft_beside {s : Store} {t : Tree} {directory directory' : Files.Place}
    {name name' : String} {slash slash' : Bool}
    (hfollow : t.follow s.path = .ok (.named directory name slash))
    (hdraft : t.follow s.draft = .ok (.named directory' name' slash')) :
    directory' = directory ∧ name' = name ++ ".tmp" := by
  obtain ⟨⟨before, hlast⟩, hpoint, hup, henter⟩ := Tree.follow_named hfollow
  obtain ⟨⟨before', hlast'⟩, hpoint', -, henter'⟩ := Tree.follow_named hdraft
  have hname := Files.Path.fileName?_of_names hlast hpoint hup
  obtain ⟨-, hslash, -⟩ := Files.Path.steps_of_fileName? hname
  have hdots : ∀ dots : String, dots.toList.length ≤ 2 → name ++ ".tmp" ≠ dots := by
    intro dots hle heq
    have hlength := congrArg (fun s => s.toList.length) heq
    simp at hlength
    omega
  have hbeside : s.draft = Files.Path.withFileName s.path (name ++ ".tmp") := by
    rw [draft, hname]
    rfl
  obtain ⟨habsolute, -, hsteps⟩ := Files.Path.withFileName_steps hname (by simp [hslash])
    (hdots "" (by decide)) (hdots "." (by decide))
  rw [← hbeside] at habsolute hsteps
  have hstart : t.start s.draft = t.start s.path := by
    rw [Tree.start, Tree.start, habsolute]
  have hend : Files.Path.steps s.draft = before'.filter (fun name => name ≠ ".") ++ [name'] := by
    rw [Files.Path.steps, hlast', List.filter_append]
    simp [hpoint']
  refine ⟨?_, ?_⟩
  · rw [hstart, hsteps, List.dropLast_concat, henter] at henter'
    cases henter'
    rfl
  · have hsame := hend.symm.trans hsteps
    exact (List.cons.inj (List.append_inj' hsame rfl).2).1

/-- A record that is loaded can be read. -/
theorem read_of_loaded_some {s : Store} {t : Tree} {r : Record} (h : s.loaded t = .ok (some r)) :
    ∃ content, t.read s.path = .ok content := by
  rw [loaded_eq] at h
  cases hread : t.read s.path with
  | ok content => exact ⟨content, rfl⟩
  | error fault =>
    rw [hread] at h
    cases fault <;> cases h

/-! ## A record stays -/

section Stays

variable {s : Store} {d : Unreliable} {content : Text.Bytes}

theorem Prepared.read {t : List (Exchange Disk)} {o : Except Fault Unit} (h : Prepared s t o)
    {d' : Unreliable} (halong : Plan.Along Unreliable.answer t d d')
    (hread : d.tree.read s.path = .ok content) : d'.tree.read s.path = .ok content := by
  cases h with
  | nothing hnone =>
    obtain rfl : d' = d := halong
    exact hread
  | made directory hsome o =>
    obtain ⟨-, hend⟩ := halong
    obtain rfl : d' = _ := hend
    exact Tree.read_of_makeDirectories d directory hread

/-- Writing the draft of a record leaves the file as it is. -/
theorem lasts_of_writing (r : Record) (hread : d.tree.read s.path = .ok content) :
    (Unreliable.answer (s.writing r) d).2.tree.read s.path = .ok content := by
  rw [writing]
  rcases Tree.write_unreliable d s.draft (Text.encodeUtf8 (written r).toList) with
    hsame | ⟨directory, name, begun, hdraft, hput⟩
  · rw [hsame]
    exact hread
  · obtain ⟨above, old, hfollow, hentry⟩ := Tree.read_ok hread
    obtain ⟨rfl, rfl⟩ := draft_beside hfollow hdraft
    have hother : directory ++ [old] ≠ directory ++ [old ++ ".tmp"] := by
      intro heq
      have hold : old = old ++ ".tmp" := by simpa using heq
      have hlength := congrArg (fun s => s.toList.length) hold
      simp at hlength
    have hkeeps := Tree.keeps_unreliable (.write s.draft (Text.encodeUtf8 (written r).toList)) d
    refine Tree.read_named (Tree.follow_mono hkeeps hfollow) ?_
    rw [hput, Tree.entryAt?_put_of_ne hother]
    exact hentry

/-- A file stays when a record cannot be put in its place. -/
theorem read_of_save_error {r : Record} {f : Failure}
    (h : ((s.save r).run Unreliable.answer d).1 = .error f)
    (hread : d.tree.read s.path = .ok content) :
    ((s.save r).run Unreliable.answer d).2.tree.read s.path = .ok content := by
  have hcourse := save_course (Plan.course_transcript Unreliable.answer (s.save r) d)
  have halong := Plan.along_transcript Unreliable.answer (s.save r) d
  rw [h] at hcourse
  generalize Plan.transcript Unreliable.answer (s.save r) d = t at hcourse halong
  generalize ((s.save r).run Unreliable.answer d).2 = d' at halong
  cases hcourse with
  | unprepared t fault hprepared => exact hprepared.read halong hread
  | unwritten t hprepared fault =>
    obtain ⟨d₁, hbefore, -, hend⟩ := Plan.along_append.1 halong
    obtain rfl : d' = _ := hend
    exact lasts_of_writing r (hprepared.read hbefore hread)
  | unmoved t hprepared fault =>
    obtain ⟨d₁, hbefore, -, hmove, hend⟩ := Plan.along_append.1 halong
    obtain rfl : d' = _ := hend
    rw [Unreliable.move_error hmove]
    exact lasts_of_writing r (hprepared.read hbefore hread)

end Stays

/-- A record stays when another one cannot be kept. -/
theorem lasts_of_save_error {s : Store} {d : Unreliable} {r r' : Record} {f : Failure}
    (hloaded : s.loaded d.tree = .ok (some r))
    (h : ((s.save r').run Unreliable.answer d).1 = .error f) :
    s.loaded ((s.save r').run Unreliable.answer d).2.tree = .ok (some r) := by
  obtain ⟨content, hread⟩ := read_of_loaded_some hloaded
  rw [← hloaded]
  exact loaded_congr ((read_of_save_error h hread).trans hread.symm)

/-! ## A record can be forgotten -/

/-- Where nothing goes wrong, a record can be forgotten. -/
theorem clear_run_reliable {s : Store} {t : Tree} {r : Record} (h : s.loaded t = .ok (some r)) :
    (s.clear.run Unreliable.answer ⟨t, []⟩).1 = .ok () := by
  obtain ⟨content, hread⟩ := read_of_loaded_some h
  obtain ⟨t', hremove⟩ := Tree.remove_of_read hread
  have hanswer : (Unreliable.answer (.remove s.path) ⟨t, []⟩).1 = .ok () :=
    congrArg (fun result => (t.after result).1) hremove
  have hcourse := clear_course (Plan.course_transcript Unreliable.answer s.clear ⟨t, []⟩)
  have halong := Plan.along_transcript Unreliable.answer s.clear ⟨t, []⟩
  generalize Plan.transcript Unreliable.answer s.clear ⟨t, []⟩ = u at hcourse halong
  generalize s.clear.run Unreliable.answer ⟨t, []⟩ = ran at hcourse halong ⊢
  obtain ⟨o, d⟩ := ran
  change ClearCourse s u o at hcourse
  cases hcourse with
  | removed => rfl
  | nothing => rfl
  | unremoved fault hfault =>
    obtain ⟨hreply, -⟩ := halong
    rw [hanswer] at hreply
    cases hreply

end Enrollment.Registration.Store
