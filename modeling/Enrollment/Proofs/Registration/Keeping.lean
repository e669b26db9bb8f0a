import Enrollment.Proofs.Files.Mishap
import Enrollment.Proofs.Plan.Transcript
import Enrollment.Proofs.Registration.Record
/-!
# Keeping the record

What the store does with its file, on a disk on which any step may go wrong. A record that is kept
is loaded, one that is forgotten is not, wherever the path of the store leads. If a record cannot be
kept or forgotten, what is loaded stays as it is; only a name that is too long, below a directory
that was missing and has been made, turns no record into a fault (`Shows`).

Results:
 1. `load_run`: loading tells what lies there, or fails, and changes nothing.
 2. `loaded_of_save`, `loaded_of_clear`: what is loaded after a record was kept or forgotten.
 3. `loaded_of_save_error`, `tree_of_clear_error`: what is loaded after that failed.
 4. `loaded_ne_some_of_long`: there is no record under a name that is too long.
 5. `failure_of_load`, `failure_of_save`, `failure_of_clear`: the store fails in one way only.
-/

namespace Enrollment.Registration.Store

open Files (Tree Unreliable Disk Fault)
open Text (Bytes)

/-! ## Loading -/

/-- The text of a file that was read. -/
def asText : Except Fault Bytes → Except Fault String
  | .error fault => .error fault
  | .ok bytes =>
    match Text.decodeUtf8? bytes with
    | some s => .ok (String.ofList s)
    | none => .error .notText

def loaded (s : Store) (t : Tree) : Except Failure (Option Record) :=
  (s.load.run (fun step t => t.answer step) t).1

theorem load_course {s : Store} {t : List (Exchange Disk)} {o : Except Failure (Option Record)}
    (h : Plan.Course s.load t o) :
    ∃ reply, t = [⟨.read s.path, reply⟩] ∧ o = s.interpret (asText reply) := by
  obtain ⟨t₁, t₂, text, rfl, hread, hend⟩ := Plan.course_bind.1 h
  obtain ⟨rfl, rfl⟩ := Plan.course_done.1 hend
  obtain ⟨t₁, t₂, reply, rfl, hrequest, htext⟩ := Plan.course_bind.1 hread
  obtain rfl := Plan.course_request.1 hrequest
  refine ⟨reply, ?_⟩
  cases reply with
  | error fault =>
    obtain ⟨rfl, rfl⟩ := Plan.course_done.1 htext
    exact ⟨rfl, rfl⟩
  | ok bytes =>
    cases hdecode : Text.decodeUtf8? bytes with
    | none =>
      simp only [hdecode] at htext
      obtain ⟨rfl, rfl⟩ := Plan.course_done.1 htext
      simp only [asText, hdecode, and_self, List.append_nil]
    | some text =>
      simp only [hdecode] at htext
      obtain ⟨rfl, rfl⟩ := Plan.course_done.1 htext
      simp only [asText, hdecode, and_self, List.append_nil]

theorem loaded_eq (s : Store) (t : Tree) : s.loaded t = s.interpret (asText (t.read s.path)) := by
  have hcourse := Plan.course_transcript (fun step t => Tree.answer t step) s.load t
  have halong := Plan.along_transcript (fun step t => Tree.answer t step) s.load t
  obtain ⟨reply, htranscript, ho⟩ := load_course hcourse
  rw [htranscript] at halong
  obtain ⟨hread, -⟩ := halong
  obtain rfl : t.read s.path = reply := hread
  exact ho

/-- Loading tells what lies there, or fails; nothing changes by it. -/
theorem load_run (s : Store) (d : Unreliable) :
    (s.load.run Unreliable.answer d).2.tree = d.tree ∧
      ((s.load.run Unreliable.answer d).1 = s.loaded d.tree ∨
        ∃ f, (s.load.run Unreliable.answer d).1 = .error f) := by
  have hcourse := Plan.course_transcript Unreliable.answer s.load d
  have halong := Plan.along_transcript Unreliable.answer s.load d
  obtain ⟨reply, htranscript, ho⟩ := load_course hcourse
  rw [htranscript] at halong
  obtain ⟨hreply, hend⟩ := halong
  replace hreply : (Unreliable.answer (.read s.path) d).1 = reply := hreply
  replace hend : _ = (Unreliable.answer (.read s.path) d).2 := hend
  rw [hend, ho, loaded_eq, ← hreply]
  rcases Unreliable.answer_cases (.read s.path) d with ⟨hsame, htree⟩ | ⟨words, _, hfailed, htree⟩
  · refine ⟨htree, .inl ?_⟩
    rw [hsame]
    rfl
  · refine ⟨htree, .inr ?_⟩
    rw [← Option.some.inj hfailed]
    exact ⟨_, rfl⟩

/-- Where nothing goes wrong, loading tells what lies there. -/
theorem load_run_reliable (s : Store) (t : Tree) :
    s.load.run Unreliable.answer ⟨t, []⟩ = (s.loaded t, ⟨t, []⟩) := by
  have hcourse := Plan.course_transcript Unreliable.answer s.load ⟨t, []⟩
  have halong := Plan.along_transcript Unreliable.answer s.load ⟨t, []⟩
  obtain ⟨reply, htranscript, ho⟩ := load_course hcourse
  rw [htranscript] at halong
  obtain ⟨hreply, hend⟩ := halong
  replace hreply : t.read s.path = reply := hreply
  replace hend : _ = (Unreliable.answer (.read s.path) ⟨t, []⟩).2 := hend
  refine Prod.ext ?_ hend
  rw [ho, loaded_eq, hreply]

theorem loaded_congr {s : Store} {t t' : Tree} (h : t'.read s.path = t.read s.path) :
    s.loaded t' = s.loaded t := by
  rw [loaded_eq, loaded_eq, h]

theorem loaded_of_notFound {s : Store} {t : Tree} (h : t.read s.path = .error .notFound) :
    s.loaded t = .ok none := by
  rw [loaded_eq, h]
  rfl

theorem loaded_of_written {s : Store} {t : Tree} {r : Record}
    (h : t.read s.path = .ok (Text.encodeUtf8 (written r).toList)) :
    s.loaded t = .ok (some r) := by
  have htext : asText (.ok (Text.encodeUtf8 (written r).toList)) = .ok (written r) := by
    simp only [asText, Text.decodeUtf8?_encodeUtf8, String.ofList_toList]
  rw [loaded_eq, h, htext, interpret_written]

/-! ## Keeping -/

/-- The directory that is made for the file. -/
def directory? (s : Store) : Option String :=
  (Files.Path.parent? s.path).filter fun directory => !directory.isEmpty

/-- What is asked and answered to have the directory of the file. -/
inductive Prepared (s : Store) : List (Exchange Disk) → Except Fault Unit → Prop
  | nothing (h : s.directory? = none) : Prepared s [] (.ok ())
  | made (directory : String) (h : s.directory? = some directory) (o : Except Fault Unit) :
      Prepared s [⟨.makeDirectories directory, o⟩] o

theorem prepare_course {s : Store} {t : List (Exchange Disk)} {o : Except Fault Unit}
    (h : Plan.Course s.prepare t o) : Prepared s t o := by
  unfold prepare at h
  split at h
  · next hparent =>
    obtain ⟨rfl, rfl⟩ := Plan.course_done.1 h
    exact .nothing (by rw [directory?, hparent]; rfl)
  next directory hparent =>
  split at h
  · next hempty =>
    obtain ⟨rfl, rfl⟩ := Plan.course_done.1 h
    exact .nothing (by simpa [directory?, hparent] using hempty)
  · next hempty =>
    obtain rfl := Plan.course_request.1 h
    exact .made directory (by simpa [directory?, hparent] using hempty) o

def savedNote (s : Store) (r : Record) : Log.Event :=
  ⟨.debug, "Saved registration record", [("path", s.path), ("address", r.address.text)]⟩

def writing (s : Store) (r : Record) : Files.Step :=
  .write s.draft (Text.encodeUtf8 (written r).toList)

/-- What keeping a record asks, and what comes of it. -/
inductive SaveCourse (s : Store) (r : Record) :
    List (Exchange Disk) → Except Failure Unit → Prop
  | unprepared (t : List (Exchange Disk)) (fault : Fault) (h : Prepared s t (.error fault)) :
      SaveCourse s r t (.error (s.writeFailure fault))
  | unwritten (t : List (Exchange Disk)) (h : Prepared s t (.ok ())) (fault : Fault) :
      SaveCourse s r (t ++ [⟨s.writing r, .error fault⟩]) (.error (s.writeFailure fault))
  | unmoved (t : List (Exchange Disk)) (h : Prepared s t (.ok ())) (fault : Fault) :
      SaveCourse s r (t ++ [⟨s.writing r, .ok ()⟩, ⟨.move s.draft s.path, .error fault⟩])
        (.error (s.writeFailure fault))
  | saved (t : List (Exchange Disk)) (h : Prepared s t (.ok ())) :
      SaveCourse s r
        (t ++ [⟨s.writing r, .ok ()⟩, ⟨.move s.draft s.path, .ok ()⟩, ⟨.note (s.savedNote r), ()⟩])
        (.ok ())

theorem save_course {s : Store} {r : Record} {t : List (Exchange Disk)} {o : Except Failure Unit}
    (h : Plan.Course (s.save r) t o) : SaveCourse s r t o := by
  obtain ⟨t₁, t₂, prepared, rfl, hprepare, hrest⟩ := Plan.course_bind.1 h
  have hprepared := prepare_course hprepare
  cases prepared with
  | error fault =>
    obtain ⟨rfl, rfl⟩ := Plan.course_done.1 hrest
    rw [List.append_nil]
    exact .unprepared t₁ fault hprepared
  | ok done =>
    obtain ⟨t₂, t₃, reply, rfl, hwrite, hmoving⟩ := Plan.course_bind.1 hrest
    obtain rfl := Plan.course_request.1 hwrite
    cases reply with
    | error fault =>
      obtain ⟨rfl, rfl⟩ := Plan.course_done.1 hmoving
      exact .unwritten t₁ hprepared fault
    | ok done =>
      obtain ⟨t₃, t₄, reply, rfl, hmove, hnoting⟩ := Plan.course_bind.1 hmoving
      obtain rfl := Plan.course_request.1 hmove
      cases reply with
      | error fault =>
        obtain ⟨rfl, rfl⟩ := Plan.course_done.1 hnoting
        exact .unmoved t₁ hprepared fault
      | ok done =>
        obtain ⟨t₄, t₅, ⟨⟩, rfl, hnote, hend⟩ := Plan.course_bind.1 hnoting
        obtain rfl := Plan.course_request.1 hnote
        obtain ⟨rfl, rfl⟩ := Plan.course_done.1 hend
        exact .saved t₁ hprepared

/-- A record that was kept is loaded. -/
theorem loaded_of_save {s : Store} {r : Record} {d : Unreliable}
    (h : ((s.save r).run Unreliable.answer d).1 = .ok ()) :
    s.loaded ((s.save r).run Unreliable.answer d).2.tree = .ok (some r) := by
  have hcourse := save_course (Plan.course_transcript Unreliable.answer (s.save r) d)
  have halong := Plan.along_transcript Unreliable.answer (s.save r) d
  rw [h] at hcourse
  generalize Plan.transcript Unreliable.answer (s.save r) d = t at hcourse halong
  generalize ((s.save r).run Unreliable.answer d).2 = d' at halong
  cases hcourse with
  | saved t hprepared =>
    obtain ⟨d₁, -, hwrite, hmove, -, hend⟩ := Plan.along_append.1 halong
    obtain rfl : d' = _ := hend
    apply loaded_of_written
    rw [Unreliable.note_tree]
    exact Tree.read_of_move (Unreliable.write_ok hwrite) (Unreliable.move_ok hmove)

/-! ## When a record cannot be kept -/

/-- The failure to read a file with a name that is too long. -/
def tooLong (s : Store) : Failure :=
  .record ("cannot read " ++ s.path ++ ": " ++ Fault.nameTooLong.message)

/-- What is loaded is as expected; or no record was expected, and now it is noticed that a name of
the path is too long. -/
def Shows (s : Store) (expected : Except Failure (Option Record)) (t : Tree) : Prop :=
  s.loaded t = expected ∨
    Tree.HasLongName (Files.Path.names s.path) ∧ expected = .ok none ∧
      s.loaded t = .error s.tooLong

theorem Shows.trans {s : Store} {expected : Except Failure (Option Record)} {t t' : Tree}
    (h : s.Shows expected t) (h' : s.Shows (s.loaded t) t') : s.Shows expected t' := by
  rcases h with heq | ⟨hlong, hnone, htooLong⟩
  · exact heq ▸ h'
  · rcases h' with heq' | ⟨-, hnone', -⟩
    · exact .inr ⟨hlong, hnone, heq'.trans htooLong⟩
    · rw [htooLong] at hnone'
      cases hnone'

/-- Having the directory of the file makes directories above it. -/
theorem Prepared.grown {s : Store} {t : List (Exchange Disk)} {o : Except Fault Unit}
    (h : Prepared s t o) (hplain : Files.Path.Plain s.path) {d d' : Unreliable}
    (halong : Plan.Along Unreliable.answer t d d') :
    Tree.Grown (d.tree.start s.path) (Files.Path.steps s.path).dropLast d.tree d'.tree := by
  cases h with
  | nothing hnone =>
    obtain rfl : d' = d := halong
    exact Tree.Grown.refl _ _ _
  | made directory hsome o =>
    obtain ⟨-, hend⟩ := halong
    obtain rfl : d' = _ := hend
    have hparent := (Option.filter_eq_some_iff.1 hsome).1
    obtain ⟨habsolute, -, hsteps⟩ := Files.Path.parent_steps hparent
    exact Tree.grown_unreliable (hplain.parent hparent) habsolute (hsteps ▸ List.prefix_refl _)

/-- The draft of a record has a place of its own, beside the file. -/
theorem draft_place {s : Store} (hplain : Files.Path.Plain s.path) {old : String}
    (hname : Files.Path.fileName? s.path = some old) {t : Tree} {directory : Files.Place}
    {name : String} {slash : Bool} (hfollow : t.follow s.draft = .ok (.named directory name slash)) :
    directory ++ [name] =
        t.start s.path ++ ((Files.Path.steps s.path).dropLast ++ [old ++ ".tmp"]) ∧
      Files.Path.steps s.path ≠ (Files.Path.steps s.path).dropLast ++ [old ++ ".tmp"] := by
  obtain ⟨hsteps, hslash, -⟩ := Files.Path.steps_of_fileName? hname
  -- The draft has a longer name, so it is another file in the same directory.
  have hnew : old ++ ".tmp" ≠ old := by
    intro heq
    have hlength := congrArg (fun s => s.toList.length) heq
    simp at hlength
  have hdots : ∀ dots : String, dots.toList.length ≤ 2 → old ++ ".tmp" ≠ dots := by
    intro dots hle heq
    have hlength := congrArg (fun s => s.toList.length) heq
    simp at hlength
    omega
  have hnoslash : '/' ∉ (old ++ ".tmp").toList := by
    simp [hslash]
  have hdraft : s.draft = Files.Path.withFileName s.path (old ++ ".tmp") := by
    rw [draft, hname]
    rfl
  obtain ⟨habsolute, hnames, hdraftSteps⟩ := Files.Path.withFileName_steps hname hnoslash
    (hdots "" (by decide)) (hdots "." (by decide))
  rw [← hdraft] at habsolute hnames hdraftSteps
  have hplain' : Files.Path.Plain s.draft := by
    intro hmem
    rcases hnames _ hmem with hmem | heq
    · exact hplain hmem
    · exact hdots ".." (by decide) heq.symm
  obtain ⟨hplace, -⟩ := Tree.placeOf_of_follow hplain' hfollow
  have hstart : t.start s.draft = t.start s.path := by
    rw [Tree.start, Tree.start, habsolute]
  rw [hplace, Tree.placeOf, hdraftSteps, hstart]
  refine ⟨rfl, ?_⟩
  intro heq
  rw [hsteps, List.dropLast_concat] at heq
  have hlast := (List.append_inj' heq rfl).2
  exact hnew (List.cons.inj hlast).1.symm

/-- The draft of a record does not matter to the file. -/
theorem read_of_draft {s : Store} (hplain : Files.Path.Plain s.path) {t : Tree} {directory : Files.Place}
    {name : String} {slash : Bool} (hfollow : t.follow s.draft = .ok (.named directory name slash))
    (entry : Files.Entry) : (t.put (directory ++ [name]) entry).read s.path = t.read s.path := by
  cases hname : Files.Path.fileName? s.path with
  | none =>
    refine Tree.read_congr (t := t) hplain rfl ?_
    intro q hq hway
    rw [Files.Path.steps_of_fileName?_none hplain hname, List.prefix_nil] at hway
    exact absurd hway hq
  | some old =>
    obtain ⟨hplace, hother⟩ := draft_place hplain hname hfollow
    rw [hplace]
    exact Tree.read_put_beside hplain hother

theorem read_of_writing {s : Store} (hplain : Files.Path.Plain s.path) (r : Record)
    (d : Unreliable) :
    (Unreliable.answer (s.writing r) d).2.tree.read s.path = d.tree.read s.path := by
  rcases Tree.write_unreliable d s.draft (Text.encodeUtf8 (written r).toList) with
    hsame | ⟨directory, name, content, hfollow, hput⟩
  · rw [writing, hsame]
  · rw [writing, hput]
    exact read_of_draft hplain hfollow _

/-- If a record cannot be kept, what is loaded stays as it is, but for a name that is too long and
was not noticed before. -/
theorem loaded_of_save_error {s : Store} (hplain : Files.Path.Plain s.path) {r : Record}
    {d : Unreliable} (hground : d.tree.Grounded) {f : Failure}
    (h : ((s.save r).run Unreliable.answer d).1 = .error f) :
    s.Shows (s.loaded d.tree) ((s.save r).run Unreliable.answer d).2.tree := by
  have hcourse := save_course (Plan.course_transcript Unreliable.answer (s.save r) d)
  have halong := Plan.along_transcript Unreliable.answer (s.save r) d
  rw [h] at hcourse
  generalize Plan.transcript Unreliable.answer (s.save r) d = t at hcourse halong
  generalize ((s.save r).run Unreliable.answer d).2 = d' at halong
  -- What follows the directories does not matter to the file.
  have hread : ∃ d₁ : Unreliable, Tree.Grown (d.tree.start s.path) (Files.Path.steps s.path).dropLast
      d.tree d₁.tree ∧ d'.tree.read s.path = d₁.tree.read s.path := by
    cases hcourse with
    | unprepared t fault hprepared => exact ⟨d', hprepared.grown hplain halong, rfl⟩
    | unwritten t hprepared fault =>
      obtain ⟨d₁, hbefore, -, hend⟩ := Plan.along_append.1 halong
      obtain rfl : d' = _ := hend
      exact ⟨d₁, hprepared.grown hplain hbefore, read_of_writing hplain r d₁⟩
    | unmoved t hprepared fault =>
      obtain ⟨d₁, hbefore, -, hmove, hend⟩ := Plan.along_append.1 halong
      obtain rfl : d' = _ := hend
      refine ⟨d₁, hprepared.grown hplain hbefore, ?_⟩
      rw [Unreliable.move_error hmove]
      exact read_of_writing hplain r d₁
  obtain ⟨d₁, hgrown, hsame⟩ := hread
  rcases Tree.read_grown hground hplain hgrown with hread | ⟨hlong, hbefore, hafter⟩
  · exact .inl (loaded_congr (hsame.trans hread))
  · refine .inr ⟨hlong, loaded_of_notFound hbefore, ?_⟩
    rw [loaded_eq, hsame, hafter]
    rfl

/-! ## A name that is too long -/

/-- Under a name that is too long there is no record. -/
theorem loaded_ne_some_of_long {s : Store} {before : List String} {last : String}
    (hnames : Files.Path.names s.path = before ++ [last])
    (hlong : Text.byteLength last.toList > Tree.nameLimit) (t : Tree) (r : Record) :
    s.loaded t ≠ .ok (some r) := by
  rw [loaded_eq]
  cases hread : t.read s.path with
  | ok content => exact absurd hread (Tree.read_ne_ok_of_long hnames hlong t content)
  | error fault =>
    intro h
    cases fault <;> cases h

/-- Whatever comes of keeping a record, the directory that is made for it stays. -/
theorem keeps_save {s : Store} {directory : String}
    (hparent : Files.Path.parent? s.path = some directory) (hsome : directory.isEmpty = false)
    (r : Record) (d : Unreliable) :
    Tree.Keeps (Unreliable.answer (.makeDirectories directory) d).2.tree
      ((s.save r).run Unreliable.answer d).2.tree := by
  obtain ⟨next, hnext⟩ : ∃ next, s.save r = .ask (.makeDirectories directory) next := by
    unfold save prepare
    simp only [hparent, hsome, Bool.false_eq_true, ↓reduceIte]
    exact ⟨_, rfl⟩
  rw [hnext]
  exact Plan.Along.preserves (R := fun (d d' : Unreliable) => Tree.Keeps d.tree d'.tree)
    (fun _ => Tree.Keeps.refl _) Tree.Keeps.trans Tree.keeps_unreliable
    (Plan.along_transcript _ (next _) _)

/-! ## Forgetting -/

/-- The note on a record that was forgotten. -/
def clearedNote (s : Store) : Log.Event :=
  ⟨.debug, "Removed registration record", [("path", s.path)]⟩

/-- What forgetting the record asks, and what comes of it. -/
inductive ClearCourse (s : Store) : List (Exchange Disk) → Except Failure Unit → Prop
  | removed : ClearCourse s [⟨.remove s.path, .ok ()⟩, ⟨.note s.clearedNote, ()⟩] (.ok ())
  | nothing : ClearCourse s [⟨.remove s.path, .error .notFound⟩] (.ok ())
  | unremoved (fault : Fault) (h : fault ≠ .notFound) :
      ClearCourse s [⟨.remove s.path, .error fault⟩] (.error (s.writeFailure fault))

theorem clear_course {s : Store} {t : List (Exchange Disk)} {o : Except Failure Unit}
    (h : Plan.Course s.clear t o) : ClearCourse s t o := by
  obtain ⟨t₁, t₂, reply, rfl, hremove, hrest⟩ := Plan.course_bind.1 h
  obtain rfl := Plan.course_request.1 hremove
  cases reply with
  | ok done =>
    obtain ⟨t₂, t₃, ⟨⟩, rfl, hnote, hend⟩ := Plan.course_bind.1 hrest
    obtain rfl := Plan.course_request.1 hnote
    obtain ⟨rfl, rfl⟩ := Plan.course_done.1 hend
    exact .removed
  | error fault =>
    by_cases hfault : fault = .notFound
    · subst hfault
      obtain ⟨rfl, rfl⟩ := Plan.course_done.1 hrest
      exact .nothing
    · have hend : Plan.Course (.done (.error (s.writeFailure fault))) t₂ o := by
        cases fault <;> first | exact hrest | exact absurd rfl hfault
      obtain ⟨rfl, rfl⟩ := Plan.course_done.1 hend
      exact .unremoved fault hfault

/-- A record that was forgotten is not loaded. -/
theorem loaded_of_clear {s : Store} {d : Unreliable}
    (h : (s.clear.run Unreliable.answer d).1 = .ok ()) :
    s.loaded (s.clear.run Unreliable.answer d).2.tree = .ok none := by
  have hcourse := clear_course (Plan.course_transcript Unreliable.answer s.clear d)
  have halong := Plan.along_transcript Unreliable.answer s.clear d
  rw [h] at hcourse
  generalize Plan.transcript Unreliable.answer s.clear d = t at hcourse halong
  generalize (s.clear.run Unreliable.answer d).2 = d' at halong
  cases hcourse with
  | removed =>
    obtain ⟨hremove, -, hend⟩ := halong
    obtain rfl : d' = _ := hend
    apply loaded_of_notFound
    rw [Unreliable.note_tree]
    exact Tree.read_of_remove (Unreliable.remove_ok hremove)
  | nothing =>
    obtain ⟨hremove, hend⟩ := halong
    obtain rfl : d' = _ := hend
    obtain ⟨htree, hnothing⟩ := Unreliable.remove_error hremove
    apply loaded_of_notFound
    rw [htree]
    exact Tree.read_of_remove_notFound (hnothing rfl)

theorem read_of_loaded_none {s : Store} {t : Tree} (h : s.loaded t = .ok none) :
    t.read s.path = .error .notFound := by
  rw [loaded_eq] at h
  cases hread : t.read s.path with
  | error fault =>
    rw [hread] at h
    cases fault <;> first | rfl | cases h
  | ok content =>
    rw [hread, asText] at h
    split at h
    · unfold interpret at h
      simp only at h
      split at h <;> cases h
    · cases h

/-- Where there is no record and nothing goes wrong, there is nothing to forget. -/
theorem clear_run_nothing {s : Store} {t : Tree} (h : s.loaded t = .ok none) :
    s.clear.run Unreliable.answer ⟨t, []⟩ = (.ok (), ⟨t, []⟩) := by
  have hremove := Tree.remove_of_read_notFound (read_of_loaded_none h)
  have hanswer : Unreliable.answer (.remove s.path) ⟨t, []⟩ = (.error .notFound, ⟨t, []⟩) := by
    show ((t.after (t.remove s.path)).1, (⟨(t.after (t.remove s.path)).2, []⟩ : Unreliable)) = _
    rw [hremove]
    rfl
  have hcourse := clear_course (Plan.course_transcript Unreliable.answer s.clear ⟨t, []⟩)
  have halong := Plan.along_transcript Unreliable.answer s.clear ⟨t, []⟩
  generalize Plan.transcript Unreliable.answer s.clear ⟨t, []⟩ = u at hcourse halong
  generalize s.clear.run Unreliable.answer ⟨t, []⟩ = ran at hcourse halong ⊢
  obtain ⟨o, d⟩ := ran
  change ClearCourse s u o at hcourse
  cases hcourse with
  | removed =>
    obtain ⟨hreply, -⟩ := halong
    rw [hanswer] at hreply
    cases hreply
  | nothing =>
    obtain ⟨-, hend⟩ := halong
    obtain rfl : d = _ := hend
    rw [hanswer]
  | unremoved fault hfault =>
    obtain ⟨hreply, -⟩ := halong
    rw [hanswer] at hreply
    cases hreply
    exact absurd rfl hfault

/-- If a record cannot be forgotten, all stays as it is. -/
theorem tree_of_clear_error {s : Store} {d : Unreliable} {f : Failure}
    (h : (s.clear.run Unreliable.answer d).1 = .error f) :
    (s.clear.run Unreliable.answer d).2.tree = d.tree := by
  have hcourse := clear_course (Plan.course_transcript Unreliable.answer s.clear d)
  have halong := Plan.along_transcript Unreliable.answer s.clear d
  rw [h] at hcourse
  generalize Plan.transcript Unreliable.answer s.clear d = t at hcourse halong
  generalize (s.clear.run Unreliable.answer d).2 = d' at halong
  cases hcourse with
  | unremoved fault hfault =>
    obtain ⟨hremove, hend⟩ := halong
    obtain rfl : d' = _ := hend
    exact (Unreliable.remove_error hremove).1

/-- Keeping and forgetting leave every file in a directory. -/
theorem grounded_run {α : Type} (p : Plan Disk α) {d : Unreliable} (h : d.tree.Grounded) :
    (p.run Unreliable.answer d).2.tree.Grounded :=
  Plan.Along.preserves (R := fun d d' => d.tree.Grounded → d'.tree.Grounded) (fun _ h => h)
    (fun h h' hground => h' (h hground)) (fun s _ h => Tree.Grounded.unreliable h s)
    (Plan.along_transcript _ p d) h

/-! ## Failures of the store -/

theorem failure_of_load {s : Store} {d : Unreliable} {f : Failure}
    (h : (s.load.run Unreliable.answer d).1 = .error f) : ∃ reason, f = .record reason := by
  obtain ⟨reply, -, ho⟩ := load_course (Plan.course_transcript Unreliable.answer s.load d)
  rw [h] at ho
  unfold interpret at ho
  split at ho
  · cases ho
  · cases ho
    exact ⟨_, rfl⟩
  · split at ho
    · cases ho
    · cases ho
      exact ⟨_, rfl⟩

theorem failure_of_save {s : Store} {r : Record} {d : Unreliable} {f : Failure}
    (h : ((s.save r).run Unreliable.answer d).1 = .error f) : ∃ reason, f = .record reason := by
  have hcourse := save_course (Plan.course_transcript Unreliable.answer (s.save r) d)
  rw [h] at hcourse
  generalize Plan.transcript Unreliable.answer (s.save r) d = t at hcourse
  cases hcourse with
  | unprepared t fault hprepared => exact ⟨_, rfl⟩
  | unwritten t hprepared fault => exact ⟨_, rfl⟩
  | unmoved t hprepared fault => exact ⟨_, rfl⟩

theorem failure_of_clear {s : Store} {d : Unreliable} {f : Failure}
    (h : (s.clear.run Unreliable.answer d).1 = .error f) : ∃ reason, f = .record reason := by
  have hcourse := clear_course (Plan.course_transcript Unreliable.answer s.clear d)
  rw [h] at hcourse
  generalize Plan.transcript Unreliable.answer s.clear d = t at hcourse
  cases hcourse with
  | unremoved fault hfault => exact ⟨_, rfl⟩

end Enrollment.Registration.Store
