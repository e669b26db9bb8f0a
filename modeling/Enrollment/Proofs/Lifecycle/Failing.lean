import Enrollment.Proofs.Lifecycle.Lawful
/-!
# Operations that fail

An operation that fails has kept and forgotten nothing: whatever it writes is the last thing that
can go wrong. So what is loaded afterwards is what was loaded before. The one exception comes from
the directories that are made for the record: a name of the path that is too long is noticed only
once the directories above it are there, and from then on the record cannot be read.

Results:
 1. `written_of_error`: an operation that fails has written nothing, in all of its courses.
 2. `Sample.register_below`: how a name that is too long is noticed.
 3. `failed_call_keeps_record`: what is loaded after a call that failed, and the files after a
    report.
 4. `failed_call_may_matter`: that the exception is one.
-/

namespace Enrollment.Lifecycle

open Registration (Record Store)
open Act (Course)

variable {l : Lifecycle} {t : Transcript} {f : Failure}

/-! ## Nothing is written -/

theorem RefreshCourse.written_of_error {entry : Node.Entry} (h : RefreshCourse l entry t (.error f)) :
    written t = none := by
  cases h with
  | unread => rfl
  | stamped r hr hactive hstamp now => rfl
  | restored found hfound now record hrecord => rfl

theorem RegisterCourse.written_of_error (h : RegisterCourse l t (.error f)) : written t = none := by
  generalize ho : (Except.error f : Except Failure RegisterOutcome) = o at h
  cases h with
  | unanswered f => rfl
  | refreshed entry hstatus t o hrefresh =>
    cases o with
    | ok done => cases ho
    | error f =>
      rw [written, written, hrefresh.written_of_error]
      rfl
  | refused entry hstatus f => rfl
  | misdirected entry hstatus receipt haddress => rfl
  | unsaved entry hstatus receipt haddress f => rfl
  | registered entry hstatus receipt haddress => cases ho

theorem ActivateCourse.written_of_error (h : ActivateCourse l t (.error f)) : written t = none := by
  generalize ho : (Except.error f : Except Failure ActivateOutcome) = o at h
  cases h with
  | unread f => rfl
  | absent => rfl
  | foreign r haddress => rfl
  | unanswered r haddress f => rfl
  | unregistered r haddress entry hstatus => rfl
  | kept r haddress entry hstatus hstamp => rfl
  | stamped r haddress entry hstatus hstamp now o =>
    cases o with
    | ok done => cases ho
    | error f => rfl
  | registered r haddress entry hstatus t o hactivate =>
    cases hactivate with
    | cooling now hcooldown => rfl
    | stale now hcooldown id hid hstale => rfl
    | refused now hcooldown hid f => rfl
    | unsaved now hcooldown hid receipt f => rfl
    | activated now hcooldown hid receipt => cases ho

theorem DeactivateCourse.written_of_error (h : DeactivateCourse l t (.error f)) :
    written t = none := by
  generalize ho : (Except.error f : Except Failure DeactivateOutcome) = o at h
  cases h with
  | unanswered f => rfl
  | forgotten entry hstatus o =>
    cases o with
    | ok done => cases ho
    | error f => rfl
  | refused entry hstatus f => rfl
  | uncleared entry hstatus updated f => rfl
  | deactivated entry hstatus updated => cases ho

/-- Reporting asks for nothing to be written. -/
theorem StatusCourse.writes_nothing {o : Except Failure StatusReport} (h : StatusCourse l t o) :
    ∀ e ∈ t, writes e.request = false := by
  intro e he
  cases h with
  | unanswered f =>
    rw [List.mem_singleton] at he
    subst he
    rfl
  | unread entry f =>
    simp only [List.mem_cons, List.not_mem_nil, or_false] at he
    rcases he with rfl | rfl <;> rfl
  | cooling entry hstatus found now =>
    simp only [List.mem_cons, List.not_mem_nil, or_false] at he
    rcases he with rfl | rfl | rfl <;> rfl
  | settled entry hstatus found =>
    simp only [List.mem_cons, List.not_mem_nil, or_false] at he
    rcases he with rfl | rfl <;> rfl

theorem written_of_writes_nothing (h : ∀ e ∈ t, writes e.request = false) : written t = none := by
  induction t with
  | nil => rfl
  | cons e t ih =>
    have hkept : kept e = none := by
      have hwrites := h e List.mem_cons_self
      obtain ⟨q, reply⟩ := e
      cases q <;> first | rfl | cases hwrites
    rw [written, ih fun e' he' => h e' (List.mem_cons_of_mem e he'), hkept]
    rfl

/-- An operation that fails has written nothing. -/
theorem written_of_error {operation : Operation} (h : Course (l.perform operation) t (.error f)) :
    written t = none := by
  cases operation with
  | register =>
    obtain ⟨o, hcourse, ho⟩ := Act.course_map.1 h
    cases o with
    | ok outcome => cases ho
    | error f => exact (registerCourse hcourse).written_of_error
  | activate =>
    obtain ⟨o, hcourse, ho⟩ := Act.course_map.1 h
    cases o with
    | ok outcome => cases ho
    | error f => exact (activateCourse hcourse).written_of_error
  | deactivate =>
    obtain ⟨o, hcourse, ho⟩ := Act.course_map.1 h
    cases o with
    | ok outcome => cases ho
    | error f => exact (deactivateCourse hcourse).written_of_error
  | status =>
    obtain ⟨o, hcourse, -⟩ := Act.course_map.1 h
    exact written_of_writes_nothing (statusCourse hcourse).writes_nothing

/-! ## A name that is too long -/

/-- A name that is too long, but for a path that is not. -/
structure TooLong (name : String) : Prop where
  slash : '/' ∉ name.toList
  character : '\x00' ∉ name.toList
  long : Text.byteLength name.toList > Files.Tree.nameLimit
  fits : ¬ Text.byteLength ("state".toList ++ '/' :: name.toList) > Files.Tree.pathLimit

namespace Sample

/-- The node whose record is kept under a name in a directory that is to be made. -/
def below (name : String) : Lifecycle :=
  node (Files.Path.join "state" name)

theorem made_state :
    (Files.Unreliable.answer (.makeDirectories "state") (fresh.showing noon).disk).2.tree =
      ⟨[(["state"], .directory)], []⟩ := by
  decide +kernel

theorem receipt_below (name : String) :
    (registry.register (below name).registration fresh.coordinator).1 =
      .ok ⟨owner, "reg-1", .registered, noon, 0⟩ := by
  have hlegal : (below name).registration.address = owner ∧
      fresh.coordinator.status = .inactive := ⟨rfl, rfl⟩
  simp only [ledger, if_pos hlegal]
  rfl

section

variable {name : String} (h : TooLong name)

include h

theorem toList_below : (below name).recordPath.toList = "state".toList ++ '/' :: name.toList :=
  Files.Path.toList_join h.slash (by decide) (by decide)

theorem ne_of_tooLong {other : String} (hother : Text.byteLength other.toList ≤ 255) :
    name ≠ other := by
  rintro rfl
  exact Nat.not_lt.2 hother h.long

theorem names_below :
    Files.Path.isAbsolute (below name).recordPath = false ∧
      Files.Path.names (below name).recordPath = ["state"] ++ [name] := by
  have hstate : Files.Path.names "state" = ["state"] := by decide
  obtain ⟨habsolute, hnames⟩ :=
    Files.Path.join_names "state" h.slash (ne_of_tooLong h (by decide))
  rw [hstate] at hnames
  exact ⟨habsolute, hnames⟩

theorem plain_below : Files.Path.Plain (below name).recordPath := by
  intro hup
  rw [(names_below h).2, List.mem_append, List.mem_singleton, List.mem_singleton] at hup
  rcases hup with hup | hup
  · exact absurd hup (by decide)
  · exact ne_of_tooLong h (by decide) hup.symm

theorem parent?_below : Files.Path.parent? (below name).recordPath = some "state" :=
  Files.Path.parent?_join (by decide) (by decide) (by decide) h.slash
    (ne_of_tooLong h (by decide)) (ne_of_tooLong h (by decide))

theorem follow_below (t : Files.Tree) :
    t.follow (below name).recordPath =
      (t.enter t.here ["state"]).bind (Files.Tree.finish (below name).recordPath name) := by
  obtain ⟨habsolute, hnames⟩ := names_below h
  have htext := toList_below h
  rw [Files.Tree.follow_eq, hnames, List.getLast?_concat, List.dropLast_concat, Files.Tree.start,
    habsolute]
  · simp only [Bool.false_eq_true, ↓reduceIte]
    cases t.enter t.here ["state"] <;> rfl
  · rw [htext]
    simp [h.character]
  · simp [← String.toList_eq_nil_iff, htext]
  · rw [htext]
    exact h.fits

/-- Where there is no directory yet, there is no record. -/
theorem loaded_below : fresh.loaded (below name).store = .ok none := by
  apply Store.loaded_of_notFound
  apply Files.Tree.read_error
  rw [store, follow_below h]
  rfl

/-- Once there is one, the name is noticed to be too long. -/
theorem loaded_below_of_directory {t : Files.Tree} (hhere : t.here = [])
    (hdirectory : t.HasDirectory ["state"]) :
    (below name).store.loaded t = .error (below name).store.tooLong := by
  have henter : t.enter t.here ["state"] = .ok ["state"] := by
    obtain ⟨entry, hentry, hisDirectory⟩ := hdirectory
    rw [hhere, Files.Tree.enter, if_neg (by decide), if_neg (by decide), if_neg (by decide),
      List.nil_append, hentry]
    exact if_pos hisDirectory
  have hread : t.read (below name).store.path = .error .nameTooLong := by
    apply Files.Tree.read_error
    rw [store, follow_below h, henter]
    exact Files.Tree.finish_long h.long _
  rw [Store.loaded_eq, hread]
  rfl

/-- Registering fails, and leaves the directory behind. -/
theorem register_below :
    (∃ f, (fresh.perform (below name) registry ⟨.register, noon⟩).1 = .error f) ∧
      (fresh.perform (below name) registry ⟨.register, noon⟩).2.loaded (below name).store =
        .error (below name).store.tooLong := by
  have hcourse := Site.course_perform (l := below name) (c := registry) fresh ⟨.register, noon⟩
  have halong := Site.along_perform (l := below name) (c := registry) fresh ⟨.register, noon⟩
  obtain ⟨o, hregister, ho⟩ := Act.course_map.1 hcourse
  have hcases := registerCourse hregister
  obtain ⟨-, hnames⟩ := names_below h
  rw [ho]
  generalize fresh.transcript (below name) registry ⟨.register, noon⟩ = t at hcases halong
  generalize (fresh.perform (below name) registry ⟨.register, noon⟩).2 = s' at halong
  cases hcases with
  | unanswered f =>
    obtain ⟨hentry, -⟩ := halong
    cases hentry
  | refreshed entry hstatus t o hrefresh =>
    obtain ⟨hentry, -⟩ := halong
    cases hentry
    exact absurd rfl hstatus
  | refused entry hstatus f =>
    obtain ⟨-, hrefused, -⟩ := halong
    cases (receipt_below name).symm.trans hrefused
  | misdirected entry hstatus receipt haddress =>
    obtain ⟨-, hreceipt, -⟩ := halong
    cases (receipt_below name).symm.trans hreceipt
    exact absurd rfl haddress
  | unsaved entry hstatus receipt haddress f =>
    obtain ⟨-, -, -, hend⟩ := halong
    have hdisk : s'.disk = _ := congrArg Site.disk hend
    rw [Site.disk_answer_save, Site.disk_answer_register, Site.disk_answer_entryOf] at hdisk
    have hkeeps := Store.keeps_save (parent?_below h) (by decide)
      (Record.ofReceipt receipt (below name).coordinatorUrl) (fresh.showing noon).disk
    rw [made_state] at hkeeps
    refine ⟨⟨f, rfl⟩, ?_⟩
    rw [Site.loaded, hdisk]
    apply loaded_below_of_directory h hkeeps.here
    exact hkeeps.directories _ ⟨.directory, by decide, rfl⟩
  | registered entry hstatus receipt haddress =>
    obtain ⟨-, -, hsave, -⟩ := halong
    exact absurd (Site.loaded_of_saved hsave) (Store.loaded_ne_some_of_long hnames h.long _ _)

end

end Sample

/-! ## What is loaded -/

variable {κ : Type} {c : Coordinator κ}

/-- After a call that fails, what is loaded from a plain path is what was loaded before, but that a
name that is too long may be noticed where there was no record. A report leaves every file as it
is. -/
theorem failed_call_keeps_record (l : Lifecycle) (c : Coordinator κ) (s : Site κ) (call : Call) :
    (Files.Path.Plain l.recordPath → s.disk.tree.Grounded →
      ∀ f, (s.perform l c call).1 = .error f →
        (s.perform l c call).2.loaded l.store = s.loaded l.store ∨
        (∃ name ∈ Files.Path.names l.recordPath,
          Text.byteLength name.toList > Files.Tree.nameLimit) ∧
        s.loaded l.store = .ok none ∧
        (s.perform l c call).2.loaded l.store =
          .error (.record ("cannot read " ++ l.recordPath ++ ": " ++
            "File name too long (os error 36)"))) ∧
    (call.operation = .status → (s.perform l c call).2.disk.tree = s.disk.tree) := by
  have hcourse := Site.course_perform (l := l) (c := c) s call
  have halong := Site.along_perform (l := l) (c := c) s call
  constructor
  · intro hplain hground f hf
    rw [hf] at hcourse
    have hshows := Site.shows_along (s := s.showing call.instant) hplain hground halong
    rw [written_of_error hcourse] at hshows
    exact hshows
  · intro hstatus
    rw [hstatus] at hcourse
    obtain ⟨o, hcourse', -⟩ := Act.course_map.1 hcourse
    exact Site.tree_along (s := s.showing call.instant) halong (statusCourse hcourse').writes_nothing

namespace Sample

/-- A site on whose disk a file that was written cannot be put in its place. -/
def crowded : Site Ledger :=
  { fresh with disk := ⟨fresh.disk.tree, [none, some ⟨"Device or resource busy", 0⟩]⟩ }

end Sample

/-- A record that is written, but cannot be put in its place, is not loaded. -/
theorem sample_failed_call_keeps_record :
    (Sample.crowded.perform Sample.home Sample.registry ⟨.register, Sample.noon⟩).2.loaded
      Sample.home.store = .ok none := by
  have hnone : Sample.crowded.loaded Sample.home.store = .ok none := rfl
  obtain ⟨f, hf⟩ : ∃ f, (Sample.crowded.perform Sample.home Sample.registry
      ⟨.register, Sample.noon⟩).1 = .error f := ⟨_, rfl⟩
  obtain ⟨hkeeps, -⟩ := failed_call_keeps_record Sample.home Sample.registry Sample.crowded
    ⟨.register, Sample.noon⟩
  rcases hkeeps (by decide +kernel) (Sample.grounded_site ()) f hf with hsame | ⟨hlong, -, -⟩
  · exact hsame.trans hnone
  · exact absurd hlong (by decide +kernel)

/-- A call that fails may change what is loaded. -/
theorem failed_call_may_matter :
    ¬ ∀ (l : Lifecycle) (c : Coordinator Ledger) (s : Site Ledger) (call : Call),
      Files.Path.Plain l.recordPath → s.disk.tree.Grounded →
        ∀ f, (s.perform l c call).1 = .error f →
          (s.perform l c call).2.loaded l.store = s.loaded l.store := by
  intro hkeeps
  obtain ⟨name, h⟩ : ∃ name, TooLong name := by
    refine ⟨String.ofList (List.replicate 256 'x'), ?_, ?_, ?_, ?_⟩
    all_goals
      rw [String.toList_ofList (l := List.replicate 256 'x')]
      decide +kernel
  obtain ⟨⟨f, hf⟩, hafter⟩ := Sample.register_below h
  have hsame := hkeeps _ _ Sample.fresh _ (Sample.plain_below h) (Sample.grounded_site _) f hf
  rw [hafter, Sample.loaded_below h] at hsame
  cases hsame

end Enrollment.Lifecycle
