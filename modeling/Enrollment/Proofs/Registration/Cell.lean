import Enrollment.Proofs.Registration.Keeping
/-!
# The store as a cell

The store is used any number of times: the record is loaded, kept or forgotten. Each time a record is
kept or forgotten, any step of it may go wrong, or the use may be cut off between two of its steps and
never come to its end. Through all of this the store holds what a cell holds that changes at one step
only: at the one that puts a record in its place, and at the one that removes it. What else is left
behind by a use that came to nothing does not matter to the next one.

Results:
 1. `Holds.along`: steps that neither put a record in its place nor remove it leave the cell alone.
 2. `part_of_use`: what a use may have done by the time it is cut off.
 3. `Holds.use`, `Holds.uses`: what the cell holds after a use, and after any number of them.
 4. `store_holds_cell`: so much is loaded, and what comes of keeping a record tells what was done.
 5. `long_name_is_told`: under a name that is too long loading fails.
-/

namespace Enrollment.Registration.Store

open Files (Tree Unreliable Disk Fault Mishap)

variable {s : Store} {r : Record} {t : Tree} {found : Option Record}

/-! ## Uses -/

/-- What befalls a use of the store: what goes wrong with its steps, and how many of them are taken
before it is cut off. -/
structure Hazard where
  mishaps : List (Option Mishap)
  limit : Nat
  deriving DecidableEq, Repr

namespace Hazard

variable {α : Type}

/-- What comes of a plan under a hazard, unless it is cut off, and the tree that is left. -/
def run (h : Hazard) (p : Plan Disk α) (t : Tree) : Option α × Tree :=
  let ran := p.runFor Unreliable.answer h.limit ⟨t, h.mishaps⟩
  (ran.1, ran.2.tree)

/-- What a plan asks and is answered under a hazard. -/
def transcript (h : Hazard) (p : Plan Disk α) (t : Tree) : List (Exchange Disk) :=
  (p.transcript Unreliable.answer ⟨t, h.mishaps⟩).take h.limit

end Hazard

inductive Use
  | load
  | save (r : Record) (hazard : Hazard)
  | clear (hazard : Hazard)

def after (s : Store) (t : Tree) : Use → Tree
  | .load => (s.load.run Unreliable.answer (⟨t, []⟩ : Unreliable)).2.tree
  | .save r hazard => (hazard.run (s.save r) t).2
  | .clear hazard => (hazard.run s.clear t).2

def exchanges (s : Store) (t : Tree) : Use → List (Exchange Disk)
  | .load => s.load.transcript Unreliable.answer (⟨t, []⟩ : Unreliable)
  | .save r hazard => hazard.transcript (s.save r) t
  | .clear hazard => hazard.transcript s.clear t

/-- What the cell holds once a use has put its record in place, or removed the one that was there;
nothing is said by any other step. -/
def effect? : Use → Exchange Disk → Option (Option Record)
  | .save r _, ⟨.move _ _, .ok _⟩ => some (some r)
  | .clear _, ⟨.remove _, .ok _⟩ => some none
  | _, _ => none

/-- What the cell came to hold in a use, one after the other. -/
def effects (s : Store) (t : Tree) (u : Use) : List (Option Record) :=
  (s.exchanges t u).filterMap (effect? u)

def afterAll (s : Store) (t : Tree) : List Use → Tree
  | [] => t
  | u :: us => s.afterAll (s.after t u) us

/-- What the cell came to hold in some uses, one after the other. -/
def history (s : Store) (t : Tree) : List Use → List (Option Record)
  | [] => []
  | u :: us => s.effects t u ++ s.history (s.after t u) us

/-- What a cell holds that held something, after a history. -/
def latest (found : Option Record) (history : List (Option Record)) : Option Record :=
  history.getLast?.getD found

theorem latest_append (found : Option Record) (early late : List (Option Record)) :
    latest found (early ++ late) = latest (latest found early) late := by
  rw [latest, latest, latest, List.getLast?_append]
  cases late.getLast? <;> rfl

/-! ## What the store holds -/

def readFailure (s : Store) (fault : Fault) : Failure :=
  .record ("cannot read " ++ s.path ++ ": " ++ fault.message)

/-- What the file of the store tells of the cell. -/
inductive Holds (s : Store) (t : Tree) : Option Record → Prop
  | nothing (h : t.read s.path = .error .notFound) : Holds s t none
  | record (r : Record) (h : t.read s.path = .ok (Text.encodeUtf8 (written r).toList)) :
      Holds s t (some r)
  | impossible (hpath : ¬ Tree.Possible s.path) (fault : Fault)
      (hfault : fault = .nameTooLong ∨ fault = .badName) (h : t.read s.path = .error fault) :
      Holds s t none

theorem Holds.congr {t' : Tree} (h : Holds s t found) (hread : t'.read s.path = t.read s.path) :
    Holds s t' found := by
  cases h with
  | nothing h => exact .nothing (hread.trans h)
  | record r h => exact .record r (hread.trans h)
  | impossible hpath fault hfault h => exact .impossible hpath fault hfault (hread.trans h)

theorem Holds.grown {t' : Tree} (h : Holds s t found) (ht : t.Grounded)
    (hplain : Files.Path.Plain s.path)
    (hgrown : Tree.Grown (t.start s.path) (Files.Path.steps s.path).dropLast t t') :
    Holds s t' found := by
  rcases Tree.read_grown ht hplain hgrown with hsame | ⟨hlong, hbefore, hafter⟩
  · exact h.congr hsame
  · cases h with
    | nothing h => exact .impossible (Tree.not_possible_of_long hlong) _ (.inl rfl) hafter
    | record r h =>
      rw [hbefore] at h
      cases h
    | impossible hpath => exact .impossible hpath _ (.inl rfl) hafter

theorem Holds.loaded (h : Holds s t found) :
    s.loaded t = .ok found ∨
      ¬ Tree.Possible s.path ∧ found = none ∧
        ∃ fault, (fault = .nameTooLong ∨ fault = .badName) ∧
          s.loaded t = .error (s.readFailure fault) := by
  cases h with
  | nothing h => exact .inl (loaded_of_notFound h)
  | record r h => exact .inl (loaded_of_written h)
  | impossible hpath fault hfault h =>
    refine .inr ⟨hpath, rfl, fault, hfault, ?_⟩
    rw [loaded_eq, h]
    rcases hfault with rfl | rfl <;> rfl

/-! ## Steps that leave the cell alone -/

/-- An exchange that neither puts a record in its place nor removes it. -/
inductive Spares (s : Store) : Exchange Disk → Prop
  | read (o : Except Fault Text.Bytes) : Spares s ⟨.read s.path, o⟩
  | made {directory : String} (h : s.directory? = some directory) (o : Except Fault Unit) :
      Spares s ⟨.makeDirectories directory, o⟩
  | drafted (r : Record) (o : Except Fault Unit) : Spares s ⟨s.writing r, o⟩
  | unmoved (fault : Fault) : Spares s ⟨.move s.draft s.path, .error fault⟩
  | unremoved (fault : Fault) : Spares s ⟨.remove s.path, .error fault⟩
  | noted (e : Log.Event) : Spares s ⟨.note e, ()⟩

theorem Spares.effect {e : Exchange Disk} (h : s.Spares e) (u : Use) : effect? u e = none := by
  cases h <;> cases u <;> rfl

theorem effects_of_spares {u : List (Exchange Disk)} (h : ∀ e ∈ u, s.Spares e) (use : Use) :
    u.filterMap (effect? use) = [] :=
  List.filterMap_eq_nil_iff.2 fun e he => (h e he).effect use

section

variable (hplain : Files.Path.Plain s.path)

include hplain

theorem Holds.spared {d : Unreliable} (h : Holds s d.tree found) (hground : d.tree.Grounded)
    {e : Exchange Disk} (he : s.Spares e) (hreply : (Unreliable.answer e.request d).1 = e.reply) :
    Holds s (Unreliable.answer e.request d).2.tree found := by
  cases he with
  | read o =>
    refine h.congr (congrArg (Tree.read · s.path) ?_)
    rcases Unreliable.answer_cases (.read s.path) d with ⟨-, htree⟩ | ⟨words, progress, -, htree⟩
    · exact htree
    · exact htree
  | made hdirectory o =>
    have hparent := (Option.filter_eq_some_iff.1 hdirectory).1
    obtain ⟨habsolute, -, hsteps⟩ := Files.Path.parent_steps hparent
    exact h.grown hground hplain (Tree.grown_unreliable (hplain.parent hparent) habsolute
      (hsteps ▸ List.prefix_refl _))
  | drafted r o => exact h.congr (read_of_writing hplain r d)
  | unmoved fault => exact h.congr (congrArg (Tree.read · s.path) (Unreliable.move_error hreply))
  | unremoved fault =>
    exact h.congr (congrArg (Tree.read · s.path) (Unreliable.remove_error hreply).1)
  | noted e => exact h.congr (congrArg (Tree.read · s.path) (Unreliable.note_tree e d))

theorem Holds.along {d d' : Unreliable} {u : List (Exchange Disk)} (h : Holds s d.tree found)
    (hground : d.tree.Grounded) (hu : ∀ e ∈ u, s.Spares e)
    (halong : Plan.Along Unreliable.answer u d d') :
    Holds s d'.tree found ∧ d'.tree.Grounded := by
  induction u generalizing d with
  | nil =>
    obtain rfl : d' = d := halong
    exact ⟨h, hground⟩
  | cons e u ih =>
    obtain ⟨hreply, hrest⟩ := halong
    have hnext := h.spared hplain hground (hu e List.mem_cons_self) hreply
    exact ih hnext (hground.unreliable e.request) (fun e' he' => hu e' (List.mem_cons_of_mem e he'))
      hrest

end

/-! ## Parts of a use -/

/-- What a use has asked by the time it ends or is cut off: it has put its record in place, or
removed the one that was there, or it has done nothing that matters to the cell. -/
inductive Part (s : Store) : Use → List (Exchange Disk) → Prop
  | spared {u : Use} {v : List (Exchange Disk)} (h : ∀ e ∈ v, s.Spares e) : Part s u v
  | placed {r : Record} {hazard : Hazard} {v₁ v₂ : List (Exchange Disk)}
      (h₁ : ∀ e ∈ v₁, s.Spares e) (h₂ : ∀ e ∈ v₂, s.Spares e) :
      Part s (.save r hazard)
        (v₁ ++ [⟨s.writing r, .ok ()⟩, ⟨.move s.draft s.path, .ok ()⟩] ++ v₂)
  | removed {hazard : Hazard} {v : List (Exchange Disk)} (h : ∀ e ∈ v, s.Spares e) :
      Part s (.clear hazard) (⟨.remove s.path, .ok ()⟩ :: v)

theorem spares_nil : ∀ e ∈ ([] : List (Exchange Disk)), s.Spares e :=
  fun _ he => absurd he List.not_mem_nil

theorem spares_singleton {e : Exchange Disk} (h : s.Spares e) : ∀ e' ∈ [e], s.Spares e' := by
  intro e' he
  rw [List.mem_singleton] at he
  exact he ▸ h

theorem spares_append {v₁ v₂ : List (Exchange Disk)} (h₁ : ∀ e ∈ v₁, s.Spares e)
    (h₂ : ∀ e ∈ v₂, s.Spares e) : ∀ e ∈ v₁ ++ v₂, s.Spares e := by
  intro e he
  rcases List.mem_append.1 he with he | he
  · exact h₁ e he
  · exact h₂ e he

theorem Prepared.spares {u : List (Exchange Disk)} {o : Except Fault Unit} (h : Prepared s u o) :
    ∀ e ∈ u, s.Spares e := by
  cases h with
  | nothing => exact spares_nil
  | made directory hdirectory o => exact spares_singleton (.made hdirectory o)

theorem SaveCourse.spares {u : List (Exchange Disk)} {f : Failure} (h : SaveCourse s r u (.error f)) :
    ∀ e ∈ u, s.Spares e := by
  cases h with
  | unprepared u fault hprepared => exact hprepared.spares
  | unwritten u hprepared fault =>
    exact spares_append hprepared.spares (spares_singleton (.drafted r _))
  | unmoved u hprepared fault =>
    have hwritten := spares_append hprepared.spares
      (spares_singleton (s := s) (.drafted r (.ok ())))
    have hall := spares_append hwritten (spares_singleton (s := s) (.unmoved fault))
    rw [List.append_assoc] at hall
    exact hall

theorem SaveCourse.part {u v : List (Exchange Disk)} {o : Except Failure Unit}
    (h : SaveCourse s r u o) (hv : v <+: u) (hazard : Hazard) : s.Part (.save r hazard) v := by
  cases o with
  | error f => exact .spared fun e he => h.spares e (hv.subset he)
  | ok done =>
    cases h with
    | saved u hprepared =>
      -- The last exchange but one decides, and what lies in front of it spares the record.
      have hsplit : u ++ [⟨s.writing r, .ok ()⟩, ⟨.move s.draft s.path, .ok ()⟩,
          ⟨.note (s.savedNote r), ()⟩] =
          u ++ [⟨s.writing r, .ok ()⟩] ++ [⟨.move s.draft s.path, .ok ()⟩] ++
            [⟨.note (s.savedNote r), ()⟩] := by
        simp
      have hfront := spares_append hprepared.spares
        (spares_singleton (s := s) (.drafted r (.ok ())))
      rw [hsplit, List.prefix_concat_iff, List.prefix_concat_iff] at hv
      rcases hv with rfl | rfl | hv
      · rw [List.append_assoc u]
        exact .placed hprepared.spares (spares_singleton (.noted (s.savedNote r)))
      · rw [List.append_assoc u, ← List.append_nil (u ++ _)]
        exact .placed hprepared.spares spares_nil
      · exact .spared fun e he => hfront e (hv.subset he)

theorem ClearCourse.part {u v : List (Exchange Disk)} {o : Except Failure Unit}
    (h : ClearCourse s u o) (hv : v <+: u) (hazard : Hazard) : s.Part (.clear hazard) v := by
  cases h with
  | removed =>
    rcases List.prefix_cons_iff.1 hv with rfl | ⟨w, rfl, hw⟩
    · exact .spared spares_nil
    · exact .removed fun e he => spares_singleton (.noted s.clearedNote) e (hw.subset he)
  | nothing => exact .spared fun e he => spares_singleton (.unremoved _) e (hv.subset he)
  | unremoved fault hfault =>
    exact .spared fun e he => spares_singleton (.unremoved fault) e (hv.subset he)

theorem part_of_use (s : Store) (t : Tree) (u : Use) :
    s.Part u (s.exchanges t u) ∧ ∃ mishaps d', d'.tree = s.after t u ∧
      Plan.Along Unreliable.answer (s.exchanges t u) ⟨t, mishaps⟩ d' := by
  cases u with
  | load =>
    obtain ⟨reply, hread, -⟩ := load_course (Plan.course_transcript Unreliable.answer s.load ⟨t, []⟩)
    refine ⟨?_, [], _, rfl, Plan.along_transcript Unreliable.answer s.load ⟨t, []⟩⟩
    rw [exchanges, hread]
    exact .spared (spares_singleton (.read reply))
  | save r hazard =>
    have hcourse := save_course
      (Plan.course_transcript Unreliable.answer (s.save r) ⟨t, hazard.mishaps⟩)
    exact ⟨hcourse.part (List.take_prefix _ _) hazard, hazard.mishaps, _, rfl,
      Plan.along_take Unreliable.answer hazard.limit (s.save r) ⟨t, hazard.mishaps⟩⟩
  | clear hazard =>
    have hcourse := clear_course
      (Plan.course_transcript Unreliable.answer s.clear ⟨t, hazard.mishaps⟩)
    exact ⟨hcourse.part (List.take_prefix _ _) hazard, hazard.mishaps, _, rfl,
      Plan.along_take Unreliable.answer hazard.limit s.clear ⟨t, hazard.mishaps⟩⟩

/-! ## What the cell holds -/

section

variable (hplain : Files.Path.Plain s.path)

include hplain

theorem Holds.part {d d' : Unreliable} {u : Use} {v : List (Exchange Disk)}
    (h : Holds s d.tree found) (hground : d.tree.Grounded) (hpart : s.Part u v)
    (halong : Plan.Along Unreliable.answer v d d') :
    Holds s d'.tree (latest found (v.filterMap (effect? u))) ∧ d'.tree.Grounded := by
  cases hpart with
  | spared hspares =>
    rw [effects_of_spares hspares]
    exact h.along hplain hground hspares halong
  | placed h₁ h₂ =>
    obtain ⟨d₂, hfront, hrest⟩ := Plan.along_append.1 halong
    obtain ⟨d₁, hbefore, hwrite, hmove, hend⟩ := Plan.along_append.1 hfront
    obtain rfl : d₂ = _ := hend
    obtain ⟨-, hground₁⟩ := h.along hplain hground h₁ hbefore
    have hread := Tree.read_of_move (Unreliable.write_ok hwrite) (Unreliable.move_ok hmove)
    rw [List.filterMap_append, List.filterMap_append, effects_of_spares h₁, effects_of_spares h₂]
    exact (Holds.record _ hread).along hplain ((hground₁.unreliable _).unreliable _) h₂ hrest
  | @removed hazard v hspares =>
    obtain ⟨hremove, hrest⟩ := halong
    have hread := Tree.read_of_remove (Unreliable.remove_ok hremove)
    show Holds s d'.tree (latest found (none :: v.filterMap (effect? (.clear hazard)))) ∧ _
    rw [effects_of_spares hspares]
    exact (Holds.nothing hread).along hplain (hground.unreliable _) hspares hrest

theorem Holds.use (h : Holds s t found) (hground : t.Grounded) (u : Use) :
    Holds s (s.after t u) (latest found (s.effects t u)) ∧ (s.after t u).Grounded := by
  obtain ⟨hpart, mishaps, d', htree, halong⟩ := s.part_of_use t u
  rw [← htree]
  exact Holds.part hplain (d := ⟨t, mishaps⟩) h hground hpart halong

theorem Holds.uses (h : Holds s t found) (hground : t.Grounded) (us : List Use) :
    Holds s (s.afterAll t us) (latest found (s.history t us)) ∧ (s.afterAll t us).Grounded := by
  -- What the cell holds after a use is what it holds before the next one.
  induction us generalizing t found with
  | nil => exact ⟨h, hground⟩
  | cons u us ih =>
    obtain ⟨hnext, hground'⟩ := h.use hplain hground u
    rw [history, latest_append]
    exact ih hnext hground'

end

/-! ## What comes of keeping a record -/

section

variable {hazard : Hazard}

theorem course_of_result {o : Except Failure Unit} (h : (hazard.run (s.save r) t).1 = some o) :
    SaveCourse s r (s.exchanges t (.save r hazard)) o := by
  change ((s.save r).runFor Unreliable.answer hazard.limit ⟨t, hazard.mishaps⟩).1 = some o at h
  obtain ⟨hvalue, htake⟩ := Plan.runFor_eq_some h
  have hcourse := save_course
    (Plan.course_transcript Unreliable.answer (s.save r) ⟨t, hazard.mishaps⟩)
  rw [hvalue] at hcourse
  rw [exchanges, Hazard.transcript, htake]
  exact hcourse

theorem effects_of_saved (h : (hazard.run (s.save r) t).1 = some (.ok ())) :
    s.effects t (.save r hazard) = [some r] := by
  have hcourse := course_of_result h
  rw [effects]
  generalize s.exchanges t (.save r hazard) = v at hcourse
  cases hcourse with
  | saved v hprepared =>
    rw [List.filterMap_append, effects_of_spares hprepared.spares]
    rfl

theorem effects_of_unsaved {f : Failure} (h : (hazard.run (s.save r) t).1 = some (.error f)) :
    s.effects t (.save r hazard) = [] :=
  effects_of_spares (course_of_result h).spares _

/-- The draft of a record is gone once it was put in its place. -/
theorem draft_moved (hplain : Files.Path.Plain s.path) {t' : Tree}
    (hmove : t.move s.draft s.path = .ok t') : t'.look s.draft = .error .notFound := by
  refine Tree.look_of_move hmove ?_
  intro directory name directory' name' hdraft hpath heq
  obtain ⟨hplace, hne⟩ := Tree.placeOf_of_follow hplain hpath
  cases hname : Files.Path.fileName? s.path with
  | none => exact hne (Files.Path.steps_of_fileName?_none hplain hname)
  | some old =>
    obtain ⟨hbeside, hother⟩ := draft_place hplain hname hdraft
    rw [hbeside, hplace] at heq
    exact hother (List.append_cancel_left heq).symm

theorem draft_of_saved (hplain : Files.Path.Plain s.path)
    (h : (hazard.run (s.save r) t).1 = some (.ok ())) :
    (s.after t (.save r hazard)).look s.draft = .error .notFound := by
  have hcourse := course_of_result h
  have halong := Plan.along_take Unreliable.answer hazard.limit (s.save r) ⟨t, hazard.mishaps⟩
  change Plan.Along Unreliable.answer (s.exchanges t (.save r hazard)) _ _ at halong
  rw [after, Hazard.run]
  generalize s.exchanges t (.save r hazard) = v at hcourse halong
  generalize ((s.save r).runFor Unreliable.answer hazard.limit ⟨t, hazard.mishaps⟩).2 = d' at halong
  cases hcourse with
  | saved v hprepared =>
    obtain ⟨d₁, -, -, hmove, -, hend⟩ := Plan.along_append.1 halong
    obtain rfl : d' = _ := hend
    rw [Unreliable.note_tree]
    exact draft_moved hplain (Unreliable.move_ok hmove)

end

/-! ## All uses -/

/-- Below directories that are there or missing, from no file on, whatever lies where the drafts are
written, and however often a use fails or is cut off: what is loaded is the record that was put in
its place last, unless one was removed after it, and otherwise none. Only of a path that can be none
of a file it may be told so, and then no record was ever put in its place. Keeping a record succeeds
only once the record was put in its place and its draft is gone, and fails only if it was not. -/
theorem store_holds_cell (s : Store) (hplain : Files.Path.Plain s.path) (t : Tree)
    (hground : t.Grounded) (hopen : t.OpenTo s.path) (hnone : t.entryAt? (t.placeOf s.path) = none)
    (us : List Use) :
    (s.loaded (s.afterAll t us) = .ok (latest none (s.history t us)) ∨
      ¬ Tree.Possible s.path ∧ latest none (s.history t us) = none ∧
        ∃ fault, (fault = .nameTooLong ∨ fault = .badName) ∧
          s.loaded (s.afterAll t us) = .error (s.readFailure fault)) ∧
    ∀ r hazard,
      ((hazard.run (s.save r) (s.afterAll t us)).1 = some (.ok ()) →
        s.effects (s.afterAll t us) (.save r hazard) = [some r] ∧
        (s.after (s.afterAll t us) (.save r hazard)).look s.draft = .error .notFound) ∧
      ∀ f, (hazard.run (s.save r) (s.afterAll t us)).1 = some (.error f) →
        s.effects (s.afterAll t us) (.save r hazard) = [] := by
  have hholds : Holds s t none := by
    rcases Tree.read_of_nothing hground hplain hopen hnone with hread | ⟨hpath, hread⟩
    · exact .nothing hread
    · rcases hread with hread | hread
      · exact .impossible hpath _ (.inl rfl) hread
      · exact .impossible hpath _ (.inr rfl) hread
  refine ⟨(hholds.uses hplain hground us).1.loaded, ?_⟩
  intro r hazard
  refine ⟨?_, ?_⟩
  · intro hsaved
    exact ⟨effects_of_saved hsaved, draft_of_saved hplain hsaved⟩
  · intro f hfailed
    exact effects_of_unsaved hfailed

namespace Sample

/-- A store beside which a draft was left behind. -/
def store : Store :=
  ⟨"node.json"⟩

def leftover : Tree :=
  (⟨[], []⟩ : Tree).put ["node.json.tmp"] (.file [123, 34])

def record (id : String) : Record :=
  ⟨⟨List.replicate 40 (Fin.last 15), rfl⟩, id, "http://coordinator.test",
    ⟨19900, 3600, 250000000, by decide, by decide, by decide, by decide, by decide⟩, none⟩

/-- A record is kept; the next one is written, but cut off before it is put in its place; and the
first one cannot be removed. -/
def uses : List Use :=
  [.save (record "reg-1") ⟨[], 3⟩, .save (record "reg-2") ⟨[], 1⟩,
    .clear ⟨[some ⟨"Device or resource busy", 0⟩], 1⟩]

theorem steps_store : Files.Path.steps store.path = ["node.json"] := by
  decide +kernel

theorem grounded_leftover : leftover.Grounded := by
  rw [leftover, ← List.nil_append ["node.json.tmp"]]
  refine Tree.grounded_empty.put (Tree.hasDirectory_root _) ?_
  rintro ⟨entry, hentry, -⟩
  cases hentry

end Sample

/-- The record that was put in its place is loaded, and the draft that was left behind is gone once a
record was kept. -/
theorem sample_store_holds_cell :
    Sample.store.loaded (Sample.store.afterAll Sample.leftover Sample.uses) =
      .ok (some (Sample.record "reg-1")) ∧
    (Sample.store.after Sample.leftover (.save (Sample.record "reg-1") ⟨[], 3⟩)).look
      "node.json.tmp" = .error .notFound := by
  have hcell := store_holds_cell Sample.store (by decide +kernel) Sample.leftover
    Sample.grounded_leftover (Sample.grounded_leftover.openTo Sample.steps_store) (by decide +kernel)
  constructor
  · have hlatest : latest none (Sample.store.history Sample.leftover Sample.uses) =
        some (Sample.record "reg-1") := by decide +kernel
    obtain ⟨hloaded, -⟩ := hcell Sample.uses
    rw [hlatest] at hloaded
    rcases hloaded with hloaded | ⟨-, hnone, -⟩
    · exact hloaded
    · cases hnone
  · obtain ⟨-, hsaving⟩ := hcell []
    have hdone : ((⟨[], 3⟩ : Hazard).run (Sample.store.save (Sample.record "reg-1"))
        Sample.leftover).1.map Except.toOption = some (some ()) := by decide +kernel
    obtain ⟨o, ho, hok⟩ := Option.map_eq_some_iff.1 hdone
    cases o with
    | ok done => exact ((hsaving _ _).1 ho).2
    | error f => cases hok

/-- Of a name that is too long it is told so, although there is no file. -/
theorem long_name_is_told :
    ¬ ∀ (s : Store) (t : Tree) (us : List Use), Files.Path.Plain s.path → t.Grounded →
      t.OpenTo s.path → t.entryAt? (t.placeOf s.path) = none →
        s.loaded (s.afterAll t us) = .ok (latest none (s.history t us)) := by
  intro hcell
  obtain ⟨name, hslash, hcharacter, hlong, hfits⟩ : ∃ name : String, '/' ∉ name.toList ∧
      ¬ name.toList.contains '\x00' = true ∧ Text.byteLength name.toList > Tree.nameLimit ∧
      ¬ Text.byteLength name.toList > Tree.pathLimit := by
    refine ⟨String.ofList (List.replicate 256 'x'), ?_, ?_, ?_, ?_⟩
    all_goals
      rw [String.toList_ofList (l := List.replicate 256 'x')]
      decide +kernel
  have hother : ∀ other : String, Text.byteLength other.toList ≤ Tree.nameLimit → name ≠ other := by
    rintro other hother rfl
    exact Nat.not_lt.2 hother hlong
  have hempty : name ≠ "" := hother "" (by decide)
  have hnames : Files.Path.names name = [name] := by
    have hjoin := (Files.Path.join_names "" hslash hempty).2
    rwa [Files.Path.join, Files.Path.isAbsolute_eq_false hslash] at hjoin
  have hplain : Files.Path.Plain name := by
    rw [Files.Path.Plain, hnames, List.mem_singleton]
    exact (hother ".." (by decide)).symm
  have hfollow := Tree.follow_eq hcharacter (by simpa using hempty) hfits ⟨[], []⟩
  rw [hnames] at hfollow
  have hsteps : Files.Path.steps name = [name] := by
    rw [Files.Path.steps, hnames]
    simpa using hother "." (by decide)
  have hopen := Tree.grounded_empty.openTo hsteps
  have hnone : (⟨[], []⟩ : Tree).entryAt? ((⟨[], []⟩ : Tree).placeOf name) = none := by
    rw [Tree.placeOf, Tree.start, Files.Path.isAbsolute_eq_false hslash, hsteps]
    rfl
  have hloaded := hcell ⟨name⟩ ⟨[], []⟩ [] hplain Tree.grounded_empty hopen hnone
  rw [afterAll, loaded_eq, Tree.read_error (hfollow.trans (Tree.finish_long hlong _))] at hloaded
  cases hloaded

end Enrollment.Registration.Store
