import Enrollment.Proofs.Lifecycle.Courses
import Enrollment.Proofs.Registration.Keeping
/-!
# Operations at a site

The operations of a lifecycle as they are called one after the other, each at an instant of its own,
with a coordinator that may be anything and a store on a disk on which any step may go wrong. What an
operation does to the store can be read off its transcript: the last record that was kept or
forgotten (`written`), if there is one.

Results:
 1. `course_perform`, `along_perform`: the transcript of a call is a course of its operation.
 2. `loaded_along`: what is loaded after a transcript without failed writes.
 3. `shows_along`: the same for plain paths, whatever fails.
 4. `tree_along`: a transcript that writes nothing leaves all files as they are.
-/

namespace Enrollment.Lifecycle

open Registration (Record Store)
open Files (Tree Unreliable)

/-! ## Operations -/

inductive Operation
  | register
  | activate
  | deactivate
  | status
  deriving DecidableEq, Repr

/-- What comes of an operation. -/
inductive Outcome
  | register (o : RegisterOutcome)
  | activate (o : ActivateOutcome)
  | deactivate (o : DeactivateOutcome)
  | status (r : StatusReport)
  deriving DecidableEq

def perform (l : Lifecycle) : Operation → Act Outcome
  | .register => Outcome.register <$> l.register
  | .activate => Outcome.activate <$> l.activate
  | .deactivate => Outcome.deactivate <$> l.deactivate
  | .status => Outcome.status <$> l.status

/-- Where the record of a node is kept. -/
def store (l : Lifecycle) : Store :=
  ⟨l.recordPath⟩

/-! ## Sites -/

/-- A coordinator: what it answers, and what becomes of it. -/
structure Coordinator (κ : Type) where
  entryOf : Address → κ → Except Failure Node.Entry × κ
  register : Registration.Request → κ → Except Failure Registration.Receipt × κ
  activate : Address → Activation.Request → κ → Except Failure Activation.Receipt × κ
  deactivate : Address → κ → Except Failure Node.Entry × κ

/-- Where a lifecycle is at work: the state of its coordinator, the disk and the clock. -/
structure Site (κ : Type) where
  coordinator : κ
  disk : Unreliable
  clock : Instant

/-- A call of an operation, and when it is made. -/
structure Call where
  operation : Operation
  instant : Instant
  deriving DecidableEq

namespace Site

variable {κ : Type}

def onDisk {α : Type} (s : Site κ) (p : Plan Files.Disk α) : α × Site κ :=
  ((p.run Unreliable.answer s.disk).1, { s with disk := (p.run Unreliable.answer s.disk).2 })

def answer (c : Coordinator κ) (store : Store) : (q : Step) → Site κ → q.Answer × Site κ
  | .entryOf a, s =>
    ((c.entryOf a s.coordinator).1, { s with coordinator := (c.entryOf a s.coordinator).2 })
  | .register r, s =>
    ((c.register r s.coordinator).1, { s with coordinator := (c.register r s.coordinator).2 })
  | .activate a r, s =>
    ((c.activate a r s.coordinator).1, { s with coordinator := (c.activate a r s.coordinator).2 })
  | .deactivate a, s =>
    ((c.deactivate a s.coordinator).1, { s with coordinator := (c.deactivate a s.coordinator).2 })
  | .load, s => s.onDisk store.load
  | .save r, s => s.onDisk (store.save r)
  | .clear, s => s.onDisk store.clear
  | .now, s => (s.clock, s)
  | .note _, s => ((), s)

def showing (s : Site κ) (instant : Instant) : Site κ :=
  { s with clock := instant }

def loaded (s : Site κ) (store : Store) : Except Failure (Option Record) :=
  store.loaded s.disk.tree

variable (l : Lifecycle) (c : Coordinator κ)

def perform (s : Site κ) (call : Call) : Except Failure Outcome × Site κ :=
  (l.perform call.operation).run.run (answer c l.store) (s.showing call.instant)

/-- What is asked and answered in a call. -/
def transcript (s : Site κ) (call : Call) : Transcript :=
  (l.perform call.operation).run.transcript (answer c l.store) (s.showing call.instant)

def performAll (s : Site κ) : List Call → Site κ
  | [] => s
  | call :: calls => (s.perform l c call).2.performAll calls

/-- What is asked and answered in some calls. -/
def transcripts (s : Site κ) : List Call → Transcript
  | [] => []
  | call :: calls => s.transcript l c call ++ (s.perform l c call).2.transcripts calls

def outcomes (s : Site κ) : List Call → List (Except Failure Outcome)
  | [] => []
  | call :: calls => (s.perform l c call).1 :: (s.perform l c call).2.outcomes calls

variable {l c}

theorem course_perform (s : Site κ) (call : Call) :
    Act.Course (l.perform call.operation) (s.transcript l c call) (s.perform l c call).1 :=
  Plan.course_transcript _ _ _

theorem along_perform (s : Site κ) (call : Call) :
    Plan.Along (answer c l.store) (s.transcript l c call) (s.showing call.instant)
      (s.perform l c call).2 :=
  Plan.along_transcript _ _ _

end Site

/-! ## What is written -/

/-- What is kept after an exchange that keeps or forgets a record. -/
def kept : Exchange Surroundings → Option (Option Record)
  | ⟨.save r, .ok _⟩ => some (some r)
  | ⟨.clear, .ok _⟩ => some none
  | _ => none

/-- What is kept after the last exchange that keeps or forgets a record. -/
def written : Transcript → Option (Option Record)
  | [] => none
  | e :: t => (written t).or (kept e)

/-- An exchange in which a record could not be kept or forgotten. -/
def failsToWrite : Exchange Surroundings → Bool
  | ⟨.save _, .error _⟩ => true
  | ⟨.clear, .error _⟩ => true
  | _ => false

/-- An exchange that is to keep or to forget a record. -/
def writes : Step → Bool
  | .save _ => true
  | .clear => true
  | _ => false

namespace Site

variable {κ : Type} {c : Coordinator κ} {store : Store}

theorem loaded_of_load {s : Site κ} {o : Except Failure (Option Record)}
    (h : (answer c store .load s).1 = o) :
    (answer c store .load s).2.loaded store = s.loaded store ∧
      ∀ found, o = .ok found → s.loaded store = .ok found := by
  obtain ⟨htree, hreply⟩ := store.load_run s.disk
  refine ⟨congrArg store.loaded htree, ?_⟩
  rintro found rfl
  rcases hreply with hreply | ⟨f, hf⟩
  · exact hreply.symm.trans h
  · have : (Except.error f : Except Failure (Option Record)) = .ok found := hf.symm.trans h
    cases this

/-- Where nothing goes wrong, loading tells what can be loaded. -/
theorem answer_load {s : Site κ} (hmishaps : s.disk.mishaps = [])
    {found : Except Failure (Option Record)} (hloaded : s.loaded store = found) :
    answer c store .load s = (found, s) := by
  obtain ⟨k, ⟨tree, mishaps⟩, clock⟩ := s
  obtain rfl : mishaps = [] := hmishaps
  subst hloaded
  show onDisk _ _ = _
  rw [onDisk, Store.load_run_reliable]
  rfl

/-- Where nothing goes wrong and there is no record, there is nothing to forget. -/
theorem answer_clear {s : Site κ} (hmishaps : s.disk.mishaps = [])
    (hloaded : s.loaded store = .ok none) : answer c store .clear s = (.ok (), s) := by
  obtain ⟨k, ⟨tree, mishaps⟩, clock⟩ := s
  obtain rfl : mishaps = [] := hmishaps
  show onDisk _ _ = _
  rw [onDisk, Store.clear_run_nothing hloaded]

theorem disk_answer_entryOf (a : Address) (s : Site κ) :
    (answer c store (.entryOf a) s).2.disk = s.disk :=
  rfl

theorem disk_answer_register (r : Registration.Request) (s : Site κ) :
    (answer c store (.register r) s).2.disk = s.disk :=
  rfl

/-- A record that was kept is loaded. -/
theorem loaded_of_saved {r : Record} {s : Site κ} (h : (answer c store (.save r) s).1 = .ok ()) :
    (answer c store (.save r) s).2.loaded store = .ok (some r) :=
  Store.loaded_of_save h

theorem disk_answer_save (r : Record) (s : Site κ) :
    (answer c store (.save r) s).2.disk = ((store.save r).run Unreliable.answer s.disk).2 :=
  rfl

/-- A question that is not to write anything leaves the files as they are. -/
theorem tree_of_answer {q : Step} (h : writes q = false) (s : Site κ) :
    (answer c store q s).2.disk.tree = s.disk.tree := by
  cases q with
  | load => exact (store.load_run s.disk).1
  | save r => cases h
  | clear => cases h
  | entryOf a => rfl
  | register r => rfl
  | activate a r => rfl
  | deactivate a => rfl
  | now => rfl
  | note e => rfl

/-- What is loaded after an exchange that does not fail to write. -/
theorem loaded_of_answer {s : Site κ} {e : Exchange Surroundings}
    (hreply : (answer c store e.request s).1 = e.reply) (hwrite : failsToWrite e = false) :
    (answer c store e.request s).2.loaded store =
      match kept e with
      | some found => .ok found
      | none => s.loaded store := by
  obtain ⟨q, reply⟩ := e
  cases q with
  | load => exact congrArg store.loaded (store.load_run s.disk).1
  | save r =>
    cases reply with
    | ok done => exact Store.loaded_of_save hreply
    | error f => cases hwrite
  | clear =>
    cases reply with
    | ok done => exact Store.loaded_of_clear hreply
    | error f => cases hwrite
  | entryOf a => rfl
  | register r => rfl
  | activate a r => rfl
  | deactivate a => rfl
  | now => rfl
  | note e => rfl

/-- What is loaded after a transcript without failed writes. -/
theorem loaded_along {t : Transcript} {s s' : Site κ} (h : Plan.Along (answer c store) t s s')
    (hwrites : ∀ e ∈ t, failsToWrite e = false) :
    s'.loaded store =
      match written t with
      | some found => .ok found
      | none => s.loaded store := by
  induction t generalizing s with
  | nil =>
    obtain rfl : s' = s := h
    rfl
  | cons e t ih =>
    obtain ⟨hreply, hrest⟩ := h
    -- The last write counts, so what follows is asked first.
    have htail := ih hrest fun e' he' => hwrites e' (List.mem_cons_of_mem e he')
    rw [htail, written]
    cases hwritten : written t with
    | some found => rfl
    | none => exact loaded_of_answer hreply (hwrites e List.mem_cons_self)

/-- With every answer files go on lying in directories. -/
theorem grounded_answer (q : Step) {s : Site κ} (h : s.disk.tree.Grounded) :
    (answer c store q s).2.disk.tree.Grounded := by
  cases q with
  | load => exact Store.grounded_run _ h
  | save r => exact Store.grounded_run _ h
  | clear => exact Store.grounded_run _ h
  | entryOf a => exact h
  | register r => exact h
  | activate a r => exact h
  | deactivate a => exact h
  | now => exact h
  | note e => exact h

theorem grounded_along {t : Transcript} {s s' : Site κ}
    (h : Plan.Along (answer c store) t s s') (hground : s.disk.tree.Grounded) :
    s'.disk.tree.Grounded :=
  Plan.Along.preserves (R := fun s s' => s.disk.tree.Grounded → s'.disk.tree.Grounded)
    (fun _ h => h) (fun h h' hground => h' (h hground)) (fun q _ h => grounded_answer q h) h hground

/-- What is loaded after an exchange, if the path of the store is plain. -/
theorem shows_answer (hplain : Files.Path.Plain store.path) {s : Site κ}
    (hground : s.disk.tree.Grounded) {e : Exchange Surroundings}
    (hreply : (answer c store e.request s).1 = e.reply) :
    store.Shows
      (match kept e with
      | some found => .ok found
      | none => s.loaded store)
      (answer c store e.request s).2.disk.tree := by
  cases hwrite : failsToWrite e with
  | false => exact .inl (loaded_of_answer hreply hwrite)
  | true =>
    obtain ⟨q, reply⟩ := e
    cases q with
    | save r =>
      cases reply with
      | ok done => cases hwrite
      | error f => exact Store.loaded_of_save_error hplain hground hreply
    | clear =>
      cases reply with
      | ok done => cases hwrite
      | error f => exact .inl (congrArg store.loaded (Store.tree_of_clear_error hreply))
    | entryOf a => cases hwrite
    | register r => cases hwrite
    | activate a r => cases hwrite
    | deactivate a => cases hwrite
    | load => cases hwrite
    | now => cases hwrite
    | note e => cases hwrite

/-- What is loaded after a transcript, if the path of the store is plain. -/
theorem shows_along (hplain : Files.Path.Plain store.path) {t : Transcript} {s s' : Site κ}
    (hground : s.disk.tree.Grounded) (h : Plan.Along (answer c store) t s s') :
    store.Shows
      (match written t with
      | some found => .ok found
      | none => s.loaded store)
      s'.disk.tree := by
  induction t generalizing s with
  | nil =>
    obtain rfl : s' = s := h
    exact .inl rfl
  | cons e t ih =>
    obtain ⟨hreply, hrest⟩ := h
    -- Two faults in a row are one: the second expects no record, but the first left a fault.
    have htail := ih (grounded_answer e.request hground) hrest
    rw [written]
    cases hwritten : written t with
    | some found =>
      rw [hwritten] at htail
      exact htail
    | none =>
      rw [hwritten] at htail
      exact (shows_answer hplain hground hreply).trans htail

/-- A transcript that is not to write anything leaves the files as they are. -/
theorem tree_along {t : Transcript} {s s' : Site κ} (h : Plan.Along (answer c store) t s s')
    (hwrites : ∀ e ∈ t, writes e.request = false) : s'.disk.tree = s.disk.tree := by
  induction t generalizing s with
  | nil =>
    obtain rfl : s' = s := h
    rfl
  | cons e t ih =>
    obtain ⟨-, hrest⟩ := h
    rw [ih hrest fun e' he' => hwrites e' (List.mem_cons_of_mem e he')]
    exact tree_of_answer (hwrites e List.mem_cons_self) s

end Site

/-! ## A site to look at -/

namespace Sample

def owner : Address :=
  ⟨List.replicate 40 1, rfl⟩

def stranger : Address :=
  ⟨List.replicate 40 2, rfl⟩

def noon : Instant :=
  ⟨19844, 43200, 500000000, by decide, by decide, by decide, by decide, by decide⟩

/-- A node whose record is kept at a path. -/
def node (path : String) : Lifecycle :=
  { address := owner, coordinatorUrl := "http://coordinator.test", recordPath := path }

/-- The node whose record is kept in `node.json`. -/
abbrev home : Lifecycle :=
  node "node.json"

/-- A site with an empty disk on which nothing goes wrong. -/
def site {κ : Type} (k : κ) : Site κ :=
  ⟨k, ⟨⟨[], []⟩, []⟩, noon⟩

theorem loaded_site {κ : Type} (k : κ) : (site k).loaded home.store = .ok none :=
  rfl

theorem grounded_site {κ : Type} (k : κ) : (site k).disk.tree.Grounded :=
  Files.Tree.grounded_empty

end Sample

end Enrollment.Lifecycle
