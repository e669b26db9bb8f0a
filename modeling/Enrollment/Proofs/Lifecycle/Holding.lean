import Enrollment.Proofs.Lifecycle.Failing
import Enrollment.Proofs.Lifecycle.Progress
import Enrollment.Proofs.Registration.Lasting
/-!
# A record that is held

While there is a record, it changes only when another one is kept or it is forgotten: neither a
write that fails nor what the path of the store is made of can touch it. So an operation that fails
leaves it. Deactivating forgets it when it succeeds, and never looks whose record it is, although
activating turns down the record of another node.

Results:
 1. `Site.holds_along`: what is held after a transcript without a record forgotten.
 2. `holds_of_error`: an operation that fails leaves the record.
 3. `DeactivateCourse.error_iff`: when deactivating fails, where there is a record and a disk on which
    nothing goes wrong.
 4. `deactivate_spares_iff`: the record is there after deactivating just when that fails.
-/

namespace Enrollment.Lifecycle

open Registration (Record Store)
open Act (Course)

variable {κ : Type} {l : Lifecycle} {c : Coordinator κ} {store : Store} {t : Transcript}
  {s s' : Site κ} {r : Record}

/-! ## What touches a record -/

theorem written_eq_none_iff : written t = none ↔ ∀ e ∈ t, kept e = none := by
  induction t with
  | nil => exact ⟨fun _ e he => absurd he List.not_mem_nil, fun _ => rfl⟩
  | cons e t ih => rw [written, Option.or_eq_none_iff, ih, List.forall_mem_cons, and_comm]

namespace Site

/-- A record stays with an answer after which none is kept and none forgotten. -/
theorem holds_answer {e : Exchange Surroundings}
    (hreply : (answer c store e.request s).1 = e.reply) (hkept : kept e = none)
    (hloaded : s.loaded store = .ok (some r)) :
    (answer c store e.request s).2.loaded store = .ok (some r) := by
  cases hwrite : failsToWrite e with
  | false =>
    rw [loaded_of_answer hreply hwrite, hkept]
    exact hloaded
  | true =>
    obtain ⟨q, reply⟩ := e
    cases q with
    | save r' =>
      cases reply with
      | ok done => cases hwrite
      | error f => exact Store.lasts_of_save_error hloaded hreply
    | clear =>
      cases reply with
      | ok done => cases hwrite
      | error f => exact (congrArg store.loaded (Store.tree_of_clear_error hreply)).trans hloaded
    | entryOf a => cases hwrite
    | register q => cases hwrite
    | activate a q => cases hwrite
    | deactivate a => cases hwrite
    | load => cases hwrite
    | now => cases hwrite
    | note e => cases hwrite

/-- While no record is forgotten, there is one with all that those have that are kept. -/
theorem holds_along {P : Record → Prop} (halong : Plan.Along (answer c store) t s s')
    (hkept : ∀ e ∈ t, ∀ found, kept e = some found → ∃ r, found = some r ∧ P r)
    (hholds : ∃ r, s.loaded store = .ok (some r) ∧ P r) :
    ∃ r, s'.loaded store = .ok (some r) ∧ P r := by
  induction t generalizing s with
  | nil =>
    obtain rfl : s' = s := halong
    exact hholds
  | cons e t ih =>
    obtain ⟨hreply, hrest⟩ := halong
    refine ih hrest (fun e' he' => hkept e' (List.mem_cons_of_mem e he')) ?_
    cases hfound : kept e with
    | none =>
      obtain ⟨r, hloaded, hr⟩ := hholds
      exact ⟨r, holds_answer hreply hfound hloaded, hr⟩
    | some found =>
      obtain ⟨r, rfl, hr⟩ := hkept e List.mem_cons_self found hfound
      have hwrite : failsToWrite e = false := by
        obtain ⟨q, reply⟩ := e
        cases q <;> first | rfl | (cases reply <;> first | rfl | cases hfound)
      refine ⟨r, ?_, hr⟩
      rw [loaded_of_answer hreply hwrite, hfound]

/-- A record stays while none is kept and none forgotten. -/
theorem holds_of_written (halong : Plan.Along (answer c store) t s s') (hwritten : written t = none)
    (hloaded : s.loaded store = .ok (some r)) : s'.loaded store = .ok (some r) := by
  have hkept : ∀ e ∈ t, ∀ found, kept e = some found → ∃ r', found = some r' ∧ r' = r := by
    intro e he found hfound
    rw [written_eq_none_iff.1 hwritten e he] at hfound
    cases hfound
  obtain ⟨r', hloaded', rfl⟩ := holds_along halong hkept ⟨r, hloaded, rfl⟩
  exact hloaded'

/-- Where nothing goes wrong, a record can be forgotten. -/
theorem clears_reliable (hmishaps : s.disk.mishaps = []) (hloaded : s.loaded store = .ok (some r)) :
    (answer c store .clear s).1 = .ok () := by
  obtain ⟨k, ⟨tree, mishaps⟩, clock⟩ := s
  obtain rfl : mishaps = [] := hmishaps
  exact Store.clear_run_reliable hloaded

end Site

/-- An operation that fails leaves the record, whatever the path of the store is made of. -/
theorem holds_of_error {call : Call} {f : Failure} (hf : (s.perform l c call).1 = .error f)
    (hloaded : s.loaded l.store = .ok (some r)) :
    (s.perform l c call).2.loaded l.store = .ok (some r) := by
  have hcourse := Site.course_perform (l := l) (c := c) s call
  rw [hf] at hcourse
  exact Site.holds_of_written (Site.along_perform s call) (written_of_error hcourse) hloaded

/-! ## Deactivating -/

/-- Deactivating leaves no record when it succeeds. -/
theorem DeactivateSuccess.forgets {o : DeactivateOutcome} (h : DeactivateSuccess l t o)
    (halong : Plan.Along (Site.answer c l.store) t s s') : s'.loaded l.store = .ok none := by
  cases h with
  | forgotten entry hstatus =>
    exact Site.loaded_along halong (by simp [failsToWrite])
  | deactivated entry hstatus updated =>
    exact Site.loaded_along halong (by simp [failsToWrite])

/-- A coordinator does not tell what it knows of a node, or it tells that the node is not inactive
and refuses to deactivate it. -/
def Refuses (c : Coordinator κ) (a : Address) (k : κ) : Prop :=
  ∀ entry, (c.entryOf a k).1 = .ok entry →
    entry.status ≠ .inactive ∧ ∃ f, (c.deactivate a (c.entryOf a k).2).1 = .error f

/-- Where there is a record and nothing goes wrong on the disk, deactivating fails just when the
coordinator refuses. -/
theorem DeactivateCourse.error_iff {o : Except Failure DeactivateOutcome}
    (h : DeactivateCourse l t o) (halong : Plan.Along (Site.answer c l.store) t s s')
    (hmishaps : s.disk.mishaps = []) (hloaded : s.loaded l.store = .ok (some r)) :
    (∃ f, o = .error f) ↔ Refuses c l.address s.coordinator := by
  have hclears : ∀ {s₁ : Site κ} {reply}, s₁.disk = s.disk →
      (Site.answer c l.store .clear s₁).1 = reply → reply = .ok () := by
    intro s₁ reply hdisk hreply
    have hmishaps' : s₁.disk.mishaps = [] := by rw [hdisk, hmishaps]
    have hloaded' : s₁.loaded l.store = .ok (some r) := by
      rw [Site.loaded, hdisk]
      exact hloaded
    exact hreply.symm.trans (Site.clears_reliable hmishaps' hloaded')
  have hnot : ∀ {done : DeactivateOutcome},
      ¬ ∃ f, (.ok done : Except Failure DeactivateOutcome) = .error f := by
    rintro done ⟨f, hf⟩
    cases hf
  cases h with
  | unanswered f =>
    obtain ⟨htold, -⟩ := halong
    refine iff_of_true ⟨f, rfl⟩ ?_
    intro entry hentry
    cases htold.symm.trans hentry
  | forgotten entry hstatus o =>
    obtain ⟨htold, -, hclear, -⟩ := halong
    obtain rfl := hclears rfl hclear
    refine iff_of_false hnot ?_
    intro hrefuses
    exact (hrefuses entry htold).1 hstatus
  | refused entry hstatus f =>
    obtain ⟨htold, hrefused, -⟩ := halong
    refine iff_of_true ⟨f, rfl⟩ ?_
    intro entry' hentry
    cases htold.symm.trans hentry
    exact ⟨hstatus, f, hrefused⟩
  | uncleared entry hstatus updated f =>
    obtain ⟨-, -, hclear, -⟩ := halong
    cases hclears rfl hclear
  | deactivated entry hstatus updated =>
    obtain ⟨htold, hdeactivated, -⟩ := halong
    refine iff_of_false hnot ?_
    intro hrefuses
    obtain ⟨-, f, hf⟩ := hrefuses entry htold
    cases hdeactivated.symm.trans hf

/-- The record of any node, be it this one or another, is there after deactivating this node just
when deactivating fails; when it succeeds, none is. On a disk on which nothing goes wrong it fails
just when the coordinator refuses: the record of another node is forgotten whenever this node is
inactive, and whenever it is not and can be deactivated. -/
theorem deactivate_spares_iff (l : Lifecycle) (c : Coordinator κ) (s : Site κ) (instant : Instant)
    {r : Record} (hloaded : s.loaded l.store = .ok (some r)) :
    ((s.perform l c ⟨.deactivate, instant⟩).2.loaded l.store = .ok (some r) ↔
      ∃ f, (s.perform l c ⟨.deactivate, instant⟩).1 = .error f) ∧
    ((s.perform l c ⟨.deactivate, instant⟩).2.loaded l.store = .ok none ↔
      ∃ o, (s.perform l c ⟨.deactivate, instant⟩).1 = .ok o) ∧
    (s.disk.mishaps = [] →
      ((s.perform l c ⟨.deactivate, instant⟩).2.loaded l.store = .ok (some r) ↔
        Refuses c l.address s.coordinator)) := by
  obtain ⟨o, hcourse, ho⟩ := Act.course_map.1
    (Site.course_perform (l := l) (c := c) s ⟨.deactivate, instant⟩)
  have halong := Site.along_perform (l := l) (c := c) s ⟨.deactivate, instant⟩
  replace hcourse := deactivateCourse hcourse
  have hrefuses : s.disk.mishaps = [] → ((∃ f, o = .error f) ↔ Refuses c l.address s.coordinator) :=
    fun hmishaps => hcourse.error_iff (s := s.showing instant) halong hmishaps hloaded
  cases o with
  | error f =>
    have hstays := holds_of_error ho hloaded
    rw [hstays, ho]
    refine ⟨iff_of_true rfl ⟨f, rfl⟩, iff_of_false ?_ ?_, fun hmishaps => ?_⟩
    · intro h
      cases h
    · rintro ⟨o, h⟩
      cases h
    · exact iff_of_true rfl ((hrefuses hmishaps).1 ⟨f, rfl⟩)
  | ok outcome =>
    have hgone := hcourse.success.forgets halong
    rw [hgone, ho]
    refine ⟨iff_of_false ?_ ?_, iff_of_true rfl ⟨_, rfl⟩, fun hmishaps => iff_of_false ?_ ?_⟩
    · intro h
      cases h
    · rintro ⟨f, h⟩
      cases h
    · intro h
      cases h
    · intro h
      obtain ⟨f, hf⟩ := (hrefuses hmishaps).2 h
      cases hf

namespace Sample

/-- Another node that keeps its record in the same file. -/
def lodger : Lifecycle :=
  { home with address := stranger }

/-- A coordinator that knows one node, and takes all others for inactive. -/
def choosy : Coordinator Ledger :=
  { registry with entryOf := fun a k => (.ok (if a = owner then entry k else .unknown a), k) }

end Sample

/-- Deactivating a node that was never registered forgets the record of the one that is. -/
theorem sample_deactivate_spares :
    Sample.registered.loaded Sample.lodger.store =
      .ok (some ⟨Sample.owner, "reg-1", "http://coordinator.test", Sample.noon, none⟩) ∧
    Sample.owner ≠ Sample.lodger.address ∧
    (Sample.registered.perform Sample.lodger Sample.choosy ⟨.deactivate, Sample.noon⟩).2.loaded
      Sample.lodger.store = .ok none := by
  obtain ⟨-, hgone, -⟩ := deactivate_spares_iff Sample.lodger Sample.choosy Sample.registered
    Sample.noon Sample.loaded_registered
  exact ⟨Sample.loaded_registered, by decide, hgone.2 ⟨_, rfl⟩⟩

end Enrollment.Lifecycle
