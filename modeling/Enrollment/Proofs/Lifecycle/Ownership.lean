import Enrollment.Proofs.Lifecycle.Site
/-!
# Whose record is kept

Registering a node that is inactive compares the address in the receipt with its own, and activating
compares that of the record. Refreshing the record compares nothing: it restores the record from
whatever entry the coordinator reports. So the record stays the one of this node exactly as long as
no entry of another node, with an identifier, is taken for one of a node that is registered or
active already (`Honest`).

Results:
 1. `owned_refresh_iff`: what refreshing keeps, and for whom.
 2. `owned_perform_iff`: one call keeps the record of this node just when its outcome is honest.
 3. `owned_iff_honest`: so do all calls.
-/

namespace Enrollment.Lifecycle

open Registration (Record Store)

def Owned (l : Lifecycle) (found : Except Failure (Option Record)) : Prop :=
  ∀ r, found = .ok (some r) → r.address = l.address

/-- An entry is about this node, or there is nothing to restore from it. -/
def About (l : Lifecycle) (entry : Node.Entry) : Prop :=
  entry.address = l.address ∨ entry.registrationId = none

/-- What comes of an operation is not that another node is registered or active already. -/
def Honest (l : Lifecycle) : Except Failure Outcome → Prop
  | .ok (.register (.alreadyRegistered entry)) => About l entry
  | .ok (.register (.alreadyActive entry)) => About l entry
  | _ => True

variable {κ : Type} {l : Lifecycle} {c : Coordinator κ} {t : Transcript} {s s' : Site κ}

/-- What should be loaded after a transcript. -/
def expected (t : Transcript) (found : Except Failure (Option Record)) :
    Except Failure (Option Record) :=
  match written t with
  | some found => .ok found
  | none => found

theorem owned_some_iff {r : Record} : Owned l (.ok (some r)) ↔ r.address = l.address := by
  constructor
  · intro h
    exact h r rfl
  · intro h r' hr
    cases hr
    exact h

theorem owned_none : Owned l (.ok none) := by
  intro r hr
  cases hr

/-! ## One call -/

/-- What refreshing keeps is of this node just when the entry is, unless the refreshing fails. -/
theorem owned_refresh_iff (howned : Owned l (s.loaded l.store)) {entry : Node.Entry}
    {o : Except Failure Unit} (hcourse : RefreshCourse l entry t o)
    (halong : Plan.Along (Site.answer c l.store) t s s') :
    Owned l (expected t (s.loaded l.store)) ↔ (o = .ok () → About l entry) := by
  have hown : ∀ {r}, (Site.answer c l.store .load s).1 = .ok (some r) →
      isRecordOf r entry = true → r.address = l.address ∧ About l entry := by
    intro r hload hr
    have haddress := howned r ((Site.loaded_of_load hload).2 _ rfl)
    have hsame : r.address = entry.address := by
      simp only [isRecordOf, Bool.and_eq_true, decide_eq_true_eq] at hr
      exact hr.1
    exact ⟨haddress, .inl (hsame.symm.trans haddress)⟩
  cases hcourse with
  | unread f =>
    refine iff_of_true howned ?_
    intro h
    cases h
  | kept r hr hstamp =>
    obtain ⟨hload, -⟩ := halong
    exact iff_of_true howned fun _ => (hown hload hr).2
  | stamped r hr hactive hstamp now =>
    obtain ⟨hload, -⟩ := halong
    obtain ⟨haddress, habout⟩ := hown hload hr
    refine iff_of_true ?_ fun _ => habout
    cases o with
    | ok done => exact owned_some_iff.2 haddress
    | error f => exact howned
  | unidentified found hfound hid now => exact iff_of_true howned fun _ => .inr hid
  -- Nothing compares the address of the entry with the one of the node.
  | restored found hfound now record hrecord =>
    obtain ⟨id, hid, rfl⟩ := Option.map_eq_some_iff.1 hrecord
    cases o with
    | error f =>
      refine iff_of_true howned ?_
      intro h
      cases h
    | ok done =>
      refine owned_some_iff.trans ?_
      constructor
      · intro haddress _
        exact .inl haddress
      · intro h
        rcases h rfl with haddress | hnone
        · exact haddress
        · rw [hid] at hnone
          cases hnone

theorem owned_register_iff (howned : Owned l (s.loaded l.store))
    {o : Except Failure RegisterOutcome} (hcourse : RegisterCourse l t o)
    (halong : Plan.Along (Site.answer c l.store) t s s') :
    Owned l (expected t (s.loaded l.store)) ↔ Honest l (o.map Outcome.register) := by
  cases hcourse with
  | unanswered f => exact iff_of_true howned trivial
  | refused entry hstatus f => exact iff_of_true howned trivial
  | misdirected entry hstatus receipt haddress => exact iff_of_true howned trivial
  | unsaved entry hstatus receipt haddress f => exact iff_of_true howned trivial
  | registered entry hstatus receipt haddress =>
    exact iff_of_true (owned_some_iff.2 haddress) trivial
  | refreshed entry hstatus t o hrefresh =>
    obtain ⟨-, -, hrest⟩ := halong
    have hsame : ∀ found, expected (⟨.entryOf l.address, .ok entry⟩ ::
        ⟨.note (refreshing entry.status), ()⟩ :: t) found = expected t found := by
      intro found
      rw [expected, written, written, expected]
      cases written t <;> rfl
    rw [hsame]
    refine Iff.trans (owned_refresh_iff (s := (Site.answer c l.store (.entryOf l.address) s).2)
      howned hrefresh hrest) ?_
    cases o with
    | error f =>
      refine iff_of_true ?_ trivial
      intro h
      cases h
    | ok done =>
      have houtcome : Honest l (.ok (.register (Lifecycle.refreshed entry))) ↔ About l entry := by
        unfold Lifecycle.refreshed
        split <;> exact Iff.rfl
      refine Iff.trans ?_ houtcome.symm
      exact ⟨fun h => h rfl, fun h _ => h⟩

theorem owned_activate (howned : Owned l (s.loaded l.store))
    {o : Except Failure ActivateOutcome} (hcourse : ActivateCourse l t o) :
    Owned l (expected t (s.loaded l.store)) := by
  cases hcourse with
  | unread f => exact howned
  | absent => exact howned
  | foreign r haddress => exact howned
  | unanswered r haddress f => exact howned
  | unregistered r haddress entry hstatus => exact howned
  | kept r haddress entry hstatus hstamp => exact howned
  | stamped r haddress entry hstatus hstamp now o =>
    cases o with
    | ok done => exact owned_some_iff.2 haddress
    | error f => exact howned
  | registered r haddress entry hstatus t o hactivate =>
    cases hactivate with
    | cooling now hcooldown => exact howned
    | stale now hcooldown id hid hstale => exact howned
    | refused now hcooldown hid f => exact howned
    | unsaved now hcooldown hid receipt f => exact howned
    | activated now hcooldown hid receipt => exact owned_some_iff.2 haddress

theorem owned_deactivate (howned : Owned l (s.loaded l.store))
    {o : Except Failure DeactivateOutcome} (hcourse : DeactivateCourse l t o) :
    Owned l (expected t (s.loaded l.store)) := by
  cases hcourse with
  | unanswered f => exact howned
  | forgotten entry hstatus o =>
    cases o with
    | ok done => exact owned_none
    | error f => exact howned
  | refused entry hstatus f => exact howned
  | uncleared entry hstatus updated f => exact howned
  | deactivated entry hstatus updated => exact owned_none

theorem owned_status (howned : Owned l (s.loaded l.store))
    {o : Except Failure StatusReport} (hcourse : StatusCourse l t o) :
    Owned l (expected t (s.loaded l.store)) := by
  cases hcourse with
  | unanswered f => exact howned
  | unread entry f => exact howned
  | cooling entry hstatus found now => exact howned
  | settled entry hstatus found => exact howned

/-- Whether the record can be told after a transcript: nothing failed to be written, or the path of
the store is plain. -/
def Steady (l : Lifecycle) (t : Transcript) (s : Site κ) : Prop :=
  (∀ e ∈ t, failsToWrite e = false) ∨
    Files.Path.Plain l.recordPath ∧ s.disk.tree.Grounded

/-- A record that cannot be read is nobody's. -/
theorem owned_shows_iff {found : Except Failure (Option Record)} {tree : Files.Tree}
    (h : l.store.Shows found tree) : Owned l (l.store.loaded tree) ↔ Owned l found := by
  rcases h with heq | ⟨-, hnone, htooLong⟩
  · rw [heq]
  · rw [hnone, htooLong]
    refine iff_of_true ?_ owned_none
    intro r hr
    cases hr

theorem shows_expected (hsteady : Steady l t s) (halong : Plan.Along (Site.answer c l.store) t s s') :
    l.store.Shows (expected t (s.loaded l.store)) s'.disk.tree := by
  rcases hsteady with hwrites | ⟨hplain, hground⟩
  · exact .inl (Site.loaded_along halong hwrites)
  · exact Site.shows_along hplain hground halong

/-- One call keeps the record of this node just when its outcome is honest. -/
theorem owned_perform_iff (howned : Owned l (s.loaded l.store)) (call : Call)
    (hsteady : Steady l (s.transcript l c call) s) :
    Owned l ((s.perform l c call).2.loaded l.store) ↔ Honest l (s.perform l c call).1 := by
  have hcourse := Site.course_perform (l := l) (c := c) s call
  have halong := Site.along_perform (l := l) (c := c) s call
  have hshows := shows_expected (s := s.showing call.instant) hsteady halong
  refine (owned_shows_iff hshows).trans ?_
  have howned' : Owned l ((s.showing call.instant).loaded l.store) := howned
  obtain ⟨operation, instant⟩ := call
  cases operation with
  | register =>
    obtain ⟨o, hregister, ho⟩ := Act.course_map.1 hcourse
    rw [ho]
    exact owned_register_iff howned' (registerCourse hregister) halong
  | activate =>
    obtain ⟨o, hactivate, ho⟩ := Act.course_map.1 hcourse
    rw [ho]
    refine iff_of_true (owned_activate howned' (activateCourse hactivate)) ?_
    cases o <;> exact trivial
  | deactivate =>
    obtain ⟨o, hdeactivate, ho⟩ := Act.course_map.1 hcourse
    rw [ho]
    refine iff_of_true (owned_deactivate howned' (deactivateCourse hdeactivate)) ?_
    cases o <;> exact trivial
  | status =>
    obtain ⟨o, hstatus, ho⟩ := Act.course_map.1 hcourse
    rw [ho]
    refine iff_of_true (owned_status howned' (statusCourse hstatus)) ?_
    cases o <;> exact trivial

/-! ## All calls -/

theorem Steady.first {call : Call} {calls : List Call}
    (h : Steady l (s.transcripts l c (call :: calls)) s) : Steady l (s.transcript l c call) s := by
  rcases h with hwrites | hplain
  · exact .inl fun e he => hwrites e (List.mem_append_left _ he)
  · exact .inr hplain

theorem Steady.rest {call : Call} {calls : List Call}
    (h : Steady l (s.transcripts l c (call :: calls)) s) :
    Steady l ((s.perform l c call).2.transcripts l c calls) (s.perform l c call).2 := by
  rcases h with hwrites | ⟨hplain, hground⟩
  · exact .inl fun e he => hwrites e (List.mem_append_right _ he)
  · exact .inr ⟨hplain, Site.grounded_along (s := s.showing call.instant)
      (Site.along_perform s call) hground⟩

/-- From a record of this node on, or none, whatever the coordinator answers and whatever calls are
made: the record is one of this node after each of them just when every outcome is honest. -/
theorem owned_iff_honest (l : Lifecycle) (c : Coordinator κ) (s : Site κ)
    (howned : Owned l (s.loaded l.store)) (calls : List Call)
    (hsteady : Steady l (s.transcripts l c calls) s) :
    (∀ n, Owned l ((s.performAll l c (calls.take n)).loaded l.store)) ↔
      ∀ o ∈ s.outcomes l c calls, Honest l o := by
  -- As long as the record is one of this node, the next call is a first one.
  induction calls generalizing s with
  | nil =>
    refine iff_of_true ?_ ?_
    · intro n
      rw [List.take_nil]
      exact howned
    · intro o ho
      cases ho
  | cons call calls ih =>
    have hone := owned_perform_iff howned call hsteady.first
    constructor
    · intro h
      have hnext : Owned l ((s.perform l c call).2.loaded l.store) := h 1
      have hall := (ih _ hnext hsteady.rest).1 fun n => h (n + 1)
      intro o ho
      rcases List.mem_cons.1 ho with rfl | ho
      · exact hone.1 hnext
      · exact hall o ho
    · intro h n
      have hnext := hone.2 (h _ List.mem_cons_self)
      cases n with
      | zero => exact howned
      | succ n =>
        exact (ih _ hnext hsteady.rest).2 (fun o ho => h o (List.mem_cons_of_mem _ ho)) n

namespace Sample

/-- A coordinator that takes every node for another one, which is registered. -/
def confused : Coordinator Unit where
  entryOf _ _ := (.ok ⟨stranger, .registered, some "reg-9", some noon, 0⟩, ())
  register r _ := (.ok ⟨r.address, "reg-1", .registered, noon, 0⟩, ())
  activate a _ _ := (.ok ⟨a, .active, noon⟩, ())
  deactivate a _ := (.ok (Node.Entry.unknown a), ())

end Sample

/-- Registering keeps the record of another node that the coordinator reports. -/
theorem sample_owned_iff_honest :
    ¬ ∀ n, Owned Sample.home (((Sample.site ()).performAll Sample.home Sample.confused
      ([⟨.register, Sample.noon⟩].take n)).loaded Sample.home.store) := by
  intro howned
  have hnone : Owned Sample.home ((Sample.site ()).loaded Sample.home.store) := by
    rw [Sample.loaded_site]
    exact owned_none
  have hhonest := (owned_iff_honest Sample.home Sample.confused (Sample.site ()) hnone
    [⟨.register, Sample.noon⟩] (.inr ⟨by decide +kernel, Sample.grounded_site ()⟩)).1 howned
  have houtcome : (Sample.site ()).outcomes Sample.home Sample.confused
      [⟨.register, Sample.noon⟩] =
      [.ok (.register (.alreadyRegistered
        ⟨Sample.stranger, .registered, some "reg-9", some Sample.noon, 0⟩))] := rfl
  rw [houtcome] at hhonest
  rcases hhonest _ List.mem_cons_self with haddress | hid
  · exact absurd haddress (by decide)
  · cases hid

end Enrollment.Lifecycle
