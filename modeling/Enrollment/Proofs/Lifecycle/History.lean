import Enrollment.Proofs.Lifecycle.Holding
import Enrollment.Proofs.Lifecycle.Staleness
/-!
# The history of a registration

A record tells when and with which coordinator a node was registered, and when it was activated.
Four places make or stamp a record: from a receipt, from what the coordinator tells, from the clock,
and from what was recorded before (`Becomes`). As long as the record is one of the same registration,
none of them rewrites what it does not own: when and where the node was registered is only replaced
with a receipt of a registration, a stamp only with a receipt, and a stamp only comes with a receipt
of an activation or where the node is told to be active (`Continues`).

Results:
 1. `becomes_perform`: what becomes of a record in one call.
 2. `Becomes.continues`, `Continues.trans`: what one call and what one after the other preserves.
 3. `history_continues`: what any number of calls preserves.
-/

namespace Enrollment.Lifecycle

open Registration (Record Store)

/-! ## What the coordinator answers -/

def registers : Exchange Surroundings → Bool
  | ⟨.register _, .ok _⟩ => true
  | _ => false

def activates : Exchange Surroundings → Bool
  | ⟨.activate _ _, .ok _⟩ => true
  | _ => false

/-- The coordinator has told that a node is active. -/
def tellsActive : Exchange Surroundings → Bool
  | ⟨.entryOf _, .ok entry⟩ => entry.status = .active
  | _ => false

/-! ## One call -/

inductive Becomes (l : Lifecycle) (t : Transcript) (r : Record) : Record → Prop
  | same : Becomes l t r r
  | stamped (entry : Node.Entry) (htold : ⟨.entryOf l.address, .ok entry⟩ ∈ t)
      (hactive : entry.status = .active) (hstamp : r.activatedAt = none) (now : Instant) :
      Becomes l t r (stampedAt r now)
  | activated (request : Activation.Request) (receipt : Activation.Receipt)
      (haccepted : ⟨.activate l.address request, .ok receipt⟩ ∈ t) :
      Becomes l t r (stampedAt r receipt.activatedAt)
  | registered (request : Registration.Request) (receipt : Registration.Receipt)
      (haccepted : ⟨.register request, .ok receipt⟩ ∈ t) :
      Becomes l t r (Record.ofReceipt receipt l.coordinatorUrl)
  | restored (entry : Node.Entry) (hother : isRecordOf r entry = false) (now : Instant)
      (record : Record) (hrecord : Record.restored? entry l.coordinatorUrl now = some record) :
      Becomes l t r record

section

variable {κ : Type} {l : Lifecycle} {c : Coordinator κ} {t outer : Transcript} {s s' : Site κ}
  {r r' r'' : Record} {entry : Node.Entry}

theorem eq_of_kept_save {o : Except Failure Unit} {found : Option Record}
    (h : kept ⟨.save r, o⟩ = some found) : found = some r := by
  cases o with
  | error f => cases h
  | ok done =>
    cases h
    rfl

/-- A record that is read is the one that is there. -/
theorem eq_of_read {o : Option Record} (hloaded : s.loaded l.store = .ok (some r))
    (hload : (Site.answer c l.store .load s).1 = .ok o) : o = some r := by
  obtain ⟨-, hfound⟩ := Site.loaded_of_load hload
  cases hloaded.symm.trans (hfound o rfl)
  rfl

/-- A record that is kept in a transcript comes of the one that was there. -/
def KeepsOnly (l : Lifecycle) (outer t : Transcript) (r : Record) : Prop :=
  ∀ e ∈ t, ∀ found, kept e = some found → ∃ r', found = some r' ∧ Becomes l outer r r'

theorem KeepsOnly.nil : KeepsOnly l outer [] r := by
  intro e he
  cases he

theorem KeepsOnly.cons {e : Exchange Surroundings} (he : kept e = none)
    (h : KeepsOnly l outer t r) : KeepsOnly l outer (e :: t) r := by
  intro e' he' found hfound
  rcases List.mem_cons.1 he' with rfl | hmem
  · rw [he] at hfound
    cases hfound
  · exact h e' hmem found hfound

theorem KeepsOnly.save {o : Except Failure Unit} (hr : Becomes l outer r r')
    (h : KeepsOnly l outer t r) : KeepsOnly l outer (⟨.save r', o⟩ :: t) r := by
  intro e he found hfound
  rcases List.mem_cons.1 he with rfl | hmem
  · exact ⟨r', eq_of_kept_save hfound, hr⟩
  · exact h e hmem found hfound

theorem RefreshCourse.keepsOnly {o : Except Failure Unit} (h : RefreshCourse l entry t o)
    (halong : Plan.Along (Site.answer c l.store) t s s') (hloaded : s.loaded l.store = .ok (some r))
    (htold : ⟨.entryOf l.address, .ok entry⟩ ∈ outer) : KeepsOnly l outer t r := by
  cases h with
  | unread f => exact .cons rfl .nil
  | kept r hr hstamp => exact .cons rfl .nil
  | stamped r' hr hactive hstamp now o =>
    cases eq_of_read hloaded halong.1
    exact .cons rfl (.cons rfl (.save (.stamped entry htold hactive hstamp now) .nil))
  | unidentified found hfound hid now => exact .cons rfl (.cons rfl (.cons rfl .nil))
  | restored found hfound now record hrecord o =>
    cases eq_of_read hloaded halong.1
    exact .cons rfl (.cons rfl (.save (.restored entry (hfound r rfl) now record hrecord) .nil))

theorem RegisterCourse.keepsOnly {o : Except Failure RegisterOutcome} (h : RegisterCourse l t o)
    (halong : Plan.Along (Site.answer c l.store) t s s')
    (hloaded : s.loaded l.store = .ok (some r)) : KeepsOnly l t t r := by
  cases h with
  | unanswered f => exact .cons rfl .nil
  | refreshed entry hstatus t o hrefresh =>
    obtain ⟨-, -, hrest⟩ := halong
    exact .cons rfl (.cons rfl (hrefresh.keepsOnly
      (s := (Site.answer c l.store (.entryOf l.address) s).2) hrest hloaded List.mem_cons_self))
  | refused entry hstatus f => exact .cons rfl (.cons rfl .nil)
  | misdirected entry hstatus receipt haddress => exact .cons rfl (.cons rfl .nil)
  | unsaved entry hstatus receipt haddress f =>
    exact .cons rfl (.cons rfl (.save (.registered l.registration receipt (by simp)) .nil))
  | registered entry hstatus receipt haddress =>
    exact .cons rfl (.cons rfl (.save (.registered l.registration receipt (by simp))
      (.cons rfl .nil)))

theorem ActivateRegisteredCourse.keepsOnly {o : Except Failure ActivateOutcome}
    (h : ActivateRegisteredCourse l r entry t o) (hmem : ∀ e ∈ t, e ∈ outer) :
    KeepsOnly l outer t r := by
  cases h with
  | cooling now hcooldown => exact .cons rfl .nil
  | stale now hcooldown id hid hstale => exact .cons rfl .nil
  | refused now hcooldown hid f => exact .cons rfl (.cons rfl .nil)
  | unsaved now hcooldown hid receipt f =>
    exact .cons rfl (.cons rfl
      (.save (.activated ⟨r.registrationId⟩ receipt (hmem _ (by simp))) .nil))
  | activated now hcooldown hid receipt =>
    exact .cons rfl (.cons rfl
      (.save (.activated ⟨r.registrationId⟩ receipt (hmem _ (by simp))) (.cons rfl .nil)))

theorem ActivateCourse.keepsOnly {o : Except Failure ActivateOutcome} (h : ActivateCourse l t o)
    (halong : Plan.Along (Site.answer c l.store) t s s')
    (hloaded : s.loaded l.store = .ok (some r)) : KeepsOnly l t t r := by
  cases h with
  | unread f => exact .cons rfl .nil
  | absent => exact .cons rfl .nil
  | foreign r haddress => exact .cons rfl .nil
  | unanswered r haddress f => exact .cons rfl (.cons rfl .nil)
  | unregistered r haddress entry hstatus => exact .cons rfl (.cons rfl .nil)
  | kept r haddress entry hstatus hstamp => exact .cons rfl (.cons rfl (.cons rfl .nil))
  | stamped r' haddress entry hstatus hstamp now o =>
    cases eq_of_read hloaded halong.1
    exact .cons rfl (.cons rfl (.cons rfl (.cons rfl
      (.save (.stamped entry (by simp) hstatus hstamp now) .nil))))
  | registered r' haddress entry hstatus t o hactivate =>
    cases eq_of_read hloaded halong.1
    exact .cons rfl (.cons rfl (hactivate.keepsOnly fun e he =>
      List.mem_cons_of_mem _ (List.mem_cons_of_mem _ he)))

/-- Where only such records are kept, the one that is there in the end comes of the one before. -/
theorem KeepsOnly.becomes (h : KeepsOnly l t t r)
    (halong : Plan.Along (Site.answer c l.store) t s s') (hloaded : s.loaded l.store = .ok (some r))
    (hloaded' : s'.loaded l.store = .ok (some r')) : Becomes l t r r' := by
  obtain ⟨r'', hthere, hbecomes⟩ := Site.holds_along halong h ⟨r, hloaded, .same⟩
  cases hloaded'.symm.trans hthere
  exact hbecomes

/-- What becomes of a record in one call, if there is still one. -/
theorem becomes_perform (l : Lifecycle) (c : Coordinator κ) (s : Site κ) (call : Call)
    (hloaded : s.loaded l.store = .ok (some r))
    (hloaded' : (s.perform l c call).2.loaded l.store = .ok (some r')) :
    Becomes l (s.transcript l c call) r r' := by
  have hcourse := Site.course_perform (l := l) (c := c) s call
  have halong := Site.along_perform (l := l) (c := c) s call
  obtain ⟨operation, instant⟩ := call
  cases operation with
  | register =>
    obtain ⟨o, hregister, -⟩ := Act.course_map.1 hcourse
    exact ((registerCourse hregister).keepsOnly (s := s.showing instant) halong hloaded).becomes
      (s := s.showing instant) halong hloaded hloaded'
  | activate =>
    obtain ⟨o, hactivate, -⟩ := Act.course_map.1 hcourse
    exact ((activateCourse hactivate).keepsOnly (s := s.showing instant) halong hloaded).becomes
      (s := s.showing instant) halong hloaded hloaded'
  | deactivate =>
    obtain ⟨o, hdeactivate, ho⟩ := Act.course_map.1 hcourse
    cases o with
    | error f =>
      cases hloaded'.symm.trans (holds_of_error ho hloaded)
      exact .same
    | ok outcome =>
      cases hloaded'.symm.trans ((deactivateCourse hdeactivate).success.forgets halong)
  | status =>
    obtain ⟨o, hstatus, -⟩ := Act.course_map.1 hcourse
    have hwritten := written_of_writes_nothing (statusCourse hstatus).writes_nothing
    cases hloaded'.symm.trans
      (Site.holds_of_written (s := s.showing instant) halong hwritten hloaded)
    exact .same

/-! ## What is preserved -/

/-- A record goes on telling what another one has told, after a transcript. -/
structure Continues (t : Transcript) (r r' : Record) : Prop where
  registration : (∀ e ∈ t, registers e = false) →
    r'.registeredAt = r.registeredAt ∧ r'.coordinatorUrl = r.coordinatorUrl
  stamp : (∀ e ∈ t, registers e = false) → (∀ e ∈ t, activates e = false) →
    ∀ instant, r.activatedAt = some instant → r'.activatedAt = some instant
  /-- Without an activation, and with no node told to be active, there is no stamp where there was
  none. -/
  stampless : (∀ e ∈ t, activates e = false) → (∀ e ∈ t, tellsActive e = false) →
    r.activatedAt = none → r'.activatedAt = none

theorem Continues.refl (t : Transcript) (r : Record) : Continues t r r where
  registration _ := ⟨rfl, rfl⟩
  stamp _ _ _ h := h
  stampless _ _ h := h

theorem Continues.trans {t' : Transcript} (h : Continues t r r') (h' : Continues t' r' r'') :
    Continues (t ++ t') r r'' where
  registration hregisters := by
    rw [List.forall_mem_append] at hregisters
    obtain ⟨hat, hurl⟩ := h.registration hregisters.1
    obtain ⟨hat', hurl'⟩ := h'.registration hregisters.2
    exact ⟨hat'.trans hat, hurl'.trans hurl⟩
  stamp hregisters hactivates instant hinstant := by
    rw [List.forall_mem_append] at hregisters hactivates
    exact h'.stamp hregisters.2 hactivates.2 instant
      (h.stamp hregisters.1 hactivates.1 instant hinstant)
  stampless hactivates htells hnone := by
    rw [List.forall_mem_append] at hactivates htells
    exact h'.stampless hactivates.2 htells.2 (h.stampless hactivates.1 htells.1 hnone)

/-- What becomes of a record in one call continues it, if it is one of the same registration. -/
theorem Becomes.continues (h : Becomes l t r r') (haddress : r'.address = r.address)
    (hid : r'.registrationId = r.registrationId) : Continues t r r' := by
  cases h with
  | same => exact .refl t r
  | stamped entry htold hactive hstamp now =>
    refine ⟨fun _ => ⟨rfl, rfl⟩, fun _ _ instant hinstant => ?_, fun _ htells => ?_⟩
    · cases hstamp.symm.trans hinstant
    · have hnot := htells _ htold
      simp [tellsActive, hactive] at hnot
  | activated request receipt haccepted =>
    refine ⟨fun _ => ⟨rfl, rfl⟩, fun _ hactivates => ?_, fun hactivates => ?_⟩
    · cases hactivates _ haccepted
    · cases hactivates _ haccepted
  | registered request receipt haccepted =>
    refine ⟨fun hregisters => ?_, fun hregisters => ?_, fun _ _ _ => rfl⟩
    · cases hregisters _ haccepted
    · cases hregisters _ haccepted
  | restored entry hother now record hrecord =>
    -- It would have been the one that the coordinator reports.
    obtain ⟨hentry, hrecorded, -⟩ := restored_eq hrecord
    have hsame := (isRecordOf_iff hrecorded).2 ⟨haddress.symm.trans hentry, hid⟩
    rw [hother] at hsame
    cases hsame

/-! ## Any number of calls -/

def RecordOf (l : Lifecycle) (a : Address) (id : String) (s : Site κ) : Prop :=
  ∃ r, s.loaded l.store = .ok (some r) ∧ r.address = a ∧ r.registrationId = id

/-- There is a record of one registration before some calls, and after each of them. -/
def Throughout (l : Lifecycle) (c : Coordinator κ) (a : Address) (id : String) :
    Site κ → List Call → Prop
  | s, [] => RecordOf l a id s
  | s, call :: calls => RecordOf l a id s ∧ Throughout l c a id (s.perform l c call).2 calls

theorem Throughout.start {a : Address} {id : String} {calls : List Call}
    (h : Throughout l c a id s calls) : RecordOf l a id s := by
  cases calls with
  | nil => exact h
  | cons call calls => exact h.1

end

variable {κ : Type}

/-- Whatever the coordinator answers, whatever goes wrong on the disk, wherever the path of the
record leads and whatever was done before: as long as there is a record of one registration, the
record after some calls continues the one before them. With one call this tells what that call may
change. -/
theorem history_continues (l : Lifecycle) (c : Coordinator κ) (s : Site κ) (earlier calls : List Call)
    (a : Address) (id : String) (h : Throughout l c a id (s.performAll l c earlier) calls)
    {r r' : Record} (hbefore : (s.performAll l c earlier).loaded l.store = .ok (some r))
    (hafter : ((s.performAll l c earlier).performAll l c calls).loaded l.store = .ok (some r')) :
    Continues ((s.performAll l c earlier).transcripts l c calls) r r' := by
  generalize s.performAll l c earlier = s at h hbefore hafter ⊢
  induction calls generalizing s r with
  | nil =>
    cases hbefore.symm.trans hafter
    exact .refl _ _
  | cons call calls ih =>
    obtain ⟨⟨r₀, hr₀, haddress₀, hid₀⟩, hrest⟩ := h
    cases hbefore.symm.trans hr₀
    obtain ⟨r₁, hr₁, haddress₁, hid₁⟩ := hrest.start
    have hone : Continues (s.transcript l c call) r r₁ :=
      (becomes_perform l c s call hbefore hr₁).continues (haddress₁.trans haddress₀.symm)
        (hid₁.trans hid₀.symm)
    exact hone.trans (ih _ hrest hr₁ hafter)

namespace Sample

theorem loaded_activated :
    (registered.perform home registry ⟨.activate, noon⟩).2.loaded home.store =
      .ok (some ⟨owner, "reg-1", "http://coordinator.test", noon, some noon⟩) := by
  have hload := Site.answer_load (c := registry) (s := registered.showing noon) (by decide +kernel)
    loaded_registered
  have halong := Site.along_perform (l := home) (c := registry) registered ⟨.activate, noon⟩
  have hask : registered.transcript home registry ⟨.activate, noon⟩ = _ :=
    Plan.transcript_ask (p := (home.perform .activate).run) rfl hload
  have hwritten : written (registered.transcript home registry ⟨.activate, noon⟩) =
      some (some ⟨owner, "reg-1", "http://coordinator.test", noon, some noon⟩) := by
    rw [hask]
    decide +kernel
  have hloaded := Site.loaded_along halong (by rw [hask]; decide +kernel)
  rw [hwritten] at hloaded
  exact hloaded

end Sample

/-- A node that is registered and then activated: the stamp on its record comes of an activation, or
of an entry that tells of an active node. -/
theorem sample_history_continues :
    Throughout Sample.home Sample.registry Sample.owner "reg-1"
        (Sample.fresh.performAll Sample.home Sample.registry [⟨.register, Sample.noon⟩])
        [⟨.activate, Sample.noon⟩] ∧
      ∃ e ∈ (Sample.fresh.performAll Sample.home Sample.registry
          [⟨.register, Sample.noon⟩]).transcripts Sample.home Sample.registry
            [⟨.activate, Sample.noon⟩], activates e = true ∨ tellsActive e = true := by
  have hregistered : Sample.fresh.performAll Sample.home Sample.registry
      [⟨.register, Sample.noon⟩] = Sample.registered := by
    simp only [Site.performAll, Sample.registered]
  have hafter : (Sample.registered.performAll Sample.home Sample.registry
      [⟨.activate, Sample.noon⟩]).loaded Sample.home.store =
        .ok (some ⟨Sample.owner, "reg-1", "http://coordinator.test", Sample.noon,
          some Sample.noon⟩) := by
    rw [Site.performAll, Site.performAll]
    exact Sample.loaded_activated
  have hbefore := Sample.loaded_registered
  have hstretch : Throughout Sample.home Sample.registry Sample.owner "reg-1" Sample.registered
      [⟨.activate, Sample.noon⟩] :=
    ⟨⟨_, hbefore, rfl, rfl⟩, _, Sample.loaded_activated, rfl, rfl⟩
  rw [← hregistered] at hstretch hbefore hafter
  have hhistory := history_continues Sample.home Sample.registry Sample.fresh _ _ Sample.owner
    "reg-1" hstretch hbefore hafter
  refine ⟨hstretch, ?_⟩
  by_contra hnone
  simp only [not_exists, not_and, not_or, Bool.not_eq_true] at hnone
  cases hhistory.stampless (fun e he => (hnone e he).1) (fun e he => (hnone e he).2) rfl

end Enrollment.Lifecycle
