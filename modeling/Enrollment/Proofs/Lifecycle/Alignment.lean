import Enrollment.Proofs.Lifecycle.Rerun
/-!
# What registering again leaves

A node that is registered or active already is not registered again; its record is brought in line
with the entry of the coordinator. A record of the entry's registration is kept as it is, but for a
stamp that is missing; anything else is replaced by what the entry tells. So a record that is kept may
go on naming another coordinator, and may go on saying that the node was activated.

Results:
 1. `RefreshCourse.loaded`, `loaded_of_register`: the record that registering again leaves.
 2. `recordAfter_of_identified`: how far it agrees with what the coordinator tells.
 3. `register_aligns_iff`: both of them for calls.
-/

namespace Enrollment.Lifecycle

open Registration (Record Store)

/-! ## The record that is left -/

def current? (entry : Node.Entry) (found : Option Record) : Option Record :=
  found.filter fun r => isRecordOf r entry

def stampedFor (entry : Node.Entry) (now : Instant) (r : Record) : Record :=
  if entry.status = .active ∧ r.activatedAt = none then { r with activatedAt := some now } else r

def recordAfter (l : Lifecycle) (entry : Node.Entry) (found : Option Record) (now : Instant) :
    Option Record :=
  match current? entry found with
  | some r => some (stampedFor entry now r)
  | none => (Record.restored? entry l.coordinatorUrl now).or found

variable {κ : Type} {l : Lifecycle} {c : Coordinator κ} {t : Transcript} {s s' : Site κ}
  {entry : Node.Entry} {found : Option Record} {now : Instant} {r : Record} {id : String}

theorem current?_eq_some : current? entry found = some r ↔ found = some r ∧ isRecordOf r entry = true :=
  Option.filter_eq_some_iff

theorem current?_eq_none :
    current? entry found = none ↔ ∀ r, found = some r → isRecordOf r entry = false := by
  simp [current?, Option.filter_eq_none_iff]

theorem recordAfter_of_current (h : current? entry found = some r) :
    recordAfter l entry found now = some (stampedFor entry now r) := by
  rw [recordAfter, h]

theorem recordAfter_of_none (h : current? entry found = none) :
    recordAfter l entry found now = (Record.restored? entry l.coordinatorUrl now).or found := by
  rw [recordAfter, h]

/-- What is loaded after the record has been refreshed. -/
theorem RefreshCourse.loaded (h : RefreshCourse l entry t (.ok ()))
    (halong : Plan.Along (Site.answer c l.store) t s s') (hloaded : s.loaded l.store = .ok found) :
    s'.loaded l.store = .ok (recordAfter l entry found s.clock) := by
  have hfound : ∀ {found'}, (Site.answer c l.store .load s).1 = .ok found' → found' = found := by
    intro found' hload
    exact Except.ok.inj (((Site.loaded_of_load hload).2 _ rfl).symm.trans hloaded)
  cases h with
  | kept r hr hstamp =>
    obtain ⟨hload, hend⟩ := halong
    obtain rfl : s' = _ := hend
    obtain rfl := hfound hload
    rw [recordAfter_of_current (current?_eq_some.2 ⟨rfl, hr⟩), stampedFor, if_neg hstamp]
    exact (Site.loaded_of_load hload).1.trans hloaded
  | stamped r hr hactive hstamp now =>
    obtain ⟨hload, hnow, hsave, hend⟩ := halong
    obtain rfl : s' = _ := hend
    obtain rfl := hfound hload
    obtain rfl : s.clock = now := hnow
    rw [recordAfter_of_current (current?_eq_some.2 ⟨rfl, hr⟩), stampedFor, if_pos ⟨hactive, hstamp⟩]
    exact Site.loaded_of_saved hsave
  | unidentified found' hother hid now =>
    obtain ⟨hload, -, -, hend⟩ := halong
    obtain rfl : s' = _ := hend
    obtain rfl := hfound hload
    have hnothing : Record.restored? entry l.coordinatorUrl s.clock = none := by
      rw [Record.restored?, hid]
      rfl
    rw [recordAfter_of_none (current?_eq_none.2 hother), hnothing, Option.none_or]
    exact (Site.loaded_of_load hload).1.trans hloaded
  | restored found' hother now record hrecord =>
    obtain ⟨hload, hnow, hsave, hend⟩ := halong
    obtain rfl : s' = _ := hend
    obtain rfl := hfound hload
    obtain rfl : s.clock = now := hnow
    rw [recordAfter_of_none (current?_eq_none.2 hother), hrecord, Option.some_or]
    exact Site.loaded_of_saved hsave

/-- What is loaded after a node that is registered or active already has been registered again. -/
theorem loaded_of_register {instant : Instant} {outcome : Outcome}
    (htold : (c.entryOf l.address s.coordinator).1 = .ok entry) (hstatus : entry.status ≠ .inactive)
    (hloaded : s.loaded l.store = .ok found)
    (hregister : (s.perform l c ⟨.register, instant⟩).1 = .ok outcome) :
    (s.perform l c ⟨.register, instant⟩).2.loaded l.store =
      .ok (recordAfter l entry found instant) := by
  have hcourse := Site.course_perform (l := l) (c := c) s ⟨.register, instant⟩
  have halong := Site.along_perform (l := l) (c := c) s ⟨.register, instant⟩
  rw [hregister] at hcourse
  generalize s.transcript l c ⟨.register, instant⟩ = t at hcourse halong
  obtain ⟨o, hcourse', -⟩ := Act.course_map_ok.1 hcourse
  have hentry : ∀ {entry'}, (Site.answer c l.store (.entryOf l.address)
      (s.showing instant)).1 = .ok entry' → entry' = entry :=
    fun htold' => Except.ok.inj (htold'.symm.trans htold)
  cases (registerCourse hcourse').success with
  | refreshed entry' hstatus' t hrefresh =>
    obtain ⟨htold', -, hrest⟩ := halong
    obtain rfl := hentry htold'
    exact hrefresh.loaded hrest hloaded
  | registered entry' hinactive receipt haddress =>
    obtain rfl := hentry halong.1
    exact absurd hinactive hstatus

/-! ## How far it agrees with the entry -/

@[simp]
theorem stampedFor_address : (stampedFor entry now r).address = r.address := by
  rw [stampedFor]
  split <;> rfl

@[simp]
theorem stampedFor_registrationId : (stampedFor entry now r).registrationId = r.registrationId := by
  rw [stampedFor]
  split <;> rfl

@[simp]
theorem stampedFor_coordinatorUrl : (stampedFor entry now r).coordinatorUrl = r.coordinatorUrl := by
  rw [stampedFor]
  split <;> rfl

/-- A stamp is added where it is missing, and never taken away. -/
theorem isActivated_stampedFor :
    (stampedFor entry now r).isActivated = true ↔ r.isActivated = true ∨ entry.status = .active := by
  rw [stampedFor]
  split
  · next h => simp [Record.isActivated, h.1]
  · next h =>
    rw [not_and, ← ne_eq, ← Option.isSome_iff_ne_none] at h
    exact ⟨.inl, fun hor => hor.elim (fun hr => hr) h⟩

/-- An entry with an identifier leaves a record of it. The record names this coordinator, and says
that the node was activated just when it is active, unless a record was kept that does not. -/
theorem recordAfter_of_identified (l : Lifecycle) (found : Option Record) (now : Instant)
    (hid : entry.registrationId = some id) :
    ∃ r, recordAfter l entry found now = some r ∧ r.address = entry.address ∧
      r.registrationId = id ∧
      (r.coordinatorUrl = l.coordinatorUrl ↔
        ∀ old, current? entry found = some old → old.coordinatorUrl = l.coordinatorUrl) ∧
      ((r.isActivated = true ↔ entry.status = .active) ↔
        ∀ old, current? entry found = some old → old.isActivated = true →
          entry.status = .active) := by
  cases hcurrent : current? entry found with
  | some old =>
    obtain ⟨haddress, rfl⟩ := (isRecordOf_iff hid).1 (current?_eq_some.1 hcurrent).2
    refine ⟨_, recordAfter_of_current hcurrent, ?_⟩
    simp only [stampedFor_address, stampedFor_registrationId, stampedFor_coordinatorUrl,
      isActivated_stampedFor, Option.some.injEq, forall_eq', haddress, true_and]
    constructor
    · intro h hold
      exact h.1 (.inl hold)
    · intro h
      exact ⟨fun hor => hor.elim h fun hactive => hactive, .inr⟩
  | none =>
    refine ⟨{ address := entry.address, registrationId := id, coordinatorUrl := l.coordinatorUrl
              registeredAt := entry.cooldownStart.getD now
              activatedAt := if entry.status = .active then some now else none }, ?_, ?_⟩
    · rw [recordAfter_of_none hcurrent, Record.restored?, hid]
      rfl
    · by_cases hactive : entry.status = .active <;> simp [Record.isActivated, hactive]

/-! ## Calls -/

/-- A coordinator tells of the node that it is registered or active, and with which identifier. If
registering succeeds, the record of that registration can be loaded afterwards. It names this
coordinator unless a record of the same registration was found that names another; and it says that
the node was activated just when the node is active, unless one was found that said so of a node that
is not active any more. -/
theorem register_aligns_iff (l : Lifecycle) (c : Coordinator κ) (s : Site κ) (instant : Instant)
    (entry : Node.Entry) (id : String) (found : Option Record) (outcome : Outcome)
    (htold : (c.entryOf l.address s.coordinator).1 = .ok entry)
    (haddress : entry.address = l.address) (hid : entry.registrationId = some id)
    (hstatus : entry.status ≠ .inactive) (hloaded : s.loaded l.store = .ok found)
    (hregister : (s.perform l c ⟨.register, instant⟩).1 = .ok outcome) :
    ∃ r, (s.perform l c ⟨.register, instant⟩).2.loaded l.store = .ok (some r) ∧
      r.address = l.address ∧ r.registrationId = id ∧
      (r.coordinatorUrl = l.coordinatorUrl ↔
        ∀ old, current? entry found = some old → old.coordinatorUrl = l.coordinatorUrl) ∧
      ((r.isActivated = true ↔ entry.status = .active) ↔
        ∀ old, current? entry found = some old → old.isActivated = true →
          entry.status = .active) := by
  obtain ⟨r, hafter, hown, hrest⟩ := recordAfter_of_identified l found instant hid
  refine ⟨r, ?_, hown.trans haddress, hrest⟩
  rw [loaded_of_register htold hstatus hloaded hregister, hafter]

namespace Sample

/-- The node of `home`, looked after by another coordinator. -/
def moved : Lifecycle :=
  { home with coordinatorUrl := "http://elsewhere.test" }

end Sample

/-- A record that was made before the coordinator moved goes on naming the old place. -/
theorem sample_register_aligns :
    ∃ r, (Sample.registered.perform Sample.moved Sample.registry
        ⟨.register, Sample.noon⟩).2.loaded Sample.moved.store = .ok (some r) ∧
      r.address = Sample.owner ∧ r.registrationId = "reg-1" ∧
      r.coordinatorUrl ≠ Sample.moved.coordinatorUrl ∧ r.isActivated = false := by
  have hsettled : Settled (Sample.entry ⟨.registered, Sample.noon⟩)
      (some ⟨Sample.owner, "reg-1", "http://coordinator.test", Sample.noon, none⟩) :=
    .kept _ rfl (by decide)
  have hidle : Idle Sample.moved Sample.registry Sample.registered ⟨.register, Sample.noon⟩ _ :=
    idle_register (by decide +kernel) Sample.loaded_registered hsettled rfl (by decide)
  obtain ⟨r, hloaded, haddress, hid, hurl, hstamp⟩ := register_aligns_iff Sample.moved
    Sample.registry Sample.registered Sample.noon (Sample.entry ⟨.registered, Sample.noon⟩) "reg-1"
    _ _ rfl rfl rfl (by decide) Sample.loaded_registered hidle.outcome
  refine ⟨r, hloaded, haddress, hid, ?_, ?_⟩
  · intro hsame
    exact absurd (hurl.1 hsame _ rfl) (by decide)
  · have hnot : ¬ r.isActivated = true := fun hactivated =>
      absurd ((hstamp.2 (by rintro _ ⟨⟩ ⟨⟩)).1 hactivated) (by decide)
    exact Bool.eq_false_iff.2 hnot

end Enrollment.Lifecycle
