import Enrollment.Proofs.Lifecycle.Rerun
/-!
# Activating with an outdated record

A record is outdated when the coordinator knows the node by another identifier. Activating a node
that the coordinator has as registered tells so and goes no further. A node that is active passes
with any record of its own, which is even stamped if it has no stamp.

Results:
 1. `ActivateCourse.passes_of_ok`, `ActivateCourse.passes_of_save`: with which records activating
    succeeds, and which it stamps.
 2. `activate_misses_iff`: when a record that is outdated is missed.
-/

namespace Enrollment.Lifecycle

open Registration (Record Store)

/-- Activating goes on with a record when the coordinator tells an entry. -/
inductive Passes (entry : Node.Entry) (old : Record) : Prop
  | active (hstatus : entry.status = .active)
  | registered (hstatus : entry.status = .registered)
      (hid : ∀ id, entry.registrationId = some id → id = old.registrationId)

variable {κ : Type} {l : Lifecycle} {c : Coordinator κ} {t : Transcript} {s s' : Site κ}
  {entry : Node.Entry} {old r : Record} {id : String}

/-- Only with an active node a record passes that is outdated. -/
theorem Passes.active_of_ne (h : Passes entry old) (hid : entry.registrationId = some id)
    (hother : old.registrationId ≠ id) : entry.status = .active := by
  cases h with
  | active hstatus => exact hstatus
  | registered hstatus hcurrent => exact absurd (hcurrent id hid).symm hother

theorem Passes.current_iff (h : Passes entry old) (hid : entry.registrationId = some id) :
    old.registrationId = id ↔ (entry.status = .active → old.registrationId = id) := by
  refine ⟨fun hsame _ => hsame, fun hsame => ?_⟩
  exact Decidable.byContradiction fun hother => hother (hsame (h.active_of_ne hid hother))

def stampedAt (old : Record) (instant : Instant) : Record :=
  { old with activatedAt := some instant }

/-- What is found when activating succeeds, and what is then loaded. -/
theorem ActivateCourse.passes_of_ok {o : ActivateOutcome} (h : ActivateCourse l t (.ok o))
    (halong : Plan.Along (Site.answer c l.store) t s s') :
    ∃ old entry instant, (s.findings l c).own? l = some old ∧ (s.findings l c).told = .ok entry ∧
      Passes entry old ∧ s'.loaded l.store = .ok (some (stampedAt old instant)) := by
  cases h.success with
  | kept r haddress entry hstatus hstamp =>
    obtain ⟨hload, hentry, -, hend⟩ := halong
    obtain rfl : s' = _ := hend
    obtain ⟨hsame, hloaded⟩ := Site.loaded_of_load hload
    obtain ⟨instant, hinstant⟩ := Option.ne_none_iff_exists'.1 hstamp
    have hr : stampedAt r instant = r := by
      rw [stampedAt, ← hinstant]
    refine ⟨r, entry, instant, own?_findings hload haddress, hentry, .active hstatus, ?_⟩
    rw [hr]
    exact hsame.trans (hloaded _ rfl)
  | stamped r haddress entry hstatus hstamp now =>
    obtain ⟨hload, hentry, -, -, hsave, hend⟩ := halong
    obtain rfl : s' = _ := hend
    exact ⟨r, entry, now, own?_findings hload haddress, hentry, .active hstatus,
      Site.loaded_of_saved hsave⟩
  | activated r haddress entry hstatus hid now hcooldown receipt =>
    obtain ⟨hload, hentry, -, -, hsave, -, hend⟩ := halong
    obtain rfl : s' = _ := hend
    exact ⟨r, entry, receipt.activatedAt, own?_findings hload haddress, hentry,
      .registered hstatus hid, Site.loaded_of_saved hsave⟩

/-- The record of a registered node is stamped only if it is not outdated. -/
theorem ActivateRegisteredCourse.stamp_of_save {o : Except Failure ActivateOutcome}
    (h : ActivateRegisteredCourse l old entry t o) {reply : Except Failure Unit}
    (hmem : (⟨.save r, reply⟩ : Exchange Surroundings) ∈ t) :
    (∀ id, entry.registrationId = some id → id = old.registrationId) ∧
      ∃ instant, r = stampedAt old instant := by
  cases h with
  | cooling now hcooldown => simp at hmem
  | stale now hcooldown id hid hstale => simp at hmem
  | refused now hcooldown hid f => simp at hmem
  | unsaved now hcooldown hid receipt f =>
    have hr : r = stampedAt old receipt.activatedAt ∧ reply = .error f := by
      simpa [stampedAt] using hmem
    exact ⟨hid, receipt.activatedAt, hr.1⟩
  | activated now hcooldown hid receipt =>
    have hr : r = stampedAt old receipt.activatedAt ∧ reply = .ok () := by
      simpa [stampedAt] using hmem
    exact ⟨hid, receipt.activatedAt, hr.1⟩

/-- What is found when a record is stamped, whether it can be written or not. -/
theorem ActivateCourse.passes_of_save {o : Except Failure ActivateOutcome}
    (h : ActivateCourse l t o) (halong : Plan.Along (Site.answer c l.store) t s s')
    {reply : Except Failure Unit} (hmem : (⟨.save r, reply⟩ : Exchange Surroundings) ∈ t) :
    ∃ old entry instant, (s.findings l c).own? l = some old ∧ (s.findings l c).told = .ok entry ∧
      Passes entry old ∧ (entry.status = .active → old.activatedAt = none) ∧
      r = stampedAt old instant := by
  cases h with
  | unread f => simp at hmem
  | absent => simp at hmem
  | foreign r haddress => simp at hmem
  | unanswered r haddress f => simp at hmem
  | unregistered r haddress entry hstatus => simp at hmem
  | kept r haddress entry hstatus hstamp => simp at hmem
  | stamped old haddress entry hstatus hstamp now o =>
    obtain ⟨hload, hentry, -⟩ := halong
    have hr : r = stampedAt old now ∧ reply = o := by
      simpa [stampedAt] using hmem
    exact ⟨old, entry, now, own?_findings hload haddress, hentry, .active hstatus,
      fun _ => hstamp, hr.1⟩
  | registered old haddress entry hstatus t o hactivate =>
    obtain ⟨hload, hentry, -⟩ := halong
    obtain ⟨hid, instant, hr⟩ := hactivate.stamp_of_save (r := r) (by simpa using hmem)
    refine ⟨old, entry, instant, own?_findings hload haddress, hentry, .registered hstatus hid, ?_, hr⟩
    intro hactive
    cases hstatus.symm.trans hactive

/-- The record of an active node is stamped if it has no stamp. -/
theorem ActivateCourse.stamps_active {o : Except Failure ActivateOutcome} (h : ActivateCourse l t o)
    (halong : Plan.Along (Site.answer c l.store) t s s') (hown : (s.findings l c).own? l = some old)
    (htold : (s.findings l c).told = .ok entry) (hstatus : entry.status = .active)
    (hstamp : old.activatedAt = none) :
    ∃ instant reply, (⟨.save (stampedAt old instant), reply⟩ : Exchange Surroundings) ∈ t := by
  obtain ⟨hfound, haddress⟩ := Findings.own?_eq_some.1 hown
  have hload : ∀ {found}, (Site.answer c l.store .load s).1 = found → .ok (some old) = found := by
    rintro found rfl
    exact hfound.symm
  have hentry : ∀ {told}, (Site.answer c l.store (.entryOf l.address)
      (Site.answer c l.store .load s).2).1 = told → .ok entry = told := by
    rintro told rfl
    exact htold.symm
  cases h with
  | unread f => cases hload halong.1
  | absent => cases hload halong.1
  | foreign r hforeign =>
    cases hload halong.1
    exact absurd haddress hforeign
  | unanswered r _ f => cases hentry halong.2.1
  | unregistered r _ entry' hinactive =>
    cases hentry halong.2.1
    cases hstatus.symm.trans hinactive
  | kept r _ entry' _ hkept =>
    cases hload halong.1
    exact absurd hstamp hkept
  | stamped r _ entry' _ _ now o =>
    cases hload halong.1
    exact ⟨now, o, by simp [stampedAt]⟩
  | registered r _ entry' hregistered t o hactivate =>
    cases hentry halong.2.1
    cases hstatus.symm.trans hregistered

/-! ## Calls -/

/-- A coordinator tells an identifier when a node is to be activated. If that succeeds, a record with
a stamp can be loaded afterwards, and it has the identifier that was told unless the node was active
already and its record had another. A record with another identifier is stamped just when the node
was active already and its record had no stamp. -/
theorem activate_misses_iff (l : Lifecycle) (c : Coordinator κ) (s : Site κ) (instant : Instant)
    (k : Findings) (entry : Node.Entry) (id : String)
    (hfinds : (s.showing instant).findings l c = k) (htold : k.told = .ok entry)
    (hid : entry.registrationId = some id) :
    (∀ outcome, (s.perform l c ⟨.activate, instant⟩).1 = .ok outcome →
      ∃ old r, k.own? l = some old ∧
        (s.perform l c ⟨.activate, instant⟩).2.loaded l.store = .ok (some r) ∧
        r.isActivated = true ∧
        (r.registrationId = id ↔ (entry.status = .active → old.registrationId = id))) ∧
    ((∃ r reply, (⟨.save r, reply⟩ : Exchange Surroundings) ∈
        s.transcript l c ⟨.activate, instant⟩ ∧ r.registrationId ≠ id) ↔
      entry.status = .active ∧
        ∃ old, k.own? l = some old ∧ old.registrationId ≠ id ∧ old.activatedAt = none) := by
  subst hfinds
  have hcourse := Site.course_perform (l := l) (c := c) s ⟨.activate, instant⟩
  have halong := Site.along_perform (l := l) (c := c) s ⟨.activate, instant⟩
  have hsame : ∀ {entry'}, ((s.showing instant).findings l c).told = .ok entry' → entry' = entry :=
    fun htold' => Except.ok.inj (htold'.symm.trans htold)
  refine ⟨?_, ?_, ?_⟩
  · intro outcome houtcome
    rw [houtcome] at hcourse
    obtain ⟨o, hactivate, -⟩ := Act.course_map_ok.1 hcourse
    obtain ⟨old, entry', i, hown, htold', hpasses, hloaded⟩ :=
      (activateCourse hactivate).passes_of_ok halong
    obtain rfl := hsame htold'
    exact ⟨old, stampedAt old i, hown, hloaded, rfl, hpasses.current_iff hid⟩
  · rintro ⟨r, reply, hmem, hother⟩
    obtain ⟨o, hactivate, -⟩ := Act.course_map.1 hcourse
    obtain ⟨old, entry', i, hown, htold', hpasses, hstamp, rfl⟩ :=
      (activateCourse hactivate).passes_of_save halong hmem
    obtain rfl := hsame htold'
    have hactive : entry'.status = .active := hpasses.active_of_ne hid hother
    exact ⟨hactive, old, hown, hother, hstamp hactive⟩
  · rintro ⟨hactive, old, hown, hother, hstamp⟩
    obtain ⟨o, hactivate, -⟩ := Act.course_map.1 hcourse
    obtain ⟨i, reply, hmem⟩ :=
      (activateCourse hactivate).stamps_active halong hown htold hactive hstamp
    exact ⟨stampedAt old i, reply, hmem, hother⟩

namespace Sample

/-- A coordinator that tells of every node that it is active under a new identifier. -/
def reissuing : Coordinator Ledger :=
  { registry with entryOf := fun a k => (.ok ⟨a, .active, some "reg-2", some noon, 0⟩, k) }

theorem own?_registered :
    ((registered.showing noon).findings home reissuing).own? home =
      some ⟨owner, "reg-1", "http://coordinator.test", noon, none⟩ := by
  have hload := Site.answer_load (c := reissuing) (s := registered.showing noon) (by decide +kernel)
    loaded_registered
  exact own?_findings (congrArg Prod.fst hload) rfl

theorem activated_reissued :
    (registered.perform home reissuing ⟨.activate, noon⟩).1 =
      .ok (.activate (.alreadyActive ⟨owner, .active, some "reg-2", some noon, 0⟩)) := by
  have hload := Site.answer_load (c := reissuing) (s := registered.showing noon) (by decide +kernel)
    loaded_registered
  show (Plan.run _ _ (registered.showing noon)).1 = _
  rw [Plan.run_of_ask (p := (home.perform .activate).run) rfl hload]
  rfl

end Sample

/-- The record of the first registration is stamped for the second. -/
theorem sample_activate_misses :
    (∃ r, (Sample.registered.perform Sample.home Sample.reissuing
        ⟨.activate, Sample.noon⟩).2.loaded Sample.home.store = .ok (some r) ∧
      r.isActivated = true ∧ r.registrationId ≠ "reg-2") ∧
    ∃ r reply, (⟨.save r, reply⟩ : Exchange Surroundings) ∈
        Sample.registered.transcript Sample.home Sample.reissuing ⟨.activate, Sample.noon⟩ ∧
      r.registrationId ≠ "reg-2" := by
  obtain ⟨hloaded, hstamped⟩ := activate_misses_iff Sample.home Sample.reissuing Sample.registered
    Sample.noon _ ⟨Sample.owner, .active, some "reg-2", some Sample.noon, 0⟩ "reg-2" rfl rfl rfl
  constructor
  · obtain ⟨old, r, hown, hafter, hactivated, hcurrent⟩ := hloaded _ Sample.activated_reissued
    cases Sample.own?_registered.symm.trans hown
    refine ⟨r, hafter, hactivated, ?_⟩
    intro hsame
    exact absurd (hcurrent.1 hsame rfl) (by decide)
  · exact hstamped.2 ⟨rfl, _, Sample.own?_registered, by decide, rfl⟩

end Enrollment.Lifecycle
