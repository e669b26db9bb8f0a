import Enrollment.Proofs.Lifecycle.Lawful
/-!
# The lifecycle never gets stuck

Against a lawful coordinator that refuses nothing but what its entry forbids, on a disk on which
nothing goes wrong, registering succeeds whatever was recorded before, and leaves a record with which
the node can be activated (`Ready`). A call that the entry forbids may still be refused: that the
operations make none is part of what is shown.

Results:
 1. `ready_of_register`: registering repairs any record.
 2. `active_of_activate`: with such a record the node is activated.
 3. `inactive_of_deactivate`: deactivating forgets whatever was recorded.
 4. `never_stuck`: all of it for calls.
-/

namespace Enrollment.Lifecycle

open Registration (Record Store)

/-- Whether what is asked of the coordinator is in order for an entry. -/
def Permitted (entry : Node.Entry) : Step → Prop
  | .register _ => entry.status = .inactive
  | .activate _ r => entry.status = .registered ∧ entry.registrationId = some r.registrationId
  | .deactivate _ => entry.status ≠ .inactive
  | _ => True

def fails : Exchange Surroundings → Bool
  | ⟨.entryOf _, .error _⟩ => true
  | ⟨.register _, .error _⟩ => true
  | ⟨.activate _ _, .error _⟩ => true
  | ⟨.deactivate _, .error _⟩ => true
  | ⟨.load, .error _⟩ => true
  | ⟨.save _, .error _⟩ => true
  | ⟨.clear, .error _⟩ => true
  | _ => false

variable {κ : Type}

/-- Nothing fails along a transcript but what the entry of the coordinator forbids. -/
def Unhindered (l : Lifecycle) (c : Coordinator κ) (view : κ → Node.Entry) (t : Transcript)
    (s : Site κ) : Prop :=
  Plan.Throughout (Site.answer c l.store)
    (fun s e => fails e = true → ¬ Permitted (view s.coordinator) e.request) t s

theorem unhindered_of_all {κ : Type} {l : Lifecycle} {c : Coordinator κ} {view : κ → Node.Entry}
    {t : Transcript} {s : Site κ} (h : ∀ e ∈ t, fails e = false) : Unhindered l c view t s := by
  induction t generalizing s with
  | nil => exact trivial
  | cons e t ih =>
    refine ⟨?_, ih fun e' he' => h e' (List.mem_cons_of_mem e he')⟩
    intro hfails
    rw [h e List.mem_cons_self] at hfails
    cases hfails

/-- There is a record with which the node can be activated, or is active. -/
structure Ready (l : Lifecycle) (entry : Node.Entry) (r : Record) : Prop where
  status : entry.status ≠ .inactive
  address : r.address = l.address
  current : entry.registrationId = some r.registrationId
  stamp : entry.status = .active → r.activatedAt ≠ none

variable {l : Lifecycle} {c : Coordinator κ} {view : κ → Node.Entry} {t : Transcript}
  {s s' : Site κ}

/-! ## Registering -/

theorem isRecordOf_iff {r : Record} {entry : Node.Entry} {id : String}
    (hid : entry.registrationId = some id) :
    isRecordOf r entry = true ↔ r.address = entry.address ∧ id = r.registrationId := by
  simp [isRecordOf, hid]

/-- What is restored from an entry with an identifier. -/
theorem restored_eq {entry : Node.Entry} {url : String} {now : Instant} {r : Record}
    (h : Record.restored? entry url now = some r) :
    r.address = entry.address ∧ entry.registrationId = some r.registrationId ∧
      (entry.status = .active → r.activatedAt ≠ none) := by
  obtain ⟨id, hid, rfl⟩ := Option.map_eq_some_iff.1 h
  refine ⟨rfl, hid, ?_⟩
  intro hactive
  simp [hactive]

/-- Refreshing repairs any record of a node that is not inactive. -/
theorem ready_of_refresh (hlawful : Lawful c l.address view)
    (hstatus : (view s.coordinator).status ≠ .inactive) {o : Except Failure Unit}
    (hcourse : RefreshCourse l (view s.coordinator) t o)
    (halong : Plan.Along (Site.answer c l.store) t s s')
    (hfree : Unhindered l c view t s) :
    o = .ok () ∧ ∃ r, s'.loaded l.store = .ok (some r) ∧ Ready l (view s'.coordinator) r := by
  have haddress := hlawful.address s.coordinator
  cases hcourse with
  | unread f =>
    obtain ⟨hload, -⟩ := hfree
    exact absurd trivial (hload rfl)
  -- The record is the one of the entry, so it is ready as it is.
  | kept r hr hstamp =>
    obtain ⟨hload, hend⟩ := halong
    obtain rfl : s' = _ := hend
    obtain ⟨hsame, hfound⟩ := Site.loaded_of_load hload
    obtain ⟨id, hid⟩ := Option.ne_none_iff_exists'.1 (hlawful.identified _ hstatus)
    obtain ⟨hown, rfl⟩ := (isRecordOf_iff hid).1 hr
    refine ⟨rfl, r, hsame.trans (hfound _ rfl), hstatus, hown.trans haddress, hid, ?_⟩
    intro hactive hnone
    exact hstamp ⟨hactive, hnone⟩
  | stamped r hr hactive hstamp now =>
    obtain ⟨-, -, hsave, hend⟩ := halong
    obtain rfl : s' = _ := hend
    obtain ⟨id, hid⟩ := Option.ne_none_iff_exists'.1 (hlawful.identified _ hstatus)
    obtain ⟨hown, rfl⟩ := (isRecordOf_iff hid).1 hr
    obtain ⟨-, -, hsaved, -⟩ := hfree
    cases o with
    | error f => exact absurd trivial (hsaved rfl)
    | ok done =>
      refine ⟨rfl, _, Store.loaded_of_save hsave, hstatus, hown.trans haddress, hid, ?_⟩
      intro _ hnone
      cases hnone
  | unidentified found hfound hid now =>
    exact absurd hid (hlawful.identified _ hstatus)
  | restored found hfound now record hrecord =>
    obtain ⟨-, -, hsave, hend⟩ := halong
    obtain rfl : s' = _ := hend
    obtain ⟨hown, hid, hstamp⟩ := restored_eq hrecord
    obtain ⟨-, -, hsaved, -⟩ := hfree
    cases o with
    | error f => exact absurd trivial (hsaved rfl)
    | ok done =>
      exact ⟨rfl, record, Store.loaded_of_save hsave, hstatus, hown.trans haddress, hid, hstamp⟩

/-- Registering repairs any record. -/
theorem ready_of_register (hlawful : Lawful c l.address view) {o : Except Failure RegisterOutcome}
    (hcourse : RegisterCourse l t o) (halong : Plan.Along (Site.answer c l.store) t s s')
    (hfree : Unhindered l c view t s) :
    (∃ outcome, o = .ok outcome) ∧
      ∃ r, s'.loaded l.store = .ok (some r) ∧ Ready l (view s'.coordinator) r := by
  cases hcourse with
  | unanswered f =>
    obtain ⟨hentry, -⟩ := hfree
    exact absurd trivial (hentry rfl)
  | refreshed entry hstatus t o hrefresh =>
    obtain ⟨hentry, -, hrest⟩ := halong
    obtain ⟨-, -, hfree'⟩ := hfree
    obtain rfl := hlawful.tells hentry
    have hkeeps : view (Site.answer c l.store (.entryOf l.address) s).2.coordinator =
        view s.coordinator := hlawful.keeps s.coordinator
    rw [← hkeeps] at hstatus hrefresh
    obtain ⟨rfl, hready⟩ := ready_of_refresh hlawful hstatus hrefresh hrest hfree'
    exact ⟨⟨_, rfl⟩, hready⟩
  -- The node is inactive, so there is no ground on which to refuse.
  | refused entry hstatus f =>
    obtain ⟨hentry, -⟩ := halong
    obtain ⟨-, hregister, -⟩ := hfree
    obtain rfl := hlawful.tells hentry
    have hinactive : (view (c.entryOf l.address s.coordinator).2).status = .inactive := by
      rw [hlawful.keeps]
      exact hstatus
    exact absurd hinactive (hregister rfl)
  | misdirected entry hstatus receipt haddress =>
    obtain ⟨-, hregister, -⟩ := halong
    obtain ⟨-, hreceipt, -⟩ := hlawful.registers rfl hregister
    exact absurd hreceipt haddress
  | unsaved entry hstatus receipt haddress f =>
    obtain ⟨-, -, hsaved, -⟩ := hfree
    exact absurd trivial (hsaved rfl)
  | registered entry hstatus receipt haddress =>
    obtain ⟨-, hregister, hsave, -, hend⟩ := halong
    obtain rfl : s' = _ := hend
    obtain ⟨-, -, hregistered, hid⟩ := hlawful.registers rfl hregister
    refine ⟨⟨_, rfl⟩, _, Store.loaded_of_save hsave, ?_, haddress, hid, ?_⟩
    · show (view (c.register _ _).2).status ≠ _
      rw [hregistered]
      decide
    · show (view (c.register _ _).2).status = _ → _
      rw [hregistered]
      intro h
      cases h

/-! ## Activating -/

/-- Activating a node that is registered, once its record has been loaded and its entry is known. -/
theorem active_of_activateRegistered (hlawful : Lawful c l.address view) {r : Record}
    (hready : Ready l (view s.coordinator) r)
    (hstatus : (view s.coordinator).status = .registered)
    (hcooldown : (view s.coordinator).cooldownRemaining s.clock = 0)
    {o : Except Failure ActivateOutcome}
    (hcourse : ActivateRegisteredCourse l r (view s.coordinator) t o)
    (halong : Plan.Along (Site.answer c l.store) t s s') (hfree : Unhindered l c view t s) :
    (∃ outcome, o = .ok outcome) ∧ (view s'.coordinator).status = .active ∧
      ∃ r, s'.loaded l.store = .ok (some r) ∧ Ready l (view s'.coordinator) r := by
  cases hcourse with
  | cooling now hcooling =>
    obtain ⟨hnow, -⟩ := halong
    obtain rfl : s.clock = now := hnow
    exact absurd hcooldown (Nat.pos_iff_ne_zero.1 hcooling)
  | stale now hover id hid hstale =>
    have hsame := hready.current.symm.trans hid
    exact absurd (Option.some.inj hsame).symm hstale
  | refused now hover hid f =>
    obtain ⟨-, hactivate, -⟩ := hfree
    exact absurd ⟨hstatus, hready.current⟩ (hactivate rfl)
  | unsaved now hover hid receipt f =>
    obtain ⟨-, -, hsaved, -⟩ := hfree
    exact absurd trivial (hsaved rfl)
  | activated now hover hid receipt =>
    obtain ⟨-, hactivate, hsave, -, hend⟩ := halong
    obtain rfl : s' = _ := hend
    obtain ⟨-, -, hactive, hcurrent⟩ := hlawful.activates hactivate
    refine ⟨⟨_, rfl⟩, hactive, _, Store.loaded_of_save hsave, ?_, hready.address, hcurrent, ?_⟩
    · show (view (c.activate _ _ _).2).status ≠ _
      rw [hactive]
      decide
    · intro _ hnone
      cases hnone

/-- With a record that is ready, once the cooldown is over, the node is activated. -/
theorem active_of_activate (hlawful : Lawful c l.address view) {r : Record}
    (hloaded : s.loaded l.store = .ok (some r)) (hready : Ready l (view s.coordinator) r)
    (hcooldown : (view s.coordinator).cooldownRemaining s.clock = 0)
    {o : Except Failure ActivateOutcome} (hcourse : ActivateCourse l t o)
    (halong : Plan.Along (Site.answer c l.store) t s s') (hfree : Unhindered l c view t s) :
    (∃ outcome, o = .ok outcome) ∧ (view s'.coordinator).status = .active ∧
      ∃ r, s'.loaded l.store = .ok (some r) ∧ Ready l (view s'.coordinator) r := by
  have hkeeps := hlawful.keeps s.coordinator
  have hfound : ∀ {found}, (Site.answer c l.store .load s).1 = .ok found → found = some r := by
    intro found hload
    have hsame := (Site.loaded_of_load hload).2 _ rfl
    exact Except.ok.inj (hsame.symm.trans hloaded)
  cases hcourse with
  | unread f =>
    obtain ⟨hload, -⟩ := hfree
    exact absurd trivial (hload rfl)
  | absent =>
    obtain ⟨hload, -⟩ := halong
    cases hfound hload
  | foreign r' haddress =>
    obtain ⟨hload, -⟩ := halong
    cases hfound hload
    exact absurd hready.address haddress
  | unanswered r' haddress f =>
    obtain ⟨-, hentry, -⟩ := hfree
    exact absurd trivial (hentry rfl)
  | unregistered r' haddress entry hstatus =>
    obtain ⟨-, hentry, -⟩ := halong
    obtain rfl := hlawful.tells hentry
    exact absurd hstatus hready.status
  | kept r' haddress entry hstatus hstamp =>
    obtain ⟨hload, hentry, -, hend⟩ := halong
    obtain rfl : s' = _ := hend
    obtain rfl := hlawful.tells hentry
    have hsame := (Site.loaded_of_load hload).1
    refine ⟨⟨_, rfl⟩, ?_, r, hsame.trans hloaded, ?_⟩
    · show (view (c.entryOf l.address s.coordinator).2).status = _
      rw [hkeeps]
      exact hstatus
    · show Ready l (view (c.entryOf l.address s.coordinator).2) r
      rw [hkeeps]
      exact hready
  | stamped r' haddress entry hstatus hstamp now o =>
    obtain ⟨hload, hentry, -⟩ := halong
    cases hfound hload
    obtain rfl := hlawful.tells hentry
    exact absurd hstamp (hready.stamp hstatus)
  | registered r' haddress entry hstatus t o hactivate =>
    obtain ⟨hload, hentry, hrest⟩ := halong
    obtain ⟨-, -, hfree'⟩ := hfree
    cases hfound hload
    obtain rfl : entry = view s.coordinator := hlawful.tells hentry
    -- The entry is still the one that was told.
    have hsame : view s.coordinator = view (Site.answer c l.store (.entryOf l.address)
        (Site.answer c l.store .load s).2).2.coordinator := hkeeps.symm
    rw [hsame] at hready hstatus hcooldown hactivate
    exact active_of_activateRegistered hlawful hready hstatus hcooldown hactivate hrest hfree'

/-! ## Deactivating -/

/-- Deactivating forgets whatever was recorded. -/
theorem inactive_of_deactivate (hlawful : Lawful c l.address view)
    {o : Except Failure DeactivateOutcome} (hcourse : DeactivateCourse l t o)
    (halong : Plan.Along (Site.answer c l.store) t s s') (hfree : Unhindered l c view t s) :
    (∃ outcome, o = .ok outcome) ∧ (view s'.coordinator).status = .inactive ∧
      s'.loaded l.store = .ok none := by
  cases hcourse with
  | unanswered f =>
    obtain ⟨hentry, -⟩ := hfree
    exact absurd trivial (hentry rfl)
  | forgotten entry hstatus o =>
    obtain ⟨-, -, hcleared, -⟩ := hfree
    cases o with
    | error f => exact absurd trivial (hcleared rfl)
    | ok done =>
      obtain ⟨hentry, -, hclear, hend⟩ := halong
      obtain rfl : s' = _ := hend
      obtain rfl := hlawful.tells hentry
      refine ⟨⟨_, rfl⟩, ?_, Store.loaded_of_clear hclear⟩
      show (view (c.entryOf _ _).2).status = _
      rw [hlawful.keeps]
      exact hstatus
  | refused entry hstatus f =>
    obtain ⟨hentry, -⟩ := halong
    obtain ⟨-, hdeactivate, -⟩ := hfree
    obtain rfl := hlawful.tells hentry
    have hpermitted : (view (c.entryOf l.address s.coordinator).2).status ≠ .inactive := by
      rw [hlawful.keeps]
      exact hstatus
    exact absurd hpermitted (hdeactivate rfl)
  | uncleared entry hstatus updated f =>
    obtain ⟨-, -, hcleared, -⟩ := hfree
    exact absurd trivial (hcleared rfl)
  | deactivated entry hstatus updated =>
    obtain ⟨-, hdeactivate, hclear, -, hend⟩ := halong
    obtain rfl : s' = _ := hend
    exact ⟨⟨_, rfl⟩, (hlawful.deactivates hdeactivate).2, Store.loaded_of_clear hclear⟩

/-! ## Calls -/

/-- Whatever the coordinator has, and whatever record can be loaded, a call to register succeeds if
nothing fails but what the entry forbids. So does a call to activate after it, once the cooldown is
over, and then the node is active and its record has its address, its present identifier and a
stamp. A call to deactivate succeeds likewise, whatever the file holds, and then the node is inactive
and there is no record. -/
theorem never_stuck (hlawful : Lawful c l.address view) :
    (∀ (s : Site κ) (found : Option Record), s.loaded l.store = .ok found → ∀ i,
      Unhindered l c view (s.transcript l c ⟨.register, i⟩) (s.showing i) →
      (∃ o, (s.perform l c ⟨.register, i⟩).1 = .ok o) ∧
      ∀ s₁, s₁ = (s.perform l c ⟨.register, i⟩).2 → ∀ i',
        (view s₁.coordinator).cooldownRemaining i' = 0 →
        Unhindered l c view (s₁.transcript l c ⟨.activate, i'⟩) (s₁.showing i') →
        (∃ o, (s₁.perform l c ⟨.activate, i'⟩).1 = .ok o) ∧
        (view (s₁.perform l c ⟨.activate, i'⟩).2.coordinator).status = .active ∧
        ∃ r, (s₁.perform l c ⟨.activate, i'⟩).2.loaded l.store = .ok (some r) ∧
          r.address = l.address ∧
          (view (s₁.perform l c ⟨.activate, i'⟩).2.coordinator).registrationId =
            some r.registrationId ∧
          r.activatedAt ≠ none) ∧
    ∀ (s : Site κ) i,
      Unhindered l c view (s.transcript l c ⟨.deactivate, i⟩) (s.showing i) →
      (∃ o, (s.perform l c ⟨.deactivate, i⟩).1 = .ok o) ∧
      (view (s.perform l c ⟨.deactivate, i⟩).2.coordinator).status = .inactive ∧
      (s.perform l c ⟨.deactivate, i⟩).2.loaded l.store = .ok none := by
  constructor
  · intro s found _ i hfree
    obtain ⟨o, hregister, ho⟩ := Act.course_map.1
      (Site.course_perform (l := l) (c := c) s ⟨.register, i⟩)
    have halong := Site.along_perform (l := l) (c := c) s ⟨.register, i⟩
    obtain ⟨⟨outcome, rfl⟩, r, hloaded, hready⟩ :=
      ready_of_register hlawful (registerCourse hregister) halong hfree
    refine ⟨⟨_, ho⟩, ?_⟩
    rintro s₁ rfl i' hcooldown hfree'
    obtain ⟨o', hactivate, ho'⟩ := Act.course_map.1
      (Site.course_perform (l := l) (c := c) (s.perform l c ⟨.register, i⟩).2 ⟨.activate, i'⟩)
    have halong' := Site.along_perform (l := l) (c := c) (s.perform l c ⟨.register, i⟩).2
      ⟨.activate, i'⟩
    obtain ⟨⟨outcome', rfl⟩, hactive, r', hloaded', hready'⟩ :=
      active_of_activate (s := (s.perform l c ⟨.register, i⟩).2.showing i') hlawful hloaded hready
        hcooldown (activateCourse hactivate) halong' hfree'
    exact ⟨⟨_, ho'⟩, hactive, r', hloaded', hready'.address, hready'.current,
      hready'.stamp hactive⟩
  · intro s i hfree
    obtain ⟨o, hdeactivate, ho⟩ := Act.course_map.1
      (Site.course_perform (l := l) (c := c) s ⟨.deactivate, i⟩)
    have halong := Site.along_perform (l := l) (c := c) s ⟨.deactivate, i⟩
    obtain ⟨⟨outcome, rfl⟩, hinactive, hnone⟩ :=
      inactive_of_deactivate hlawful (deactivateCourse hdeactivate) halong hfree
    exact ⟨⟨_, ho⟩, hinactive, hnone⟩

namespace Sample

/-- A site whose node has just been registered. -/
def registered : Site Ledger :=
  (fresh.perform home registry ⟨.register, noon⟩).2

/-- A site whose node is active and whose record cannot be read. -/
def corrupt : Site Ledger :=
  ⟨⟨.active, noon⟩, ⟨⟨[(["node.json"], .file [123])], []⟩, []⟩, noon⟩

theorem loaded_registered :
    registered.loaded home.store =
      .ok (some ⟨owner, "reg-1", "http://coordinator.test", noon, none⟩) := by
  have halong := Site.along_perform (l := home) (c := registry) fresh ⟨.register, noon⟩
  have hwritten : written (fresh.transcript home registry ⟨.register, noon⟩) =
      some (some ⟨owner, "reg-1", "http://coordinator.test", noon, none⟩) := by decide +kernel
  have hloaded := Site.loaded_along halong (by decide +kernel)
  rw [hwritten] at hloaded
  exact hloaded

end Sample

/-- A fresh node is registered and activated, and one whose record is corrupt is deactivated. -/
theorem sample_never_stuck :
    (∃ o, (Sample.registered.perform Sample.home Sample.registry ⟨.activate, Sample.noon⟩).1 =
      .ok o) ∧
    (Sample.corrupt.perform Sample.home Sample.registry ⟨.deactivate, Sample.noon⟩).2.loaded
      Sample.home.store = .ok none := by
  have hlawful : Lawful Sample.registry Sample.home.address Sample.entry := lawful_ledger _ _ _
  obtain ⟨hforward, hback⟩ := never_stuck hlawful
  constructor
  · have hregister : Unhindered Sample.home Sample.registry Sample.entry
        (Sample.fresh.transcript Sample.home Sample.registry ⟨.register, Sample.noon⟩)
        (Sample.fresh.showing Sample.noon) := unhindered_of_all (by decide +kernel)
    obtain ⟨-, hthen⟩ :=
      hforward Sample.fresh none (Sample.loaded_site _) Sample.noon hregister
    -- The first question is for the record, which need not be read for the answer to be known.
    have hload := Site.answer_load (c := Sample.registry) (s := Sample.registered.showing
      Sample.noon) (by decide +kernel) Sample.loaded_registered
    obtain ⟨hok, -⟩ := hthen Sample.registered rfl Sample.noon (by decide +kernel)
      (unhindered_of_all (by
        show ∀ e ∈ Plan.transcript _ _ (Sample.registered.showing Sample.noon), _
        rw [Plan.transcript_ask (p := (Sample.home.perform .activate).run) rfl hload]
        decide +kernel))
    exact hok
  · obtain ⟨-, -, hnone⟩ := hback Sample.corrupt Sample.noon
      (unhindered_of_all (by decide +kernel))
    exact hnone

end Enrollment.Lifecycle
