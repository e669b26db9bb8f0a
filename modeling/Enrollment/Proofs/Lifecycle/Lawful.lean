import Enrollment.Proofs.Lifecycle.Site
/-!
# Lawful coordinators

A lawful coordinator keeps one entry for the node. It tells that entry as it is, registers the node
only while it is inactive, activates it only while it is registered and only with the identifier
that was issued, and deactivates it only while it is not inactive. Any call it may refuse without
an effect. Against such a coordinator the record is kept in line with the entry, call after call.

Results:
 1. `lawful_ledger`: there is a lawful coordinator, which refuses nothing that it may accept.
 2. `Site.InLine.perform`: one call keeps the record in line.
 3. `record_mirrors_coordinator`: so do all calls, from an inactive node without a record on.
-/

namespace Enrollment.Lifecycle

open Registration (Record Store)

variable {κ : Type}

/-- A coordinator that keeps one entry for a node, which can be seen from its state. -/
structure Lawful (c : Coordinator κ) (a : Address) (view : κ → Node.Entry) : Prop where
  address : ∀ k, (view k).address = a
  identified : ∀ k, (view k).status ≠ .inactive → (view k).registrationId ≠ none
  tells : ∀ {k e}, (c.entryOf a k).1 = .ok e → e = view k
  keeps : ∀ k, view (c.entryOf a k).2 = view k
  registers : ∀ {k r receipt}, r.address = a → (c.register r k).1 = .ok receipt →
    (view k).status = .inactive ∧ receipt.address = a ∧
      (view (c.register r k).2).status = .registered ∧
      (view (c.register r k).2).registrationId = some receipt.registrationId
  activates : ∀ {k r receipt}, (c.activate a r k).1 = .ok receipt →
    (view k).status = .registered ∧ (view k).registrationId = some r.registrationId ∧
      (view (c.activate a r k).2).status = .active ∧
      (view (c.activate a r k).2).registrationId = some r.registrationId
  deactivates : ∀ {k e}, (c.deactivate a k).1 = .ok e →
    (view k).status ≠ .inactive ∧ (view (c.deactivate a k).2).status = .inactive
  refusesRegister : ∀ {k r f}, (c.register r k).1 = .error f → view (c.register r k).2 = view k
  refusesActivate : ∀ {k r f}, (c.activate a r k).1 = .error f →
    view (c.activate a r k).2 = view k
  refusesDeactivate : ∀ {k f}, (c.deactivate a k).1 = .error f →
    view (c.deactivate a k).2 = view k

/-! ## A lawful coordinator -/

/-- The status of a node, and since when it has it. -/
structure Ledger where
  status : Node.Status
  since : Instant
  deriving DecidableEq

def Ledger.entry (a : Address) (id : String) (cooldown : UInt64) (k : Ledger) : Node.Entry where
  address := a
  status := k.status
  registrationId := if k.status = .inactive then none else some id
  cooldownStart := if k.status = .inactive then none else some k.since
  cooldown := if k.status = .inactive then 0 else cooldown

/-- A coordinator that keeps a ledger on one node, issues one identifier, and refuses nothing that
it may accept. -/
def ledger (a : Address) (id : String) (cooldown : UInt64) : Coordinator Ledger where
  entryOf _ k := (.ok (k.entry a id cooldown), k)
  register r k :=
    if r.address = a ∧ k.status = .inactive then
      (.ok ⟨a, id, .registered, k.since, cooldown⟩, { k with status := .registered })
    else (.error (.rejected "already registered"), k)
  activate b r k :=
    if b = a ∧ k.status = .registered ∧ r.registrationId = id then
      (.ok ⟨a, .active, k.since⟩, { k with status := .active })
    else (.error (.rejected "unknown registration"), k)
  deactivate b k :=
    if b = a ∧ k.status ≠ .inactive then
      (.ok (Node.Entry.unknown a), { k with status := .inactive })
    else (.error (.rejected "not registered"), k)

/-- The ledger makes a lawful coordinator. -/
theorem lawful_ledger (a : Address) (id : String) (cooldown : UInt64) :
    Lawful (ledger a id cooldown) a (Ledger.entry a id cooldown) where
  address k := rfl
  identified k h := by
    have hstatus : k.status ≠ .inactive := h
    simp [Ledger.entry, hstatus]
  tells h := (Except.ok.inj h).symm
  keeps k := rfl
  registers {k r receipt} hr h := by
    by_cases hlegal : r.address = a ∧ k.status = .inactive
    · simp only [ledger, if_pos hlegal] at h ⊢
      cases h
      exact ⟨hlegal.2, rfl, rfl, rfl⟩
    · simp only [ledger, if_neg hlegal] at h
      cases h
  activates {k r receipt} h := by
    by_cases hlegal : k.status = .registered ∧ r.registrationId = id
    · simp only [ledger, true_and, if_pos hlegal] at h ⊢
      obtain ⟨hstatus, hid⟩ := hlegal
      refine ⟨hstatus, ?_, rfl, ?_⟩
      · simp [Ledger.entry, hstatus, hid]
      · simp [Ledger.entry, hid]
    · simp only [ledger, true_and, if_neg hlegal] at h
      cases h
  deactivates {k e} h := by
    by_cases hlegal : k.status ≠ .inactive
    · simp only [ledger, true_and, if_pos hlegal]
      exact ⟨hlegal, rfl⟩
    · simp only [ledger, true_and, if_neg hlegal] at h
      cases h
  refusesRegister {k r f} h := by
    by_cases hlegal : r.address = a ∧ k.status = .inactive
    · simp only [ledger, if_pos hlegal] at h
      cases h
    · simp only [ledger, if_neg hlegal]
  refusesActivate {k r f} h := by
    by_cases hlegal : k.status = .registered ∧ r.registrationId = id
    · simp only [ledger, true_and, if_pos hlegal] at h
      cases h
    · simp only [ledger, true_and, if_neg hlegal]
  refusesDeactivate {k f} h := by
    by_cases hlegal : k.status ≠ .inactive
    · simp only [ledger, true_and, if_pos hlegal] at h
      cases h
    · simp only [ledger, true_and, if_neg hlegal]

namespace Sample

abbrev registry : Coordinator Ledger :=
  ledger owner "reg-1" 0

abbrev entry : Ledger → Node.Entry :=
  Ledger.entry owner "reg-1" 0

/-- A site where the node is not registered. -/
def fresh : Site Ledger :=
  site ⟨.inactive, noon⟩

end Sample

/-! ## A record in line -/

/-- What is loaded mirrors what the coordinator has: there is a record just when the node is not
inactive, it is the one of this node and its present registration with this coordinator, and it is
stamped as activated just when the node is active. -/
structure InLine (l : Lifecycle) (entry : Node.Entry) (found : Option Record) : Prop where
  present : found ≠ none ↔ entry.status ≠ .inactive
  record : ∀ r, found = some r →
    r.address = l.address ∧ entry.registrationId = some r.registrationId ∧
      r.coordinatorUrl = l.coordinatorUrl ∧ (r.isActivated = true ↔ entry.status = .active)

/-- What is loaded at a site mirrors what its coordinator has. -/
def Site.InLine (l : Lifecycle) (view : κ → Node.Entry) (s : Site κ) : Prop :=
  ∃ found, s.loaded l.store = .ok found ∧ Lifecycle.InLine l (view s.coordinator) found

section

variable {l : Lifecycle} {entry : Node.Entry}

theorem inLine_none (h : entry.status = .inactive) : InLine l entry none where
  present := by
    constructor
    · intro hne
      exact absurd rfl hne
    · intro hne
      exact absurd h hne
  record r hr := by cases hr

theorem inLine_some {r : Record} (hstatus : entry.status ≠ .inactive)
    (haddress : r.address = l.address) (hid : entry.registrationId = some r.registrationId)
    (hurl : r.coordinatorUrl = l.coordinatorUrl)
    (hstamp : r.isActivated = true ↔ entry.status = .active) : InLine l entry (some r) where
  present := by
    constructor
    · intro _
      exact hstatus
    · intro _ h
      cases h
  record r' hr := by
    cases hr
    exact ⟨haddress, hid, hurl, hstamp⟩

/-- A record in line is the one that the coordinator reports. -/
theorem InLine.isRecordOf {r : Record} (h : InLine l entry (some r))
    (haddress : entry.address = l.address) : isRecordOf r entry = true := by
  obtain ⟨hr, hid, -, -⟩ := h.record r rfl
  simp [Lifecycle.isRecordOf, hr, haddress, hid]

end

/-! ## One call -/

section

variable {l : Lifecycle} {c : Coordinator κ} {view : κ → Node.Entry} {t : Transcript}
  {s s' : Site κ}

/-- A question after which the record and the entry are what they were. -/
def Looks (l : Lifecycle) : Step → Prop
  | .entryOf a => a = l.address
  | .register _ | .activate _ _ | .deactivate _ | .save _ | .clear => False
  | .load | .now | .note _ => True

/-- Looking keeps the record in line. -/
theorem Site.InLine.look (hlawful : Lawful c l.address view) (h : s.InLine l view) {q : Step}
    (hlooks : Looks l q) : (Site.answer c l.store q s).2.InLine l view := by
  obtain ⟨found, hloaded, hin⟩ := h
  cases q with
  | entryOf a =>
    obtain rfl : a = l.address := hlooks
    refine ⟨found, hloaded, ?_⟩
    show Lifecycle.InLine l (view (c.entryOf l.address s.coordinator).2) found
    rw [hlawful.keeps]
    exact hin
  | load => exact ⟨found, (Site.loaded_of_load rfl).1.trans hloaded, hin⟩
  | now => exact ⟨found, hloaded, hin⟩
  | note e => exact ⟨found, hloaded, hin⟩
  | register r => cases hlooks
  | activate a r => cases hlooks
  | deactivate a => cases hlooks
  | save r => cases hlooks
  | clear => cases hlooks

/-- So does any number of looks. -/
theorem Site.InLine.looked (hlawful : Lawful c l.address view) (h : s.InLine l view)
    (halong : Plan.Along (Site.answer c l.store) t s s') (hlooks : ∀ e ∈ t, Looks l e.request) :
    s'.InLine l view := by
  induction t generalizing s with
  | nil =>
    obtain rfl : s' = s := halong
    exact h
  | cons e t ih =>
    obtain ⟨-, hrest⟩ := halong
    have hnext := h.look hlawful (hlooks e List.mem_cons_self)
    exact ih hnext hrest fun e' he' => hlooks e' (List.mem_cons_of_mem e he')

/-- Where nothing is written and the coordinator has what it had, all stays in line. -/
theorem Site.InLine.unchanged (h : s.InLine l view)
    (halong : Plan.Along (Site.answer c l.store) t s s')
    (hwrites : ∀ e ∈ t, failsToWrite e = false) (hwritten : written t = none)
    (hview : view s'.coordinator = view s.coordinator) : s'.InLine l view := by
  obtain ⟨found, hloaded, hin⟩ := h
  refine ⟨found, ?_, ?_⟩
  · rw [Site.loaded_along halong hwrites, hwritten]
    exact hloaded
  · rw [hview]
    exact hin

/-- What was written is in line with what the coordinator has. -/
theorem Site.inLine_of_written (halong : Plan.Along (Site.answer c l.store) t s s')
    (hwrites : ∀ e ∈ t, failsToWrite e = false) {found : Option Record}
    (hwritten : written t = some found) (h : Lifecycle.InLine l (view s'.coordinator) found) :
    s'.InLine l view := by
  refine ⟨found, ?_, h⟩
  rw [Site.loaded_along halong hwrites, hwritten]

/-- A record in line needs no refreshing. -/
theorem Site.InLine.refresh (hlawful : Lawful c l.address view) (h : s.InLine l view)
    (hstatus : (view s.coordinator).status ≠ .inactive) {o : Except Failure Unit}
    (hcourse : RefreshCourse l (view s.coordinator) t o)
    (halong : Plan.Along (Site.answer c l.store) t s s') : s'.InLine l view := by
  have haddress := hlawful.address s.coordinator
  cases hcourse with
  | unread f => exact h.looked hlawful halong (by simp [Looks])
  | kept r hr hstamp => exact h.looked hlawful halong (by simp [Looks])
  -- In the other cases the record would be written, but it has nothing to be brought in line.
  | stamped r hr hactive hstamp now =>
    obtain ⟨hload, -⟩ := halong
    obtain ⟨found, hloaded, hin⟩ := h
    obtain hsame := (Site.loaded_of_load hload).2 _ rfl
    obtain rfl : found = some r := Except.ok.inj (hloaded.symm.trans hsame)
    obtain ⟨-, -, -, hactivated⟩ := hin.record r rfl
    have := hactivated.2 hactive
    rw [Record.isActivated, hstamp] at this
    cases this
  | unidentified found' hfound hid now =>
    exact absurd hid (hlawful.identified _ hstatus)
  | restored found' hfound now record hrecord =>
    obtain ⟨hload, -⟩ := halong
    obtain ⟨found, hloaded, hin⟩ := h
    obtain hsame := (Site.loaded_of_load hload).2 _ rfl
    obtain rfl : found = found' := Except.ok.inj (hloaded.symm.trans hsame)
    cases found with
    | none => exact absurd rfl (hin.present.2 hstatus)
    | some r =>
      have := hfound r rfl
      rw [hin.isRecordOf haddress] at this
      cases this

theorem Site.InLine.register (hlawful : Lawful c l.address view) (h : s.InLine l view)
    {o : Except Failure RegisterOutcome} (hcourse : RegisterCourse l t o)
    (halong : Plan.Along (Site.answer c l.store) t s s')
    (hwrites : ∀ e ∈ t, failsToWrite e = false) : s'.InLine l view := by
  have hall := halong
  cases hcourse with
  | unanswered f => exact h.looked hlawful halong (by simp [Looks])
  | refreshed entry hstatus t o hrefresh =>
    obtain ⟨hentry, -, hrest⟩ := halong
    obtain rfl := hlawful.tells hentry
    have hafter := h.look hlawful (q := .entryOf l.address) rfl
    have hkeeps : view (Site.answer c l.store (.entryOf l.address) s).2.coordinator =
        view s.coordinator := hlawful.keeps s.coordinator
    rw [← hkeeps] at hstatus hrefresh
    exact hafter.refresh hlawful hstatus hrefresh hrest
  | refused entry hstatus f =>
    obtain ⟨-, hregister, hend⟩ := halong
    obtain rfl : s' = _ := hend
    refine h.unchanged hall hwrites rfl ?_
    exact (hlawful.refusesRegister hregister).trans (hlawful.keeps _)
  -- A lawful coordinator registers the node that asks.
  | misdirected entry hstatus receipt haddress =>
    obtain ⟨-, hregister, -⟩ := halong
    obtain ⟨-, hreceipt, -⟩ := hlawful.registers rfl hregister
    exact absurd hreceipt haddress
  | unsaved entry hstatus receipt haddress f =>
    have := hwrites _ (.tail _ (.tail _ (.head _)))
    cases this
  | registered entry hstatus receipt haddress =>
    obtain ⟨-, hregister, -, -, hend⟩ := halong
    obtain rfl : s' = _ := hend
    obtain ⟨-, -, hregistered, hid⟩ := hlawful.registers rfl hregister
    refine Site.inLine_of_written hall hwrites rfl (inLine_some ?_ haddress hid rfl ?_)
    · show (view (c.register _ _).2).status ≠ _
      rw [hregistered]
      decide
    · show false = true ↔ (view (c.register _ _).2).status = _
      rw [hregistered]
      decide

/-- Activating a node with its record, once it has been loaded and the entry is known. -/
theorem Site.InLine.activateRegistered (hlawful : Lawful c l.address view) (h : s.InLine l view)
    {r : Record} (hloaded : s.loaded l.store = .ok (some r)) (haddress : r.address = l.address)
    {entry : Node.Entry} {o : Except Failure ActivateOutcome}
    (hcourse : ActivateRegisteredCourse l r entry t o)
    (halong : Plan.Along (Site.answer c l.store) t s s')
    (hwrites : ∀ e ∈ t, failsToWrite e = false) : s'.InLine l view := by
  have hall := halong
  cases hcourse with
  | cooling now hcooldown => exact h.looked hlawful halong (by simp [Looks])
  | stale now hcooldown id hid hstale => exact h.looked hlawful halong (by simp [Looks])
  | refused now hcooldown hid f =>
    obtain ⟨-, hactivate, hend⟩ := halong
    obtain rfl : s' = _ := hend
    exact h.unchanged hall hwrites rfl (hlawful.refusesActivate hactivate)
  | unsaved now hcooldown hid receipt f =>
    have := hwrites _ (.tail _ (.tail _ (.head _)))
    cases this
  | activated now hcooldown hid receipt =>
    obtain ⟨-, hactivate, -, -, hend⟩ := halong
    obtain rfl : s' = _ := hend
    obtain ⟨found, hfound, hin⟩ := h
    obtain rfl : found = some r := Except.ok.inj (hfound.symm.trans hloaded)
    obtain ⟨-, -, hurl, -⟩ := hin.record r rfl
    obtain ⟨-, -, hactive, hcurrent⟩ := hlawful.activates hactivate
    refine Site.inLine_of_written hall hwrites rfl (inLine_some ?_ haddress hcurrent hurl ?_)
    · show (view (c.activate _ _ _).2).status ≠ _
      rw [hactive]
      decide
    · show true = true ↔ (view (c.activate _ _ _).2).status = _
      rw [hactive]
      decide

theorem Site.InLine.activate (hlawful : Lawful c l.address view) (h : s.InLine l view)
    {o : Except Failure ActivateOutcome} (hcourse : ActivateCourse l t o)
    (halong : Plan.Along (Site.answer c l.store) t s s')
    (hwrites : ∀ e ∈ t, failsToWrite e = false) : s'.InLine l view := by
  cases hcourse with
  | unread f => exact h.looked hlawful halong (by simp [Looks])
  | absent => exact h.looked hlawful halong (by simp [Looks])
  | foreign r haddress => exact h.looked hlawful halong (by simp [Looks])
  | unanswered r haddress f => exact h.looked hlawful halong (by simp [Looks])
  | unregistered r haddress entry hstatus => exact h.looked hlawful halong (by simp [Looks])
  | kept r haddress entry hstatus hstamp => exact h.looked hlawful halong (by simp [Looks])
  -- The record of an active node has its stamp already.
  | stamped r haddress entry hstatus hstamp now o =>
    obtain ⟨hload, hentry, -⟩ := halong
    obtain ⟨found, hloaded, hin⟩ := h
    have hsame := (Site.loaded_of_load hload).2 _ rfl
    obtain rfl : found = some r := Except.ok.inj (hloaded.symm.trans hsame)
    obtain rfl := hlawful.tells hentry
    obtain ⟨-, -, -, hactivated⟩ := hin.record r rfl
    have := hactivated.2 hstatus
    rw [Record.isActivated, hstamp] at this
    cases this
  | registered r haddress entry hstatus t o hactivate =>
    obtain ⟨hload, -, hrest⟩ := halong
    obtain ⟨hsame, hfound⟩ := Site.loaded_of_load hload
    have hafter := (h.look hlawful (q := .load) trivial).look hlawful
      (q := .entryOf l.address) rfl
    refine hafter.activateRegistered hlawful (hsame.trans (hfound _ rfl)) haddress hactivate hrest ?_
    intro e he
    exact hwrites e (.tail _ (.tail _ he))

theorem Site.InLine.deactivate (hlawful : Lawful c l.address view) (h : s.InLine l view)
    {o : Except Failure DeactivateOutcome} (hcourse : DeactivateCourse l t o)
    (halong : Plan.Along (Site.answer c l.store) t s s')
    (hwrites : ∀ e ∈ t, failsToWrite e = false) : s'.InLine l view := by
  have hall := halong
  cases hcourse with
  | unanswered f => exact h.looked hlawful halong (by simp [Looks])
  | forgotten entry hstatus o =>
    cases o with
    | error f =>
      have := hwrites _ (.tail _ (.tail _ (.head _)))
      cases this
    | ok done =>
      obtain ⟨hentry, -, -, hend⟩ := halong
      obtain rfl : s' = _ := hend
      obtain rfl := hlawful.tells hentry
      refine Site.inLine_of_written hall hwrites rfl (inLine_none ?_)
      show (view (c.entryOf _ _).2).status = _
      rw [hlawful.keeps]
      exact hstatus
  | refused entry hstatus f =>
    obtain ⟨-, hdeactivate, hend⟩ := halong
    obtain rfl : s' = _ := hend
    exact h.unchanged hall hwrites rfl
      ((hlawful.refusesDeactivate hdeactivate).trans (hlawful.keeps _))
  | uncleared entry hstatus updated f =>
    have := hwrites _ (.tail _ (.tail _ (.head _)))
    cases this
  | deactivated entry hstatus updated =>
    obtain ⟨-, hdeactivate, -, -, hend⟩ := halong
    obtain rfl : s' = _ := hend
    exact Site.inLine_of_written hall hwrites rfl
      (inLine_none (hlawful.deactivates hdeactivate).2)

theorem Site.InLine.status (hlawful : Lawful c l.address view) (h : s.InLine l view)
    {o : Except Failure StatusReport} (hcourse : StatusCourse l t o)
    (halong : Plan.Along (Site.answer c l.store) t s s') : s'.InLine l view := by
  cases hcourse with
  | unanswered f => exact h.looked hlawful halong (by simp [Looks])
  | unread entry f => exact h.looked hlawful halong (by simp [Looks])
  | cooling entry hstatus found now => exact h.looked hlawful halong (by simp [Looks])
  | settled entry hstatus found => exact h.looked hlawful halong (by simp [Looks])

/-- One call keeps the record in line. -/
theorem Site.InLine.perform (hlawful : Lawful c l.address view) (h : s.InLine l view) (call : Call)
    (hwrites : ∀ e ∈ s.transcript l c call, failsToWrite e = false) :
    (s.perform l c call).2.InLine l view := by
  have hcourse := Site.course_perform (l := l) (c := c) s call
  have halong := Site.along_perform (l := l) (c := c) s call
  have hshowing : (s.showing call.instant).InLine l view := h
  obtain ⟨operation, instant⟩ := call
  cases operation with
  | register =>
    obtain ⟨o, hregister, -⟩ := Act.course_map.1 hcourse
    exact hshowing.register hlawful (registerCourse hregister) halong hwrites
  | activate =>
    obtain ⟨o, hactivate, -⟩ := Act.course_map.1 hcourse
    exact hshowing.activate hlawful (activateCourse hactivate) halong hwrites
  | deactivate =>
    obtain ⟨o, hdeactivate, -⟩ := Act.course_map.1 hcourse
    exact hshowing.deactivate hlawful (deactivateCourse hdeactivate) halong hwrites
  | status =>
    obtain ⟨o, hstatus, -⟩ := Act.course_map.1 hcourse
    exact hshowing.status hlawful (statusCourse hstatus) halong

/-- All calls keep the record in line. -/
theorem Site.InLine.performAll (hlawful : Lawful c l.address view) (h : s.InLine l view)
    (calls : List Call) (hwrites : ∀ e ∈ s.transcripts l c calls, failsToWrite e = false) :
    (s.performAll l c calls).InLine l view := by
  induction calls generalizing s with
  | nil => exact h
  | cons call calls ih =>
    apply ih
    · exact h.perform hlawful call fun e he => hwrites e (List.mem_append_left _ he)
    · exact fun e he => hwrites e (List.mem_append_right _ he)

end

/-! ## All calls -/

/-- Registering, leaving, and registering once more. -/
def Sample.comeback : List Call :=
  [⟨.register, noon⟩, ⟨.deactivate, noon⟩, ⟨.register, noon⟩]

/-- From an inactive node without a record on, whatever calls are made at whatever instants, as long
as the record can be written: it is there just when the node is not inactive, it is the one of the
node's registration, and it is stamped as activated just when the node is active. -/
theorem record_mirrors_coordinator {l : Lifecycle} {c : Coordinator κ} {view : κ → Node.Entry}
    (hlawful : Lawful c l.address view) (s : Site κ)
    (hinactive : (view s.coordinator).status = .inactive)
    (hnone : s.loaded l.store = .ok none) (calls : List Call)
    (hwrites : ∀ e ∈ s.transcripts l c calls, failsToWrite e = false) :
    ∃ found, (s.performAll l c calls).loaded l.store = .ok found ∧
      InLine l (view (s.performAll l c calls).coordinator) found :=
  Site.InLine.performAll hlawful ⟨none, hnone, inLine_none hinactive⟩ calls hwrites

/-- Registered, deactivated and registered once more, the node has its record again. -/
theorem sample_mirrors_coordinator :
    ∃ r, (Sample.fresh.performAll Sample.home Sample.registry Sample.comeback).loaded
        Sample.home.store = .ok (some r) ∧
      r.address = Sample.owner ∧ r.registrationId = "reg-1" ∧ r.isActivated = false := by
  have hlawful : Lawful Sample.registry Sample.home.address Sample.entry := lawful_ledger _ _ _
  have hinactive : (Sample.entry Sample.fresh.coordinator).status = .inactive := rfl
  have hend : Sample.entry
      (Sample.fresh.performAll Sample.home Sample.registry Sample.comeback).coordinator =
      ⟨Sample.owner, .registered, some "reg-1", some Sample.noon, 0⟩ := by decide +kernel
  obtain ⟨found, hloaded, hin⟩ := record_mirrors_coordinator hlawful Sample.fresh hinactive
    (Sample.loaded_site _) Sample.comeback (by decide +kernel)
  rw [hend] at hin
  cases found with
  | none => exact absurd rfl (hin.present.2 (by decide))
  | some r =>
    obtain ⟨haddress, hid, -, hstamp⟩ := hin.record r rfl
    refine ⟨r, hloaded, haddress, (Option.some.inj hid).symm, ?_⟩
    cases hr : r.isActivated with
    | false => rfl
    | true => exact absurd (hstamp.1 hr) (by decide)

end Enrollment.Lifecycle
