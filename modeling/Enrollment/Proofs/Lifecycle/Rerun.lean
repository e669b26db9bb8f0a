import Enrollment.Proofs.Lifecycle.Discipline
import Enrollment.Proofs.Lifecycle.Progress
/-!
# Operations called again

An operation that is called a second time, when the coordinator tells what it is to tell after the
first call, asks for no change and leaves every file as it is. For registering this means that one
call brings the record to a state that the next one with the same entry leaves alone (`Settled`),
whatever the entry tells and whatever the record was before.

Results:
 1. `settled_of_refresh`, `RefreshCourse.settled`: refreshing settles a record, and leaves a settled
    one alone.
 2. `idle_register`, `idle_activate`, `idle_deactivate`: operations that find nothing to do.
 3. `rerun_idle`: after a first call there is nothing to do.
-/

namespace Enrollment.Lifecycle

open Registration (Record Store)

/-! ## Records that are left alone -/

/-- Refreshing leaves what is recorded alone when the coordinator tells an entry. -/
inductive Settled (entry : Node.Entry) : Option Record → Prop
  | kept (r : Record) (hr : isRecordOf r entry = true)
      (hstamp : ¬ (entry.status = .active ∧ r.activatedAt = none)) : Settled entry (some r)
  | unidentified (found : Option Record) (hfound : ∀ r, found = some r → isRecordOf r entry = false)
      (hid : entry.registrationId = none) : Settled entry found

variable {κ : Type} {l : Lifecycle} {c : Coordinator κ} {t : Transcript} {s s' : Site κ}
  {entry : Node.Entry} {found : Option Record}

theorem settled_of_restored {url : String} {now : Instant} {r : Record}
    (h : Record.restored? entry url now = some r) : Settled entry (some r) := by
  obtain ⟨haddress, hid, hstamp⟩ := restored_eq h
  refine .kept r ((isRecordOf_iff hid).2 ⟨haddress, rfl⟩) ?_
  rintro ⟨hactive, hnone⟩
  exact hstamp hactive hnone

/-- A record that was refreshed is settled. -/
theorem settled_of_refresh (h : RefreshCourse l entry t (.ok ()))
    (halong : Plan.Along (Site.answer c l.store) t s s') :
    ∃ found, s'.loaded l.store = .ok found ∧ Settled entry found := by
  cases h with
  | kept r hr hstamp =>
    obtain ⟨hload, hend⟩ := halong
    obtain rfl : s' = _ := hend
    obtain ⟨hsame, hloaded⟩ := Site.loaded_of_load hload
    exact ⟨some r, hsame.trans (hloaded _ rfl), .kept r hr hstamp⟩
  | stamped r hr hactive hstamp now =>
    obtain ⟨-, -, hsave, hend⟩ := halong
    obtain rfl : s' = _ := hend
    refine ⟨_, Site.loaded_of_saved hsave, .kept _ hr ?_⟩
    rintro ⟨-, hnone⟩
    cases hnone
  | unidentified found hfound hid now =>
    obtain ⟨hload, -, -, hend⟩ := halong
    obtain rfl : s' = _ := hend
    obtain ⟨hsame, hloaded⟩ := Site.loaded_of_load hload
    exact ⟨found, hsame.trans (hloaded _ rfl), .unidentified found hfound hid⟩
  | restored found hfound now record hrecord =>
    obtain ⟨-, -, hsave, hend⟩ := halong
    obtain rfl : s' = _ := hend
    exact ⟨_, Site.loaded_of_saved hsave, settled_of_restored hrecord⟩

/-- A settled record is refreshed without anything being written. -/
theorem RefreshCourse.settled {o : Except Failure Unit} (h : RefreshCourse l entry t o)
    (halong : Plan.Along (Site.answer c l.store) t s s') (hmishaps : s.disk.mishaps = [])
    (hloaded : s.loaded l.store = .ok found) (hsettled : Settled entry found) :
    o = .ok () ∧ s'.disk.tree = s.disk.tree := by
  have hload : ∀ reply, (Site.answer c l.store .load s).1 = reply → .ok found = reply := by
    rintro reply rfl
    rw [Site.answer_load hmishaps hloaded]
  cases h with
  | unread f => cases hload _ halong.1
  | kept r hr hstamp => exact ⟨rfl, Site.tree_along halong (by simp [writes])⟩
  | stamped r hr hactive hstamp now o =>
    cases hload _ halong.1
    cases hsettled with
    | kept r' hr' hstamp' => exact absurd ⟨hactive, hstamp⟩ hstamp'
    | unidentified found hfound hid =>
      rw [hfound r rfl] at hr
      cases hr
  | unidentified found' hfound' hid now => exact ⟨rfl, Site.tree_along halong (by simp [writes])⟩
  | restored found' hfound' now record hrecord o =>
    cases hload _ halong.1
    cases hsettled with
    | kept r hr hstamp =>
      rw [hfound' r rfl] at hr
      cases hr
    | unidentified found hfound hid =>
      rw [Record.restored?, hid] at hrecord
      cases hrecord

/-! ## Operations that find nothing to do -/

/-- A call succeeds, asks for no change, and leaves all files as they are. -/
structure Idle (l : Lifecycle) (c : Coordinator κ) (s : Site κ) (call : Call) (outcome : Outcome) :
    Prop where
  outcome : (s.perform l c call).1 = .ok outcome
  changes : ∀ e ∈ s.transcript l c call, e.request.goal? = none
  files : (s.perform l c call).2.disk.tree = s.disk.tree

/-- A call is idle if what it finds asks for no change, and it succeeds without writing anything. -/
theorem idle_of_course {call : Call} {outcome : Outcome}
    (hnone : ((s.showing call.instant).findings l c).change? l call.operation = none)
    (hidle : ∀ t o s', Act.Course (l.perform call.operation) t o →
      Plan.Along (Site.answer c l.store) t (s.showing call.instant) s' →
      o = .ok outcome ∧ s'.disk.tree = s.disk.tree) :
    Idle l c s call outcome := by
  obtain ⟨ho, htree⟩ := hidle _ _ _ (Site.course_perform s call) (Site.along_perform s call)
  exact ⟨ho, fun e => (deals_perform l c s call).no_change hnone, htree⟩

theorem RegisterCourse.idle {o : Except Failure RegisterOutcome} (h : RegisterCourse l t o)
    (halong : Plan.Along (Site.answer c l.store) t s s') (hmishaps : s.disk.mishaps = [])
    (hloaded : s.loaded l.store = .ok found) (hsettled : Settled entry found)
    (htold : (Site.answer c l.store (.entryOf l.address) s).1 = .ok entry)
    (hstatus : entry.status ≠ .inactive) :
    o = .ok (Lifecycle.refreshed entry) ∧ s'.disk.tree = s.disk.tree := by
  have hentry : ∀ told, (Site.answer c l.store (.entryOf l.address) s).1 = told →
      .ok entry = told := by
    rintro told rfl
    exact htold.symm
  cases h with
  | unanswered f => cases hentry _ halong.1
  | refreshed entry' hstatus' t o hrefresh =>
    obtain ⟨htold', -, hrest⟩ := halong
    cases hentry _ htold'
    obtain ⟨rfl, htree⟩ := hrefresh.settled (s := (Site.answer c l.store (.entryOf l.address) s).2)
      hrest hmishaps hloaded hsettled
    exact ⟨rfl, htree⟩
  | refused entry' hinactive f =>
    cases hentry _ halong.1
    exact absurd hinactive hstatus
  | misdirected entry' hinactive receipt haddress =>
    cases hentry _ halong.1
    exact absurd hinactive hstatus
  | unsaved entry' hinactive receipt haddress f =>
    cases hentry _ halong.1
    exact absurd hinactive hstatus
  | registered entry' hinactive receipt haddress =>
    cases hentry _ halong.1
    exact absurd hinactive hstatus

theorem ActivateCourse.idle {o : Except Failure ActivateOutcome} (h : ActivateCourse l t o)
    (halong : Plan.Along (Site.answer c l.store) t s s') (hmishaps : s.disk.mishaps = [])
    {r : Record} (hloaded : s.loaded l.store = .ok (some r)) (haddress : r.address = l.address)
    (hstamp : r.activatedAt ≠ none)
    (htold : (Site.answer c l.store (.entryOf l.address) s).1 = .ok entry)
    (hstatus : entry.status = .active) :
    o = .ok (.alreadyActive entry) ∧ s'.disk.tree = s.disk.tree := by
  have hload : ∀ reply, (Site.answer c l.store .load s).1 = reply → .ok (some r) = reply := by
    rintro reply rfl
    rw [Site.answer_load hmishaps hloaded]
  have hentry : ∀ told, (Site.answer c l.store (.entryOf l.address)
      (Site.answer c l.store .load s).2).1 = told → .ok entry = told := by
    rintro told rfl
    exact htold.symm
  cases h with
  | unread f => cases hload _ halong.1
  | absent => cases hload _ halong.1
  | foreign r' hforeign =>
    cases hload _ halong.1
    exact absurd haddress hforeign
  | unanswered r' haddress' f => cases hentry _ halong.2.1
  | unregistered r' haddress' entry' hinactive =>
    cases hentry _ halong.2.1
    cases hstatus.symm.trans hinactive
  | kept r' haddress' entry' hactive hstamp' =>
    cases hentry _ halong.2.1
    exact ⟨rfl, Site.tree_along halong (by simp [writes])⟩
  | stamped r' haddress' entry' hactive hnone now o =>
    cases hload _ halong.1
    exact absurd hnone hstamp
  | registered r' haddress' entry' hregistered t o hactivate =>
    cases hentry _ halong.2.1
    cases hstatus.symm.trans hregistered

theorem DeactivateCourse.idle {o : Except Failure DeactivateOutcome} (h : DeactivateCourse l t o)
    (halong : Plan.Along (Site.answer c l.store) t s s') (hmishaps : s.disk.mishaps = [])
    (hloaded : s.loaded l.store = .ok none)
    (htold : (Site.answer c l.store (.entryOf l.address) s).1 = .ok entry)
    (hstatus : entry.status = .inactive) :
    o = .ok .alreadyInactive ∧ s'.disk.tree = s.disk.tree := by
  have hentry : ∀ told, (Site.answer c l.store (.entryOf l.address) s).1 = told →
      .ok entry = told := by
    rintro told rfl
    exact htold.symm
  cases h with
  | unanswered f => cases hentry _ halong.1
  | forgotten entry' hinactive o =>
    obtain ⟨-, -, hclear, hend⟩ := halong
    obtain rfl : s' = _ := hend
    have hnothing := Site.answer_clear (c := c) (s := (Site.answer c l.store (.entryOf l.address) s).2)
      hmishaps hloaded
    obtain rfl : .ok () = o := (congrArg Prod.fst hnothing).symm.trans hclear
    exact ⟨rfl, congrArg (fun ran => ran.2.disk.tree) hnothing⟩
  | refused entry' hactive f =>
    cases hentry _ halong.1
    exact absurd hstatus hactive
  | uncleared entry' hactive updated f =>
    cases hentry _ halong.1
    exact absurd hstatus hactive
  | deactivated entry' hactive updated =>
    cases hentry _ halong.1
    exact absurd hstatus hactive

/-! ## What a first call leaves -/

theorem RegisterCourse.leaves {o : RegisterOutcome} (h : RegisterCourse l t (.ok o))
    (halong : Plan.Along (Site.answer c l.store) t s s') :
    (∃ entry found, (c.entryOf l.address s.coordinator).1 = .ok entry ∧ entry.status ≠ .inactive ∧
      o = Lifecycle.refreshed entry ∧ s'.loaded l.store = .ok found ∧ Settled entry found) ∨
    ∃ receipt, o = .registered receipt ∧ receipt.address = l.address ∧
      s'.loaded l.store = .ok (some (Record.ofReceipt receipt l.coordinatorUrl)) := by
  cases h.success with
  | refreshed entry hstatus t hrefresh =>
    obtain ⟨htold, -, hrest⟩ := halong
    obtain ⟨found, hloaded, hsettled⟩ := settled_of_refresh hrefresh hrest
    exact .inl ⟨entry, found, htold, hstatus, rfl, hloaded, hsettled⟩
  | registered entry hstatus receipt haddress =>
    obtain ⟨-, -, hsave, -, hend⟩ := halong
    obtain rfl : s' = _ := hend
    exact .inr ⟨receipt, rfl, haddress, Site.loaded_of_saved hsave⟩

theorem ActivateCourse.leaves {o : ActivateOutcome} (h : ActivateCourse l t (.ok o))
    (halong : Plan.Along (Site.answer c l.store) t s s') :
    ∃ r, s'.loaded l.store = .ok (some r) ∧ r.address = l.address ∧ r.activatedAt ≠ none := by
  cases h.success with
  | kept r haddress entry hstatus hstamp =>
    obtain ⟨hload, -, -, hend⟩ := halong
    obtain rfl : s' = _ := hend
    obtain ⟨hsame, hloaded⟩ := Site.loaded_of_load hload
    exact ⟨r, hsame.trans (hloaded _ rfl), haddress, hstamp⟩
  | stamped r haddress entry hstatus hstamp now =>
    obtain ⟨-, -, -, -, hsave, hend⟩ := halong
    obtain rfl : s' = _ := hend
    exact ⟨_, Site.loaded_of_saved hsave, haddress, Option.some_ne_none now⟩
  | activated r haddress entry hstatus hid now hcooldown receipt =>
    obtain ⟨-, -, -, -, hsave, -, hend⟩ := halong
    obtain rfl : s' = _ := hend
    exact ⟨_, Site.loaded_of_saved hsave, haddress, Option.some_ne_none receipt.activatedAt⟩

theorem DeactivateCourse.leaves {o : DeactivateOutcome} (h : DeactivateCourse l t (.ok o))
    (halong : Plan.Along (Site.answer c l.store) t s s') : s'.loaded l.store = .ok none := by
  cases h.success with
  | forgotten entry hstatus =>
    obtain ⟨-, -, hclear, hend⟩ := halong
    obtain rfl : s' = _ := hend
    exact Store.loaded_of_clear hclear
  | deactivated entry hstatus updated =>
    obtain ⟨-, -, hclear, -, hend⟩ := halong
    obtain rfl : s' = _ := hend
    exact Store.loaded_of_clear hclear

theorem refreshed_ne_registered (entry : Node.Entry) (receipt : Registration.Receipt) :
    Lifecycle.refreshed entry ≠ .registered receipt := by
  rw [Lifecycle.refreshed]
  split <;> exact RegisterOutcome.noConfusion

/-- What was registered is settled once the coordinator tells so. -/
theorem settled_of_receipt {receipt : Registration.Receipt} {url : String}
    (haddress : receipt.address = entry.address) (hstatus : entry.status = .registered)
    (hid : entry.registrationId = some receipt.registrationId) :
    Settled entry (some (Record.ofReceipt receipt url)) := by
  refine .kept _ ((isRecordOf_iff hid).2 ⟨haddress, rfl⟩) ?_
  rintro ⟨hactive, -⟩
  cases hstatus.symm.trans hactive

/-- Registering again, with a record that is settled. -/
theorem idle_register {instant : Instant} (hmishaps : s.disk.mishaps = [])
    (hloaded : s.loaded l.store = .ok found) (hsettled : Settled entry found)
    (htold : (c.entryOf l.address s.coordinator).1 = .ok entry)
    (hstatus : entry.status ≠ .inactive) :
    Idle l c s ⟨.register, instant⟩ (.register (Lifecycle.refreshed entry)) := by
  refine idle_of_course (Findings.change?_register_of_ne htold hstatus) ?_
  intro t o s' hcourse halong
  obtain ⟨o', hregister, rfl⟩ := Act.course_map.1 hcourse
  obtain ⟨rfl, htree⟩ := (registerCourse hregister).idle (s := s.showing instant) halong hmishaps
    hloaded hsettled htold hstatus
  exact ⟨rfl, htree⟩

/-- Activating again, with a record that is stamped. -/
theorem idle_activate {instant : Instant} (hmishaps : s.disk.mishaps = []) {r : Record}
    (hloaded : s.loaded l.store = .ok (some r)) (haddress : r.address = l.address)
    (hstamp : r.activatedAt ≠ none) (htold : (c.entryOf l.address s.coordinator).1 = .ok entry)
    (hstatus : entry.status = .active) :
    Idle l c s ⟨.activate, instant⟩ (.activate (.alreadyActive entry)) := by
  have hne : entry.status ≠ .registered := by
    rw [hstatus]
    decide
  refine idle_of_course (Findings.change?_activate_of_ne htold hne) ?_
  intro t o s' hcourse halong
  obtain ⟨o', hactivate, rfl⟩ := Act.course_map.1 hcourse
  obtain ⟨rfl, htree⟩ := (activateCourse hactivate).idle (s := s.showing instant) halong hmishaps
    hloaded haddress hstamp htold hstatus
  exact ⟨rfl, htree⟩

/-- Deactivating again, without a record. -/
theorem idle_deactivate {instant : Instant} (hmishaps : s.disk.mishaps = [])
    (hloaded : s.loaded l.store = .ok none)
    (htold : (c.entryOf l.address s.coordinator).1 = .ok entry) (hstatus : entry.status = .inactive) :
    Idle l c s ⟨.deactivate, instant⟩ (.deactivate .alreadyInactive) := by
  refine idle_of_course (Findings.change?_deactivate_of_inactive htold hstatus) ?_
  intro t o s' hcourse halong
  obtain ⟨o', hdeactivate, rfl⟩ := Act.course_map.1 hcourse
  obtain ⟨rfl, htree⟩ := (deactivateCourse hdeactivate).idle (s := s.showing instant) halong
    hmishaps hloaded htold hstatus
  exact ⟨rfl, htree⟩

/-! ## The second call -/

/-- What an operation is to come to after it came to something before, when the coordinator told
something then and tells an entry now. -/
inductive Repeats (l : Lifecycle) (told : Except Failure Node.Entry) (entry : Node.Entry) :
    Operation → Outcome → Outcome → Prop
  | alreadyRegistered (before : Node.Entry) (hsame : told = .ok entry) :
      Repeats l told entry .register (.register (.alreadyRegistered before))
        (.register (.alreadyRegistered before))
  | alreadyActive (before : Node.Entry) (hsame : told = .ok entry) :
      Repeats l told entry .register (.register (.alreadyActive before))
        (.register (.alreadyActive before))
  | registered (receipt : Registration.Receipt) (haddress : entry.address = l.address)
      (hstatus : entry.status = .registered)
      (hid : entry.registrationId = some receipt.registrationId) :
      Repeats l told entry .register (.register (.registered receipt))
        (.register (.alreadyRegistered entry))
  | activated (o : ActivateOutcome) (hstatus : entry.status = .active) :
      Repeats l told entry .activate (.activate o) (.activate (.alreadyActive entry))
  | deactivated (o : DeactivateOutcome) (hstatus : entry.status = .inactive) :
      Repeats l told entry .deactivate (.deactivate o) (.deactivate .alreadyInactive)

/-- The files of a site before a coordinator, on a disk on which nothing goes wrong. -/
def Site.before {κ' : Type} (s : Site κ) (k : κ') : Site κ' :=
  ⟨k, ⟨s.disk.tree, []⟩, s.clock⟩

theorem idle_of_refreshed {κ' : Type} {c' : Coordinator κ'} {k : κ'} {instant : Instant}
    {o : RegisterOutcome} (h : RegisterCourse l t (.ok o))
    (halong : Plan.Along (Site.answer c l.store) t s s')
    (hsame : (c.entryOf l.address s.coordinator).1 = .ok entry)
    (hold : ∀ receipt, o ≠ .registered receipt) (htold : (c'.entryOf l.address k).1 = .ok entry) :
    Idle l c' (s'.before k) ⟨.register, instant⟩ (.register o) := by
  rcases h.leaves halong with
    ⟨entry', found, htold', hstatus, rfl, hloaded, hsettled⟩ | ⟨receipt, ho, -⟩
  · cases hsame.symm.trans htold'
    exact idle_register (s := s'.before k) rfl hloaded hsettled htold hstatus
  · exact absurd ho (hold receipt)

/-- However the first call went, and whatever the clock shows: once the coordinator tells what it is
to tell after it, calling the operation again succeeds, asks for no change, and leaves every file
as the first call left it. -/
theorem rerun_idle {κ κ' : Type} (l : Lifecycle) (c : Coordinator κ) (s : Site κ)
    (c' : Coordinator κ') (k : κ') (operation : Operation) (earlier later : Instant)
    (first second : Outcome) (entry : Node.Entry)
    (hfirst : (s.perform l c ⟨operation, earlier⟩).1 = .ok first)
    (htold : (c'.entryOf l.address k).1 = .ok entry)
    (hrepeats : Repeats l (c.entryOf l.address s.coordinator).1 entry operation first second) :
    Idle l c' ((s.perform l c ⟨operation, earlier⟩).2.before k) ⟨operation, later⟩ second := by
  have hcourse := Site.course_perform (l := l) (c := c) s ⟨operation, earlier⟩
  have halong := Site.along_perform (l := l) (c := c) s ⟨operation, earlier⟩
  rw [hfirst] at hcourse
  cases hrepeats with
  | alreadyRegistered before hsame =>
    obtain ⟨o, hregister, ho⟩ := Act.course_map_ok.1 hcourse
    cases ho
    refine idle_of_refreshed (s := s.showing earlier) (registerCourse hregister) halong hsame ?_ htold
    rintro receipt ⟨⟩
  | alreadyActive before hsame =>
    obtain ⟨o, hregister, ho⟩ := Act.course_map_ok.1 hcourse
    cases ho
    refine idle_of_refreshed (s := s.showing earlier) (registerCourse hregister) halong hsame ?_ htold
    rintro receipt ⟨⟩
  | registered receipt haddress hstatus hid =>
    -- The record of the receipt is settled for an entry that is told only later.
    obtain ⟨o, hregister, ho⟩ := Act.course_map_ok.1 hcourse
    cases ho
    rcases (registerCourse hregister).leaves (s := s.showing earlier) halong with
      ⟨entry', found, -, -, ho, -⟩ | ⟨receipt', ho, hreceipt, hloaded⟩
    · exact absurd ho.symm (refreshed_ne_registered entry' receipt)
    cases ho
    have houtcome : Lifecycle.refreshed entry = .alreadyRegistered entry := by
      rw [Lifecycle.refreshed, hstatus]
    have hne : entry.status ≠ .inactive := by
      rw [hstatus]
      decide
    have hsettled : Settled entry (some (Record.ofReceipt receipt l.coordinatorUrl)) :=
      settled_of_receipt (hreceipt.trans haddress.symm) hstatus hid
    rw [← houtcome]
    exact idle_register rfl hloaded hsettled htold hne
  | activated o hstatus =>
    obtain ⟨o', hactivate, -⟩ := Act.course_map_ok.1 hcourse
    obtain ⟨r, hloaded, haddress, hstamp⟩ :=
      (activateCourse hactivate).leaves (s := s.showing earlier) halong
    exact idle_activate rfl hloaded haddress hstamp htold hstatus
  | deactivated o hstatus =>
    obtain ⟨o', hdeactivate, -⟩ := Act.course_map_ok.1 hcourse
    have hloaded := (deactivateCourse hdeactivate).leaves (s := s.showing earlier) halong
    exact idle_deactivate rfl hloaded htold hstatus

namespace Sample

/-- A site where the node is registered, but there is no record. -/
def forgetful : Site Ledger :=
  site ⟨.registered, noon⟩

/-- A site whose record is the one of the node that was registered is activated. -/
theorem activated_registered :
    (registered.perform home registry ⟨.activate, noon⟩).1 =
      .ok (.activate (.activated ⟨owner, .active, noon⟩)) := by
  have hload := Site.answer_load (c := registry) (s := registered.showing noon) (by decide +kernel)
    loaded_registered
  show (Plan.run _ _ (registered.showing noon)).1 = _
  rw [Plan.run_of_ask (p := (home.perform .activate).run) rfl hload]
  rfl

end Sample

/-- Nodes that were registered, found registered, activated and deactivated. -/
theorem sample_rerun_idle :
    Idle Sample.home Sample.registry
      ((Sample.fresh.perform Sample.home Sample.registry ⟨.register, Sample.noon⟩).2.before
        ⟨.registered, Sample.noon⟩) ⟨.register, Sample.noon⟩
      (.register (.alreadyRegistered (Sample.entry ⟨.registered, Sample.noon⟩))) ∧
    Idle Sample.home Sample.registry
      ((Sample.forgetful.perform Sample.home Sample.registry ⟨.register, Sample.noon⟩).2.before
        ⟨.registered, Sample.noon⟩) ⟨.register, Sample.noon⟩
      (.register (.alreadyRegistered (Sample.entry ⟨.registered, Sample.noon⟩))) ∧
    Idle Sample.home Sample.registry
      ((Sample.registered.perform Sample.home Sample.registry ⟨.activate, Sample.noon⟩).2.before
        ⟨.active, Sample.noon⟩) ⟨.activate, Sample.noon⟩
      (.activate (.alreadyActive (Sample.entry ⟨.active, Sample.noon⟩))) ∧
    Idle Sample.home Sample.registry
      ((Sample.registered.perform Sample.home Sample.registry ⟨.deactivate, Sample.noon⟩).2.before
        ⟨.inactive, Sample.noon⟩) ⟨.deactivate, Sample.noon⟩ (.deactivate .alreadyInactive) := by
  refine ⟨?_, ?_, ?_, ?_⟩
  · exact rerun_idle _ _ _ _ _ _ _ _
      (.register (.registered ⟨Sample.owner, "reg-1", .registered, Sample.noon, 0⟩)) _ _ rfl rfl
      (.registered _ rfl rfl rfl)
  · exact rerun_idle _ _ _ _ _ _ _ _ _ _ _ rfl rfl (.alreadyRegistered _ rfl)
  · exact rerun_idle _ _ _ _ _ _ _ _ _ _ _ Sample.activated_registered rfl (.activated _ rfl)
  · exact rerun_idle _ _ _ _ _ _ _ _
      (.deactivate (.deactivated (Node.Entry.unknown Sample.owner))) _ _ rfl rfl (.deactivated _ rfl)

end Enrollment.Lifecycle
