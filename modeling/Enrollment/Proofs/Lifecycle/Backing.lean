import Enrollment.Proofs.Lifecycle.Rerun
/-!
# What a success rests on

A node is registered, activated or deactivated when the coordinator answers so, and the record follows
its answer: it is written after the answer came, and only then. An answer is taken for a success
because it is one. The status that it tells is looked at nowhere, so an answer about this node that
tells of no change is a success all the same.

Results:
 1. `RegisterCourse.rests`, `ActivateCourse.rests`, `DeactivateCourse.rests`: the answer behind a
    success, and the record after it.
 2. `Concludes`: how a run ends that was declined or accepted.
 3. `success_rests_on_answer`: both of them for calls.
-/

namespace Enrollment.Lifecycle

open Registration (Record Store)
open Act (Course)

/-! ## Declining and accepting -/

/-- The coordinator refuses what it was asked to do, or registers another node. -/
inductive Declines (l : Lifecycle) : Exchange Surroundings → Prop
  | registration (q : Registration.Request) (f : Failure) : Declines l ⟨.register q, .error f⟩
  | misdirected (q : Registration.Request) (receipt : Registration.Receipt)
      (haddress : receipt.address ≠ l.address) : Declines l ⟨.register q, .ok receipt⟩
  | activation (a : Address) (q : Activation.Request) (f : Failure) :
      Declines l ⟨.activate a q, .error f⟩
  | deactivation (a : Address) (f : Failure) : Declines l ⟨.deactivate a, .error f⟩

/-- The coordinator answers that it did for this node what it was asked, whatever status it tells;
and what is then to be reported. -/
inductive Accepts (l : Lifecycle) : Exchange Surroundings → Outcome → Prop
  | registration (q : Registration.Request) (receipt : Registration.Receipt)
      (haddress : receipt.address = l.address) :
      Accepts l ⟨.register q, .ok receipt⟩ (.register (.registered receipt))
  | activation (a : Address) (q : Activation.Request) (receipt : Activation.Receipt)
      (haddress : receipt.address = l.address) :
      Accepts l ⟨.activate a q, .ok receipt⟩ (.activate (.activated receipt))
  | deactivation (a : Address) (updated : Node.Entry) (haddress : updated.address = l.address) :
      Accepts l ⟨.deactivate a, .ok updated⟩ (.deactivate (.deactivated updated))

variable {κ : Type} {l : Lifecycle} {c : Coordinator κ} {t : Transcript} {s s' : Site κ}
  {e : Exchange Surroundings} {o : Except Failure Outcome} {outcome : Outcome} {f : Failure}

theorem Declines.goal (h : Declines l e) : e.request.goal? ≠ none := by
  cases h <;> exact Option.some_ne_none _

theorem Accepts.goal (h : Accepts l e outcome) : e.request.goal? ≠ none := by
  cases h <;> exact Option.some_ne_none _

/-- A run that was declined fails without having written anything, and one that was accepted
succeeds unless something could not be written. -/
structure Concludes (l : Lifecycle) (t : Transcript) (o : Except Failure Outcome) : Prop where
  declined : ∀ e ∈ t, Declines l e → (∃ f, o = .error f) ∧ ∀ e' ∈ t, writes e'.request = false
  accepted : ∀ e ∈ t, ∀ outcome, Accepts l e outcome → (∀ e' ∈ t, failsToWrite e' = false) →
    o = .ok outcome

namespace Concludes

/-- A run in which no change is asked for. -/
theorem silent (hsilent : ∀ e ∈ t, e.request.goal? = none) : Concludes l t o where
  declined e he h := absurd (hsilent e he) h.goal
  accepted e he _ h := absurd (hsilent e he) h.goal

/-- What is asked before the change makes no difference. -/
theorem cons (hgoal : e.request.goal? = none) (hwrites : writes e.request = false)
    (h : Concludes l t o) : Concludes l (e :: t) o where
  declined e' he' hdeclines := by
    rcases List.mem_cons.1 he' with rfl | he'
    · exact absurd hgoal hdeclines.goal
    · obtain ⟨hfails, hnothing⟩ := h.declined e' he' hdeclines
      exact ⟨hfails, List.forall_mem_cons.2 ⟨hwrites, hnothing⟩⟩
  accepted e' he' outcome haccepts hwritten := by
    rcases List.mem_cons.1 he' with rfl | he'
    · exact absurd hgoal haccepts.goal
    · exact h.accepted e' he' outcome haccepts (List.forall_mem_cons.1 hwritten).2

/-- The change is declined. -/
theorem refused (hdeclines : Declines l e) : Concludes l [e] (.error f) where
  declined e' he' _ := by
    obtain rfl := List.mem_singleton.1 he'
    refine ⟨⟨f, rfl⟩, ?_⟩
    rintro e' he'
    obtain rfl := List.mem_singleton.1 he'
    cases hdeclines <;> rfl
  accepted e' he' outcome haccepts _ := by
    obtain rfl := List.mem_singleton.1 he'
    cases hdeclines with
    | misdirected q receipt haddress =>
      cases haccepts with
      | registration q receipt hsame => exact absurd hsame haddress
    | registration q f => cases haccepts
    | activation a q f => cases haccepts
    | deactivation a f => cases haccepts

variable (hnot : ¬ Declines l e) (hsilent : ∀ e' ∈ t, e'.request.goal? = none)

include hnot hsilent

/-- The change is not declined, and what follows is of no account, but that it ends as it must. -/
theorem answered
    (hends : (∀ e' ∈ t, failsToWrite e' = false) → ∀ outcome, Accepts l e outcome → o = .ok outcome) :
    Concludes l (e :: t) o where
  declined e' he' hdeclines := by
    rcases List.mem_cons.1 he' with rfl | he'
    · exact absurd hdeclines hnot
    · exact absurd (hsilent e' he') hdeclines.goal
  accepted e' he' outcome haccepts hwritten := by
    rcases List.mem_cons.1 he' with rfl | he'
    · exact hends (List.forall_mem_cons.1 hwritten).2 outcome haccepts
    · exact absurd (hsilent e' he') haccepts.goal

/-- The change is not declined, but something cannot be written. -/
theorem unwritten {e' : Exchange Surroundings} (he' : e' ∈ t) (hfails : failsToWrite e' = true) :
    Concludes l (e :: t) o := by
  refine answered hnot hsilent fun hwritten => ?_
  cases hfails.symm.trans (hwritten e' he')

end Concludes

theorem RegisterCourse.concludes {o : Except Failure RegisterOutcome} (h : RegisterCourse l t o) :
    Concludes l t (o.map .register) := by
  cases h with
  | unanswered f => exact .silent (by simp [Step.goal?])
  | refreshed entry hstatus t o hrefresh =>
    refine .cons rfl rfl (.cons rfl rfl (.silent ?_))
    intro e he
    -- Refreshing asks nothing of the coordinator.
    cases hgoal : e.request.goal? with
    | none => rfl
    | some goal =>
      have hmem := mem_dealings.2 ⟨he, Step.isForCoordinator_of_goal hgoal⟩
      rw [dealings_refresh hrefresh] at hmem
      cases hmem
  | refused entry hstatus f => exact .cons rfl rfl (.refused (.registration _ f))
  | misdirected entry hstatus receipt haddress =>
    exact .cons rfl rfl (.refused (.misdirected _ receipt haddress))
  | unsaved entry hstatus receipt haddress f =>
    have hnot : ¬ Declines l ⟨.register l.registration, .ok receipt⟩ := by
      rintro ⟨⟩
      contradiction
    exact .cons rfl rfl (.unwritten hnot (by simp [Step.goal?]) List.mem_cons_self rfl)
  | registered entry hstatus receipt haddress =>
    have hnot : ¬ Declines l ⟨.register l.registration, .ok receipt⟩ := by
      rintro ⟨⟩
      contradiction
    refine .cons rfl rfl (.answered hnot (by simp [Step.goal?]) ?_)
    rintro - outcome ⟨⟩
    rfl

theorem ActivateRegisteredCourse.concludes {r : Record} {entry : Node.Entry}
    {o : Except Failure ActivateOutcome} (h : ActivateRegisteredCourse l r entry t o) :
    Concludes l t (o.map .activate) := by
  have hnot : ∀ receipt, ¬ Declines l ⟨.activate l.address ⟨r.registrationId⟩, .ok receipt⟩ := by
    rintro receipt ⟨⟩
  cases h with
  | cooling now hcooldown => exact .silent (by simp [Step.goal?])
  | stale now hcooldown id hid hstale => exact .silent (by simp [Step.goal?])
  | refused now hcooldown hid f => exact .cons rfl rfl (.refused (.activation _ _ f))
  | unsaved now hcooldown hid receipt f =>
    exact .cons rfl rfl (.unwritten (hnot receipt) (by simp [Step.goal?]) List.mem_cons_self rfl)
  | activated now hcooldown hid receipt =>
    refine .cons rfl rfl (.answered (hnot receipt) (by simp [Step.goal?]) ?_)
    rintro - outcome ⟨⟩
    rfl

theorem ActivateCourse.concludes {o : Except Failure ActivateOutcome} (h : ActivateCourse l t o) :
    Concludes l t (o.map .activate) := by
  cases h with
  | unread f => exact .silent (by simp [Step.goal?])
  | absent => exact .silent (by simp [Step.goal?])
  | foreign r haddress => exact .silent (by simp [Step.goal?])
  | unanswered r haddress f => exact .silent (by simp [Step.goal?])
  | unregistered r haddress entry hstatus => exact .silent (by simp [Step.goal?])
  | kept r haddress entry hstatus hstamp => exact .silent (by simp [Step.goal?])
  | stamped r haddress entry hstatus hstamp now o => exact .silent (by simp [Step.goal?])
  | registered r haddress entry hstatus t o hactivate =>
    exact .cons rfl rfl (.cons rfl rfl hactivate.concludes)

theorem DeactivateCourse.concludes {o : Except Failure DeactivateOutcome}
    (h : DeactivateCourse l t o) : Concludes l t (o.map .deactivate) := by
  have hnot : ∀ updated, ¬ Declines l ⟨.deactivate l.address, .ok updated⟩ := by
    rintro updated ⟨⟩
  cases h with
  | unanswered f => exact .silent (by simp [Step.goal?])
  | forgotten entry hstatus o => exact .silent (by simp [Step.goal?])
  | refused entry hstatus f => exact .cons rfl rfl (.refused (.deactivation _ f))
  | uncleared entry hstatus updated f =>
    exact .cons rfl rfl (.unwritten (hnot updated) (by simp [Step.goal?]) List.mem_cons_self rfl)
  | deactivated entry hstatus updated =>
    refine .cons rfl rfl (.answered (hnot updated) (by simp [Step.goal?]) ?_)
    rintro - outcome ⟨⟩
    rfl

theorem StatusCourse.concludes {o : Except Failure StatusReport} (h : StatusCourse l t o) :
    Concludes l t (o.map .status) := by
  cases h <;> exact .silent (by simp [Step.goal?])

/-- Every run that is declined or accepted ends so. -/
theorem concludes_of_course {operation : Operation} (h : Course (l.perform operation) t o) :
    Concludes l t o := by
  cases operation with
  | register =>
    obtain ⟨o, hregister, rfl⟩ := Act.course_map.1 h
    exact (registerCourse hregister).concludes
  | activate =>
    obtain ⟨o, hactivate, rfl⟩ := Act.course_map.1 h
    exact (activateCourse hactivate).concludes
  | deactivate =>
    obtain ⟨o, hdeactivate, rfl⟩ := Act.course_map.1 h
    exact (deactivateCourse hdeactivate).concludes
  | status =>
    obtain ⟨o, hstatus, rfl⟩ := Act.course_map.1 h
    exact (statusCourse hstatus).concludes

/-! ## The answer behind a success -/

def Outcome.operation : Outcome → Operation
  | .register _ => .register
  | .activate _ => .activate
  | .deactivate _ => .deactivate
  | .status _ => .status

theorem operation_of_course {operation : Operation}
    (h : Course (l.perform operation) t (.ok outcome)) : outcome.operation = operation := by
  cases operation with
  | register =>
    obtain ⟨_, -, rfl⟩ := Act.course_map_ok.1 h
    rfl
  | activate =>
    obtain ⟨_, -, rfl⟩ := Act.course_map_ok.1 h
    rfl
  | deactivate =>
    obtain ⟨_, -, rfl⟩ := Act.course_map_ok.1 h
    rfl
  | status =>
    obtain ⟨_, -, rfl⟩ := Act.course_map_ok.1 h
    rfl

/-- A node that is reported as registered was registered, and its receipt is recorded. -/
theorem RegisterCourse.rests {receipt : Registration.Receipt}
    (h : RegisterCourse l t (.ok (.registered receipt)))
    (halong : Plan.Along (Site.answer c l.store) t s s') :
    ⟨.register l.registration, .ok receipt⟩ ∈ t ∧ receipt.address = l.address ∧
      s'.loaded l.store = .ok (some (Record.ofReceipt receipt l.coordinatorUrl)) := by
  generalize ho : RegisterOutcome.registered receipt = outcome at h
  cases h.success with
  | refreshed entry hstatus t hrefresh =>
    exact absurd ho.symm (refreshed_ne_registered entry receipt)
  | registered entry hstatus receipt' haddress =>
    cases ho
    obtain ⟨-, -, hsave, -, hend⟩ := halong
    obtain rfl : s' = _ := hend
    exact ⟨by simp, haddress, Site.loaded_of_saved hsave⟩

/-- A node that is reported as activated was activated with its own record, which is stamped with
what was answered. -/
theorem ActivateCourse.rests {receipt : Activation.Receipt}
    (h : ActivateCourse l t (.ok (.activated receipt)))
    (halong : Plan.Along (Site.answer c l.store) t s s') :
    ∃ old, s.loaded l.store = .ok (some old) ∧ old.address = l.address ∧
      ⟨.activate l.address ⟨old.registrationId⟩, .ok receipt⟩ ∈ t ∧
      s'.loaded l.store = .ok (some { old with activatedAt := some receipt.activatedAt }) := by
  cases h.success with
  | activated r haddress entry hstatus hid now hcooldown =>
    obtain ⟨hload, -, -, -, hsave, -, hend⟩ := halong
    obtain rfl : s' = _ := hend
    exact ⟨r, (Site.loaded_of_load hload).2 _ rfl, haddress, by simp, Site.loaded_of_saved hsave⟩

/-- A node that is reported as deactivated was deactivated, and its record is forgotten. -/
theorem DeactivateCourse.rests {updated : Node.Entry}
    (h : DeactivateCourse l t (.ok (.deactivated updated)))
    (halong : Plan.Along (Site.answer c l.store) t s s') :
    ⟨.deactivate l.address, .ok updated⟩ ∈ t ∧ s'.loaded l.store = .ok none := by
  refine ⟨?_, h.leaves halong⟩
  cases h.success with
  | deactivated entry hstatus => simp

/-! ## Calls -/

/-- Whatever the coordinator answers: a node that is reported as registered, activated or
deactivated was answered to be, and its record follows the answer. If the coordinator declines, or
registers another node, the call fails and leaves every file as it is. If it accepts for this node,
the call succeeds with its answer, whatever status that tells, unless something cannot be written. -/
theorem success_rests_on_answer (l : Lifecycle) (c : Coordinator κ) (s : Site κ) (call : Call) :
    (∀ receipt, (s.perform l c call).1 = .ok (.register (.registered receipt)) →
      ⟨.register l.registration, .ok receipt⟩ ∈ s.transcript l c call ∧
        receipt.address = l.address ∧
        (s.perform l c call).2.loaded l.store =
          .ok (some (Record.ofReceipt receipt l.coordinatorUrl))) ∧
    (∀ receipt, (s.perform l c call).1 = .ok (.activate (.activated receipt)) →
      ∃ old, s.loaded l.store = .ok (some old) ∧ old.address = l.address ∧
        ⟨.activate l.address ⟨old.registrationId⟩, .ok receipt⟩ ∈ s.transcript l c call ∧
        (s.perform l c call).2.loaded l.store =
          .ok (some { old with activatedAt := some receipt.activatedAt })) ∧
    (∀ updated, (s.perform l c call).1 = .ok (.deactivate (.deactivated updated)) →
      ⟨.deactivate l.address, .ok updated⟩ ∈ s.transcript l c call ∧
        (s.perform l c call).2.loaded l.store = .ok none) ∧
    (∀ e ∈ s.transcript l c call, Declines l e →
      (∃ f, (s.perform l c call).1 = .error f) ∧
        (s.perform l c call).2.disk.tree = s.disk.tree) ∧
    ∀ e ∈ s.transcript l c call, ∀ outcome, Accepts l e outcome →
      (∀ e' ∈ s.transcript l c call, failsToWrite e' = false) →
        (s.perform l c call).1 = .ok outcome := by
  have hcourse := Site.course_perform (l := l) (c := c) s call
  have halong := Site.along_perform (l := l) (c := c) s call
  have hconcludes := concludes_of_course hcourse
  obtain ⟨operation, instant⟩ := call
  refine ⟨?_, ?_, ?_, ?_, hconcludes.accepted⟩
  · intro receipt hok
    rw [hok] at hcourse
    obtain rfl : .register = operation := operation_of_course hcourse
    obtain ⟨o, hregister, ho⟩ := Act.course_map_ok.1 hcourse
    cases ho
    exact (registerCourse hregister).rests (s := s.showing instant) halong
  · intro receipt hok
    rw [hok] at hcourse
    obtain rfl : .activate = operation := operation_of_course hcourse
    obtain ⟨o, hactivate, ho⟩ := Act.course_map_ok.1 hcourse
    cases ho
    exact (activateCourse hactivate).rests (s := s.showing instant) halong
  · intro updated hok
    rw [hok] at hcourse
    obtain rfl : .deactivate = operation := operation_of_course hcourse
    obtain ⟨o, hdeactivate, ho⟩ := Act.course_map_ok.1 hcourse
    cases ho
    exact (deactivateCourse hdeactivate).rests (s := s.showing instant) halong
  · intro e he hdeclines
    obtain ⟨hfails, hnothing⟩ := hconcludes.declined e he hdeclines
    exact ⟨hfails, Site.tree_along (s := s.showing instant) halong hnothing⟩

namespace Sample

/-- A coordinator that does what it is asked, but tells the status that the node had before. -/
def belated : Coordinator Ledger :=
  { registry with
    register := fun r k => (.ok ⟨r.address, "reg-1", .inactive, noon, 0⟩, (registry.register r k).2)
    activate := fun a r k => (.ok ⟨a, .registered, noon⟩, (registry.activate a r k).2)
    deactivate := fun a k => (.ok (entry k), (registry.deactivate a k).2) }

theorem activated_belatedly :
    (registered.perform home belated ⟨.activate, noon⟩).1 =
      .ok (.activate (.activated ⟨owner, .registered, noon⟩)) := by
  have hload := Site.answer_load (c := belated) (s := registered.showing noon) (by decide +kernel)
    loaded_registered
  show (Plan.run _ _ (registered.showing noon)).1 = _
  rw [Plan.run_of_ask (p := (home.perform .activate).run) rfl hload]
  rfl

end Sample

/-- A node is registered by a receipt that tells of an inactive one. -/
theorem sample_success_rests :
    (Sample.fresh.perform Sample.home Sample.belated ⟨.register, Sample.noon⟩).1 =
        .ok (.register (.registered ⟨Sample.owner, "reg-1", .inactive, Sample.noon, 0⟩)) ∧
      (Sample.fresh.perform Sample.home Sample.belated ⟨.register, Sample.noon⟩).2.loaded
        Sample.home.store =
          .ok (some ⟨Sample.owner, "reg-1", "http://coordinator.test", Sample.noon, none⟩) := by
  obtain ⟨hregistered, -, -, -, haccepted⟩ := success_rests_on_answer Sample.home Sample.belated
    Sample.fresh ⟨.register, Sample.noon⟩
  have hok := haccepted ⟨.register Sample.home.registration,
      .ok ⟨Sample.owner, "reg-1", .inactive, Sample.noon, 0⟩⟩ (.tail _ (.head _)) _
    (.registration _ _ rfl) (by decide +kernel)
  exact ⟨hok, (hregistered _ hok).2.2⟩

/-- Neither a registration nor an activation nor a deactivation needs an answer that tells the
status which the node was to have. -/
theorem success_with_other_status :
    ¬ (∀ (l : Lifecycle) (c : Coordinator Ledger) (s : Site Ledger) (instant : Instant)
        (receipt : Registration.Receipt),
        (s.perform l c ⟨.register, instant⟩).1 = .ok (.register (.registered receipt)) →
          receipt.address = l.address ∧ receipt.status = .registered) ∧
    ¬ (∀ (l : Lifecycle) (c : Coordinator Ledger) (s : Site Ledger) (instant : Instant)
        (receipt : Activation.Receipt),
        (s.perform l c ⟨.activate, instant⟩).1 = .ok (.activate (.activated receipt)) →
          receipt.address = l.address ∧ receipt.status = .active) ∧
    ¬ ∀ (l : Lifecycle) (c : Coordinator Ledger) (s : Site Ledger) (instant : Instant)
        (updated : Node.Entry),
        (s.perform l c ⟨.deactivate, instant⟩).1 = .ok (.deactivate (.deactivated updated)) →
          updated.address = l.address ∧ updated.status = .inactive := by
  refine ⟨?_, ?_, ?_⟩
  · intro hstatus
    have htold := hstatus Sample.home Sample.belated Sample.fresh Sample.noon
      ⟨Sample.owner, "reg-1", .inactive, Sample.noon, 0⟩ rfl
    exact absurd htold.2 (by decide)
  · intro hstatus
    have htold := hstatus Sample.home Sample.belated Sample.registered Sample.noon _
      Sample.activated_belatedly
    exact absurd htold.2 (by decide)
  · intro hstatus
    have htold := hstatus Sample.home Sample.belated Sample.registered Sample.noon
      (Sample.entry ⟨.registered, Sample.noon⟩) rfl
    exact absurd htold.2 (by decide)

end Enrollment.Lifecycle
