import Enrollment.Proofs.Lifecycle.Site
/-!
# What is asked of the coordinator

A run of an operation asks the coordinator for its entry, and then for at most one change, which is
one that the node of the entry may go through. Whether it asks, and for what, is settled by what it
finds: the entry that it is told, the record that it loads and the instant that the clock shows.

Results:
 1. `deals_perform`: what a call asks of the coordinator, from what it finds.
 2. `Findings.canBecome_of_change`: the change is one that the node may go through.
 3. `complaint_or_blame`: a failure of a call is one of its own, or one that it was answered with.
 4. `calls_disciplined`: all of it for calls.
-/

namespace Enrollment.Lifecycle

open Registration (Record Store)
open Act (Course)

/-! ## Questions to the coordinator -/

def Step.isForCoordinator : Step → Bool
  | .entryOf _ => true
  | .register _ => true
  | .activate _ _ => true
  | .deactivate _ => true
  | _ => false

/-- The status that the coordinator is asked to give to the node. -/
def Step.goal? : Step → Option Node.Status
  | .register _ => some .registered
  | .activate _ _ => some .active
  | .deactivate _ => some .inactive
  | _ => none

theorem Step.isForCoordinator_of_goal {q : Step} {goal : Node.Status} (h : q.goal? = some goal) :
    q.isForCoordinator = true := by
  cases q <;> first | rfl | cases h

/-- What the coordinator is asked and answers. -/
def dealings (t : Transcript) : Transcript :=
  t.filter fun e => e.request.isForCoordinator

theorem mem_dealings {t : Transcript} {e : Exchange Surroundings} :
    e ∈ dealings t ↔ e ∈ t ∧ e.request.isForCoordinator = true :=
  List.mem_filter

/-! ## What an operation finds -/

/-- What an operation goes by. -/
structure Findings where
  told : Except Failure Node.Entry
  found : Except Failure (Option Record)
  instant : Instant

namespace Findings

/-- The record, if it can be read and is one of the node. -/
def own? (k : Findings) (l : Lifecycle) : Option Record :=
  match k.found with
  | .ok (some r) => if r.address = l.address then some r else none
  | _ => none

/-- A node can be activated with a record: it is registered, its cooldown is over, and the record is
not known to be one of another registration. -/
structure Activatable (k : Findings) (r : Record) (entry : Node.Entry) : Prop where
  status : entry.status = .registered
  cooldown : entry.cooldownRemaining k.instant = 0
  current : entry.registrationId = none ∨ entry.registrationId = some r.registrationId

instance (k : Findings) (r : Record) (entry : Node.Entry) : Decidable (k.Activatable r entry) :=
  decidable_of_iff
    (entry.status = .registered ∧ entry.cooldownRemaining k.instant = 0 ∧
      (entry.registrationId = none ∨ entry.registrationId = some r.registrationId))
    ⟨fun ⟨h₁, h₂, h₃⟩ => ⟨h₁, h₂, h₃⟩, fun ⟨h₁, h₂, h₃⟩ => ⟨h₁, h₂, h₃⟩⟩

def change? (k : Findings) (l : Lifecycle) (operation : Operation) : Option Step :=
  match k.told with
  | .error _ => none
  | .ok entry =>
    match operation with
    | .register => if entry.status = .inactive then some (.register l.registration) else none
    | .activate =>
      match k.own? l with
      | none => none
      | some r =>
        if k.Activatable r entry then some (.activate l.address ⟨r.registrationId⟩) else none
    | .deactivate => if entry.status = .inactive then none else some (.deactivate l.address)
    | .status => none

variable {k : Findings} {l : Lifecycle} {entry : Node.Entry} {q : Step}

theorem own?_eq_some {r : Record} :
    k.own? l = some r ↔ k.found = .ok (some r) ∧ r.address = l.address := by
  unfold own?
  split
  · next r' hfound =>
    split
    · next haddress =>
      constructor
      · rintro ⟨⟩
        exact ⟨hfound, haddress⟩
      · rintro ⟨hr, -⟩
        rw [hfound] at hr
        cases hr
        rfl
    · next haddress =>
      constructor
      · rintro ⟨⟩
      · rintro ⟨hr, hown⟩
        rw [hfound] at hr
        cases hr
        exact absurd hown haddress
  · next hnone =>
    constructor
    · rintro ⟨⟩
    · rintro ⟨hr, -⟩
      exact absurd hr (hnone r)

theorem change?_eq_some {operation : Operation} :
    k.change? l operation = some q ↔
      ∃ entry, k.told = .ok entry ∧
        (operation = .register ∧ entry.status = .inactive ∧ q = .register l.registration ∨
        operation = .deactivate ∧ entry.status ≠ .inactive ∧ q = .deactivate l.address ∨
        operation = .activate ∧ ∃ r, k.own? l = some r ∧ k.Activatable r entry ∧
          q = .activate l.address ⟨r.registrationId⟩) := by
  cases htold : k.told with
  | error f => simp [change?, htold]
  | ok entry =>
    cases operation with
    | register => simp [change?, htold, eq_comm]
    | activate => cases hown : k.own? l <;> simp [change?, htold, hown, eq_comm]
    | deactivate => simp [change?, htold, eq_comm]
    | status => simp [change?, htold]

theorem change?_untold {operation : Operation} {f : Failure} (h : k.told = .error f) :
    k.change? l operation = none := by
  rw [change?, h]

theorem change?_status : k.change? l .status = none := by
  rw [change?]
  cases k.told <;> rfl

section

variable (htold : k.told = .ok entry)

include htold

theorem change?_register_of_inactive (hstatus : entry.status = .inactive) :
    k.change? l .register = some (.register l.registration) := by
  simp [change?, htold, hstatus]

theorem change?_register_of_ne (hstatus : entry.status ≠ .inactive) :
    k.change? l .register = none := by
  simp [change?, htold, hstatus]

theorem change?_deactivate_of_inactive (hstatus : entry.status = .inactive) :
    k.change? l .deactivate = none := by
  simp [change?, htold, hstatus]

theorem change?_deactivate_of_ne (hstatus : entry.status ≠ .inactive) :
    k.change? l .deactivate = some (.deactivate l.address) := by
  simp [change?, htold, hstatus]

theorem change?_activate_of_ne (hstatus : entry.status ≠ .registered) :
    k.change? l .activate = none := by
  have hnot : ∀ r, ¬ k.Activatable r entry := fun r h => hstatus h.status
  rw [change?, htold]
  cases k.own? l <;> simp [hnot]

variable {r : Record} (hown : k.own? l = some r)

include hown

theorem change?_activate_of_not (hnot : ¬ k.Activatable r entry) : k.change? l .activate = none := by
  simp [change?, htold, hown, hnot]

theorem change?_activate_of_activatable (h : k.Activatable r entry) :
    k.change? l .activate = some (.activate l.address ⟨r.registrationId⟩) := by
  simp [change?, htold, hown, h]

end

/-- The change is one that the node may go through. -/
theorem canBecome_of_change {operation : Operation} (h : k.change? l operation = some q) :
    ∃ entry goal, k.told = .ok entry ∧ q.goal? = some goal ∧
      entry.status.canBecome goal = true := by
  obtain ⟨entry, htold, ⟨-, hstatus, rfl⟩ | ⟨-, hstatus, rfl⟩ | ⟨-, r, -, hr, rfl⟩⟩ :=
    change?_eq_some.1 h
  · exact ⟨entry, .registered, htold, rfl, by rw [hstatus]; rfl⟩
  · exact ⟨entry, .inactive, htold, rfl, (Node.Status.canBecome_inactive_iff _).2 hstatus⟩
  · exact ⟨entry, .active, htold, rfl, by rw [hr.status]; rfl⟩

end Findings

/-- What an operation asks of the coordinator, from what it finds. -/
inductive Deals (l : Lifecycle) (k : Findings) (operation : Operation) : Transcript → Prop
  | silent (hoperation : operation = .activate) (hown : k.own? l = none) : Deals l k operation []
  | asking (hown : operation = .activate → k.own? l ≠ none) (told : Except Failure Node.Entry)
      (htold : k.told = told) (t : Transcript)
      (ht : t.map Exchange.request = (k.change? l operation).toList) :
      Deals l k operation (⟨.entryOf l.address, told⟩ :: t)

namespace Site

variable {κ : Type}

def findings (s : Site κ) (l : Lifecycle) (c : Coordinator κ) : Findings where
  told := (c.entryOf l.address s.coordinator).1
  found := (s.onDisk l.store.load).1
  instant := s.clock

end Site

/-! ## The operations -/

section

variable {κ : Type} {l : Lifecycle} {c : Coordinator κ} {t : Transcript} {s s' : Site κ}

theorem dealings_refresh {entry : Node.Entry} {o : Except Failure Unit}
    (h : RefreshCourse l entry t o) : dealings t = [] := by
  cases h <;> rfl

section

variable {k : Findings} {operation : Operation} (hoperation : operation ≠ .activate)

include hoperation

/-- An operation that is not to activate needs no record. -/
theorem Deals.plain {told : Except Failure Node.Entry} (htold : k.told = told)
    (ht : t.map Exchange.request = (k.change? l operation).toList) :
    Deals l k operation (⟨.entryOf l.address, told⟩ :: t) :=
  .asking (fun h => absurd h hoperation) told htold t ht

theorem Deals.untold {f : Failure} (htold : k.told = .error f) :
    Deals l k operation [⟨.entryOf l.address, .error f⟩] := by
  refine .plain hoperation htold ?_
  rw [Findings.change?_untold htold]
  rfl

theorem Deals.unchanged {entry : Node.Entry} (htold : k.told = .ok entry)
    (hnone : k.change? l operation = none) :
    Deals l k operation [⟨.entryOf l.address, .ok entry⟩] := by
  refine .plain hoperation htold ?_
  rw [hnone]
  rfl

theorem Deals.changing {entry : Node.Entry} (htold : k.told = .ok entry)
    {e : Exchange Surroundings} (hsome : k.change? l operation = some e.request) :
    Deals l k operation [⟨.entryOf l.address, .ok entry⟩, e] := by
  refine .plain hoperation htold ?_
  rw [hsome]
  rfl

end

theorem RegisterCourse.deals {o : Except Failure RegisterOutcome} (h : RegisterCourse l t o)
    (halong : Plan.Along (Site.answer c l.store) t s s') :
    Deals l (s.findings l c) .register (dealings t) := by
  have hne : Operation.register ≠ .activate := by decide
  -- However a registration ends, asking for it was the change.
  have hasked : ∀ entry, (s.findings l c).told = .ok entry → entry.status = .inactive → ∀ reply,
      Deals l (s.findings l c) .register
        [⟨.entryOf l.address, .ok entry⟩, ⟨.register l.registration, reply⟩] :=
    fun entry htold hstatus reply =>
      .changing hne htold (Findings.change?_register_of_inactive htold hstatus)
  cases h with
  | unanswered f => exact .untold hne halong.1
  | refreshed entry hstatus t o hrefresh =>
    show Deals l _ _ (_ :: dealings t)
    rw [dealings_refresh hrefresh]
    exact .unchanged hne halong.1 (Findings.change?_register_of_ne halong.1 hstatus)
  | refused entry hstatus f => exact hasked entry halong.1 hstatus _
  | misdirected entry hstatus receipt haddress => exact hasked entry halong.1 hstatus _
  | unsaved entry hstatus receipt haddress f => exact hasked entry halong.1 hstatus _
  | registered entry hstatus receipt haddress => exact hasked entry halong.1 hstatus _

theorem DeactivateCourse.deals {o : Except Failure DeactivateOutcome} (h : DeactivateCourse l t o)
    (halong : Plan.Along (Site.answer c l.store) t s s') :
    Deals l (s.findings l c) .deactivate (dealings t) := by
  have hne : Operation.deactivate ≠ .activate := by decide
  have hasked : ∀ entry, (s.findings l c).told = .ok entry → entry.status ≠ .inactive → ∀ reply,
      Deals l (s.findings l c) .deactivate
        [⟨.entryOf l.address, .ok entry⟩, ⟨.deactivate l.address, reply⟩] :=
    fun entry htold hstatus reply =>
      .changing hne htold (Findings.change?_deactivate_of_ne htold hstatus)
  cases h with
  | unanswered f => exact .untold hne halong.1
  | forgotten entry hstatus o =>
    exact .unchanged hne halong.1 (Findings.change?_deactivate_of_inactive halong.1 hstatus)
  | refused entry hstatus f => exact hasked entry halong.1 hstatus _
  | uncleared entry hstatus updated f => exact hasked entry halong.1 hstatus _
  | deactivated entry hstatus updated => exact hasked entry halong.1 hstatus _

theorem StatusCourse.deals {o : Except Failure StatusReport} (h : StatusCourse l t o)
    (halong : Plan.Along (Site.answer c l.store) t s s') :
    Deals l (s.findings l c) .status (dealings t) := by
  have hne : Operation.status ≠ .activate := by decide
  cases h with
  | unanswered f => exact .untold hne halong.1
  | unread entry f => exact .unchanged hne halong.1 Findings.change?_status
  | cooling entry hstatus found now => exact .unchanged hne halong.1 Findings.change?_status
  | settled entry hstatus found => exact .unchanged hne halong.1 Findings.change?_status

/-- Without a record of its own nothing is asked to activate a node. -/
theorem Deals.unowned {found : Except Failure (Option Record)}
    (hload : (Site.answer c l.store .load s).1 = found)
    (hforeign : ∀ r, found = .ok (some r) → r.address ≠ l.address) :
    Deals l (s.findings l c) .activate [] := by
  refine .silent rfl (Option.eq_none_iff_forall_not_mem.2 ?_)
  intro r hr
  obtain ⟨hfound, haddress⟩ := Findings.own?_eq_some.1 hr
  exact hforeign r (hload.symm.trans hfound) haddress

section

variable {r : Record} (hload : (Site.answer c l.store .load s).1 = .ok (some r))
  (haddress : r.address = l.address)

include hload haddress

theorem own?_findings : (s.findings l c).own? l = some r :=
  Findings.own?_eq_some.2 ⟨hload, haddress⟩

/-- With a record of its own the entry is asked for to activate a node. -/
theorem Deals.owned {told : Except Failure Node.Entry} (htold : (s.findings l c).told = told)
    (ht : t.map Exchange.request = ((s.findings l c).change? l .activate).toList) :
    Deals l (s.findings l c) .activate (⟨.entryOf l.address, told⟩ :: t) := by
  refine .asking (fun _ hnone => ?_) told htold t ht
  cases (own?_findings hload haddress).symm.trans hnone

/-- Nothing more is asked to activate a node that is not registered. -/
theorem Deals.ended {entry : Node.Entry} (htold : (s.findings l c).told = .ok entry)
    (hstatus : entry.status ≠ .registered) :
    Deals l (s.findings l c) .activate [⟨.entryOf l.address, .ok entry⟩] := by
  refine .owned hload haddress htold ?_
  rw [Findings.change?_activate_of_ne htold hstatus]
  rfl

end

/-- What activating a registered node asks of the coordinator, once its entry is told. -/
theorem ActivateRegisteredCourse.deals {k : Findings} {r : Record} {entry : Node.Entry}
    {o : Except Failure ActivateOutcome} (h : ActivateRegisteredCourse l r entry t o)
    (hown : k.own? l = some r) (htold : k.told = .ok entry) (hstatus : entry.status = .registered)
    (halong : Plan.Along (Site.answer c l.store) t s s') (hclock : s.clock = k.instant) :
    (dealings t).map Exchange.request = (k.change? l .activate).toList := by
  have hnow : ∀ now, (Site.answer c l.store .now s).1 = now → k.instant = now := by
    rintro now hnow
    exact hclock.symm.trans hnow
  -- An identifier that is told is the one of the record, or none is told.
  have hcurrent : (∀ id, entry.registrationId = some id → id = r.registrationId) →
      entry.registrationId = none ∨ entry.registrationId = some r.registrationId := by
    intro hid
    cases htold : entry.registrationId with
    | none => exact .inl rfl
    | some id => exact .inr (congrArg some (hid id htold))
  cases h with
  | cooling now hcooldown =>
    obtain rfl := hnow now halong.1
    have hnot : ¬ k.Activatable r entry := fun h => Nat.pos_iff_ne_zero.1 hcooldown h.cooldown
    rw [Findings.change?_activate_of_not htold hown hnot]
    rfl
  | stale now hcooldown id hid hstale =>
    have hnot : ¬ k.Activatable r entry := by
      intro h
      rcases h.current with hnone | hsame
      · cases hid.symm.trans hnone
      · exact hstale (Option.some.inj (hid.symm.trans hsame))
    rw [Findings.change?_activate_of_not htold hown hnot]
    rfl
  | refused now hcooldown hid f =>
    obtain rfl := hnow now halong.1
    rw [Findings.change?_activate_of_activatable htold hown ⟨hstatus, hcooldown, hcurrent hid⟩]
    rfl
  | unsaved now hcooldown hid receipt f =>
    obtain rfl := hnow now halong.1
    rw [Findings.change?_activate_of_activatable htold hown ⟨hstatus, hcooldown, hcurrent hid⟩]
    rfl
  | activated now hcooldown hid receipt =>
    obtain rfl := hnow now halong.1
    rw [Findings.change?_activate_of_activatable htold hown ⟨hstatus, hcooldown, hcurrent hid⟩]
    rfl

theorem ActivateCourse.deals {o : Except Failure ActivateOutcome} (h : ActivateCourse l t o)
    (halong : Plan.Along (Site.answer c l.store) t s s') :
    Deals l (s.findings l c) .activate (dealings t) := by
  cases h with
  | unread f => exact .unowned halong.1 (fun r h => by cases h)
  | absent => exact .unowned halong.1 (fun r h => by cases h)
  | foreign r haddress =>
    refine .unowned halong.1 ?_
    rintro r' ⟨⟩
    exact haddress
  | unanswered r haddress f =>
    obtain ⟨hload, hentry, -⟩ := halong
    refine .owned hload haddress (t := []) hentry ?_
    rw [Findings.change?_untold hentry]
    rfl
  | unregistered r haddress entry hstatus =>
    obtain ⟨hload, hentry, -⟩ := halong
    exact .ended hload haddress hentry (by rw [hstatus]; decide)
  | kept r haddress entry hstatus hstamp =>
    obtain ⟨hload, hentry, -⟩ := halong
    exact .ended hload haddress hentry (by rw [hstatus]; decide)
  | stamped r haddress entry hstatus hstamp now o =>
    obtain ⟨hload, hentry, -⟩ := halong
    exact .ended hload haddress hentry (by rw [hstatus]; decide)
  | registered r haddress entry hstatus t o hactivate =>
    obtain ⟨hload, hentry, hrest⟩ := halong
    exact .owned hload haddress hentry
      (hactivate.deals (own?_findings hload haddress) hentry hstatus hrest rfl)

theorem deals_perform (l : Lifecycle) (c : Coordinator κ) (s : Site κ) (call : Call) :
    Deals l ((s.showing call.instant).findings l c) call.operation
      (dealings (s.transcript l c call)) := by
  have hcourse := Site.course_perform (l := l) (c := c) s call
  have halong := Site.along_perform (l := l) (c := c) s call
  obtain ⟨operation, instant⟩ := call
  cases operation with
  | register =>
    obtain ⟨o, hregister, -⟩ := Act.course_map.1 hcourse
    exact (registerCourse hregister).deals halong
  | activate =>
    obtain ⟨o, hactivate, -⟩ := Act.course_map.1 hcourse
    exact (activateCourse hactivate).deals halong
  | deactivate =>
    obtain ⟨o, hdeactivate, -⟩ := Act.course_map.1 hcourse
    exact (deactivateCourse hdeactivate).deals halong
  | status =>
    obtain ⟨o, hstatus, -⟩ := Act.course_map.1 hcourse
    exact (statusCourse hstatus).deals halong

end

/-! ## Failures -/

/-- A failure that an operation ends in of its own accord. -/
inductive Complaint : Failure → Prop
  | misdirected (reason : String) : Complaint (.internal reason)
  | unregistered (address : String) : Complaint (.notRegistered address)
  | foreign (reason : String) : Complaint (.settings reason)
  | unusable (reason : String) : Complaint (.record reason)
  | early (remaining : Nat) : Complaint (.cooldownPending remaining)

/-- The failure that a question is answered with. -/
def failure? : Exchange Surroundings → Option Failure
  | ⟨.entryOf _, .error f⟩ => some f
  | ⟨.register _, .error f⟩ => some f
  | ⟨.activate _ _, .error f⟩ => some f
  | ⟨.deactivate _, .error f⟩ => some f
  | ⟨.load, .error f⟩ => some f
  | ⟨.save _, .error f⟩ => some f
  | ⟨.clear, .error f⟩ => some f
  | _ => none

def Blames (t : Transcript) (f : Failure) : Prop :=
  ∃ e ∈ t, failure? e = some f

section

variable {l : Lifecycle} {t : Transcript} {f : Failure}

theorem Blames.head {e : Exchange Surroundings} (h : failure? e = some f) : Blames (e :: t) f :=
  ⟨e, List.mem_cons_self, h⟩

theorem Blames.tail {e : Exchange Surroundings} (h : Blames t f) : Blames (e :: t) f := by
  obtain ⟨e', he', hf⟩ := h
  exact ⟨e', List.mem_cons_of_mem e he', hf⟩

theorem RefreshCourse.blames {entry : Node.Entry} (h : RefreshCourse l entry t (.error f)) :
    Blames t f := by
  cases h with
  | unread => exact .head rfl
  | stamped r hr hactive hstamp now => exact .tail (.tail (.head rfl))
  | restored found hfound now record hrecord => exact .tail (.tail (.head rfl))

theorem RegisterCourse.blames (h : RegisterCourse l t (.error f)) : Complaint f ∨ Blames t f := by
  generalize ho : (Except.error f : Except Failure RegisterOutcome) = o at h
  cases h with
  | unanswered f' =>
    cases ho
    exact .inr (.head rfl)
  | refreshed entry hstatus t o hrefresh =>
    cases o with
    | ok done => cases ho
    | error f' =>
      cases ho
      exact .inr hrefresh.blames.tail.tail
  | refused entry hstatus f' =>
    cases ho
    exact .inr (.tail (.head rfl))
  | misdirected entry hstatus receipt haddress =>
    cases ho
    exact .inl (.misdirected _)
  | unsaved entry hstatus receipt haddress f' =>
    cases ho
    exact .inr (.tail (.tail (.head rfl)))
  | registered entry hstatus receipt haddress => cases ho

theorem ActivateRegisteredCourse.blames {r : Record} {entry : Node.Entry}
    (h : ActivateRegisteredCourse l r entry t (.error f)) : Complaint f ∨ Blames t f := by
  generalize ho : (Except.error f : Except Failure ActivateOutcome) = o at h
  cases h with
  | cooling now hcooldown =>
    cases ho
    exact .inl (.early _)
  | stale now hcooldown id hid hstale =>
    cases ho
    exact .inl (.unusable _)
  | refused now hcooldown hid f' =>
    cases ho
    exact .inr (.tail (.head rfl))
  | unsaved now hcooldown hid receipt f' =>
    cases ho
    exact .inr (.tail (.tail (.head rfl)))
  | activated now hcooldown hid receipt => cases ho

theorem ActivateCourse.blames (h : ActivateCourse l t (.error f)) : Complaint f ∨ Blames t f := by
  generalize ho : (Except.error f : Except Failure ActivateOutcome) = o at h
  cases h with
  | unread f' =>
    cases ho
    exact .inr (.head rfl)
  | absent =>
    cases ho
    exact .inl (.unregistered _)
  | foreign r haddress =>
    cases ho
    exact .inl (.foreign _)
  | unanswered r haddress f' =>
    cases ho
    exact .inr (.tail (.head rfl))
  | unregistered r haddress entry hstatus =>
    cases ho
    exact .inl (.unregistered _)
  | kept r haddress entry hstatus hstamp => cases ho
  | stamped r haddress entry hstatus hstamp now o =>
    cases o with
    | ok done => cases ho
    | error f' =>
      cases ho
      exact .inr (.tail (.tail (.tail (.tail (.head rfl)))))
  | registered r haddress entry hstatus t o hactivate =>
    subst ho
    exact hactivate.blames.imp_right fun h => h.tail.tail

theorem DeactivateCourse.blames (h : DeactivateCourse l t (.error f)) : Blames t f := by
  generalize ho : (Except.error f : Except Failure DeactivateOutcome) = o at h
  cases h with
  | unanswered f' =>
    cases ho
    exact .head rfl
  | forgotten entry hstatus o =>
    cases o with
    | ok done => cases ho
    | error f' =>
      cases ho
      exact .tail (.tail (.head rfl))
  | refused entry hstatus f' =>
    cases ho
    exact .tail (.head rfl)
  | uncleared entry hstatus updated f' =>
    cases ho
    exact .tail (.tail (.head rfl))
  | deactivated entry hstatus updated => cases ho

theorem StatusCourse.blames (h : StatusCourse l t (.error f)) : Blames t f := by
  cases h with
  | unanswered => exact .head rfl
  | unread entry => exact .tail (.head rfl)

/-- An operation fails of its own accord, or as it was answered. -/
theorem complaint_or_blames {operation : Operation}
    (h : Course (l.perform operation) t (.error f)) : Complaint f ∨ Blames t f := by
  cases operation with
  | register => exact (registerCourse (Act.course_map_error.1 h)).blames
  | activate => exact (activateCourse (Act.course_map_error.1 h)).blames
  | deactivate => exact .inr (deactivateCourse (Act.course_map_error.1 h)).blames
  | status => exact .inr (statusCourse (Act.course_map_error.1 h)).blames

end

section

variable {κ : Type} {c : Coordinator κ} {store : Store} {f : Failure}

/-- The store fails with one kind of failure. -/
theorem complaint_of_answer {s : Site κ} {e : Exchange Surroundings}
    (hreply : (Site.answer c store e.request s).1 = e.reply) (hf : failure? e = some f)
    (hstore : e.request.isForCoordinator = false) : Complaint f := by
  have hunusable : (∃ reason, f = .record reason) → Complaint f := by
    rintro ⟨reason, rfl⟩
    exact .unusable reason
  obtain ⟨q, reply⟩ := e
  cases q with
  | load =>
    cases reply with
    | ok found => cases hf
    | error f' =>
      cases hf
      exact hunusable (Store.failure_of_load hreply)
  | save r =>
    cases reply with
    | ok done => cases hf
    | error f' =>
      cases hf
      exact hunusable (Store.failure_of_save hreply)
  | clear =>
    cases reply with
    | ok done => cases hf
    | error f' =>
      cases hf
      exact hunusable (Store.failure_of_clear hreply)
  | entryOf a => cases hstore
  | register r => cases hstore
  | activate a r => cases hstore
  | deactivate a => cases hstore
  | now => cases hf
  | note e => cases hf

/-- A call fails of its own accord, or as the coordinator answered it. -/
theorem complaint_or_blame {l : Lifecycle} {s : Site κ} {call : Call}
    (h : (s.perform l c call).1 = .error f) :
    Complaint f ∨ Blames (dealings (s.transcript l c call)) f := by
  have hcourse := Site.course_perform (l := l) (c := c) s call
  have halong := Site.along_perform (l := l) (c := c) s call
  rw [h] at hcourse
  rcases complaint_or_blames hcourse with hown | ⟨e, he, hf⟩
  · exact .inl hown
  cases hfor : e.request.isForCoordinator with
  | true => exact .inr ⟨e, mem_dealings.2 ⟨he, hfor⟩, hf⟩
  | false =>
    obtain ⟨m, hreply⟩ := halong.answered he
    exact .inl (complaint_of_answer hreply hf hfor)

end

/-! ## The discipline -/

/-- What a call asks of the coordinator, and what comes of it, is in order for what it finds. -/
structure Disciplined (l : Lifecycle) (operation : Operation) (k : Findings) (t : Transcript)
    (o : Except Failure Outcome) : Prop where
  /-- The entry is asked for first, and then at most one change, which is one that a node with this
  entry may go through. -/
  order : dealings t = [] ∨ dealings t = [⟨.entryOf l.address, k.told⟩] ∨
    ∃ entry change goal, k.told = .ok entry ∧
      dealings t = [⟨.entryOf l.address, .ok entry⟩, change] ∧
      change.request.goal? = some goal ∧ entry.status.canBecome goal = true
  registers : ∀ request, (∃ reply, ⟨.register request, reply⟩ ∈ t) ↔
    operation = .register ∧ request = l.registration ∧
      ∃ entry, k.told = .ok entry ∧ entry.status = .inactive
  activates : ∀ address request, (∃ reply, ⟨.activate address request, reply⟩ ∈ t) ↔
    operation = .activate ∧ address = l.address ∧
      ∃ r entry, k.found = .ok (some r) ∧ r.address = l.address ∧ k.told = .ok entry ∧
        k.Activatable r entry ∧ request = ⟨r.registrationId⟩
  deactivates : ∀ address, (∃ reply, ⟨.deactivate address, reply⟩ ∈ t) ↔
    operation = .deactivate ∧ address = l.address ∧
      ∃ entry, k.told = .ok entry ∧ entry.status ≠ .inactive
  silent : operation = .activate → (∀ r, k.found = .ok (some r) → r.address ≠ l.address) →
    dealings t = []
  reports : operation = .status → dealings t = [⟨.entryOf l.address, k.told⟩]
  /-- That a change is not allowed is only passed on. -/
  transitions : ∀ source target, o = .error (.invalidTransition source target) →
    Blames (dealings t) (.invalidTransition source target)

section

variable {l : Lifecycle} {k : Findings} {operation : Operation} {t : Transcript}

/-- What is asked for is the change, if there is one to ask for. -/
theorem Deals.mem_iff (h : Deals l k operation (dealings t)) {q : Step} {goal : Node.Status}
    (hgoal : q.goal? = some goal) :
    (∃ reply, ⟨q, reply⟩ ∈ t) ↔ k.change? l operation = some q := by
  have hdeals : (∃ reply, ⟨q, reply⟩ ∈ t) ↔ q ∈ (dealings t).map Exchange.request := by
    constructor
    · rintro ⟨reply, hmem⟩
      exact List.mem_map.2
        ⟨_, mem_dealings.2 ⟨hmem, Step.isForCoordinator_of_goal hgoal⟩, rfl⟩
    · intro hmem
      obtain ⟨⟨q', reply⟩, hexchange, rfl⟩ := List.mem_map.1 hmem
      exact ⟨reply, (mem_dealings.1 hexchange).1⟩
  rw [hdeals]
  generalize dealings t = u at h
  cases h with
  | silent hoperation hown =>
    constructor
    · rintro ⟨⟩
    · intro hchange
      obtain ⟨entry, -, ⟨hother, -⟩ | ⟨hother, -⟩ | ⟨-, r, hr, -⟩⟩ :=
        Findings.change?_eq_some.1 hchange
      · cases hother.symm.trans hoperation
      · cases hother.symm.trans hoperation
      · cases hown.symm.trans hr
  | asking hown told htold t ht =>
    have hne : q ≠ .entryOf l.address := by
      rintro rfl
      cases hgoal
    rw [List.map_cons, ht, List.mem_cons, Option.mem_toList]
    exact or_iff_right hne

theorem Deals.no_change (h : Deals l k operation (dealings t))
    (hnone : k.change? l operation = none) {e : Exchange Surroundings} (he : e ∈ t) :
    e.request.goal? = none := by
  cases hgoal : e.request.goal? with
  | none => rfl
  | some goal => cases hnone.symm.trans ((h.mem_iff hgoal).1 ⟨e.reply, he⟩)

theorem Deals.order (h : Deals l k operation t) :
    t = [] ∨ t = [⟨.entryOf l.address, k.told⟩] ∨
      ∃ entry change goal, k.told = .ok entry ∧ t = [⟨.entryOf l.address, .ok entry⟩, change] ∧
        change.request.goal? = some goal ∧ entry.status.canBecome goal = true := by
  cases h with
  | silent => exact .inl rfl
  | asking hown told htold t ht =>
    right
    cases hchange : k.change? l operation with
    | none =>
      rw [hchange] at ht
      obtain rfl := List.map_eq_nil_iff.1 ht
      exact .inl (by rw [htold])
    | some q =>
      obtain ⟨entry, goal, hentry, hgoal, hbecomes⟩ := Findings.canBecome_of_change hchange
      obtain rfl : told = .ok entry := htold.symm.trans hentry
      rw [hchange] at ht
      obtain ⟨change, rest, rfl, rfl, hrest⟩ := List.map_eq_cons_iff.1 ht
      obtain rfl := List.map_eq_nil_iff.1 hrest
      exact .inr ⟨entry, change, goal, htold, rfl, hgoal, hbecomes⟩

end

/-- Whatever a coordinator answers, whatever is recorded and whatever the clock shows: a call asks
the coordinator for its entry first and then for at most one change, exactly when the entry, the
record and the clock allow it. -/
theorem calls_disciplined {κ : Type} (l : Lifecycle) (c : Coordinator κ) (s : Site κ) (call : Call) :
    Disciplined l call.operation ((s.showing call.instant).findings l c) (s.transcript l c call)
      (s.perform l c call).1 := by
  have hdeals := deals_perform l c s call
  generalize (s.showing call.instant).findings l c = k at hdeals
  refine ⟨hdeals.order, ?_, ?_, ?_, ?_, ?_, ?_⟩
  · intro request
    rw [hdeals.mem_iff rfl, Findings.change?_eq_some]
    constructor
    · rintro ⟨entry, htold, ⟨hregister, hstatus, ⟨⟩⟩ | ⟨-, -, ⟨⟩⟩ | ⟨-, r, -, -, ⟨⟩⟩⟩
      exact ⟨hregister, rfl, entry, htold, hstatus⟩
    · rintro ⟨hregister, rfl, entry, htold, hstatus⟩
      exact ⟨entry, htold, .inl ⟨hregister, hstatus, rfl⟩⟩
  · intro address request
    rw [hdeals.mem_iff rfl, Findings.change?_eq_some]
    constructor
    · rintro ⟨entry, htold, ⟨-, -, ⟨⟩⟩ | ⟨-, -, ⟨⟩⟩ | ⟨hactivate, r, hown, hr, ⟨⟩⟩⟩
      obtain ⟨hfound, haddress⟩ := Findings.own?_eq_some.1 hown
      exact ⟨hactivate, rfl, r, entry, hfound, haddress, htold, hr, rfl⟩
    · rintro ⟨hactivate, rfl, r, entry, hfound, haddress, htold, hr, rfl⟩
      have hown := Findings.own?_eq_some.2 ⟨hfound, haddress⟩
      exact ⟨entry, htold, .inr (.inr ⟨hactivate, r, hown, hr, rfl⟩)⟩
  · intro address
    rw [hdeals.mem_iff rfl, Findings.change?_eq_some]
    constructor
    · rintro ⟨entry, htold, ⟨-, -, ⟨⟩⟩ | ⟨hdeactivate, hstatus, ⟨⟩⟩ | ⟨-, r, -, -, ⟨⟩⟩⟩
      exact ⟨hdeactivate, rfl, entry, htold, hstatus⟩
    · rintro ⟨hdeactivate, rfl, entry, htold, hstatus⟩
      exact ⟨entry, htold, .inr (.inl ⟨hdeactivate, hstatus, rfl⟩)⟩
  · intro hactivate hforeign
    have hown : k.own? l = none := by
      refine Option.eq_none_iff_forall_not_mem.2 fun r hr => ?_
      obtain ⟨hfound, haddress⟩ := Findings.own?_eq_some.1 hr
      exact hforeign r hfound haddress
    generalize dealings (s.transcript l c call) = u at hdeals
    cases hdeals with
    | silent => rfl
    | asking hsome told htold u hu => exact absurd hown (hsome hactivate)
  · intro hreport
    rw [hreport] at hdeals
    generalize dealings (s.transcript l c call) = u at hdeals
    cases hdeals with
    | silent hactivate => cases hactivate
    | asking hsome told htold u hu =>
      rw [Findings.change?_status] at hu
      obtain rfl := List.map_eq_nil_iff.1 hu
      rw [htold]
  · intro source target hfailed
    rcases complaint_or_blame hfailed with hown | hblames
    · cases hown
    · exact hblames

end Enrollment.Lifecycle
