import Enrollment.Proofs.Lifecycle.Discipline
import Enrollment.Proofs.Lifecycle.Progress
import Enrollment.Proofs.Node.Cooldown
/-!
# What a report says of activating

A report and an activation look at the clock on their own. Where both find the same entry, and a record of
the node, the seconds that the report tells are those for which an activation at the same instant is refused;
and who waits for them is not refused, but who comes a second earlier is.

Results:
 1. `StatusCourse.report`: what a report tells.
 2. `ActivateRegisteredCourse.decides`: an activation of a registered node is refused for what is left of the
    cooldown, or asked for if nothing is left.
 3. `status_forecasts_activate`: so the one tells of the other.
-/

namespace Enrollment.Lifecycle

open Registration (Record Store)
open Node (Entry)

variable {κ κ' : Type} {l : Lifecycle} {c : Coordinator κ} {c' : Coordinator κ'} {t : Transcript}
  {s s₂ : Site κ} {s' : Site κ'} {entry : Entry} {now : Instant} {n : Nat}

/-! ## Reporting -/

/-- What a report tells, from what it finds. -/
theorem StatusCourse.report {o : Except Failure StatusReport} (h : StatusCourse l t o)
    (halong : Plan.Along (Site.answer c l.store) t s s₂) {found : Option Record}
    (hfound : (s.findings l c).found = .ok found) (htold : (s.findings l c).told = .ok entry) :
    o = .ok ⟨entry, found,
      if entry.status = .registered then entry.cooldownRemaining s.clock else 0⟩ := by
  have hentry : ∀ {told}, (Site.answer c l.store (.entryOf l.address) s).1 = told → told = .ok entry :=
    fun h => h.symm.trans htold
  have hload : ∀ {o}, (Site.answer c l.store .load
      (Site.answer c l.store (.entryOf l.address) s).2).1 = o → o = .ok found :=
    fun h => h.symm.trans hfound
  cases h with
  | unanswered f => cases hentry halong.1
  | unread entry' f => cases hload halong.2.1
  | cooling entry' hstatus found' now =>
    obtain ⟨htold, hread, hnow, -⟩ := halong
    cases hentry htold
    cases hload hread
    obtain rfl : now = s.clock := hnow.symm
    rw [if_pos hstatus]
  | settled entry' hstatus found' =>
    obtain ⟨htold, hread, -⟩ := halong
    cases hentry htold
    cases hload hread
    rw [if_neg hstatus]

/-! ## Activating -/

/-- Activating a registered node with a record of its registration is refused for what is left of the
cooldown; if nothing is left, the coordinator is asked. -/
theorem ActivateRegisteredCourse.decides {r : Record} {o : Except Failure ActivateOutcome}
    (h : ActivateRegisteredCourse l r entry t o) (halong : Plan.Along (Site.answer c l.store) t s s₂)
    (hid : ∀ id, entry.registrationId = some id → id = r.registrationId) :
    (0 < entry.cooldownRemaining s.clock ∧
      o = .error (.cooldownPending (entry.cooldownRemaining s.clock)) ∧
      ∀ e ∈ t, e.request.goal? = none) ∨
    (entry.cooldownRemaining s.clock = 0 ∧ ∃ e ∈ t, e.request.goal? = some .active) := by
  have hnow : ∀ {i}, (Site.answer c l.store .now s).1 = i → i = s.clock := fun h => h.symm
  cases h with
  | cooling now hcooldown =>
    cases hnow halong.1
    refine .inl ⟨hcooldown, rfl, fun e he => ?_⟩
    rw [List.mem_singleton.1 he]
    rfl
  | stale now hcooldown id hsome hstale => exact absurd (hid id hsome) hstale
  | refused now hcooldown hsame f =>
    cases hnow halong.1
    exact .inr ⟨hcooldown, _, .tail _ (.head _), rfl⟩
  | unsaved now hcooldown hsame receipt f =>
    cases hnow halong.1
    exact .inr ⟨hcooldown, _, .tail _ (.head _), rfl⟩
  | activated now hcooldown hsame receipt =>
    cases hnow halong.1
    exact .inr ⟨hcooldown, _, .tail _ (.head _), rfl⟩

/-- The coordinator is not asked to change anything, and nothing fails for a cooldown. -/
def Unhurried (t : Transcript) (o : Except Failure ActivateOutcome) : Prop :=
  (∀ e ∈ t, e.request.goal? = none) ∧ ∀ n, o ≠ .error (.cooldownPending n)

/-- What an activation does that reads a record of the node and is told an entry. -/
theorem ActivateCourse.known {o : Except Failure ActivateOutcome} (h : ActivateCourse l t o)
    (halong : Plan.Along (Site.answer c l.store) t s s₂) {r : Record}
    (hown : (s.findings l c).own? l = some r) (htold : (s.findings l c).told = .ok entry) :
    (entry.status = .registered ∧ ∃ t', ActivateRegisteredCourse l r entry t' o ∧
      t = ⟨.load, .ok (some r)⟩ :: ⟨.entryOf l.address, .ok entry⟩ :: t' ∧
      ∃ s₁ : Site κ, s₁.clock = s.clock ∧ Plan.Along (Site.answer c l.store) t' s₁ s₂) ∨
    (entry.status ≠ .registered ∧ Unhurried t o) := by
  obtain ⟨hfound, hsame⟩ := Findings.own?_eq_some.1 hown
  have hload : ∀ {found}, (Site.answer c l.store .load s).1 = found → found = .ok (some r) :=
    fun h => h.symm.trans hfound
  have hentry : ∀ {told}, (Site.answer c l.store (.entryOf l.address)
      (Site.answer c l.store .load s).2).1 = told → told = .ok entry :=
    fun h => h.symm.trans htold
  cases h with
  | unread f => cases hload halong.1
  | absent => cases hload halong.1
  | foreign r' haddress =>
    cases hload halong.1
    exact absurd hsame haddress
  | unanswered r' haddress f => cases hentry halong.2.1
  | unregistered r' haddress entry' hstatus =>
    cases hentry halong.2.1
    refine .inr ⟨by rw [hstatus]; decide, by simp [Step.goal?], ?_⟩
    rintro n ⟨⟩
  | kept r' haddress entry' hstatus hstamp =>
    cases hentry halong.2.1
    refine .inr ⟨by rw [hstatus]; decide, by simp [Step.goal?], ?_⟩
    rintro n ⟨⟩
  | stamped r' haddress entry' hstatus hstamp now o =>
    obtain ⟨-, htold, -, -, hsave, -⟩ := halong
    cases hentry htold
    refine .inr ⟨by rw [hstatus]; decide, by simp [Step.goal?], ?_⟩
    rintro n hn
    -- What cannot be written is told by the store, which knows no cooldown.
    cases o with
    | ok done => cases hn
    | error f =>
      obtain ⟨reason, rfl⟩ := Store.failure_of_save hsave
      cases hn
  | registered r' haddress entry' hstatus t' o hactivate =>
    obtain ⟨hread, htold, hrest⟩ := halong
    cases hload hread
    cases hentry htold
    refine .inl ⟨hstatus, t', hactivate, rfl, _, ?_, hrest⟩
    rfl

namespace Site

/-- At a site the coordinator tells an entry and a record of the node is read. If the entry is one of a
registered node, the record is not known to be one of another registration. -/
structure Knows (s : Site κ) (l : Lifecycle) (c : Coordinator κ) (entry : Entry) : Prop where
  told : (s.findings l c).told = .ok entry
  own : ∃ r, (s.findings l c).own? l = some r ∧
    (entry.status = .registered → ∀ id, entry.registrationId = some id → id = r.registrationId)

/-- A report at an instant tells that so many seconds are left. -/
def Reports (s : Site κ) (l : Lifecycle) (c : Coordinator κ) (now : Instant) (n : Nat) : Prop :=
  ∃ report : StatusReport, (s.perform l c ⟨.status, now⟩).1 = .ok (.status report) ∧
    report.cooldownRemaining = n

/-- An activation at an instant asks the coordinator to activate the node. -/
def Asks (s : Site κ) (l : Lifecycle) (c : Coordinator κ) (now : Instant) : Prop :=
  ∃ e ∈ s.transcript l c ⟨.activate, now⟩, e.request.goal? = some .active

/-- An activation at an instant fails because so many seconds are left, and the coordinator is not asked
to activate the node. -/
structure IsRefused (s : Site κ) (l : Lifecycle) (c : Coordinator κ) (now : Instant) (n : Nat) : Prop where
  failure : (s.perform l c ⟨.activate, now⟩).1 = .error (.cooldownPending n)
  silent : ¬ s.Asks l c now

/-- What a report tells at a site. -/
theorem reports_iff (h : s.Knows l c entry) : s.Reports l c now n ↔
    n = if entry.status = .registered then entry.cooldownRemaining now else 0 := by
  obtain ⟨r, hown, -⟩ := h.own
  obtain ⟨o, hstatus, ho⟩ := Act.course_map.1 (course_perform (l := l) (c := c) s ⟨.status, now⟩)
  have halong := along_perform (l := l) (c := c) s ⟨.status, now⟩
  have hreport := (statusCourse hstatus).report halong (Findings.own?_eq_some.1 hown).1 h.told
  have hclock : (s.showing now).clock = now := rfl
  rw [hreport, hclock] at ho
  constructor
  · rintro ⟨report, hperform, rfl⟩
    cases hperform.symm.trans ho
    rfl
  · intro hn
    exact ⟨_, ho, hn.symm⟩

/-- An activation of a registered node is refused for what is left of the cooldown, or asked for. -/
theorem activation_decides (h : s.Knows l c entry) (hstatus : entry.status = .registered)
    (now : Instant) :
    (0 < entry.cooldownRemaining now ∧ s.IsRefused l c now (entry.cooldownRemaining now)) ∨
      (entry.cooldownRemaining now = 0 ∧ s.Asks l c now) := by
  obtain ⟨r, hown, hid⟩ := h.own
  obtain ⟨o, hactivate, ho⟩ := Act.course_map.1 (course_perform (l := l) (c := c) s ⟨.activate, now⟩)
  have halong := along_perform (l := l) (c := c) s ⟨.activate, now⟩
  rcases (activateCourse hactivate).known halong hown h.told with
    ⟨-, t', hcourse, ht, s₁, hclock, hrest⟩ | ⟨hne, -⟩
  · obtain hclock : s₁.clock = now := hclock
    have hdecides := hcourse.decides hrest (hid hstatus)
    rw [hclock] at hdecides
    have hasks : s.Asks l c now ↔ ∃ e ∈ t', e.request.goal? = some .active := by
      unfold Asks
      rw [ht]
      simp [Step.goal?]
    rcases hdecides with ⟨hpos, rfl, hsilent⟩ | ⟨hzero, hasked⟩
    · refine .inl ⟨hpos, ho, fun hasked => ?_⟩
      obtain ⟨e, he, hgoal⟩ := hasks.1 hasked
      cases (hsilent e he).symm.trans hgoal
    · exact .inr ⟨hzero, hasks.2 hasked⟩
  · exact absurd hstatus hne

/-- An activation of a node that is not registered is neither refused for a cooldown nor asked for. -/
theorem activation_of_ne (h : s.Knows l c entry) (hstatus : entry.status ≠ .registered) (now : Instant) :
    ¬ s.Asks l c now ∧ ∀ n, (s.perform l c ⟨.activate, now⟩).1 ≠ .error (.cooldownPending n) := by
  obtain ⟨r, hown, -⟩ := h.own
  obtain ⟨o, hactivate, ho⟩ := Act.course_map.1 (course_perform (l := l) (c := c) s ⟨.activate, now⟩)
  have halong := along_perform (l := l) (c := c) s ⟨.activate, now⟩
  rcases (activateCourse hactivate).known halong hown h.told with ⟨hsame, -⟩ | ⟨-, hsilent, hfails⟩
  · exact absurd hsame hstatus
  · constructor
    · rintro ⟨e, he, hgoal⟩
      cases (hsilent e he).symm.trans hgoal
    · intro n hn
      rw [ho] at hn
      cases o with
      | ok outcome => cases hn
      | error f =>
        cases hn
        exact hfails n rfl

variable (h : s.Knows l c entry) (hstatus : entry.status = .registered)

include h hstatus

theorem isRefused_iff (hn : 0 < n) : s.IsRefused l c now n ↔ entry.cooldownRemaining now = n := by
  rcases activation_decides h hstatus now with ⟨-, hrefused⟩ | ⟨hzero, hasks⟩
  · constructor
    · intro h
      cases h.failure.symm.trans hrefused.failure
      rfl
    · rintro rfl
      exact hrefused
  · rw [hzero]
    exact iff_of_false (fun h => h.silent hasks) hn.ne

theorem asks_iff : s.Asks l c now ↔ entry.cooldownRemaining now = 0 := by
  rcases activation_decides h hstatus now with ⟨hpos, hrefused⟩ | ⟨hzero, hasks⟩
  · exact iff_of_false hrefused.silent hpos.ne'
  · exact iff_of_true hasks hzero

end Site

/-! ## One tells of the other -/

/-- What reports at a site tell of activations at a site, if both find the same entry. -/
structure Forecasts (l : Lifecycle) (c : Coordinator κ) (c' : Coordinator κ') (entry : Entry) (s : Site κ)
    (s' : Site κ') : Prop where
  reports : ∀ now, ∃ n, s.Reports l c now n
  refused_iff : ∀ now n, 0 < n → (s.Reports l c now n ↔ s'.IsRefused l c' now n)
  asks_iff : ∀ now, s.Reports l c now 0 ↔ s'.Asks l c' now
  later : ∀ start now later : Instant, entry.cooldownStart = some start → start.isLeap = false →
    now.isLeap = false → later.isLeap = false → start.nanoCount ≤ now.nanoCount →
    ∀ n, s.Reports l c now n → now.nanoCount + n * 1000000000 ≤ later.nanoCount → s'.Asks l c' later
  early : ∀ start now later : Instant, entry.cooldownStart = some start → start.isLeap = false →
    now.isLeap = false → later.isLeap = false → start.nanoCount ≤ now.nanoCount →
    ∀ n, s.Reports l c now n → now.nanoCount ≤ later.nanoCount →
    later.nanoCount ≤ now.nanoCount + ((n : Int) - 1) * 1000000000 →
    ∃ m, 0 < m ∧ s'.IsRefused l c' later m

theorem forecasts_of_knows (h : s.Knows l c entry) (h' : s'.Knows l c' entry)
    (hstatus : entry.status = .registered) : Forecasts l c c' entry s s' := by
  have hreports : ∀ {now n}, s.Reports l c now n ↔ n = entry.cooldownRemaining now := by
    intro now n
    rw [Site.reports_iff h, if_pos hstatus]
  constructor
  case reports => exact fun now => ⟨_, hreports.2 rfl⟩
  case refused_iff =>
    intro now n hn
    rw [hreports, Site.isRefused_iff h' hstatus hn, eq_comm]
  case asks_iff =>
    intro now
    rw [hreports, Site.asks_iff h' hstatus, eq_comm]
  case later =>
    intro start now later hstart hs hnow hlater hle n hn hpassed
    obtain rfl := hreports.1 hn
    exact (Site.asks_iff h' hstatus).2
      (Entry.cooldownRemaining_of_passed hstart hs hnow hlater hle hpassed)
  case early =>
    intro start now later hstart hs hnow hlater hle n hn hbehind hearly
    obtain rfl := hreports.1 hn
    have hpos := Entry.cooldownRemaining_pos_of_early hstart hs hnow hlater hle hbehind hearly
    exact ⟨_, hpos, (Site.isRefused_iff h' hstatus hpos).2 rfl⟩

/-- Where a report and an activation find the same entry and a record of the node: of a registered node, a
report tells for how many seconds an activation is refused, and of any other that nothing is left, and an
activation is neither refused for a cooldown nor asked for. -/
theorem status_forecasts_activate (l : Lifecycle) (c : Coordinator κ) (c' : Coordinator κ') (s : Site κ)
    (s' : Site κ') {entry : Entry} (h : s.Knows l c entry) (h' : s'.Knows l c' entry) :
    (entry.status = .registered → Forecasts l c c' entry s s') ∧
      (entry.status ≠ .registered → ∀ now,
        (∀ n, s.Reports l c now n ↔ n = 0) ∧ ¬ s'.Asks l c' now ∧
        ∀ n, (s'.perform l c' ⟨.activate, now⟩).1 ≠ .error (.cooldownPending n)) := by
  refine ⟨forecasts_of_knows h h', fun hstatus now => ⟨fun n => ?_, Site.activation_of_ne h' hstatus now⟩⟩
  rw [Site.reports_iff h, if_neg hstatus]

namespace Sample

/-- A coordinator for one node, with a cooldown of a minute and a half. -/
abbrev cooling : Coordinator Ledger :=
  ledger owner "reg-1" 90

/-- So many seconds and a quarter past the noon when the node was registered. -/
def pastNoon (seconds : Nat) (h : seconds < 43200) : Instant :=
  ⟨noon.day, noon.second + seconds, 750000000, noon.firstDay_le, noon.le_lastDay,
    Nat.add_lt_add_left h 43200, by decide, fun h => absurd h (by decide)⟩

theorem knows_registered :
    registered.Knows home cooling (Ledger.entry owner "reg-1" 90 ⟨.registered, noon⟩) where
  told := rfl
  own := by
    have hload := Site.answer_load (c := cooling) (s := registered) (by decide +kernel) loaded_registered
    exact ⟨_, own?_findings (congrArg Prod.fst hload) rfl, fun _ _ h => (Option.some.inj h).symm⟩

end Sample

/-- A quarter of a second past its start a minute and a half is told, for which an activation is refused; so
it is a second earlier than that later, and then it is asked for. -/
theorem sample_status_forecasts :
    Sample.registered.Knows Sample.home Sample.cooling
        (Ledger.entry Sample.owner "reg-1" 90 ⟨.registered, Sample.noon⟩) ∧
      Sample.registered.Reports Sample.home Sample.cooling (Sample.pastNoon 0 (by decide)) 90 ∧
      Sample.registered.IsRefused Sample.home Sample.cooling (Sample.pastNoon 0 (by decide)) 90 ∧
      (∃ m, 0 < m ∧
        Sample.registered.IsRefused Sample.home Sample.cooling (Sample.pastNoon 89 (by decide)) m) ∧
      Sample.registered.Asks Sample.home Sample.cooling (Sample.pastNoon 90 (by decide)) := by
  have hknows := Sample.knows_registered
  obtain ⟨hregistered, -⟩ := status_forecasts_activate Sample.home Sample.cooling Sample.cooling
    Sample.registered Sample.registered hknows hknows
  have hforecasts := hregistered rfl
  have hreports : Sample.registered.Reports Sample.home Sample.cooling
      (Sample.pastNoon 0 (by decide)) 90 :=
    (Site.reports_iff hknows).2 (by decide +kernel)
  refine ⟨hknows, hreports, (hforecasts.refused_iff _ _ (by decide)).1 hreports, ?_, ?_⟩
  · exact hforecasts.early Sample.noon _ _ rfl rfl rfl rfl (by decide +kernel) 90 hreports
      (by decide +kernel) (by decide +kernel)
  · exact hforecasts.later Sample.noon _ _ rfl rfl rfl rfl (by decide +kernel) 90 hreports
      (by decide +kernel)

end Enrollment.Lifecycle
