import Enrollment.Proofs.Lifecycle.Progress
import Enrollment.Proofs.Plan.Sharing
/-!
# Registrations at the same time

Any number of runs that register one node, with one coordinator and one file for the record. Between
any two questions of a run the others may go on, so what a run was told may be out of date when it
acts on it: it may be refused, or find a record that was not there when it looked, or write one over
that of another run.

The coordinator decides which of the registrations counts. From then on it tells of that one only, and
every record that a run writes stems from its receipt or from an entry that tells of it.

Results:
 1. `RegisterCourse.backed`: what registering writes stems from a receipt or from an entry.
 2. `standing_along`: what is accepted and told, turn by turn.
 3. `recorded_along`: what is recorded, turn by turn.
 4. `race_registers_once`: all of it for any number of runs, in any order.
-/

namespace Enrollment.Lifecycle

open Registration (Record Store Receipt)
open Plan (Turn Shared AlongTurns Coherent)

/-! ## Registrars -/

/-- A coordinator that registers a node once, under an identifier that can be seen from its state. -/
structure Registrar {κ : Type} (c : Coordinator κ) (a : Address) (current : κ → Option String) :
    Prop where
  address : ∀ {k entry}, (c.entryOf a k).1 = .ok entry → entry.address = a
  /-- It tells that the node is registered only under the identifier that was issued. -/
  tells : ∀ {k entry}, (c.entryOf a k).1 = .ok entry → entry.status ≠ .inactive →
    current k ≠ none ∧ entry.registrationId = current k
  keeps : ∀ k, current (c.entryOf a k).2 = current k
  registers : ∀ {k q receipt}, q.address = a → (c.register q k).1 = .ok receipt →
    current k = none ∧ receipt.address = a ∧
      current (c.register q k).2 = some receipt.registrationId
  refuses : ∀ {k q f}, q.address = a → (c.register q k).1 = .error f →
    current (c.register q k).2 = current k

theorem Lawful.registrar {κ : Type} {c : Coordinator κ} {a : Address} {view : κ → Node.Entry}
    (h : Lawful c a view) :
    Registrar c a fun k =>
      if (view k).status = .inactive then none else (view k).registrationId where
  address {k entry} htold := by
    rw [h.tells htold]
    exact h.address k
  tells {k entry} htold hstatus := by
    obtain rfl := h.tells htold
    rw [if_neg hstatus]
    exact ⟨h.identified k hstatus, rfl⟩
  keeps k := by
    rw [h.keeps]
  registers {k q receipt} hq hreceipt := by
    obtain ⟨hinactive, haddress, hregistered, hid⟩ := h.registers hq hreceipt
    refine ⟨if_pos hinactive, haddress, ?_⟩
    rw [hregistered, if_neg (by decide)]
    exact hid
  refuses {k q f} _ hrefused := by
    rw [h.refusesRegister hrefused]

/-! ## What registering writes -/

/-- A record stems from a receipt, or from an entry of a node that is registered or active. -/
inductive Stems (t : Transcript) (r : Record) : Prop
  | receipt (q : Registration.Request) (receipt : Receipt) (hmem : ⟨.register q, .ok receipt⟩ ∈ t)
      (haddress : r.address = receipt.address) (hid : r.registrationId = receipt.registrationId)
  | entry (a : Address) (entry : Node.Entry) (hmem : ⟨.entryOf a, .ok entry⟩ ∈ t)
      (hstatus : entry.status ≠ .inactive) (haddress : r.address = entry.address)
      (hid : ∀ id, entry.registrationId = some id → id = r.registrationId)

/-- What registering a node may ask, after it was answered something. -/
def Justified (a : Address) (t : Transcript) : Step → Prop
  | .entryOf b => b = a
  | .register q => q.address = a
  | .save r => Stems t r
  | .activate _ _ => False
  | .deactivate _ => False
  | .clear => False
  | _ => True

/-- Everything that is asked is justified by what was answered before it. -/
def Backed (a : Address) : Transcript → Transcript → Prop
  | _, [] => True
  | past, e :: t => Justified a past e.request ∧ Backed a (past ++ [e]) t

section

variable {a : Address} {l : Lifecycle} {past t u : Transcript}

theorem Stems.mono {r : Record} (h : Stems t r) (hsub : ∀ e ∈ t, e ∈ u) : Stems u r := by
  cases h with
  | receipt q receipt hmem haddress hid => exact .receipt q receipt (hsub _ hmem) haddress hid
  | entry a entry hmem hstatus haddress hid =>
    exact .entry a entry (hsub _ hmem) hstatus haddress hid

theorem Justified.mono {q : Step} (h : Justified a t q) (hsub : ∀ e ∈ t, e ∈ u) :
    Justified a u q := by
  cases q with
  | save r => exact Stems.mono h hsub
  | entryOf b => exact h
  | register q => exact h
  | activate b q => exact h
  | deactivate b => exact h
  | load => exact h
  | clear => exact h
  | now => exact h
  | note e => exact h

/-- What is asked in the beginning is justified by what was answered before it in the beginning. -/
theorem Backed.of_prefix (h : Backed a past t) (hu : u <+: t) : Backed a past u := by
  induction u generalizing past t with
  | nil => trivial
  | cons e u ih =>
    obtain ⟨rest, rfl, hrest⟩ := List.cons_prefix_iff.1 hu
    exact ⟨h.1, ih h.2 hrest⟩

theorem Backed.justified (h : Backed a past t) {e : Exchange Surroundings} (he : e ∈ t) :
    Justified a (past ++ t) e.request := by
  induction t generalizing past with
  | nil => cases he
  | cons e' t ih =>
    rcases List.mem_cons.1 he with rfl | he
    · exact h.1.mono fun e' he' => List.mem_append_left _ he'
    · rw [List.append_cons]
      exact ih h.2 he

theorem of_isRecordOf {r : Record} {entry : Node.Entry} (h : isRecordOf r entry = true) :
    r.address = entry.address ∧ ∀ id, entry.registrationId = some id → id = r.registrationId := by
  obtain ⟨haddress, hid⟩ := Bool.and_eq_true_iff.1 h
  refine ⟨of_decide_eq_true haddress, ?_⟩
  intro id htold
  rw [htold] at hid
  exact of_decide_eq_true hid

theorem RefreshCourse.backed {b : Address} {entry : Node.Entry} {o : Except Failure Unit}
    (h : RefreshCourse l entry t o) (htold : ⟨.entryOf b, .ok entry⟩ ∈ past)
    (hstatus : entry.status ≠ .inactive) : Backed a past t := by
  cases h with
  | unread f => exact ⟨trivial, trivial⟩
  | kept r hr hstamp => exact ⟨trivial, trivial⟩
  | stamped r hr hactive hstamp now o =>
    refine ⟨trivial, trivial, ?_, trivial⟩
    obtain ⟨haddress, hid⟩ := of_isRecordOf hr
    exact .entry b entry (by simp [htold]) hstatus haddress hid
  | unidentified found hfound hid now => exact ⟨trivial, trivial, trivial, trivial⟩
  | restored found hfound now record hrecord o =>
    refine ⟨trivial, trivial, ?_, trivial⟩
    obtain ⟨haddress, hid, -⟩ := restored_eq hrecord
    refine .entry b entry (by simp [htold]) hstatus haddress ?_
    intro id hid'
    exact Option.some.inj (hid'.symm.trans hid)

theorem RegisterCourse.backed {o : Except Failure RegisterOutcome} (h : RegisterCourse l t o) :
    Backed l.address [] t := by
  cases h with
  | unanswered f => exact ⟨rfl, trivial⟩
  | refreshed entry hstatus t o hrefresh =>
    exact ⟨rfl, trivial, hrefresh.backed (b := l.address) List.mem_cons_self hstatus⟩
  | refused entry hstatus f => exact ⟨rfl, rfl, trivial⟩
  | misdirected entry hstatus receipt haddress => exact ⟨rfl, rfl, trivial⟩
  | unsaved entry hstatus receipt haddress f =>
    exact ⟨rfl, rfl, .receipt l.registration receipt (by simp) rfl rfl, trivial⟩
  | registered entry hstatus receipt haddress =>
    exact ⟨rfl, rfl, .receipt l.registration receipt (by simp) rfl rfl, trivial, trivial⟩

end

/-! ## What is accepted -/

def accepted? : Exchange Surroundings → Option Receipt
  | ⟨.register _, .ok receipt⟩ => some receipt
  | _ => none

/-- The receipts of the registrations that were accepted, in order. -/
def accepted (t : Transcript) : List Receipt :=
  t.filterMap accepted?

theorem mem_accepted {t : Transcript} {q : Registration.Request} {receipt : Receipt}
    (h : ⟨.register q, .ok receipt⟩ ∈ t) : receipt ∈ accepted t :=
  List.mem_filterMap.2 ⟨_, h, rfl⟩

/-- Either nothing was issued and accepted, or one registration was. -/
inductive Standing (a : Address) : Option String → List Receipt → Prop
  | vacant : Standing a none []
  | taken (receipt : Receipt) (haddress : receipt.address = a) :
      Standing a (some receipt.registrationId) [receipt]

theorem Standing.issued {a : Address} {current : Option String} {receipts : List Receipt}
    (h : Standing a current receipts) (hissued : current ≠ none) :
    ∃ receipt ∈ receipts, current = some receipt.registrationId := by
  cases h with
  | vacant => exact absurd rfl hissued
  | taken receipt haddress => exact ⟨receipt, List.mem_singleton_self receipt, rfl⟩

theorem Standing.of_mem {a : Address} {current : Option String} {receipts : List Receipt}
    (h : Standing a current receipts) {receipt : Receipt} (hmem : receipt ∈ receipts) :
    receipts = [receipt] ∧ receipt.address = a := by
  cases h with
  | vacant => cases hmem
  | taken receipt' haddress =>
    obtain rfl := List.mem_singleton.1 hmem
    exact ⟨rfl, haddress⟩

theorem Standing.length_le_one {a : Address} {current : Option String} {receipts : List Receipt}
    (h : Standing a current receipts) : receipts.length ≤ 1 := by
  cases h with
  | vacant => exact Nat.zero_le 1
  | taken receipt haddress => exact Nat.le_refl 1

/-- What is told of a node that is registered is what was accepted. -/
def Attested (a : Address) (receipts : List Receipt) (e : Exchange Surroundings) : Prop :=
  ∀ b entry, e = ⟨.entryOf b, .ok entry⟩ → entry.address = a ∧
    (entry.status ≠ .inactive →
      ∃ receipt ∈ receipts, entry.registrationId = some receipt.registrationId)

theorem Attested.mono {a : Address} {receipts receipts' : List Receipt} {e : Exchange Surroundings}
    (h : Attested a receipts e) (hsub : ∀ receipt ∈ receipts, receipt ∈ receipts') :
    Attested a receipts' e := by
  intro b entry he
  obtain ⟨haddress, hid⟩ := h b entry he
  refine ⟨haddress, fun hstatus => ?_⟩
  obtain ⟨receipt, hmem, hsame⟩ := hid hstatus
  exact ⟨receipt, hsub receipt hmem, hsame⟩

/-- Answers a question of one of many runs, at an instant. -/
def Site.answerAt {κ : Type} (c : Coordinator κ) (store : Store) (instant : Instant) (q : Step)
    (s : Site κ) : q.Answer × Site κ :=
  Site.answer c store q (s.showing instant)

section

variable {κ : Type} {c : Coordinator κ} {a : Address} {current : κ → Option String} {store : Store}
  {turns : List (Turn Surroundings Instant)} {s s' : Site κ} {past : Transcript}

variable {instant : Instant} {e : Exchange Surroundings}

theorem standing_answer (hregistrar : Registrar c a current) {receipts : List Receipt}
    (h : Standing a (current s.coordinator) receipts) (hjustified : Justified a past e.request)
    (hreply : (Site.answerAt c store instant e.request s).1 = e.reply) :
    Standing a (current (Site.answerAt c store instant e.request s).2.coordinator)
      (receipts ++ (accepted? e).toList) ∧ Attested a receipts e := by
  obtain ⟨q, reply⟩ := e
  -- Only what is asked of the coordinator matters.
  have hother : accepted? ⟨q, reply⟩ = none → (∀ b, q ≠ .entryOf b) →
      (Site.answerAt c store instant q s).2.coordinator = s.coordinator →
      Standing a (current (Site.answerAt c store instant q s).2.coordinator)
        (receipts ++ (accepted? ⟨q, reply⟩).toList) ∧ Attested a receipts ⟨q, reply⟩ := by
    intro hnone hentry hsame
    rw [hnone, hsame, Option.toList_none, List.append_nil]
    refine ⟨h, ?_⟩
    rintro b entry ⟨⟩
    exact absurd rfl (hentry b)
  cases q with
  | entryOf b =>
    obtain rfl : b = a := hjustified
    constructor
    · show Standing b (current (c.entryOf b s.coordinator).2) (receipts ++ [])
      rw [hregistrar.keeps, List.append_nil]
      exact h
    · rintro b' entry ⟨⟩
      refine ⟨hregistrar.address hreply, fun hstatus => ?_⟩
      obtain ⟨hissued, hid⟩ := hregistrar.tells hreply hstatus
      rw [hid]
      exact h.issued hissued
  | register q =>
    refine ⟨?_, fun b entry he => by cases he⟩
    show Standing a (current (c.register q s.coordinator).2) _
    cases reply with
    | error f =>
      have hrefused : (c.register q s.coordinator).1 = .error f := hreply
      show Standing a _ (receipts ++ [])
      rw [hregistrar.refuses hjustified hrefused, List.append_nil]
      exact h
    | ok receipt =>
      have haccepted : (c.register q s.coordinator).1 = .ok receipt := hreply
      obtain ⟨hvacant, haddress, hissued⟩ := hregistrar.registers hjustified haccepted
      rw [hvacant] at h
      rw [hissued]
      cases h with
      | vacant => exact .taken receipt haddress
  | activate b q => exact hjustified.elim
  | deactivate b => exact hjustified.elim
  | clear => exact hjustified.elim
  | load => exact hother rfl (fun b => Step.noConfusion) rfl
  | save r => exact hother rfl (fun b => Step.noConfusion) rfl
  | now => exact hother rfl (fun b => Step.noConfusion) rfl
  | note e => exact hother rfl (fun b => Step.noConfusion) rfl

theorem standing_along (hregistrar : Registrar c a current) {receipts : List Receipt}
    (h : Standing a (current s.coordinator) receipts)
    (hjustified : ∀ e ∈ Plan.exchanges turns, Justified a past e.request)
    (halong : AlongTurns (Site.answerAt c store) turns s s') :
    Standing a (current s'.coordinator) (receipts ++ accepted (Plan.exchanges turns)) ∧
      ∀ e ∈ Plan.exchanges turns, Attested a (receipts ++ accepted (Plan.exchanges turns)) e := by
  -- What was attested before a receipt is attested after it: receipts are only added.
  induction turns generalizing s receipts with
  | nil =>
    obtain rfl : s' = s := halong
    refine ⟨?_, fun e he => by cases he⟩
    show Standing a _ (receipts ++ [])
    rw [List.append_nil]
    exact h
  | cons turn turns ih =>
    obtain ⟨hreply, hrest⟩ := halong
    obtain ⟨hnext, hattested⟩ :=
      standing_answer hregistrar h (hjustified turn.exchange List.mem_cons_self) hreply
    have hsplit : receipts ++ accepted (Plan.exchanges (turn :: turns)) =
        receipts ++ (accepted? turn.exchange).toList ++ accepted (Plan.exchanges turns) := by
      rw [List.append_assoc, accepted, Plan.exchanges, List.map_cons, List.filterMap_cons]
      cases accepted? turn.exchange <;> rfl
    obtain ⟨hstanding, hlater⟩ :=
      ih hnext (fun e he => hjustified e (List.mem_cons_of_mem _ he)) hrest
    rw [hsplit]
    refine ⟨hstanding, ?_⟩
    intro e he
    rcases List.mem_cons.1 he with rfl | he
    · refine hattested.mono fun receipt hmem => ?_
      rw [List.append_assoc]
      exact List.mem_append_left _ hmem
    · exact hlater e he

/-! ## What is recorded -/

def Recorded (store : Store) (P : Record → Prop) (s : Site κ) : Prop :=
  ∃ r, s.loaded store = .ok (some r) ∧ P r

/-- An exchange that shows that there is a record with a property. -/
inductive Shows (P : Record → Prop) : Exchange Surroundings → Prop
  | saved (r : Record) (hr : P r) : Shows P ⟨.save r, .ok ()⟩
  | loaded (r : Record) (hr : P r) : Shows P ⟨.load, .ok (some r)⟩

variable {P : Record → Prop}

theorem recorded_of_shows (h : Shows P e)
    (hreply : (Site.answerAt c store instant e.request s).1 = e.reply) :
    Recorded store P (Site.answerAt c store instant e.request s).2 := by
  cases h with
  | saved r hr => exact ⟨r, Site.loaded_of_saved hreply, hr⟩
  | loaded r hr =>
    obtain ⟨hsame, hloaded⟩ := Site.loaded_of_load (s := s.showing instant) hreply
    exact ⟨r, hsame.trans (hloaded _ rfl), hr⟩

theorem recorded_answer (h : Recorded store P s) (hclears : e.request ≠ .clear)
    (hsaves : ∀ r, e.request = .save r → P r) (hwrites : failsToWrite e = false)
    (hreply : (Site.answerAt c store instant e.request s).1 = e.reply) :
    Recorded store P (Site.answerAt c store instant e.request s).2 := by
  obtain ⟨r, hloaded, hr⟩ := h
  have hafter := Site.loaded_of_answer (s := s.showing instant) hreply hwrites
  cases hkept : kept e with
  | none =>
    rw [hkept] at hafter
    exact ⟨r, hafter.trans hloaded, hr⟩
  | some found =>
    rw [hkept] at hafter
    obtain ⟨q, reply⟩ := e
    cases q with
    | save r' =>
      cases reply with
      | ok done =>
        cases hkept
        exact ⟨r', hafter, hsaves r' rfl⟩
      | error f => cases hkept
    | clear => exact absurd rfl hclears
    | entryOf b => cases hkept
    | register q => cases hkept
    | activate b q => cases hkept
    | deactivate b => cases hkept
    | load => cases hkept
    | now => cases hkept
    | note e => cases hkept

/-- A record with a property stays, or is shown in some turn, if only such records are written. -/
theorem recorded_along (hclears : ∀ e ∈ Plan.exchanges turns, e.request ≠ .clear)
    (hsaves : ∀ e ∈ Plan.exchanges turns, ∀ r, e.request = .save r → P r)
    (hwrites : ∀ e ∈ Plan.exchanges turns, failsToWrite e = false)
    (halong : AlongTurns (Site.answerAt c store) turns s s')
    (h : Recorded store P s ∨ ∃ e ∈ Plan.exchanges turns, Shows P e) : Recorded store P s' := by
  induction turns generalizing s with
  | nil =>
    obtain rfl : s' = s := halong
    rcases h with h | ⟨e, he, -⟩
    · exact h
    · cases he
  | cons turn turns ih =>
    obtain ⟨hreply, hrest⟩ := halong
    refine ih (fun e he => hclears e (List.mem_cons_of_mem _ he))
      (fun e he => hsaves e (List.mem_cons_of_mem _ he))
      (fun e he => hwrites e (List.mem_cons_of_mem _ he)) hrest ?_
    rcases h with h | ⟨e, he, hshows⟩
    · exact .inl (recorded_answer h (hclears _ List.mem_cons_self) (hsaves _ List.mem_cons_self)
        (hwrites _ List.mem_cons_self) hreply)
    · rcases List.mem_cons.1 he with rfl | he
      · exact .inl (recorded_of_shows hshows hreply)
      · exact .inr ⟨e, he, hshows⟩

end

/-! ## What comes of a run -/

def RegisterOutcome.registrationId? : RegisterOutcome → Option String
  | .registered receipt => some receipt.registrationId
  | .alreadyRegistered entry => entry.registrationId
  | .alreadyActive entry => entry.registrationId

/-- A record of a node and of a registration that was accepted. -/
structure Genuine (a : Address) (receipt : Receipt) (r : Record) : Prop where
  address : r.address = a
  id : r.registrationId = receipt.registrationId

theorem registrationId?_refreshed (entry : Node.Entry) :
    (refreshed entry).registrationId? = entry.registrationId := by
  rw [refreshed]
  split <;> rfl

/-- A refreshed record is shown to be the one of the registration that the entry tells of. -/
theorem RefreshCourse.shows {l : Lifecycle} {entry : Node.Entry} {t : Transcript}
    (h : RefreshCourse l entry t (.ok ())) {a : Address} {receipt : Receipt}
    (haddress : entry.address = a) (hid : entry.registrationId = some receipt.registrationId) :
    ∃ e ∈ t, Shows (Genuine a receipt) e := by
  have hgenuine : ∀ r, isRecordOf r entry = true → Genuine a receipt r := by
    intro r hr
    obtain ⟨hown, hsame⟩ := (isRecordOf_iff hid).1 hr
    exact ⟨hown.trans haddress, hsame.symm⟩
  cases h with
  | kept r hr hstamp => exact ⟨_, List.mem_cons_self, .loaded r (hgenuine r hr)⟩
  | stamped r hr hactive hstamp now =>
    exact ⟨_, by simp, .saved { r with activatedAt := some now } (hgenuine _ hr)⟩
  | unidentified found hfound hnone now => cases hid.symm.trans hnone
  | restored found hfound now record hrecord =>
    obtain ⟨hown, hsame, -⟩ := restored_eq hrecord
    exact ⟨_, by simp, .saved record (hgenuine record ((isRecordOf_iff hsame).2 ⟨hown, rfl⟩))⟩

section

variable {a : Address} {current : Option String} {receipts : List Receipt} {t : Transcript}
  (hstanding : Standing a current receipts) (hattested : ∀ e ∈ t, Attested a receipts e)
  (haccepted : ∀ q receipt, ⟨.register q, .ok receipt⟩ ∈ t → receipt ∈ receipts)

include hstanding hattested

theorem accepted_of_told {b : Address} {entry : Node.Entry} (htold : ⟨.entryOf b, .ok entry⟩ ∈ t)
    (hstatus : entry.status ≠ .inactive) :
    ∃ receipt, receipts = [receipt] ∧ entry.address = a ∧
      entry.registrationId = some receipt.registrationId := by
  obtain ⟨haddress, hid⟩ := hattested _ htold b entry rfl
  obtain ⟨receipt, hmem, hsame⟩ := hid hstatus
  exact ⟨receipt, (hstanding.of_mem hmem).1, haddress, hsame⟩

include haccepted

theorem genuine_of_stems {r : Record} (h : Stems t r) :
    ∃ receipt, receipts = [receipt] ∧ Genuine a receipt r := by
  cases h with
  | receipt q receipt hmem haddress hid =>
    obtain ⟨hone, hown⟩ := hstanding.of_mem (haccepted q receipt hmem)
    exact ⟨receipt, hone, haddress.trans hown, hid⟩
  | entry b entry hmem hstatus haddress hid =>
    obtain ⟨receipt, hone, hown, hsame⟩ := accepted_of_told hstanding hattested hmem hstatus
    exact ⟨receipt, hone, haddress.trans hown, (hid _ hsame).symm⟩

/-- A run that succeeds reports the registration that was accepted, and shows that it is recorded. -/
theorem RegisterCourse.reports {l : Lifecycle} {o : RegisterOutcome}
    (h : RegisterCourse l t (.ok o)) :
    ∃ receipt, receipts = [receipt] ∧ o.registrationId? = some receipt.registrationId ∧
      ∃ e ∈ t, Shows (Genuine a receipt) e := by
  cases h.success with
  | refreshed entry hstatus t hrefresh =>
    obtain ⟨receipt, hone, haddress, hid⟩ :=
      accepted_of_told hstanding hattested List.mem_cons_self hstatus
    obtain ⟨e, he, hshows⟩ := hrefresh.shows haddress hid
    refine ⟨receipt, hone, (registrationId?_refreshed entry).trans hid, e, ?_, hshows⟩
    exact List.mem_cons_of_mem _ (List.mem_cons_of_mem _ he)
  | registered entry hstatus receipt haddress =>
    have hmem := haccepted l.registration receipt (by simp)
    obtain ⟨hone, hown⟩ := hstanding.of_mem hmem
    have hgenuine : Genuine a receipt (Record.ofReceipt receipt l.coordinatorUrl) := ⟨hown, rfl⟩
    exact ⟨receipt, hone, rfl, _, by simp, .saved _ hgenuine⟩

end

/-! ## The race -/

/-- Registers a node in several runs, which take their turns as a schedule has it. -/
def race {κ : Type} (c : Coordinator κ) (store : Store) (ls : List Lifecycle) (s : Site κ)
    (schedule : List (Nat × Instant)) :
    Shared Surroundings (Except Failure RegisterOutcome) (Site κ) Instant :=
  (Shared.start (ls.map fun l => l.register.run) s).after (Site.answerAt c store) schedule

section

variable {κ : Type} {c : Coordinator κ} {store : Store} {ls : List Lifecycle} {s : Site κ}
  {w : Shared Surroundings (Except Failure RegisterOutcome) (Site κ) Instant}
  (hcoherent : Coherent (Site.answerAt c store) (ls.map fun l => l.register.run) s w)

include hcoherent

/-- Whatever a run has asked so far, it has asked in one of its courses. -/
theorem justified_of_coherent {a : Address} (hnode : ∀ l ∈ ls, l.address = a) :
    ∀ e ∈ Plan.exchanges w.turns, Justified a (Plan.exchanges w.turns) e.request := by
  intro e he
  obtain ⟨turn, hturn, rfl⟩ := List.mem_map.1 he
  obtain ⟨p, hp⟩ := hcoherent.known turn hturn
  obtain ⟨l, hl, rfl⟩ := List.mem_map.1 (List.mem_of_getElem? hp)
  obtain ⟨t, o, hprefix, hcourse⟩ := hcoherent.begins hp (Site.answer c store) s
  have hbacked := (registerCourse hcourse).backed.of_prefix hprefix
  rw [hnode l hl] at hbacked
  have hown := hbacked.justified (Plan.mem_own.2 ⟨turn, hturn, rfl, rfl⟩)
  exact hown.mono fun e he => Plan.exchanges_of_own he

/-- What a run that has come to its end has asked is one of its courses. -/
theorem course_of_ended {i : Nat} {o : Except Failure RegisterOutcome}
    (hdone : w.plans[i]? = some (Plan.done o)) :
    ∃ l, RegisterCourse l (Plan.own i w.turns) o := by
  have hi : i < (ls.map fun l => l.register.run).length := by
    rw [← hcoherent.length]
    exact (List.getElem?_eq_some_iff.1 hdone).1
  have hcourse := hcoherent.course_of_done (List.getElem?_eq_getElem hi) hdone
  rw [List.getElem_map] at hcourse
  exact ⟨_, registerCourse hcourse⟩

end

/-- However many runs register one node, with one store, and in whatever order their questions are
answered: if the node was not registered before, at most one registration is accepted. A run that
succeeds reports the identifier of this one, and from then on the record is one of this node with
this identifier, whatever was recorded before. -/
theorem race_registers_once {κ : Type} (c : Coordinator κ) (store : Store) (a : Address)
    (ls : List Lifecycle) (hnode : ∀ l ∈ ls, l.address = a) (current : κ → Option String)
    (hregistrar : Registrar c a current) (s : Site κ) (hvacant : current s.coordinator = none)
    (schedule : List (Nat × Instant))
    (hwrites : ∀ e ∈ Plan.exchanges (race c store ls s schedule).turns, failsToWrite e = false) :
    (accepted (Plan.exchanges (race c store ls s schedule).turns)).length ≤ 1 ∧
    ∀ (i : Nat) (o : RegisterOutcome),
      (race c store ls s schedule).plans[i]? = some (Plan.done (Except.ok o)) →
      ∃ receipt, accepted (Plan.exchanges (race c store ls s schedule).turns) = [receipt] ∧
        o.registrationId? = some receipt.registrationId ∧
        ∃ r, (race c store ls s schedule).state.loaded store = .ok (some r) ∧
          r.address = a ∧ r.registrationId = receipt.registrationId := by
  have hcoherent : Coherent (Site.answerAt c store) (ls.map fun l => l.register.run) s
      (race c store ls s schedule) := Plan.coherent_after (Plan.coherent_start _ s) schedule
  generalize race c store ls s schedule = w at hwrites hcoherent ⊢
  have hjustified := justified_of_coherent hcoherent hnode
  have hstart : Standing a (current s.coordinator) [] := by
    rw [hvacant]
    exact .vacant
  obtain ⟨hstanding, hattested⟩ := standing_along hregistrar hstart hjustified hcoherent.along
  rw [List.nil_append] at hstanding hattested
  refine ⟨hstanding.length_le_one, ?_⟩
  intro i o hdone
  obtain ⟨l, hcourse⟩ := course_of_ended hcoherent hdone
  obtain ⟨receipt, hone, hid, e, he, hshows⟩ := hcourse.reports hstanding
    (fun e he => hattested e (Plan.exchanges_of_own he))
    (fun q receipt he => mem_accepted (Plan.exchanges_of_own he))
  refine ⟨receipt, hone, hid, ?_⟩
  -- Whichever run wrote a record, from whatever it had seen by then, it is one of the accepted receipt.
  have hgenuine : ∀ e ∈ Plan.exchanges w.turns, ∀ r, e.request = .save r →
      Genuine a receipt r := by
    intro e he r hr
    have hstems := hjustified e he
    rw [hr] at hstems
    obtain ⟨receipt', hone', hgenuine⟩ :=
      genuine_of_stems hstanding hattested (fun q receipt he => mem_accepted he) hstems
    rw [hone] at hone'
    obtain rfl := List.head_eq_of_cons_eq hone'
    exact hgenuine
  have hclears : ∀ e ∈ Plan.exchanges w.turns, e.request ≠ .clear := by
    intro e he hclear
    have hnever := hjustified e he
    rw [hclear] at hnever
    exact hnever
  obtain ⟨r, hloaded, hr⟩ := recorded_along hclears hgenuine hwrites hcoherent.along
    (.inr ⟨e, Plan.exchanges_of_own he, hshows⟩)
  exact ⟨r, hloaded, hr.address, hr.id⟩

namespace Sample

/-- Three runs: the first two are told that the node is inactive, and the second is refused; the third
looks for the record before the first has written it, and writes its own over it. -/
def contest : List (Nat × Instant) :=
  [0, 1, 0, 1, 2, 2, 2, 0, 2, 2, 0].map fun i => (i, noon)

def contested : Shared Surroundings (Except Failure RegisterOutcome) (Site Ledger) Instant :=
  race registry home.store [home, { home with version := "0.2.0" }, home] fresh contest

end Sample

/-- The third run succeeds with the registration of the first, and it is recorded. -/
theorem sample_race_registers_once :
    (accepted (Plan.exchanges Sample.contested.turns)).length ≤ 1 ∧
    Sample.contested.plans[2]? =
      some (Plan.done (.ok (.alreadyRegistered (Sample.entry ⟨.registered, Sample.noon⟩)))) ∧
    ∃ r, Sample.contested.state.loaded Sample.home.store = .ok (some r) ∧
      r.address = Sample.owner ∧ r.registrationId = "reg-1" := by
  have hlawful : Lawful Sample.registry Sample.owner Sample.entry := lawful_ledger _ _ _
  have hnode : ∀ l ∈ [Sample.home, { Sample.home with version := "0.2.0" }, Sample.home],
      l.address = Sample.owner := by decide
  obtain ⟨hlength, hruns⟩ := race_registers_once Sample.registry Sample.home.store Sample.owner _
    hnode _ hlawful.registrar Sample.fresh rfl Sample.contest (by decide +kernel)
  have hthird : Sample.contested.plans[2]? = some (Plan.done (Except.ok
      (RegisterOutcome.alreadyRegistered (Sample.entry ⟨.registered, Sample.noon⟩)))) := rfl
  obtain ⟨receipt, -, hid, r, hloaded, haddress, hsame⟩ := hruns 2 _ hthird
  refine ⟨hlength, hthird, r, hloaded, haddress, hsame.trans ?_⟩
  exact (Option.some.inj hid).symm

end Enrollment.Lifecycle
