import Enrollment.Lifecycle.Operations
import Enrollment.Proofs.Plan.Transcript
/-!
# The courses of the operations

Every course that an operation of a lifecycle can take, whatever is answered: what is asked in which
order, what is answered, and what comes of it. Each operation has one relation, with one constructor
for each way through it, and one lemma that there is no other way.

Results:
 1. `refreshCourse`, `registerCourse`, `activateCourse`, `deactivateCourse`, `statusCourse`: an
    operation takes one of its courses.
 2. `RegisterCourse.success`, `ActivateCourse.success`, `DeactivateCourse.success`: the courses that
    end well.
-/

namespace Enrollment.Lifecycle

open Registration (Record)

/-- What an operation asks and is answered, in order. -/
abbrev Transcript := List (Exchange Surroundings)

namespace Act

variable {α β : Type}

/-- What a computation may ask and be answered, and what then comes of it. -/
def Course (x : Act α) (t : Transcript) (o : Except Failure α) : Prop :=
  Plan.Course x.run t o

theorem course_pure {a : α} {t : Transcript} {o : Except Failure α} :
    Course (pure a) t o ↔ t = [] ∧ o = .ok a :=
  Plan.course_done

theorem course_throw {f : Failure} {t : Transcript} {o : Except Failure α} :
    Course (throw f) t o ↔ t = [] ∧ o = .error f :=
  Plan.course_done

theorem course_bind {x : Act α} {k : α → Act β} {t : Transcript} {o : Except Failure β} :
    Course (x >>= k) t o ↔
      (∃ f, Course x t (.error f) ∧ o = .error f) ∨
      ∃ t₁ t₂ a, t = t₁ ++ t₂ ∧ Course x t₁ (.ok a) ∧ Course (k a) t₂ o := by
  constructor
  · intro h
    obtain ⟨t₁, t₂, a, rfl, hx, hk⟩ := Plan.course_bind.1 h
    cases a with
    | ok a => exact .inr ⟨t₁, t₂, a, rfl, hx, hk⟩
    | error f =>
      obtain ⟨rfl, rfl⟩ := Plan.course_done.1 hk
      exact .inl ⟨f, by rw [List.append_nil]; exact hx, rfl⟩
  · rintro (⟨f, hx, rfl⟩ | ⟨t₁, t₂, a, rfl, hx, hk⟩)
    · exact Plan.course_bind.2 ⟨t, [], .error f, (List.append_nil t).symm, hx, .done _⟩
    · exact Plan.course_bind.2 ⟨t₁, t₂, .ok a, rfl, hx, hk⟩

theorem course_map {f : α → β} {x : Act α} {t : Transcript} {o : Except Failure β} :
    Course (f <$> x) t o ↔ ∃ o', Course x t o' ∧ o = o'.map f := by
  rw [map_eq_pure_bind, course_bind]
  constructor
  · rintro (⟨e, hx, rfl⟩ | ⟨t₁, t₂, a, rfl, hx, hk⟩)
    · exact ⟨.error e, hx, rfl⟩
    · obtain ⟨rfl, rfl⟩ := course_pure.1 hk
      rw [List.append_nil]
      exact ⟨.ok a, hx, rfl⟩
  · rintro ⟨o', hx, rfl⟩
    cases o' with
    | error e => exact .inl ⟨e, hx, rfl⟩
    | ok a => exact .inr ⟨t, [], a, (List.append_nil t).symm, hx, course_pure.2 ⟨rfl, rfl⟩⟩

theorem course_map_ok {f : α → β} {x : Act α} {t : Transcript} {b : β} :
    Course (f <$> x) t (.ok b) ↔ ∃ a, Course x t (.ok a) ∧ b = f a := by
  rw [course_map]
  constructor
  · rintro ⟨o, hx, ho⟩
    cases o with
    | error e => cases ho
    | ok a =>
      cases ho
      exact ⟨a, hx, rfl⟩
  · rintro ⟨a, hx, rfl⟩
    exact ⟨.ok a, hx, rfl⟩

theorem course_map_error {f : α → β} {x : Act α} {t : Transcript} {e : Failure} :
    Course (f <$> x) t (.error e) ↔ Course x t (.error e) := by
  rw [course_map]
  constructor
  · rintro ⟨o, hx, ho⟩
    cases o with
    | error e' =>
      cases ho
      exact hx
    | ok a => cases ho
  · intro hx
    exact ⟨.error e, hx, rfl⟩

theorem course_entryOf {a : Address} {t : Transcript} {o : Except Failure Node.Entry} :
    Course (entryOf a) t o ↔ t = [⟨.entryOf a, o⟩] :=
  Plan.course_request

theorem course_register {r : Registration.Request} {t : Transcript}
    {o : Except Failure Registration.Receipt} : Course (register r) t o ↔ t = [⟨.register r, o⟩] :=
  Plan.course_request

theorem course_activate {a : Address} {r : Activation.Request} {t : Transcript}
    {o : Except Failure Activation.Receipt} :
    Course (activate a r) t o ↔ t = [⟨.activate a r, o⟩] :=
  Plan.course_request

theorem course_deactivate {a : Address} {t : Transcript} {o : Except Failure Node.Entry} :
    Course (deactivate a) t o ↔ t = [⟨.deactivate a, o⟩] :=
  Plan.course_request

theorem course_load {t : Transcript} {o : Except Failure (Option Record)} :
    Course load t o ↔ t = [⟨.load, o⟩] :=
  Plan.course_request

theorem course_save {r : Record} {t : Transcript} {o : Except Failure Unit} :
    Course (save r) t o ↔ t = [⟨.save r, o⟩] :=
  Plan.course_request

theorem course_clear {t : Transcript} {o : Except Failure Unit} :
    Course clear t o ↔ t = [⟨.clear, o⟩] :=
  Plan.course_request

/-- A question whose answer is no failure. -/
theorem course_lift {r : Step} {t : Transcript} {o : Except Failure r.Answer} :
    Course (ExceptT.lift (Plan.request (I := Surroundings) r)) t o ↔
      ∃ a, t = [⟨r, a⟩] ∧ o = .ok a := by
  constructor
  · intro h
    obtain ⟨t₁, t₂, a, rfl, h₁, h₂⟩ := Plan.course_bind.1 h
    obtain rfl := Plan.course_request.1 h₁
    obtain ⟨rfl, rfl⟩ := Plan.course_done.1 h₂
    exact ⟨a, rfl, rfl⟩
  · rintro ⟨a, rfl, rfl⟩
    exact .ask (I := Surroundings) (r := r) a (.done _)

theorem course_now {t : Transcript} {o : Except Failure Instant} :
    Course now t o ↔ ∃ i, t = [⟨.now, i⟩] ∧ o = .ok i :=
  course_lift

theorem course_note {level : Log.Level} {message : String} {fields : List (String × String)}
    {t : Transcript} {o : Except Failure Unit} :
    Course (note level message fields) t o ↔
      t = [⟨.note ⟨level, message, fields⟩, ()⟩] ∧ o = .ok () := by
  constructor
  · intro h
    obtain ⟨_, rfl, rfl⟩ := course_lift.1 h
    exact ⟨rfl, rfl⟩
  · rintro ⟨rfl, rfl⟩
    exact course_lift.2 ⟨(), rfl, rfl⟩

theorem course_now_bind {k : Instant → Act β} {t : Transcript} {o : Except Failure β} :
    Course (now >>= k) t o ↔ ∃ i t', t = ⟨.now, i⟩ :: t' ∧ Course (k i) t' o := by
  rw [course_bind]
  constructor
  · rintro (⟨f, hnow, -⟩ | ⟨t₁, t₂, i, rfl, hnow, hk⟩)
    · obtain ⟨_, -, h⟩ := course_now.1 hnow
      cases h
    · obtain ⟨_, rfl, h⟩ := course_now.1 hnow
      cases h
      exact ⟨i, t₂, rfl, hk⟩
  · rintro ⟨i, t', rfl, hk⟩
    exact .inr ⟨[⟨.now, i⟩], t', i, rfl, course_now.2 ⟨i, rfl, rfl⟩, hk⟩

theorem course_note_bind {level : Log.Level} {message : String} {fields : List (String × String)}
    {k : Unit → Act β} {t : Transcript} {o : Except Failure β} :
    Course (note level message fields >>= k) t o ↔
      ∃ t', t = ⟨.note ⟨level, message, fields⟩, ()⟩ :: t' ∧ Course (k ()) t' o := by
  rw [course_bind]
  constructor
  · rintro (⟨f, hnote, -⟩ | ⟨t₁, t₂, ⟨⟩, rfl, hnote, hk⟩)
    · obtain ⟨-, h⟩ := course_note.1 hnote
      cases h
    · obtain ⟨rfl, -⟩ := course_note.1 hnote
      exact ⟨t₂, rfl, hk⟩
  · rintro ⟨t', rfl, hk⟩
    exact .inr ⟨[_], t', (), rfl, course_note.2 ⟨rfl, rfl⟩, hk⟩

end Act

open Act (Course course_pure course_throw course_bind)

variable {l : Lifecycle} {t : Transcript}

/-! ## Refreshing the record -/

/-- The note that the coordinator reported no identifier. -/
def unidentified : Log.Event :=
  ⟨.warn, "Coordinator reported no registration id, local record not updated", []⟩

/-- What refreshing the record asks, and what comes of it. -/
inductive RefreshCourse (l : Lifecycle) (entry : Node.Entry) : Transcript → Except Failure Unit → Prop
  | unread (f : Failure) : RefreshCourse l entry [⟨.load, .error f⟩] (.error f)
  | kept (r : Record) (hr : isRecordOf r entry = true)
      (hstamp : ¬ (entry.status = .active ∧ r.activatedAt = none)) :
      RefreshCourse l entry [⟨.load, .ok (some r)⟩] (.ok ())
  | stamped (r : Record) (hr : isRecordOf r entry = true) (hactive : entry.status = .active)
      (hstamp : r.activatedAt = none) (now : Instant) (o : Except Failure Unit) :
      RefreshCourse l entry
        [⟨.load, .ok (some r)⟩, ⟨.now, now⟩, ⟨.save { r with activatedAt := some now }, o⟩] o
  | unidentified (found : Option Record) (hfound : ∀ r, found = some r → isRecordOf r entry = false)
      (hid : entry.registrationId = none) (now : Instant) :
      RefreshCourse l entry
        [⟨.load, .ok found⟩, ⟨.now, now⟩, ⟨.note unidentified, ()⟩] (.ok ())
  | restored (found : Option Record) (hfound : ∀ r, found = some r → isRecordOf r entry = false)
      (now : Instant) (record : Record)
      (hrecord : Record.restored? entry l.coordinatorUrl now = some record)
      (o : Except Failure Unit) :
      RefreshCourse l entry [⟨.load, .ok found⟩, ⟨.now, now⟩, ⟨.save record, o⟩] o

/-- Restores the record from an entry: the part that refreshing has twice. -/
def restoring (l : Lifecycle) (entry : Node.Entry) : Act Unit := do
  match Record.restored? entry l.coordinatorUrl (← Act.now) with
  | some record => Act.save record
  | none =>
    Act.note .warn "Coordinator reported no registration id, local record not updated"

theorem restoringCourse {entry : Node.Entry} {o : Except Failure Unit} {found : Option Record}
    (hfound : ∀ r, found = some r → isRecordOf r entry = false)
    (h : Course (l.restoring entry) t o) : RefreshCourse l entry (⟨.load, .ok found⟩ :: t) o := by
  obtain ⟨now, t', rfl, hrest⟩ := Act.course_now_bind.1 h
  cases hrecord : Record.restored? entry l.coordinatorUrl now with
  | none =>
    rw [hrecord] at hrest
    obtain ⟨rfl, rfl⟩ := Act.course_note.1 hrest
    have hid : entry.registrationId = none := by
      simpa [Record.restored?] using hrecord
    exact .unidentified found hfound hid now
  | some record =>
    rw [hrecord] at hrest
    obtain rfl := Act.course_save.1 hrest
    exact .restored found hfound now record hrecord o

theorem refreshCourse {entry : Node.Entry} {o : Except Failure Unit}
    (h : Course (l.refreshRecord entry) t o) : RefreshCourse l entry t o := by
  rcases course_bind.1 h with ⟨f, hload, rfl⟩ | ⟨t₁, t₂, found, rfl, hload, hrest⟩
  · obtain rfl := Act.course_load.1 hload
    exact .unread f
  · obtain rfl := Act.course_load.1 hload
    cases found with
    | none =>
      refine restoringCourse ?_ hrest
      intro r hr
      cases hr
    | some r =>
      cases hr : isRecordOf r entry with
      | false =>
        simp only [hr, Bool.false_eq_true, ↓reduceIte] at hrest
        refine restoringCourse ?_ hrest
        rintro r' hr'
        cases hr'
        exact hr
      | true =>
        by_cases hstamp : entry.status = .active ∧ r.activatedAt = none
        · simp only [hr, hstamp, and_self, ↓reduceIte] at hrest
          obtain ⟨now, t', rfl, hsave⟩ := Act.course_now_bind.1 hrest
          obtain rfl := Act.course_save.1 hsave
          exact .stamped r hr hstamp.1 hstamp.2 now o
        · simp only [hr, hstamp, ↓reduceIte] at hrest
          obtain ⟨rfl, rfl⟩ := course_pure.1 hrest
          exact .kept r hr hstamp

/-! ## Registering -/

def refreshing : Node.Status → Log.Event
  | .active => ⟨.warn, "Node is already active, skipping registration", []⟩
  | _ => ⟨.info, "Node is already registered, awaiting activation", []⟩

/-- What comes of registering a node that is registered or active already. -/
def refreshed (entry : Node.Entry) : RegisterOutcome :=
  match entry.status with
  | .active => .alreadyActive entry
  | _ => .alreadyRegistered entry

/-- The failure of a registration that is one of another node. -/
def misdirected (l : Lifecycle) (receipt : Registration.Receipt) : Failure :=
  .internal ("coordinator registered " ++ receipt.address.text ++ ", expected " ++ l.address.text)

def registeredNote (l : Lifecycle) (receipt : Registration.Receipt) : Log.Event :=
  ⟨.info, "Node registered", [
    ("registration_id", receipt.registrationId),
    ("cooldown_secs", Text.decimal receipt.cooldown.toNat),
    ("state", l.recordPath)]⟩

/-- What registering asks, and what comes of it. -/
inductive RegisterCourse (l : Lifecycle) : Transcript → Except Failure RegisterOutcome → Prop
  | unanswered (f : Failure) :
      RegisterCourse l [⟨.entryOf l.address, .error f⟩] (.error f)
  | refreshed (entry : Node.Entry) (hstatus : entry.status ≠ .inactive) (t : Transcript)
      (o : Except Failure Unit) (hrefresh : RefreshCourse l entry t o) :
      RegisterCourse l
        (⟨.entryOf l.address, .ok entry⟩ :: ⟨.note (refreshing entry.status), ()⟩ :: t)
        (o.map fun _ => refreshed entry)
  | refused (entry : Node.Entry) (hstatus : entry.status = .inactive) (f : Failure) :
      RegisterCourse l
        [⟨.entryOf l.address, .ok entry⟩, ⟨.register l.registration, .error f⟩] (.error f)
  | misdirected (entry : Node.Entry) (hstatus : entry.status = .inactive)
      (receipt : Registration.Receipt) (haddress : receipt.address ≠ l.address) :
      RegisterCourse l
        [⟨.entryOf l.address, .ok entry⟩, ⟨.register l.registration, .ok receipt⟩]
        (.error (misdirected l receipt))
  | unsaved (entry : Node.Entry) (hstatus : entry.status = .inactive)
      (receipt : Registration.Receipt) (haddress : receipt.address = l.address) (f : Failure) :
      RegisterCourse l
        [⟨.entryOf l.address, .ok entry⟩, ⟨.register l.registration, .ok receipt⟩,
          ⟨.save (Record.ofReceipt receipt l.coordinatorUrl), .error f⟩] (.error f)
  | registered (entry : Node.Entry) (hstatus : entry.status = .inactive)
      (receipt : Registration.Receipt) (haddress : receipt.address = l.address) :
      RegisterCourse l
        [⟨.entryOf l.address, .ok entry⟩, ⟨.register l.registration, .ok receipt⟩,
          ⟨.save (Record.ofReceipt receipt l.coordinatorUrl), .ok ()⟩,
          ⟨.note (registeredNote l receipt), ()⟩] (.ok (.registered receipt))

theorem registerInactiveCourse {entry : Node.Entry} (hstatus : entry.status = .inactive)
    {o : Except Failure RegisterOutcome} (h : Course (l.registerInactive entry) t o) :
    RegisterCourse l (⟨.entryOf l.address, .ok entry⟩ :: t) o := by
  -- An inactive node may become registered, so the check in front always passes.
  have hensure : Act.ofExcept (entry.status.ensure .registered) = (pure () : Act Unit) := by
    rw [hstatus]
    rfl
  rw [registerInactive, hensure, pure_bind] at h
  rcases course_bind.1 h with ⟨f, hregister, rfl⟩ | ⟨t₁, t₂, receipt, rfl, hregister, hrest⟩
  · obtain rfl := Act.course_register.1 hregister
    exact .refused entry hstatus f
  · obtain rfl := Act.course_register.1 hregister
    by_cases haddress : receipt.address = l.address
    · simp only [haddress, ne_eq, not_true_eq_false, ↓reduceIte] at hrest
      rcases course_bind.1 hrest with ⟨f, hsave, rfl⟩ | ⟨t₁, t₂, ⟨⟩, rfl, hsave, hnote⟩
      · obtain rfl := Act.course_save.1 hsave
        exact .unsaved entry hstatus receipt haddress f
      · obtain rfl := Act.course_save.1 hsave
        obtain ⟨t', rfl, hend⟩ := Act.course_note_bind.1 hnote
        obtain ⟨rfl, rfl⟩ := course_pure.1 hend
        exact .registered entry hstatus receipt haddress
    · simp only [haddress, ne_eq, not_false_eq_true, ↓reduceIte] at hrest
      rcases course_bind.1 hrest with ⟨f, hthrow, rfl⟩ | ⟨t₁, t₂, ⟨⟩, rfl, hthrow, hrest⟩
      · obtain ⟨rfl, hf⟩ := course_throw.1 hthrow
        cases hf
        exact .misdirected entry hstatus receipt haddress
      · obtain ⟨-, hf⟩ := course_throw.1 hthrow
        cases hf

/-- Refreshing the record for an entry and ending with an outcome. -/
theorem refreshedCourse {entry : Node.Entry} {outcome : RegisterOutcome}
    {o : Except Failure RegisterOutcome}
    (h : Course (do l.refreshRecord entry; return outcome) t o) :
    ∃ o', RefreshCourse l entry t o' ∧ o = o'.map fun _ => outcome := by
  rcases course_bind.1 h with ⟨f, hrefresh, rfl⟩ | ⟨t₁, t₂, ⟨⟩, rfl, hrefresh, hrest⟩
  · exact ⟨.error f, refreshCourse hrefresh, rfl⟩
  · obtain ⟨rfl, rfl⟩ := course_pure.1 hrest
    rw [List.append_nil]
    exact ⟨.ok (), refreshCourse hrefresh, rfl⟩

/-- Registering a node that is registered or active already. -/
theorem registerAgainCourse {entry : Node.Entry} (hstatus : entry.status ≠ .inactive)
    {level : Log.Level} {words : String} {outcome : RegisterOutcome}
    {o : Except Failure RegisterOutcome}
    (hnote : (⟨level, words, []⟩ : Log.Event) = refreshing entry.status)
    (houtcome : outcome = refreshed entry)
    (h : Course (do Act.note level words; l.refreshRecord entry; return outcome) t o) :
    RegisterCourse l (⟨.entryOf l.address, .ok entry⟩ :: t) o := by
  obtain ⟨t', rfl, hrest⟩ := Act.course_note_bind.1 h
  obtain ⟨o', hrefresh, rfl⟩ := refreshedCourse hrest
  rw [hnote, houtcome]
  exact .refreshed entry hstatus t' o' hrefresh

theorem registerCourse {o : Except Failure RegisterOutcome} (h : Course l.register t o) :
    RegisterCourse l t o := by
  rcases course_bind.1 h with ⟨f, hentry, rfl⟩ | ⟨t₁, t₂, entry, rfl, hentry, hrest⟩
  · obtain rfl := Act.course_entryOf.1 hentry
    exact .unanswered f
  · obtain rfl := Act.course_entryOf.1 hentry
    cases hstatus : entry.status with
    | inactive =>
      rw [hstatus] at hrest
      exact registerInactiveCourse hstatus hrest
    | registered =>
      rw [hstatus] at hrest
      have hne : entry.status ≠ .inactive := by
        rw [hstatus]
        decide
      exact registerAgainCourse hne (by rw [hstatus]; rfl) (by rw [refreshed, hstatus]) hrest
    | active =>
      rw [hstatus] at hrest
      have hne : entry.status ≠ .inactive := by
        rw [hstatus]
        decide
      exact registerAgainCourse hne (by rw [hstatus]; rfl) (by rw [refreshed, hstatus]) hrest

/-! ## Activating -/

/-- The failure of an activation with the record of another node. -/
def foreignRecord (l : Lifecycle) (record : Record) : Failure :=
  .settings ("registration record " ++ l.recordPath ++ " belongs to " ++ record.address.text ++
    ", but the configured node is " ++ l.address.text)

/-- The failure of an activation with the record of another registration. -/
def staleRecord (record : Record) (id : String) : Failure :=
  .record ("local registration " ++ record.registrationId ++
    " does not match coordinator registration " ++ id ++ "; run \x60register\x60 again")

/-- The note on a node that is active already. -/
def activeNote : Log.Event :=
  ⟨.warn, "Node is already active", []⟩

def activatedNote (receipt : Activation.Receipt) : Log.Event :=
  ⟨.info, "Node activated", [("activated_at", receipt.activatedAt.shown)]⟩

/-- What activating a registered node with its own record asks, and what comes of it. -/
inductive ActivateRegisteredCourse (l : Lifecycle) (r : Record) (entry : Node.Entry) :
    Transcript → Except Failure ActivateOutcome → Prop
  | cooling (now : Instant) (hcooldown : 0 < entry.cooldownRemaining now) :
      ActivateRegisteredCourse l r entry [⟨.now, now⟩]
        (.error (.cooldownPending (entry.cooldownRemaining now)))
  | stale (now : Instant) (hcooldown : entry.cooldownRemaining now = 0) (id : String)
      (hid : entry.registrationId = some id) (hstale : id ≠ r.registrationId) :
      ActivateRegisteredCourse l r entry [⟨.now, now⟩] (.error (staleRecord r id))
  | refused (now : Instant) (hcooldown : entry.cooldownRemaining now = 0)
      (hid : ∀ id, entry.registrationId = some id → id = r.registrationId) (f : Failure) :
      ActivateRegisteredCourse l r entry
        [⟨.now, now⟩, ⟨.activate l.address ⟨r.registrationId⟩, .error f⟩] (.error f)
  | unsaved (now : Instant) (hcooldown : entry.cooldownRemaining now = 0)
      (hid : ∀ id, entry.registrationId = some id → id = r.registrationId)
      (receipt : Activation.Receipt) (f : Failure) :
      ActivateRegisteredCourse l r entry
        [⟨.now, now⟩, ⟨.activate l.address ⟨r.registrationId⟩, .ok receipt⟩,
          ⟨.save { r with activatedAt := some receipt.activatedAt }, .error f⟩] (.error f)
  | activated (now : Instant) (hcooldown : entry.cooldownRemaining now = 0)
      (hid : ∀ id, entry.registrationId = some id → id = r.registrationId)
      (receipt : Activation.Receipt) :
      ActivateRegisteredCourse l r entry
        [⟨.now, now⟩, ⟨.activate l.address ⟨r.registrationId⟩, .ok receipt⟩,
          ⟨.save { r with activatedAt := some receipt.activatedAt }, .ok ()⟩,
          ⟨.note (activatedNote receipt), ()⟩] (.ok (.activated receipt))

/-- What activating asks, and what comes of it. -/
inductive ActivateCourse (l : Lifecycle) : Transcript → Except Failure ActivateOutcome → Prop
  | unread (f : Failure) : ActivateCourse l [⟨.load, .error f⟩] (.error f)
  | absent : ActivateCourse l [⟨.load, .ok none⟩] (.error (.notRegistered l.address.text))
  | foreign (r : Record) (haddress : r.address ≠ l.address) :
      ActivateCourse l [⟨.load, .ok (some r)⟩] (.error (foreignRecord l r))
  | unanswered (r : Record) (haddress : r.address = l.address) (f : Failure) :
      ActivateCourse l [⟨.load, .ok (some r)⟩, ⟨.entryOf l.address, .error f⟩] (.error f)
  | unregistered (r : Record) (haddress : r.address = l.address) (entry : Node.Entry)
      (hstatus : entry.status = .inactive) :
      ActivateCourse l [⟨.load, .ok (some r)⟩, ⟨.entryOf l.address, .ok entry⟩]
        (.error (.notRegistered l.address.text))
  | kept (r : Record) (haddress : r.address = l.address) (entry : Node.Entry)
      (hstatus : entry.status = .active) (hstamp : r.activatedAt ≠ none) :
      ActivateCourse l
        [⟨.load, .ok (some r)⟩, ⟨.entryOf l.address, .ok entry⟩, ⟨.note activeNote, ()⟩]
        (.ok (.alreadyActive entry))
  | stamped (r : Record) (haddress : r.address = l.address) (entry : Node.Entry)
      (hstatus : entry.status = .active) (hstamp : r.activatedAt = none) (now : Instant)
      (o : Except Failure Unit) :
      ActivateCourse l
        [⟨.load, .ok (some r)⟩, ⟨.entryOf l.address, .ok entry⟩, ⟨.note activeNote, ()⟩,
          ⟨.now, now⟩, ⟨.save { r with activatedAt := some now }, o⟩]
        (o.map fun _ => .alreadyActive entry)
  | registered (r : Record) (haddress : r.address = l.address) (entry : Node.Entry)
      (hstatus : entry.status = .registered) (t : Transcript) (o : Except Failure ActivateOutcome)
      (hactivate : ActivateRegisteredCourse l r entry t o) :
      ActivateCourse l (⟨.load, .ok (some r)⟩ :: ⟨.entryOf l.address, .ok entry⟩ :: t) o

theorem ownRecord_course {o : Except Failure Record} (h : Course l.ownRecord t o) :
    (∃ f, t = [⟨.load, .error f⟩] ∧ o = .error f) ∨
    (t = [⟨.load, .ok none⟩] ∧ o = .error (.notRegistered l.address.text)) ∨
    ∃ r, t = [⟨.load, .ok (some r)⟩] ∧
      (r.address ≠ l.address ∧ o = .error (foreignRecord l r) ∨
        r.address = l.address ∧ o = .ok r) := by
  rcases course_bind.1 h with ⟨f, hload, rfl⟩ | ⟨t₁, t₂, found, rfl, hload, hrest⟩
  · obtain rfl := Act.course_load.1 hload
    exact .inl ⟨f, rfl, rfl⟩
  · obtain rfl := Act.course_load.1 hload
    cases found with
    | none =>
      obtain ⟨rfl, rfl⟩ := course_throw.1 hrest
      exact .inr (.inl ⟨rfl, rfl⟩)
    | some r =>
      by_cases haddress : r.address = l.address
      · simp only [haddress, ne_eq, not_true_eq_false, ↓reduceIte] at hrest
        obtain ⟨rfl, rfl⟩ := course_pure.1 hrest
        exact .inr (.inr ⟨r, rfl, .inr ⟨haddress, rfl⟩⟩)
      · simp only [haddress, ne_eq, not_false_eq_true, ↓reduceIte] at hrest
        rcases course_bind.1 hrest with ⟨f, hthrow, rfl⟩ | ⟨t₁, t₂, ⟨⟩, rfl, hthrow, -⟩
        · obtain ⟨rfl, hf⟩ := course_throw.1 hthrow
          cases hf
          exact .inr (.inr ⟨r, rfl, .inl ⟨haddress, rfl⟩⟩)
        · obtain ⟨-, hf⟩ := course_throw.1 hthrow
          cases hf

/-- What activating asks once no guard stands against it. -/
theorem acceptedCourse {r : Record} {entry : Node.Entry} {now : Instant}
    (hcooldown : entry.cooldownRemaining now = 0)
    (hid : ∀ id, entry.registrationId = some id → id = r.registrationId)
    {o : Except Failure ActivateOutcome}
    (h : Course (do
      let receipt ← Act.activate l.address ⟨r.registrationId⟩
      Act.save { r with activatedAt := some receipt.activatedAt }
      Act.note .info "Node activated" [("activated_at", receipt.activatedAt.shown)]
      return .activated receipt) t o) :
    ActivateRegisteredCourse l r entry (⟨.now, now⟩ :: t) o := by
  rcases course_bind.1 h with ⟨f, hactivate, rfl⟩ | ⟨t₁, t₂, receipt, rfl, hactivate, hrest⟩
  · obtain rfl := Act.course_activate.1 hactivate
    exact .refused now hcooldown hid f
  · obtain rfl := Act.course_activate.1 hactivate
    rcases course_bind.1 hrest with ⟨f, hsave, rfl⟩ | ⟨t₁, t₂, ⟨⟩, rfl, hsave, hnote⟩
    · obtain rfl := Act.course_save.1 hsave
      exact .unsaved now hcooldown hid receipt f
    · obtain rfl := Act.course_save.1 hsave
      obtain ⟨t', rfl, hend⟩ := Act.course_note_bind.1 hnote
      obtain ⟨rfl, rfl⟩ := course_pure.1 hend
      exact .activated now hcooldown hid receipt

theorem activateRegisteredCourse {r : Record} {entry : Node.Entry}
    {o : Except Failure ActivateOutcome} (h : Course (l.activateRegistered r entry) t o) :
    ActivateRegisteredCourse l r entry t o := by
  obtain ⟨now, t', rfl, hrest⟩ := Act.course_now_bind.1 h
  by_cases hcooldown : 0 < entry.cooldownRemaining now
  · simp only [hcooldown, ↓reduceIte] at hrest
    rcases course_bind.1 hrest with ⟨f, hthrow, rfl⟩ | ⟨t₁, t₂, ⟨⟩, rfl, hthrow, -⟩
    · obtain ⟨rfl, hf⟩ := course_throw.1 hthrow
      cases hf
      exact .cooling now hcooldown
    · obtain ⟨-, hf⟩ := course_throw.1 hthrow
      cases hf
  · have hover : entry.cooldownRemaining now = 0 := Nat.eq_zero_of_not_pos hcooldown
    simp only [hcooldown, ↓reduceIte] at hrest
    cases hid : entry.registrationId with
    | none =>
      simp only [hid] at hrest
      exact acceptedCourse hover (fun id h => by rw [hid] at h; cases h) hrest
    | some id =>
      simp only [hid] at hrest
      by_cases hstale : id = r.registrationId
      · simp only [hstale, ne_eq, not_true_eq_false, ↓reduceIte] at hrest
        refine acceptedCourse hover ?_ hrest
        intro id' h
        rw [hid] at h
        cases h
        exact hstale
      · simp only [hstale, ne_eq, not_false_eq_true, ↓reduceIte] at hrest
        rcases course_bind.1 hrest with ⟨f, hthrow, rfl⟩ | ⟨t₁, t₂, ⟨⟩, rfl, hthrow, -⟩
        · obtain ⟨rfl, hf⟩ := course_throw.1 hthrow
          cases hf
          exact .stale now hover id hid hstale
        · obtain ⟨-, hf⟩ := course_throw.1 hthrow
          cases hf

theorem activateCourse {o : Except Failure ActivateOutcome} (h : Course l.activate t o) :
    ActivateCourse l t o := by
  rcases course_bind.1 h with ⟨f, hown, rfl⟩ | ⟨t₁, t₂, r, rfl, hown, hrest⟩
  · rcases ownRecord_course hown with ⟨f, rfl, hf⟩ | ⟨rfl, hf⟩ | ⟨r, rfl, hr⟩
    · cases hf
      exact .unread f
    · cases hf
      exact .absent
    · rcases hr with ⟨haddress, hf⟩ | ⟨-, hf⟩
      · cases hf
        exact .foreign r haddress
      · cases hf
  · rcases ownRecord_course hown with ⟨f, -, hf⟩ | ⟨-, hf⟩ | ⟨r', rfl, hr⟩
    · cases hf
    · cases hf
    · rcases hr with ⟨-, hf⟩ | ⟨haddress, hf⟩
      · cases hf
      cases hf
      rcases course_bind.1 hrest with ⟨f, hentry, rfl⟩ | ⟨t₁, t₂, entry, rfl, hentry, hmatch⟩
      · obtain rfl := Act.course_entryOf.1 hentry
        exact .unanswered r haddress f
      obtain rfl := Act.course_entryOf.1 hentry
      cases hstatus : entry.status with
      | inactive =>
        rw [hstatus] at hmatch
        obtain ⟨rfl, rfl⟩ := course_throw.1 hmatch
        exact .unregistered r haddress entry hstatus
      | registered =>
        rw [hstatus] at hmatch
        exact .registered r haddress entry hstatus t₂ o (activateRegisteredCourse hmatch)
      | active =>
        rw [hstatus] at hmatch
        obtain ⟨t', rfl, hstamping⟩ := Act.course_note_bind.1 hmatch
        by_cases hstamp : r.activatedAt = none
        · simp only [hstamp, ↓reduceIte] at hstamping
          obtain ⟨now, t', rfl, hsaving⟩ := Act.course_now_bind.1 hstamping
          rcases course_bind.1 hsaving with ⟨f, hsave, rfl⟩ | ⟨t₁, t₂, ⟨⟩, rfl, hsave, hend⟩
          · obtain rfl := Act.course_save.1 hsave
            exact .stamped r haddress entry hstatus hstamp now (.error f)
          · obtain rfl := Act.course_save.1 hsave
            obtain ⟨rfl, rfl⟩ := course_pure.1 hend
            exact .stamped r haddress entry hstatus hstamp now (.ok ())
        · simp only [hstamp, ↓reduceIte] at hstamping
          obtain ⟨rfl, rfl⟩ := course_pure.1 hstamping
          exact .kept r haddress entry hstatus hstamp

/-! ## Deactivating and reporting -/

/-- The note on a node that is inactive already. -/
def inactiveNote : Log.Event :=
  ⟨.info, "Node is already inactive", []⟩

def deactivatedNote (entry : Node.Entry) : Log.Event :=
  ⟨.info, "Node deactivated", [("previous", entry.status.name)]⟩

/-- What deactivating asks, and what comes of it. -/
inductive DeactivateCourse (l : Lifecycle) : Transcript → Except Failure DeactivateOutcome → Prop
  | unanswered (f : Failure) : DeactivateCourse l [⟨.entryOf l.address, .error f⟩] (.error f)
  | forgotten (entry : Node.Entry) (hstatus : entry.status = .inactive) (o : Except Failure Unit) :
      DeactivateCourse l
        [⟨.entryOf l.address, .ok entry⟩, ⟨.note inactiveNote, ()⟩, ⟨.clear, o⟩]
        (o.map fun _ => .alreadyInactive)
  | refused (entry : Node.Entry) (hstatus : entry.status ≠ .inactive) (f : Failure) :
      DeactivateCourse l
        [⟨.entryOf l.address, .ok entry⟩, ⟨.deactivate l.address, .error f⟩] (.error f)
  | uncleared (entry : Node.Entry) (hstatus : entry.status ≠ .inactive) (updated : Node.Entry)
      (f : Failure) :
      DeactivateCourse l
        [⟨.entryOf l.address, .ok entry⟩, ⟨.deactivate l.address, .ok updated⟩, ⟨.clear, .error f⟩]
        (.error f)
  | deactivated (entry : Node.Entry) (hstatus : entry.status ≠ .inactive) (updated : Node.Entry) :
      DeactivateCourse l
        [⟨.entryOf l.address, .ok entry⟩, ⟨.deactivate l.address, .ok updated⟩, ⟨.clear, .ok ()⟩,
          ⟨.note (deactivatedNote entry), ()⟩] (.ok (.deactivated updated))

theorem deactivateCourse {o : Except Failure DeactivateOutcome} (h : Course l.deactivate t o) :
    DeactivateCourse l t o := by
  rcases course_bind.1 h with ⟨f, hentry, rfl⟩ | ⟨t₁, t₂, entry, rfl, hentry, hrest⟩
  · obtain rfl := Act.course_entryOf.1 hentry
    exact .unanswered f
  obtain rfl := Act.course_entryOf.1 hentry
  by_cases hstatus : entry.status = .inactive
  · simp only [hstatus, ↓reduceIte] at hrest
    obtain ⟨t', rfl, hclear⟩ := Act.course_note_bind.1 hrest
    rcases course_bind.1 hclear with ⟨f, hclear', rfl⟩ | ⟨t₁, t₂, ⟨⟩, rfl, hclear', hend⟩
    · obtain rfl := Act.course_clear.1 hclear'
      exact .forgotten entry hstatus (.error f)
    · obtain rfl := Act.course_clear.1 hclear'
      obtain ⟨rfl, rfl⟩ := course_pure.1 hend
      exact .forgotten entry hstatus (.ok ())
  · have hensure : Act.ofExcept (entry.status.ensure .inactive) = (pure () : Act Unit) := by
      rw [(Node.Status.ensure_eq_ok_iff _ _).2 ((Node.Status.canBecome_inactive_iff _).2 hstatus)]
      rfl
    simp only [hstatus, ↓reduceIte, hensure, pure_bind] at hrest
    rcases course_bind.1 hrest with ⟨f, hdeactivate, rfl⟩ | ⟨t₁, t₂, updated, rfl, hdeactivate, hclear⟩
    · obtain rfl := Act.course_deactivate.1 hdeactivate
      exact .refused entry hstatus f
    · obtain rfl := Act.course_deactivate.1 hdeactivate
      rcases course_bind.1 hclear with ⟨f, hclear', rfl⟩ | ⟨t₁, t₂, ⟨⟩, rfl, hclear', hnote⟩
      · obtain rfl := Act.course_clear.1 hclear'
        exact .uncleared entry hstatus updated f
      · obtain rfl := Act.course_clear.1 hclear'
        obtain ⟨t', rfl, hend⟩ := Act.course_note_bind.1 hnote
        obtain ⟨rfl, rfl⟩ := course_pure.1 hend
        exact .deactivated entry hstatus updated

/-- What reporting asks, and what comes of it. -/
inductive StatusCourse (l : Lifecycle) : Transcript → Except Failure StatusReport → Prop
  | unanswered (f : Failure) : StatusCourse l [⟨.entryOf l.address, .error f⟩] (.error f)
  | unread (entry : Node.Entry) (f : Failure) :
      StatusCourse l [⟨.entryOf l.address, .ok entry⟩, ⟨.load, .error f⟩] (.error f)
  | cooling (entry : Node.Entry) (hstatus : entry.status = .registered) (found : Option Record)
      (now : Instant) :
      StatusCourse l [⟨.entryOf l.address, .ok entry⟩, ⟨.load, .ok found⟩, ⟨.now, now⟩]
        (.ok ⟨entry, found, entry.cooldownRemaining now⟩)
  | settled (entry : Node.Entry) (hstatus : entry.status ≠ .registered) (found : Option Record) :
      StatusCourse l [⟨.entryOf l.address, .ok entry⟩, ⟨.load, .ok found⟩] (.ok ⟨entry, found, 0⟩)

theorem statusCourse {o : Except Failure StatusReport} (h : Course l.status t o) :
    StatusCourse l t o := by
  rcases course_bind.1 h with ⟨f, hentry, rfl⟩ | ⟨t₁, t₂, entry, rfl, hentry, hrest⟩
  · obtain rfl := Act.course_entryOf.1 hentry
    exact .unanswered f
  obtain rfl := Act.course_entryOf.1 hentry
  rcases course_bind.1 hrest with ⟨f, hload, rfl⟩ | ⟨t₁, t₂, found, rfl, hload, hreport⟩
  · obtain rfl := Act.course_load.1 hload
    exact .unread entry f
  obtain rfl := Act.course_load.1 hload
  cases hstatus : entry.status with
  | inactive =>
    rw [hstatus] at hreport
    obtain ⟨rfl, rfl⟩ := course_pure.1 hreport
    exact .settled entry (by rw [hstatus]; decide) found
  | registered =>
    rw [hstatus] at hreport
    obtain ⟨now, t', rfl, hend⟩ := Act.course_now_bind.1 hreport
    obtain ⟨rfl, rfl⟩ := course_pure.1 hend
    exact .cooling entry hstatus found now
  | active =>
    rw [hstatus] at hreport
    obtain ⟨rfl, rfl⟩ := course_pure.1 hreport
    exact .settled entry (by rw [hstatus]; decide) found

/-! ## Success -/

/-- What registering asks when it succeeds, and with what. -/
inductive RegisterSuccess (l : Lifecycle) : Transcript → RegisterOutcome → Prop
  | refreshed (entry : Node.Entry) (hstatus : entry.status ≠ .inactive) (t : Transcript)
      (hrefresh : RefreshCourse l entry t (.ok ())) :
      RegisterSuccess l
        (⟨.entryOf l.address, .ok entry⟩ :: ⟨.note (refreshing entry.status), ()⟩ :: t)
        (refreshed entry)
  | registered (entry : Node.Entry) (hstatus : entry.status = .inactive)
      (receipt : Registration.Receipt) (haddress : receipt.address = l.address) :
      RegisterSuccess l
        [⟨.entryOf l.address, .ok entry⟩, ⟨.register l.registration, .ok receipt⟩,
          ⟨.save (Record.ofReceipt receipt l.coordinatorUrl), .ok ()⟩,
          ⟨.note (registeredNote l receipt), ()⟩] (.registered receipt)

theorem RegisterCourse.success {outcome : RegisterOutcome}
    (h : RegisterCourse l t (.ok outcome)) : RegisterSuccess l t outcome := by
  generalize ho : (Except.ok outcome : Except Failure RegisterOutcome) = o at h
  cases h with
  | unanswered f => cases ho
  | refreshed entry hstatus t o hrefresh =>
    cases o with
    | error f => cases ho
    | ok done =>
      cases ho
      exact .refreshed entry hstatus t hrefresh
  | refused entry hstatus f => cases ho
  | misdirected entry hstatus receipt haddress => cases ho
  | unsaved entry hstatus receipt haddress f => cases ho
  | registered entry hstatus receipt haddress =>
    cases ho
    exact .registered entry hstatus receipt haddress

/-- What activating asks when it succeeds, and with what. -/
inductive ActivateSuccess (l : Lifecycle) : Transcript → ActivateOutcome → Prop
  | kept (r : Record) (haddress : r.address = l.address) (entry : Node.Entry)
      (hstatus : entry.status = .active) (hstamp : r.activatedAt ≠ none) :
      ActivateSuccess l
        [⟨.load, .ok (some r)⟩, ⟨.entryOf l.address, .ok entry⟩, ⟨.note activeNote, ()⟩]
        (.alreadyActive entry)
  | stamped (r : Record) (haddress : r.address = l.address) (entry : Node.Entry)
      (hstatus : entry.status = .active) (hstamp : r.activatedAt = none) (now : Instant) :
      ActivateSuccess l
        [⟨.load, .ok (some r)⟩, ⟨.entryOf l.address, .ok entry⟩, ⟨.note activeNote, ()⟩,
          ⟨.now, now⟩, ⟨.save { r with activatedAt := some now }, .ok ()⟩]
        (.alreadyActive entry)
  | activated (r : Record) (haddress : r.address = l.address) (entry : Node.Entry)
      (hstatus : entry.status = .registered)
      (hid : ∀ id, entry.registrationId = some id → id = r.registrationId)
      (now : Instant) (hcooldown : entry.cooldownRemaining now = 0)
      (receipt : Activation.Receipt) :
      ActivateSuccess l
        [⟨.load, .ok (some r)⟩, ⟨.entryOf l.address, .ok entry⟩, ⟨.now, now⟩,
          ⟨.activate l.address ⟨r.registrationId⟩, .ok receipt⟩,
          ⟨.save { r with activatedAt := some receipt.activatedAt }, .ok ()⟩,
          ⟨.note (activatedNote receipt), ()⟩] (.activated receipt)

theorem ActivateCourse.success {outcome : ActivateOutcome}
    (h : ActivateCourse l t (.ok outcome)) : ActivateSuccess l t outcome := by
  generalize ho : (Except.ok outcome : Except Failure ActivateOutcome) = o at h
  cases h with
  | unread f => cases ho
  | absent => cases ho
  | foreign r haddress => cases ho
  | unanswered r haddress f => cases ho
  | unregistered r haddress entry hstatus => cases ho
  | kept r haddress entry hstatus hstamp =>
    cases ho
    exact .kept r haddress entry hstatus hstamp
  | stamped r haddress entry hstatus hstamp now o =>
    cases o with
    | error f => cases ho
    | ok done =>
      cases ho
      exact .stamped r haddress entry hstatus hstamp now
  | registered r haddress entry hstatus t o hactivate =>
    cases hactivate with
    | cooling now hcooldown => cases ho
    | stale now hcooldown id hid hstale => cases ho
    | refused now hcooldown hid f => cases ho
    | unsaved now hcooldown hid receipt f => cases ho
    | activated now hcooldown hid receipt =>
      cases ho
      exact .activated r haddress entry hstatus hid now hcooldown receipt

/-- What deactivating asks when it succeeds, and with what. -/
inductive DeactivateSuccess (l : Lifecycle) : Transcript → DeactivateOutcome → Prop
  | forgotten (entry : Node.Entry) (hstatus : entry.status = .inactive) :
      DeactivateSuccess l
        [⟨.entryOf l.address, .ok entry⟩, ⟨.note inactiveNote, ()⟩, ⟨.clear, .ok ()⟩]
        .alreadyInactive
  | deactivated (entry : Node.Entry) (hstatus : entry.status ≠ .inactive) (updated : Node.Entry) :
      DeactivateSuccess l
        [⟨.entryOf l.address, .ok entry⟩, ⟨.deactivate l.address, .ok updated⟩, ⟨.clear, .ok ()⟩,
          ⟨.note (deactivatedNote entry), ()⟩] (.deactivated updated)

theorem DeactivateCourse.success {outcome : DeactivateOutcome}
    (h : DeactivateCourse l t (.ok outcome)) : DeactivateSuccess l t outcome := by
  generalize ho : (Except.ok outcome : Except Failure DeactivateOutcome) = o at h
  cases h with
  | unanswered f => cases ho
  | forgotten entry hstatus o =>
    cases o with
    | error f => cases ho
    | ok done =>
      cases ho
      exact .forgotten entry hstatus
  | refused entry hstatus f => cases ho
  | uncleared entry hstatus updated f => cases ho
  | deactivated entry hstatus updated =>
    cases ho
    exact .deactivated entry hstatus updated

end Enrollment.Lifecycle
