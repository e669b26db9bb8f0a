import Enrollment.Proofs.Command.Announcement
import Enrollment.Proofs.Node.Cooldown
/-!
# The cooldown of a registration

Who registers a node is told when it can be activated. That is worked out from the receipt, and is what
an entry says whose cooldown started when the node was registered.

Results:
 1. `Command.printed_register`: what is printed when a node has been registered.
 2. `Command.registerLines_registered`: what it says of the cooldown.
 3. `Node.Entry.cooldown_views_agree`: what is left of a cooldown, when the node can be activated, and what
    is printed of that, are the same.
-/

namespace Enrollment

open Client (Connection)
open Host (printed)
open Node (Entry)
open Registration (Receipt)

variable {α β σ : Type}

/-! ## What is printed -/

/-- What is behind an attempt that prints nothing prints all. -/
theorem Task.printed_attempt_bind {p : Plan Host (Except Failure α)}
    (hp : p.Only fun q : Host.Step => q.printed? = none) (f : α → Task β)
    {answer : (q : Host.Request) → σ → Host.Answer q × σ} {w : σ} {a : α}
    (h : (p.run answer w).1 = .ok a) :
    printed ((attempt p >>= f).run.transcript answer w) =
      printed ((f a).run.transcript answer (p.run answer w).2) := by
  rw [run_attempt_bind, Plan.transcript_bind, Host.printed_append, Host.printed_of_only hp, h]
  rfl

theorem Session.checkRelease_silent (s : Session) (c : Connection) :
    (s.checkRelease c).Only fun q : Host.Step => q.printed? = none := by
  unfold checkRelease
  split
  · exact Plan.only_done
  · exact Plan.only_implementBy _ fun q => Plan.only_request rfl

namespace Command

theorem outcome_silent (c : Connection) (l : Lifecycle) (act : Lifecycle.Act α) :
    (outcome c l act).Only fun q : Host.Step => q.printed? = none := by
  refine Plan.only_implementBy _ fun q => ?_
  cases q with
  | now => exact Plan.only_request rfl
  | note e => exact Plan.only_request rfl
  | _ => exact Plan.only_implementBy _ fun q => Plan.only_request rfl

/-- What comes of registering a node is printed as one text. -/
theorem printed_register {s : Session} {c : Connection} (hc : s.connection = .ok c) {l : Lifecycle}
    (hl : s.lifecycle c = .ok l) {answer : (q : Host.Request) → σ → Host.Answer q × σ} {w : σ}
    {o : Lifecycle.RegisterOutcome}
    (ho : ((outcome c l l.register).run answer ((s.checkRelease c).run answer w).2).1 = .ok o) :
    printed ((run s .register).run.transcript answer w) =
      [(Output.documentText? s.form o.encode).getD
        (String.join ((registerLines s o).map (· ++ "\n")))] := by
  rw [run_of_lifecycle hc hl rfl, Plan.transcript_bind, Host.printed_append,
    Host.printed_of_only (s.checkRelease_silent c)]
  refine (Task.printed_attempt_bind (outcome_silent c l _) _ ho).trans ?_
  rw [Session.present, Output.present_eq]
  rfl

/-- When the node can be activated, as it is told; a dash if the calendar does not go on that long. -/
def readyText (e : Entry) : String :=
  (e.activatableAt?.map Instant.shown).getD "-"

/-- What a user is told about a registration, and when the node can be activated then. -/
def registeredLines (s : Session) (r : Receipt) (ready : String) : List String :=
  [s.aboutNode s.success r.address " registered.",
    s.labelled "  " "Registration:" r.registrationId,
    s.labelled "  " "Registered at:" r.registeredAt.shown] ++
  (if r.cooldown = 0 then []
    else [s.labelled "  " "Cooldown:"
      (durationText r.cooldown.toNat ++ " (activate after " ++ ready ++ ")")]) ++
  ["", "Run " ++ s.paint (.colored .cyan) "infernet-node activate" ++ " once the cooldown has passed."]

theorem registerLines_registered (s : Session) {r : Receipt} {e : Entry}
    (hstart : e.cooldownStart = some r.registeredAt) (hcooldown : e.cooldown = r.cooldown) :
    registerLines s (.registered r) = registeredLines s r (readyText e) := by
  have hlines : cooldownLines s r = if r.cooldown = 0 then [] else
      [s.labelled "  " "Cooldown:"
        (durationText r.cooldown.toNat ++ " (activate after " ++ readyText e ++ ")")] := by
    unfold cooldownLines readyText
    rw [Entry.activatableAt?_of_start hstart, hcooldown]
    cases r.registeredAt.addSeconds? r.cooldown.toNat <;> rfl
  show _ ++ cooldownLines s r ++ _ = _
  rw [hlines]
  rfl

end Command

/-! ## The views of a cooldown -/

/-- What is left of a cooldown that started at an instant, and when the node can be activated, are what
its end in the count of nanoseconds says, and are worked out within words. -/
structure Node.Entry.CooldownViews (e : Entry) (start : Instant) : Prop where
  le : ∀ now, e.cooldownRemaining now ≤ e.cooldown.toNat
  anti : ∀ now later : Instant, now.isLeap = false → later.isLeap = false →
    now.nanoCount ≤ later.nanoCount → e.cooldownRemaining later ≤ e.cooldownRemaining now
  before : ∀ now : Instant, now.isLeap = false → now.nanoCount < start.nanoCount →
    e.cooldownRemaining now = e.cooldown.toNat
  /-- From its start on, the fewest seconds are left that lead to its end. -/
  least : ∀ now : Instant, now.isLeap = false → start.nanoCount ≤ now.nanoCount →
    IsLeast {r : ℕ | start.nanoCount + e.cooldown.toNat * 1000000000 ≤
      now.nanoCount + r * 1000000000} (e.cooldownRemaining now)
  eq_zero_iff : ∀ now : Instant, now.isLeap = false → (e.cooldownRemaining now = 0 ↔
    e.cooldown = 0 ∨ start.nanoCount + e.cooldown.toNat * 1000000000 ≤ now.nanoCount)
  ready : ∀ t : Instant, e.activatableAt? = some t ↔
    t.isLeap = false ∧ t.nanoCount = start.nanoCount + e.cooldown.toNat * 1000000000
  endless : e.activatableAt? = none → ∀ now : Instant, now.isLeap = false → 0 < e.cooldownRemaining now
  remaining_words : ∀ now, e.remainingInWords? now = some (e.cooldownRemaining now : Int)
  end_words : e.endInWords? start = some e.activatableAt?

theorem Node.Entry.cooldownViews_of_start {e : Entry} {start : Instant}
    (hstart : e.cooldownStart = some start) (hs : start.isLeap = false) : e.CooldownViews start where
  le := e.cooldownRemaining_le
  anti _ _ hnow hlater h := cooldownRemaining_anti hstart hs hnow hlater h
  before _ hnow h := cooldownRemaining_of_lt hstart hs hnow h
  least _ hnow h := isLeast_cooldownRemaining hstart hs hnow h
  eq_zero_iff now hnow := by
    rw [cooldownRemaining_eq_zero_iff hstart hs hnow, ← UInt64.toNat_inj]
    rfl
  ready _ := activatableAt?_eq_some_iff hstart hs
  endless hnone _ hnow := cooldownRemaining_pos_of_endless hstart hs hnone hnow
  remaining_words := e.remainingInWords?_eq
  end_words := endInWords?_eq hstart hs

/-- Of a cooldown that started at an instant, what is left and when the node can be activated fit together;
and who registers a node is told when an entry with the start and the cooldown of the receipt says that it
can be activated. -/
theorem Node.Entry.cooldown_views_agree {e : Entry} {start : Instant}
    (hstart : e.cooldownStart = some start) (hs : start.isLeap = false) :
    e.CooldownViews start ∧
      ∀ (s : Session) (c : Connection) (l : Lifecycle) (answer : (q : Host.Request) → σ → Host.Answer q × σ)
        (w : σ) (r : Receipt) (e' : Entry),
        s.connection = .ok c → s.lifecycle c = .ok l → s.form = .pretty →
        ((Command.outcome c l l.register).run answer ((s.checkRelease c).run answer w).2).1 =
          .ok (.registered r) →
        e'.cooldownStart = some r.registeredAt → e'.cooldown = r.cooldown →
        printed ((Command.run s .register).run.transcript answer w) =
          [String.join ((Command.registeredLines s r (Command.readyText e')).map (· ++ "\n"))] := by
  refine ⟨cooldownViews_of_start hstart hs, ?_⟩
  intro s c l answer w r e' hc hl hform hregistered hstart' hcooldown
  rw [Command.printed_register hc hl hregistered, hform,
    Command.registerLines_registered s hstart' hcooldown]
  rfl

theorem ok_of_toOption {ε : Type} {x : Except ε α} {a : α} (h : x.toOption = some a) : x = .ok a := by
  cases x with
  | error e => cases h
  | ok b => exact congrArg _ (Option.some.inj h)

/-- The receipt of a node that was registered in the last second of the calendar. -/
def lateReceipt : Receipt where
  address := numberedLife.address
  registrationId := "reg-1"
  status := .registered
  registeredAt := ⟨Calendar.lastDay, 86399, 7, by decide, Int.le_refl _, by decide, by decide, by decide⟩
  cooldown := 1

/-- What the coordinator knows of that node. -/
def lateEntry : Entry where
  address := numberedLife.address
  status := .registered
  registrationId := some "reg-1"
  cooldownStart := some lateReceipt.registeredAt
  cooldown := 1

/-- That receipt, as the coordinator writes it. -/
def lateAnswer : List Char :=
  "\x7b\"address\":\"0x".toList ++ List.replicate 40 'a' ++ "\",\"registration_id\":\"reg-1\",".toList ++
    "\"registered_at\":\"+262142-12-31T23:59:59.000000007Z\",".toList ++ "\"cooldown_secs\":1\x7d".toList

/-- A machine whose coordinator does not know the node, and registers it. -/
def Host.World.registering : Host.World :=
  { Host.World.unacquainted with
    script := Host.World.unacquainted.script ++ [.answer ⟨201, [], some (Text.encodeUtf8 lateAnswer)⟩] }

/-- The cooldown of such a node is never over, and who registers it is told no instant from which it can be
activated. -/
theorem lateEntry_never_ready :
    lateEntry.cooldownStart = some lateReceipt.registeredAt ∧
      lateReceipt.registeredAt.isLeap = false ∧ lateEntry.activatableAt? = none ∧
      (∀ now : Instant, now.isLeap = false → 0 < lateEntry.cooldownRemaining now) ∧
      printed ((Command.run numbered .register).run.transcript Host.World.answer .registering) =
        [String.join ((Command.registeredLines numbered lateReceipt "-").map (· ++ "\n"))] := by
  have hnone : lateEntry.activatableAt? = none := by decide +kernel
  obtain ⟨hviews, hprinted⟩ := @Node.Entry.cooldown_views_agree Host.World lateEntry _ rfl rfl
  have hlife : numbered.lifecycle ⟨"http://[::1]#main", none, .ofSeconds 30, {}⟩ = .ok numberedLife :=
    ok_of_toOption (by decide +kernel)
  have hregistered : ((Command.outcome ⟨"http://[::1]#main", none, .ofSeconds 30, {}⟩ numberedLife
      numberedLife.register).run Host.World.answer Host.World.registering).1 =
        .ok (.registered lateReceipt) :=
    ok_of_toOption (by decide +kernel)
  refine ⟨rfl, rfl, hnone, hviews.endless hnone, ?_⟩
  have hready : Command.readyText lateEntry = "-" := by
    unfold Command.readyText
    rw [hnone]
    rfl
  rw [← hready]
  exact hprinted numbered _ numberedLife _ _ lateReceipt lateEntry rfl hlife rfl hregistered rfl rfl

end Enrollment
