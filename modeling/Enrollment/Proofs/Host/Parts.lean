import Enrollment.Proofs.Host.History
/-!
# Machines of parts

A machine whose disk, network and clock do not see each other, and for which nothing else counts: what
is printed and how long a client waits make no difference to what comes later. What is noted makes one to
the disk alone, where it may be written down. Each part may be anything that answers and changes by it.

Results:
 1. `run_offline`, `transcript_offline`: a plan that sends nothing runs the same on every network, and
    leaves it as it is.
 2. `run_alike`: a plan runs the same on disks that answer alike and stay alike.
 3. `run_noted`: notes of a client leave disks alike that a note leaves alike.
-/

namespace Enrollment.Host

open Plan (Only)

structure Parts (δ ν κ : Type) where
  disk : (s : Files.Step) → δ → s.Answer × δ
  network : Http.Request → Client.Span → ν → Http.Outcome × ν
  clock : κ → Instant × κ

namespace Parts

structure State (δ ν κ : Type) where
  disk : δ
  network : ν
  clock : κ

variable {α δ ν κ : Type}

/-- The same machine on another network. -/
def State.on (w : State δ ν κ) (network : ν) : State δ ν κ :=
  { w with network }

variable (m : Parts δ ν κ)

def answer : (s : Host.Step) → State δ ν κ → s.Answer × State δ ν κ
  | .disk s, w => ((m.disk s w.disk).1, { w with disk := (m.disk s w.disk).2 })
  | .wire (.send r timeout), w =>
    ((m.network r timeout w.network).1, w.on (m.network r timeout w.network).2)
  | .wire (.wait _), w => ((), w)
  | .wire (.note e), w => ((), { w with disk := (m.disk (.note e) w.disk).2 })
  | .now, w => ((m.clock w.clock).1, { w with clock := (m.clock w.clock).2 })
  | .note e, w => ((), { w with disk := (m.disk (.note e) w.disk).2 })
  | .print _, w => ((), w)

/-- A question that sends nothing is answered the same on every network. -/
theorem answer_offline {s : Host.Step} (h : s.sent? = none) (w : State δ ν κ) (n : ν) :
    m.answer s (w.on n) = ((m.answer s w).1, (m.answer s w).2.on n) ∧
      (m.answer s w).2.network = w.network := by
  cases s with
  | wire r =>
    cases r with
    | send r timeout => cases h
    | _ => exact ⟨rfl, rfl⟩
  | _ => exact ⟨rfl, rfl⟩

theorem run_offline {p : Plan Host α} (h : p.Only fun s : Host.Step => s.sent? = none)
    (w : State δ ν κ) (n : ν) :
    p.run m.answer (w.on n) = ((p.run m.answer w).1, (p.run m.answer w).2.on n) ∧
      (p.run m.answer w).2.network = w.network := by
  induction p generalizing w with
  | done a => exact ⟨rfl, rfl⟩
  | ask s next ih =>
    obtain ⟨hsame, hkept⟩ := m.answer_offline h.1 w n
    rw [Plan.run_ask, Plan.run_ask, hsame, ← hkept]
    exact ih _ (h.2 _) _

theorem transcript_offline {p : Plan Host α} (h : p.Only fun s : Host.Step => s.sent? = none)
    (w : State δ ν κ) (n : ν) : p.transcript m.answer (w.on n) = p.transcript m.answer w := by
  induction p generalizing w with
  | done a => rfl
  | ask s next ih =>
    rw [Plan.transcript, Plan.transcript, (m.answer_offline h.1 w n).1]
    exact congrArg _ (ih _ (h.2 _) _)

/-! ## Disks that are alike -/

/-- Machines whose disks are alike, on one network and with one clock. -/
structure State.Alike (R : δ → δ → Prop) (w w' : State δ ν κ) : Prop where
  disk : R w.disk w'.disk
  network : w'.network = w.network
  clock : w'.clock = w.clock

/-- A step is answered alike by disks that are alike, and they stay alike. -/
def Agrees (R : δ → δ → Prop) (s : Files.Step) : Prop :=
  ∀ d d', R d d' → (m.disk s d').1 = (m.disk s d).1 ∧ R (m.disk s d).2 (m.disk s d').2

variable {m} {R : δ → δ → Prop} {w w' : State δ ν κ}

theorem answer_alike {s : Host.Step} (h : ∀ q ∈ s.disk?, m.Agrees R q) (hw : w.Alike R w') :
    (m.answer s w').1 = (m.answer s w).1 ∧ (m.answer s w).2.Alike R (m.answer s w').2 := by
  obtain ⟨hdisk, hnetwork, hclock⟩ := hw
  cases s with
  | disk s =>
    obtain ⟨hsame, hdisk⟩ := h s rfl _ _ hdisk
    exact ⟨hsame, hdisk, hnetwork, hclock⟩
  | wire r =>
    cases r with
    | send r timeout =>
      dsimp only [answer]
      rw [hnetwork]
      exact ⟨rfl, hdisk, rfl, hclock⟩
    | wait span => exact ⟨rfl, hdisk, hnetwork, hclock⟩
    | note e => exact ⟨rfl, (h _ rfl _ _ hdisk).2, hnetwork, hclock⟩
  | now =>
    dsimp only [answer]
    rw [hclock]
    exact ⟨rfl, hdisk, hnetwork, rfl⟩
  | note e => exact ⟨rfl, (h _ rfl _ _ hdisk).2, hnetwork, hclock⟩
  | print text => exact ⟨rfl, hdisk, hnetwork, hclock⟩

/-- A plan runs the same on disks that answer its steps alike. -/
theorem run_alike {p : Plan Host α} (h : p.Only fun s : Host.Step => ∀ q ∈ s.disk?, m.Agrees R q)
    (hw : w.Alike R w') :
    (p.run m.answer w').1 = (p.run m.answer w).1 ∧
      (p.run m.answer w).2.Alike R (p.run m.answer w').2 ∧
      p.transcript m.answer w' = p.transcript m.answer w := by
  induction p generalizing w w' with
  | done a => exact ⟨rfl, hw, rfl⟩
  | ask s next ih =>
    obtain ⟨hsame, hw⟩ := answer_alike h.1 hw
    rw [Plan.run_ask, Plan.run_ask, Plan.transcript, Plan.transcript, hsame]
    obtain ⟨hvalue, hafter, htranscript⟩ := ih _ (h.2 _) hw
    exact ⟨hvalue, hafter, congrArg _ htranscript⟩

/-- Disks stay alike with what a client notes on one of them. -/
theorem run_noted (hnote : ∀ e d d', R d d' → R (m.disk (.note e) d).2 d') {p : Plan Host α}
    (h : p.Only Step.IsClientNote) (hw : w.Alike R w') : (p.run m.answer w).2.Alike R w' := by
  refine h.run_keeps m.answer (K := fun w => w.Alike R w') (fun s w hs hw => ?_) hw
  obtain ⟨e, rfl⟩ := hs.exists
  exact ⟨hnote e _ _ hw.disk, hw.network, hw.clock⟩

/-! ## Machines in memory -/

/-- A machine with a disk in memory and a clock that stands still, and a network that answers as it was
written down before, whatever is asked. -/
def scripted : Parts Files.Tree (List Http.Outcome) Instant where
  disk s t := t.answer s
  network _ _ script := (script.headD .unreachable, script.tail)
  clock t := (t, t)

/-- A machine with a drive, whose clients let themselves be sent on. The network is what becomes of single
requests. -/
def onWeb {τ : Type} (scribe : Files.Scribe τ)
    (exchange : Client.Span → Http.Request → ν → Http.Outcome × ν) (clock : κ → Instant × κ) :
    Parts (Files.Drive τ) ν κ where
  disk := Files.Drive.answer scribe
  network r timeout n :=
    let way := Http.journey (exchange timeout) r n
    (way.outcome, way.network)
  clock

end Parts

end Enrollment.Host
