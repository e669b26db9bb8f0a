import Enrollment.Host.World
import Enrollment.Proofs.Plan.Asking
/-!
# What a host sees of a run

The transcript of a run on a host, as it is seen from outside: the requests that were sent, the steps
on the disk that may change it, what was noted and what was printed.

Results:
 1. `sent_of_only` and its like: what is never asked is not seen.
 2. `changes_onDisk`: of a plan that changes the disk at every step, every step is seen.
 3. `answer_of_keeps`: a step that changes nothing leaves a file system as it is.
-/

namespace Enrollment

open Client (Wire WireRequest)
open Files (Disk)

def Files.Step.changes : Files.Step → Bool
  | read _ => false
  | probe _ => false
  | note _ => false
  | _ => true

/-- A step that changes nothing leaves a file system as it is. -/
theorem Files.Tree.answer_of_keeps {s : Files.Step} (h : s.changes = false) (t : Files.Tree) :
    (t.answer s).2 = t := by
  cases s with
  | read path => rfl
  | probe path => rfl
  | note e => rfl
  | _ => cases h

namespace Host

/-! ## Questions -/

namespace Step

def sent? : Host.Step → Option Http.Request
  | wire (.send r _) => some r
  | _ => none

def noted? : Host.Step → Option Log.Event
  | disk (.note e) => some e
  | wire (.note e) => some e
  | note e => some e
  | _ => none

def printed? : Host.Step → Option String
  | print s => some s
  | _ => none

def changes : Host.Step → Bool
  | disk s => s.changes
  | _ => false

/-- What the disk is asked, be it to write down what is noted. -/
def disk? : Host.Step → Option Files.Step
  | disk s => some s
  | wire (.note e) => some (.note e)
  | note e => some (.note e)
  | _ => none

def IsClientNote : Host.Step → Prop
  | wire (.note _) => True
  | _ => False

theorem IsClientNote.exists {s : Host.Step} (h : s.IsClientNote) : ∃ e, s = wire (.note e) := by
  unfold IsClientNote at h
  split at h
  · exact ⟨_, rfl⟩
  · cases h

end Step

/-! ## Transcripts -/

def sent (t : List (Exchange Host)) : List Http.Request :=
  t.filterMap fun e => e.request.sent?

def noted (t : List (Exchange Host)) : List Log.Event :=
  t.filterMap fun e => e.request.noted?

def printed (t : List (Exchange Host)) : List String :=
  t.filterMap fun e => e.request.printed?

/-- The exchange with the disk that an exchange is, if it may have changed the disk. -/
def change? : Exchange Host → Option (Exchange Disk)
  | ⟨.disk s, reply⟩ => if s.changes then some ⟨s, reply⟩ else none
  | _ => none

def changes (t : List (Exchange Host)) : List (Exchange Disk) :=
  t.filterMap change?

@[simp] theorem sent_append (t u : List (Exchange Host)) : sent (t ++ u) = sent t ++ sent u :=
  List.filterMap_append

@[simp] theorem noted_append (t u : List (Exchange Host)) : noted (t ++ u) = noted t ++ noted u :=
  List.filterMap_append

@[simp] theorem printed_append (t u : List (Exchange Host)) :
    printed (t ++ u) = printed t ++ printed u :=
  List.filterMap_append

@[simp] theorem changes_append (t u : List (Exchange Host)) :
    changes (t ++ u) = changes t ++ changes u :=
  List.filterMap_append

theorem change?_eq_none {e : Exchange Host} (h : e.request.changes = false) : change? e = none := by
  obtain ⟨s, reply⟩ := e
  cases s with
  | disk s => exact if_neg (Bool.eq_false_iff.1 h)
  | _ => rfl

/-! ## What is never asked -/

section

variable {α σ : Type} {p : Plan Host α} {answer : (s : Host.Request) → σ → Host.Answer s × σ} {w : σ}

theorem sent_of_only (h : p.Only fun s : Host.Step => s.sent? = none) : sent (p.transcript answer w) = [] :=
  List.filterMap_eq_nil_iff.2 (h.transcript answer w)

theorem printed_of_only (h : p.Only fun s : Host.Step => s.printed? = none) :
    printed (p.transcript answer w) = [] :=
  List.filterMap_eq_nil_iff.2 (h.transcript answer w)

theorem changes_of_only (h : p.Only fun s : Host.Step => s.changes = false) :
    changes (p.transcript answer w) = [] :=
  List.filterMap_eq_nil_iff.2 fun e he => change?_eq_none (h.transcript answer w e he)

theorem mem_sent_of_only {P : Http.Request → Prop} (h : p.Only fun s : Host.Step => ∀ r ∈ s.sent?, P r) :
    ∀ r ∈ sent (p.transcript answer w), P r := by
  intro r hr
  obtain ⟨e, he, hr⟩ := List.mem_filterMap.1 hr
  exact h.transcript answer w e he r hr

end

/-! ## Plans over one part -/

section

variable {α σ : Type} (answer : (s : Host.Request) → σ → Host.Answer s × σ)

theorem only_onDisk {P : Host.Step → Prop} {p : Plan Disk α} (h : p.Only fun s => P (.disk s)) :
    (onDisk p).Only P :=
  h.implementBy fun _ hs => Plan.only_request hs

theorem only_onWire {P : Host.Step → Prop} {p : Plan Wire α} (h : p.Only fun r => P (.wire r)) :
    (onWire p).Only P :=
  h.implementBy fun _ hr => Plan.only_request hr

/-- If every step on the disk may change it, all of them are seen. -/
theorem changes_onDisk {p : Plan Disk α} (h : p.Only fun s : Files.Step => s.changes = true) (w : σ) :
    changes ((onDisk p).transcript answer w) = p.transcript (fun s w => answer (.disk s) w) w := by
  induction p generalizing w with
  | done a => rfl
  | ask s next ih =>
    have hfirst : change? ⟨.disk s, (answer (.disk s) w).1⟩ = some ⟨s, (answer (.disk s) w).1⟩ :=
      if_pos h.1
    have hrest : changes ((onDisk (.ask s next)).transcript answer w) =
        ⟨s, (answer (.disk s) w).1⟩ :: changes
          ((onDisk (next (answer (.disk s) w).1)).transcript answer (answer (.disk s) w).2) :=
      List.filterMap_cons_some hfirst
    rw [hrest, ih _ (h.2 _)]
    rfl

end

/-- A machine with nothing on its disk. -/
def World.empty : World where
  disk := ⟨[], []⟩
  online := true
  script := []
  clock := ⟨19700, 61200, 125000000, by decide, by decide, by decide, by decide, by decide⟩

end Host

end Enrollment
