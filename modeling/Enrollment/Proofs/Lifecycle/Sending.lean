import Enrollment.Proofs.Client.Sending
import Enrollment.Proofs.Host.History
import Enrollment.Proofs.Lifecycle.Remote
/-!
# What operations send

An operation on a host sends what its questions to the coordinator send, question by question, whatever
the network makes of it: a question is asked in one request, once or more often, and everything else is
done at home. Registering asks for the entry of the node, and then for a registration if the node is told
to be inactive.

Results:
 1. `sent_onLifecycle`: the requests that an operation sends.
 2. `queries_register`: the questions of a registration.
-/

namespace Enrollment

/-- What a client sends on a host is what it sends. -/
theorem Host.sent_onWire {α σ : Type} (answer : (s : Host.Request) → σ → Host.Answer s × σ)
    (p : Plan Client.Wire α) (w : σ) :
    sent ((onWire p).transcript answer w) =
      Client.sent (p.transcript (fun r w => answer (.wire r) w) w) := by
  induction p generalizing w with
  | done a => rfl
  | ask r next ih =>
    have hfirst : (Host.Step.wire r).sent? =
        Client.sent? ⟨r, (answer (.wire r) w).1⟩ := by
      cases r <;> rfl
    show List.filterMap (fun e : Exchange Host => e.request.sent?) (_ :: _) =
      List.filterMap Client.sent? (_ :: _)
    rw [List.filterMap_cons, List.filterMap_cons]
    dsimp only
    rw [hfirst]
    cases Client.sent? ⟨r, (answer (.wire r) w).1⟩ with
    | none => exact ih _ _
    | some made => exact congrArg (made :: ·) (ih _ _)

namespace Lifecycle

open Client (Connection Query)
open Host (sent)
open Registration (Store)

variable {α σ : Type}

/-- The requests that are sent put queries of a connection, query by query. -/
def SendsAll (c : Connection) (qs : List Query) (requests : List Http.Request) : Prop :=
  ∃ parts, List.Forall₂ (Query.Sends c) qs parts ∧ requests = parts.flatten

section

variable (c : Connection) (store : Store) (answer : (s : Host.Request) → σ → Host.Answer s × σ)

/-- A question of an operation sends its query, if it has one. -/
theorem sent_lifecycleStep (q : Step) (w : σ) :
    SendsAll c (query? q).toList (sent ((Host.lifecycleStep c store q).transcript answer w)) := by
  have hquery : ∀ query : Query,
      SendsAll c [query] (sent ((Host.onWire (query.plan c)).transcript answer w)) := by
    intro query
    rw [Host.sent_onWire]
    exact ⟨[_], .cons (Query.sends_of_course (Plan.course_transcript _ _ _)) .nil,
      (List.append_nil _).symm⟩
  have hsilent : ∀ {β : Type} {p : Plan Host β}, (p.Only fun s : Host.Step => s.sent? = none) →
      SendsAll c [] (sent (p.transcript answer w)) := fun h => ⟨[], .nil, Host.sent_of_only h⟩
  have hdisk : ∀ {β : Type} (p : Plan Files.Disk β),
      SendsAll c [] (sent ((Host.onDisk p).transcript answer w)) := fun p =>
    hsilent (Plan.only_implementBy p fun _ => Plan.only_request rfl)
  cases q with
  | entryOf a => exact hquery (.entryOf a)
  | register r => exact hquery (.register r)
  | activate a r => exact hquery (.activate a r)
  | deactivate a => exact hquery (.deactivate a)
  | load => exact hdisk store.load
  | save r => exact hdisk (store.save r)
  | clear => exact hdisk store.clear
  | now => exact hsilent (Plan.only_request rfl)
  | note e => exact hsilent (Plan.only_request rfl)

/-- What is asked and answered in an operation on a host. -/
def transcriptOn (act : Act α) (w : σ) : Transcript :=
  act.run.transcript (fun q w => (Host.lifecycleStep c store q).run answer w) w

/-- An operation on a host sends what its questions to the coordinator send. -/
theorem sent_onLifecycle (act : Act α) (w : σ) :
    SendsAll c (queries (transcriptOn c store answer act w))
      (sent ((Host.onLifecycle c store act).transcript answer w)) := by
  refine Plan.transcript_implementBy (R := fun t u => SendsAll c (queries t) (sent u))
    ⟨[], .nil, rfl⟩ ?_ act.run w
  rintro r s t u ⟨rest, hrest, hu⟩
  obtain ⟨first, hfirst, heq⟩ := sent_lifecycleStep c store answer r s
  refine ⟨first ++ rest, ?_, ?_⟩
  · rw [queries_cons]
    exact List.rel_append hfirst hrest
  · rw [Host.sent_append, heq, hu, List.flatten_append]

end

/-! ## Registering -/

variable {l : Lifecycle} {c : Connection} {store : Store}
  {answer : (s : Host.Request) → σ → Host.Answer s × σ}

/-- What is asked for once an entry is told: a registration, if the node is inactive. -/
def asksBehind (l : Lifecycle) : Except Failure Node.Entry → List Query
  | .ok entry => if entry.status = .inactive then [.register l.registration] else []
  | .error _ => []

/-- A node is told to be inactive, and a registration is sent; or it is not, and nothing is. -/
theorem asksBehind_sends {told : Except Failure Node.Entry} {requests : List Http.Request}
    (h : SendsAll c (asksBehind l told) requests) :
    (∃ entry, told = .ok entry ∧ entry.status = .inactive) ∧
        (Query.register l.registration).Sends c requests ∨
      (¬∃ entry, told = .ok entry ∧ entry.status = .inactive) ∧ requests = [] := by
  obtain ⟨parts, hparts, rfl⟩ := h
  cases told with
  | error f =>
    obtain rfl := List.forall₂_nil_left_iff.1 hparts
    refine .inr ⟨?_, rfl⟩
    rintro ⟨entry, hentry, -⟩
    cases hentry
  | ok entry =>
    by_cases hstatus : entry.status = .inactive
    · rw [asksBehind, if_pos hstatus] at hparts
      obtain ⟨first, rest, hfirst, hrest, rfl⟩ := List.forall₂_cons_left_iff.1 hparts
      obtain rfl := List.forall₂_nil_left_iff.1 hrest
      refine .inl ⟨⟨entry, rfl, hstatus⟩, ?_⟩
      rw [List.flatten_singleton]
      exact hfirst
    · rw [asksBehind, if_neg hstatus] at hparts
      obtain rfl := List.forall₂_nil_left_iff.1 hparts
      refine .inr ⟨?_, rfl⟩
      rintro ⟨entry', hentry, hinactive⟩
      cases hentry
      exact hstatus hinactive

theorem queries_eq_nil {t : Transcript} (h : dealings t = []) : queries t = [] := by
  induction t with
  | nil => rfl
  | cons e t ih =>
    obtain ⟨q, reply⟩ := e
    rw [queries_cons]
    cases q with
    | load => exact ih h
    | save r => exact ih h
    | clear => exact ih h
    | now => exact ih h
    | note e => exact ih h
    | _ => cases h

/-- What is asked for when a node is registered follows from the entry that is told. -/
theorem RegisterCourse.queries_eq {told : Except Failure Node.Entry} {t : Transcript}
    {o : Except Failure RegisterOutcome}
    (h : RegisterCourse l (⟨.entryOf l.address, told⟩ :: t) o) :
    queries (⟨.entryOf l.address, told⟩ :: t) = .entryOf l.address :: asksBehind l told := by
  have hinactive : ∀ {entry : Node.Entry}, entry.status = .inactive →
      asksBehind l (.ok entry) = [.register l.registration] := fun hstatus => if_pos hstatus
  cases h with
  | unanswered f => rfl
  | refreshed entry hstatus t o hrefresh =>
    rw [asksBehind, if_neg hstatus, queries_cons, queries_cons,
      queries_eq_nil (dealings_refresh hrefresh)]
    rfl
  | _ =>
    -- The node is told to be inactive.
    rw [hinactive ‹_›]
    rfl

/-- Registering asks for the entry of the node, and then for what that entry calls for. -/
theorem queries_register (w : σ) :
    queries (transcriptOn c store answer l.register w) =
      .entryOf l.address ::
        asksBehind l ((Host.onWire (c.entryOf l.address)).run answer w).1 := by
  have hregister : RegisterCourse l (transcriptOn c store answer l.register w) _ :=
    registerCourse (Plan.course_transcript _ _ w)
  exact hregister.queries_eq

end Lifecycle

end Enrollment
