import Enrollment.Proofs.Lifecycle.Discipline
/-!
# Operations give up

An operation that is answered with a failure asks nothing more, and the failure is what comes of it.
What the failure says makes no difference to anything else: surroundings that fail at the same
questions, in whatever words, are asked the same and are left the same.

Results:
 1. `givesUp_perform`: every operation gives up at the first failure.
 2. `run_alike`: surroundings that differ in their failures alone.
-/

namespace Enrollment.Lifecycle

open Registration (Record)

variable {α β : Type}

/-- A plan is over with the first failure that it is answered with. -/
def EndsWithFailure : Plan Surroundings (Except Failure α) → Prop
  | .done _ => True
  | .ask q next => ∀ reply, EndsWithFailure (next reply) ∧
      ∀ f, failure? ⟨q, reply⟩ = some f → next reply = .done (.error f)

theorem EndsWithFailure.bind {p : Plan Surroundings (Except Failure α)} (hp : EndsWithFailure p)
    {k : Except Failure α → Plan Surroundings (Except Failure β)}
    (hok : ∀ a, EndsWithFailure (k (.ok a))) (herror : ∀ f, k (.error f) = .done (.error f)) :
    EndsWithFailure (p.bind k) := by
  induction p with
  | done o =>
    cases o with
    | ok a => exact hok a
    | error f =>
      show EndsWithFailure (k (.error f))
      rw [herror]
      trivial
  | ask q next ih =>
    intro reply
    refine ⟨ih reply (hp reply).1, fun f hf => ?_⟩
    show (next reply).bind k = _
    rw [(hp reply).2 f hf]
    exact herror f

namespace Act

/-- An operation gives up at the first failure. -/
def GivesUp (x : Act α) : Prop :=
  EndsWithFailure x.run

theorem givesUp_pure (a : α) : GivesUp (pure a) := trivial

theorem givesUp_throw (f : Failure) : GivesUp (throw f : Act α) := trivial

theorem givesUp_ofExcept (o : Except Failure α) : GivesUp (ofExcept o) := by
  cases o with
  | ok a => exact givesUp_pure a
  | error f => exact givesUp_throw f

theorem givesUp_bind {x : Act α} {k : α → Act β} (hx : GivesUp x) (hk : ∀ a, GivesUp (k a)) :
    GivesUp (x >>= k) :=
  EndsWithFailure.bind hx hk fun _ => rfl

theorem givesUp_map {f : α → β} {x : Act α} (hx : GivesUp x) : GivesUp (f <$> x) := by
  rw [map_eq_pure_bind]
  exact givesUp_bind hx fun a => givesUp_pure _

/-- What comes of a question is its answer, whether it is a failure or not. -/
theorem endsWithFailure_ask {q : Step} {o : q.Answer → Except Failure α}
    (h : ∀ reply, (∃ a, o reply = .ok a ∧ failure? ⟨q, reply⟩ = none) ∨
      ∃ f, o reply = .error f ∧ failure? ⟨q, reply⟩ = some f) :
    EndsWithFailure (.ask (I := Surroundings) q fun reply => .done (o reply)) := by
  intro reply
  refine ⟨trivial, fun f hf => ?_⟩
  show Plan.done (o reply) = _
  rcases h reply with ⟨a, -, hnone⟩ | ⟨f', ho, hsome⟩
  · rw [hnone] at hf
    cases hf
  · rw [hsome] at hf
    rw [ho, Option.some.inj hf]

theorem givesUp_entryOf (a : Address) : GivesUp (entryOf a) :=
  endsWithFailure_ask fun
    | .ok entry => .inl ⟨entry, rfl, rfl⟩
    | .error f => .inr ⟨f, rfl, rfl⟩

theorem givesUp_register (r : Registration.Request) : GivesUp (register r) :=
  endsWithFailure_ask fun
    | .ok receipt => .inl ⟨receipt, rfl, rfl⟩
    | .error f => .inr ⟨f, rfl, rfl⟩

theorem givesUp_activate (a : Address) (r : Activation.Request) : GivesUp (activate a r) :=
  endsWithFailure_ask fun
    | .ok receipt => .inl ⟨receipt, rfl, rfl⟩
    | .error f => .inr ⟨f, rfl, rfl⟩

theorem givesUp_deactivate (a : Address) : GivesUp (deactivate a) :=
  endsWithFailure_ask fun
    | .ok entry => .inl ⟨entry, rfl, rfl⟩
    | .error f => .inr ⟨f, rfl, rfl⟩

theorem givesUp_load : GivesUp load :=
  endsWithFailure_ask fun
    | .ok found => .inl ⟨found, rfl, rfl⟩
    | .error f => .inr ⟨f, rfl, rfl⟩

theorem givesUp_save (r : Record) : GivesUp (save r) :=
  endsWithFailure_ask fun
    | .ok done => .inl ⟨done, rfl, rfl⟩
    | .error f => .inr ⟨f, rfl, rfl⟩

theorem givesUp_clear : GivesUp clear :=
  endsWithFailure_ask fun
    | .ok done => .inl ⟨done, rfl, rfl⟩
    | .error f => .inr ⟨f, rfl, rfl⟩

theorem givesUp_now : GivesUp now :=
  endsWithFailure_ask fun i => .inl ⟨i, rfl, rfl⟩

theorem givesUp_note (level : Log.Level) (message : String) (fields : List (String × String)) :
    GivesUp (note level message fields) :=
  endsWithFailure_ask fun done => .inl ⟨done, rfl, rfl⟩

end Act

/-! ## The operations -/

section

open Act

variable (l : Lifecycle)

theorem givesUp_restoring (entry : Node.Entry) : GivesUp (l.restoring entry) := by
  refine givesUp_bind givesUp_now fun now => ?_
  split
  · exact givesUp_save _
  · exact givesUp_note _ _ _

theorem givesUp_refreshRecord (entry : Node.Entry) : GivesUp (l.refreshRecord entry) := by
  refine givesUp_bind givesUp_load fun found => ?_
  split
  · exact givesUp_restoring l entry
  · split
    · split
      · exact givesUp_bind givesUp_now fun now => givesUp_save _
      · exact givesUp_pure _
    · exact givesUp_restoring l entry

theorem givesUp_registerInactive (entry : Node.Entry) : GivesUp (l.registerInactive entry) := by
  refine givesUp_bind (givesUp_ofExcept _) fun _ => givesUp_bind (givesUp_register _) fun receipt => ?_
  split
  · exact givesUp_throw _
  · exact givesUp_bind (givesUp_save _) fun _ => givesUp_bind (givesUp_note _ _ _) fun _ =>
      givesUp_pure _

theorem givesUp_register : GivesUp l.register := by
  refine givesUp_bind (givesUp_entryOf _) fun entry => ?_
  split
  · exact givesUp_bind (givesUp_note _ _ _) fun _ =>
      givesUp_bind (givesUp_refreshRecord l entry) fun _ => givesUp_pure _
  · exact givesUp_bind (givesUp_note _ _ _) fun _ =>
      givesUp_bind (givesUp_refreshRecord l entry) fun _ => givesUp_pure _
  · exact givesUp_registerInactive l entry

theorem givesUp_ownRecord : GivesUp l.ownRecord := by
  refine givesUp_bind givesUp_load fun found => ?_
  split
  · exact givesUp_throw _
  · split
    · exact givesUp_throw _
    · exact givesUp_pure _

theorem givesUp_activateRegistered (record : Record) (entry : Node.Entry) :
    GivesUp (l.activateRegistered record entry) := by
  have hactivate : GivesUp (do
      let receipt ← Act.activate l.address ⟨record.registrationId⟩
      Act.save { record with activatedAt := some receipt.activatedAt }
      Act.note .info "Node activated" [("activated_at", receipt.activatedAt.shown)]
      return ActivateOutcome.activated receipt) :=
    givesUp_bind (givesUp_activate _ _) fun receipt => givesUp_bind (givesUp_save _) fun _ =>
      givesUp_bind (givesUp_note _ _ _) fun _ => givesUp_pure _
  refine givesUp_bind givesUp_now fun now => ?_
  dsimp only
  split
  · exact givesUp_throw (.cooldownPending _)
  · split
    · split
      · exact givesUp_throw (.record _)
      · exact hactivate
    · exact hactivate

theorem givesUp_activate : GivesUp l.activate := by
  refine givesUp_bind (givesUp_ownRecord l) fun record =>
    givesUp_bind (givesUp_entryOf _) fun entry => ?_
  split
  · refine givesUp_bind (givesUp_note _ _ _) fun _ => ?_
    split
    · exact givesUp_bind givesUp_now fun now => givesUp_bind (givesUp_save _) fun _ =>
        givesUp_pure _
    · exact givesUp_pure _
  · exact givesUp_throw _
  · exact givesUp_activateRegistered l record entry

theorem givesUp_deactivate : GivesUp l.deactivate := by
  refine givesUp_bind (givesUp_entryOf _) fun entry => ?_
  split
  · exact givesUp_bind (givesUp_note _ _ _) fun _ => givesUp_bind givesUp_clear fun _ =>
      givesUp_pure _
  · exact givesUp_bind (givesUp_ofExcept _) fun _ => givesUp_bind (Act.givesUp_deactivate _)
      fun updated => givesUp_bind givesUp_clear fun _ => givesUp_bind (givesUp_note _ _ _) fun _ =>
        givesUp_pure _

theorem givesUp_status : GivesUp l.status := by
  refine givesUp_bind (givesUp_entryOf _) fun entry => givesUp_bind givesUp_load fun record => ?_
  split
  · exact givesUp_bind givesUp_now fun now => givesUp_pure _
  · exact givesUp_pure _

/-- Every operation gives up at the first failure. -/
theorem givesUp_perform (operation : Operation) : GivesUp (l.perform operation) := by
  cases operation with
  | register => exact givesUp_map (givesUp_register l)
  | activate => exact givesUp_map (givesUp_activate l)
  | deactivate => exact givesUp_map (givesUp_deactivate l)
  | status => exact givesUp_map (givesUp_status l)

end

/-! ## Failing in other words -/

def asked (t : Transcript) : List Step :=
  t.map (·.request)

theorem asked_append (t u : Transcript) : asked (t ++ u) = asked t ++ asked u :=
  List.map_append

/-- Surroundings that answer the same and change the same, but for what failures say. -/
def Alike {σ : Type} (answer answer' : (q : Step) → σ → q.Answer × σ) : Prop :=
  ∀ q s, (answer' q s).2 = (answer q s).2 ∧
    ((answer' q s).1 = (answer q s).1 ∨
      ∃ f f', failure? ⟨q, (answer q s).1⟩ = some f ∧ failure? ⟨q, (answer' q s).1⟩ = some f')

/-- Surroundings that differ in what failures say are asked the same, and are left the same. -/
theorem run_alike {σ : Type} {answer answer' : (q : Step) → σ → q.Answer × σ}
    (halike : Alike answer answer') {p : Plan Surroundings (Except Failure α)}
    (hends : EndsWithFailure p) (s : σ) :
    (p.run answer' s).2 = (p.run answer s).2 ∧
      asked (p.transcript answer' s) = asked (p.transcript answer s) := by
  induction p generalizing s with
  | done o => exact ⟨rfl, rfl⟩
  | ask q next ih =>
    obtain ⟨hstate, hreply | ⟨f, f', hf, hf'⟩⟩ := halike q s
    · have hrest := ih (answer q s).1 (hends _).1 (answer q s).2
      rw [Plan.run_ask, Plan.run_ask, Plan.transcript, Plan.transcript, hstate, hreply]
      exact ⟨hrest.1, congrArg (List.cons q) hrest.2⟩
    -- Both fail, and nothing more is asked.
    · have hdone := (hends _).2 f hf
      have hdone' := (hends _).2 f' hf'
      rw [Plan.run_ask, Plan.run_ask, Plan.transcript, Plan.transcript, hdone, hdone', hstate]
      exact ⟨rfl, rfl⟩

end Enrollment.Lifecycle
