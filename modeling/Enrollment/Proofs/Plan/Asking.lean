import Enrollment.Proofs.Plan.Transcript
/-!
# What plans ask

What holds of every question that a plan may come to ask, whatever it is answered. That is said by
recursion over the plan, so it is put together along sequences and implementations, and it holds of
every exchange of a run.

Results:
 1. `Only.bind`, `Only.implementBy`: what is asked by a sequence, and by an implemented plan.
 2. `Only.transcript`, `Only.run_keeps`: what is asked in a run, and what a run keeps.
 3. `transcript_bind`: the transcript of a sequence is that of its first part, and then that of the
    second.
 4. `transcript_implementBy`: the transcript of an implemented plan is put together of what is asked in the
    place of each question.
-/

namespace Enrollment.Plan

variable {I J : Interface} {α β σ : Type} {P : I.Request → Prop} {Q : J.Request → Prop}

/-- Every question that a plan may come to ask is of a kind. -/
def Only (P : I.Request → Prop) : Plan I α → Prop
  | .done _ => True
  | .ask r next => P r ∧ ∀ reply, Only P (next reply)

theorem only_done {a : α} : Only P (.done a) := trivial

theorem only_request {r : I.Request} (h : P r) : Only P (request r) :=
  ⟨h, fun _ => only_done⟩

theorem Only.bind {p : Plan I α} (hp : Only P p) {f : α → Plan I β} (hf : ∀ a, Only P (f a)) :
    Only P (p.bind f) := by
  induction p with
  | done a => exact hf a
  | ask r next ih => exact ⟨hp.1, fun reply => ih reply (hp.2 reply)⟩

theorem Only.implementBy {p : Plan I α} (hp : Only P p) {f : (r : I.Request) → Plan J (I.Answer r)}
    (hf : ∀ r, P r → Only Q (f r)) : Only Q (p.implementBy f) := by
  induction p with
  | done a => exact only_done
  | ask r next ih => exact (hf r hp.1).bind fun reply => ih reply (hp.2 reply)

/-- Whatever is asked, if every question is implemented by questions of a kind. -/
theorem only_implementBy (p : Plan I α) {f : (r : I.Request) → Plan J (I.Answer r)}
    (hf : ∀ r, Only Q (f r)) : Only Q (p.implementBy f) := by
  induction p with
  | done a => exact only_done
  | ask r next ih => exact (hf r).bind ih

theorem Only.mono {p : Plan I α} (hp : Only P p) {P' : I.Request → Prop} (h : ∀ r, P r → P' r) :
    Only P' p := by
  induction p with
  | done a => exact only_done
  | ask r next ih => exact ⟨h r hp.1, fun reply => ih reply (hp.2 reply)⟩

/-- What is implemented by itself stays as it is. -/
theorem Only.implementBy_eq {p : Plan I α} {f : (r : I.Request) → Plan I (I.Answer r)}
    (hp : Only (fun r => f r = request r) p) : p.implementBy f = p := by
  induction p with
  | done a => rfl
  | ask r next ih =>
    rw [Plan.implementBy, hp.1, funext fun reply => ih reply (hp.2 reply)]
    rfl

theorem implementBy_request {r : I.Request} (f : (r : I.Request) → Plan J (I.Answer r)) :
    (request r).implementBy f = f r :=
  bind_done (f r)

/-- What is implemented twice is implemented by the implementations of its implementations. -/
theorem implementBy_implementBy {L : Interface} (f : (r : I.Request) → Plan J (I.Answer r))
    (g : (r : J.Request) → Plan L (J.Answer r)) (p : Plan I α) :
    (p.implementBy f).implementBy g = p.implementBy fun r => (f r).implementBy g := by
  induction p with
  | done a => rfl
  | ask r next ih =>
    rw [Plan.implementBy, implementBy_bind, Plan.implementBy, funext ih]

variable (answer : (r : I.Request) → σ → I.Answer r × σ)

theorem Only.transcript {p : Plan I α} (hp : Only P p) (s : σ) :
    ∀ e ∈ p.transcript answer s, P e.request := by
  induction p generalizing s with
  | done a => exact fun e he => by cases he
  | ask r next ih =>
    intro e he
    rcases List.mem_cons.1 he with rfl | he
    · exact hp.1
    · exact ih _ (hp.2 _) _ e he

/-- What is kept by every question of a kind is kept by a run that asks no others. -/
theorem Only.run_keeps {p : Plan I α} (hp : Only P p) {K : σ → Prop}
    (hkeeps : ∀ r s, P r → K s → K (answer r s).2) {s : σ} (hs : K s) : K (p.run answer s).2 := by
  induction p generalizing s with
  | done a => exact hs
  | ask r next ih => exact ih _ (hp.2 _) (hkeeps r s hp.1 hs)

theorem transcript_bind (p : Plan I α) (f : α → Plan I β) (s : σ) :
    (p.bind f).transcript answer s =
      p.transcript answer s ++ (f (p.run answer s).1).transcript answer (p.run answer s).2 := by
  induction p generalizing s with
  | done a => rfl
  | ask r next ih =>
    rw [ask_bind, transcript, transcript, ih]
    rfl

/-- What relates nothing to nothing, and goes on when a question is put in front on one side and what is
asked in its place on the other, relates a run of a plan to the run of the implemented plan. -/
theorem transcript_implementBy {answer : (r : J.Request) → σ → J.Answer r × σ}
    {f : (r : I.Request) → Plan J (I.Answer r)} {R : List (Exchange I) → List (Exchange J) → Prop}
    (hnil : R [] [])
    (hcons : ∀ r s t u, R t u →
      R (⟨r, ((f r).run answer s).1⟩ :: t) ((f r).transcript answer s ++ u))
    (p : Plan I α) (s : σ) :
    R (p.transcript (fun r s => (f r).run answer s) s) ((p.implementBy f).transcript answer s) := by
  induction p generalizing s with
  | done a => exact hnil
  | ask r next ih =>
    rw [implementBy, transcript_bind]
    exact hcons r s _ _ (ih _ _)

end Enrollment.Plan
