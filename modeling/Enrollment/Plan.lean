/-!
# Plans

A plan is a computation that asks its surroundings questions and goes on with the answers. What
may be asked is fixed by an interface; who answers is not, so one plan can be run against a real
machine, a world held in memory, a faulty one, or step by step between the steps of other plans.

Main statements: `Plan` is a lawful monad, a run of a sequence is the sequence of the runs
(`run_bind`), and an implemented plan runs as the plan does when every question is answered by its
implementation (`run_implementBy`).
-/

namespace Enrollment

/-- The questions a computation may ask, and the type of the answer to each. -/
structure Interface where
  Request : Type
  Answer : Request → Type

/-- A computation that asks questions of `I` and ends with a value. -/
inductive Plan (I : Interface) (α : Type) : Type where
  | done (value : α)
  | ask (request : I.Request) (next : I.Answer request → Plan I α)

namespace Plan

variable {I J : Interface} {α β γ σ : Type}

/-- Runs one plan and feeds its value to the next. -/
def bind : Plan I α → (α → Plan I β) → Plan I β
  | .done value, f => f value
  | .ask request next, f => .ask request fun answer => (next answer).bind f

instance : Monad (Plan I) where
  pure := .done
  bind := bind

/-- The plan that asks one question and ends with its answer. -/
def request (r : I.Request) : Plan I (I.Answer r) :=
  .ask r .done

/-- Runs a plan against surroundings that answer every question at once and may change by it. -/
def run (answer : (r : I.Request) → σ → I.Answer r × σ) : Plan I α → σ → α × σ
  | .done value, s => (value, s)
  | .ask r next, s =>
    let (reply, s') := answer r s
    (next reply).run answer s'

/-- Puts a plan over another interface in the place of every question. -/
def implementBy (f : (r : I.Request) → Plan J (I.Answer r)) : Plan I α → Plan J α
  | .done value => .done value
  | .ask r next => (f r).bind fun reply => (next reply).implementBy f

@[simp] theorem pure_eq (a : α) : (pure a : Plan I α) = .done a := rfl

@[simp] theorem bind_eq (p : Plan I α) (f : α → Plan I β) : p >>= f = p.bind f := rfl

@[simp] theorem done_bind (a : α) (f : α → Plan I β) : (Plan.done a).bind f = f a := rfl

@[simp] theorem ask_bind (r : I.Request) (next : I.Answer r → Plan I α) (f : α → Plan I β) :
    (Plan.ask r next).bind f = .ask r fun reply => (next reply).bind f := rfl

@[simp] theorem bind_done (p : Plan I α) : p.bind .done = p := by
  induction p with
  | done => rfl
  | ask r next ih => simp [ih]

theorem bind_assoc (p : Plan I α) (f : α → Plan I β) (g : β → Plan I γ) :
    (p.bind f).bind g = p.bind fun a => (f a).bind g := by
  induction p with
  | done => rfl
  | ask r next ih => simp [ih]

instance : LawfulMonad (Plan I) := LawfulMonad.mk' (Plan I) (fun p => bind_done p) (fun _ _ => rfl)
  (fun p f g => bind_assoc p f g)

@[simp] theorem run_done (answer : (r : I.Request) → σ → I.Answer r × σ) (a : α) (s : σ) :
    (Plan.done a).run answer s = (a, s) := rfl

@[simp] theorem run_ask (answer : (r : I.Request) → σ → I.Answer r × σ) (r : I.Request)
    (next : I.Answer r → Plan I α) (s : σ) :
    (Plan.ask r next).run answer s = (next (answer r s).1).run answer (answer r s).2 := rfl

theorem run_bind (answer : (r : I.Request) → σ → I.Answer r × σ) (p : Plan I α)
    (f : α → Plan I β) (s : σ) :
    (p.bind f).run answer s = (f (p.run answer s).1).run answer (p.run answer s).2 := by
  induction p generalizing s with
  | done => rfl
  | ask r next ih => simp [ih]

theorem implementBy_bind (f : (r : I.Request) → Plan J (I.Answer r)) (p : Plan I α)
    (g : α → Plan I β) :
    (p.bind g).implementBy f = (p.implementBy f).bind fun a => (g a).implementBy f := by
  induction p with
  | done => rfl
  | ask r next ih => simp [implementBy, ih, bind_assoc]

theorem run_implementBy (f : (r : I.Request) → Plan J (I.Answer r))
    (answer : (r : J.Request) → σ → J.Answer r × σ) (p : Plan I α) (s : σ) :
    (p.implementBy f).run answer s = p.run (fun r s => (f r).run answer s) s := by
  induction p generalizing s with
  | done => rfl
  | ask r next ih => simp [implementBy, run_bind, ih]

end Plan

end Enrollment
