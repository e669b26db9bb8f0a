import Enrollment.Proofs.Plan.Transcript
/-!
# Plans that share their surroundings

Any number of plans at work on one state. They take turns in any order: in a turn one of them has its
next question answered, and the state changes by it. What a turn is answered may depend on more than
the state, such as the hour.

What one of the plans was answered in its turns is the beginning of one of its courses, whatever the
others do in between. So what is found of every course of a plan holds of its turns.

Results:
 1. `coherent_turn`, `coherent_after`: what every turn, and every number of turns, keeps.
 2. `Coherent.course_of_done`: the turns of a plan that has come to its end are one of its courses.
 3. `Coherent.begins`: those of another one can be gone on with to one.
-/

namespace Enrollment.Plan

variable {I : Interface} {α σ τ : Type}

/-- A turn: whose it is, under what it is taken, and what is asked and answered. -/
structure Turn (I : Interface) (τ : Type) where
  plan : Nat
  under : τ
  exchange : Exchange I

/-- Plans at work on one state, what is left of each, and the turns so far, in order. -/
structure Shared (I : Interface) (α σ τ : Type) where
  plans : List (Plan I α)
  state : σ
  turns : List (Turn I τ)

/-- What was asked and answered in some turns. -/
def exchanges (turns : List (Turn I τ)) : List (Exchange I) :=
  turns.map Turn.exchange

/-- What one of the plans was answered in some turns. -/
def own (i : Nat) (turns : List (Turn I τ)) : List (Exchange I) :=
  exchanges (turns.filter fun turn => turn.plan = i)

theorem mem_own {i : Nat} {turns : List (Turn I τ)} {e : Exchange I} :
    e ∈ own i turns ↔ ∃ turn ∈ turns, turn.plan = i ∧ turn.exchange = e := by
  simp [own, exchanges, and_assoc]

theorem exchanges_of_own {i : Nat} {turns : List (Turn I τ)} {e : Exchange I}
    (h : e ∈ own i turns) : e ∈ exchanges turns := by
  obtain ⟨turn, hturn, -, rfl⟩ := mem_own.1 h
  exact List.mem_map_of_mem hturn

theorem own_concat_same (i : Nat) (x : τ) (turns : List (Turn I τ)) (e : Exchange I) :
    own i (turns ++ [⟨i, x, e⟩]) = own i turns ++ [e] := by
  simp [own, exchanges, List.filter_append]

theorem own_concat_other {i j : Nat} (h : j ≠ i) (x : τ) (turns : List (Turn I τ))
    (e : Exchange I) : own i (turns ++ [⟨j, x, e⟩]) = own i turns := by
  simp [own, exchanges, List.filter_append, h]

variable (answer : τ → (r : I.Request) → σ → I.Answer r × σ)

/-- Turns are answered as they are recorded, and the state changes from the first to the second. -/
def AlongTurns : List (Turn I τ) → σ → σ → Prop
  | [], s, s' => s' = s
  | turn :: turns, s, s' =>
    (answer turn.under turn.exchange.request s).1 = turn.exchange.reply ∧
      AlongTurns turns (answer turn.under turn.exchange.request s).2 s'

namespace Shared

/-- Plans that have had no turn yet. -/
def start (plans : List (Plan I α)) (s : σ) : Shared I α σ τ :=
  ⟨plans, s, []⟩

/-- One of the plans has a turn. Nothing happens if there is none of that number, or if it has come
to its end. -/
def turn (w : Shared I α σ τ) (i : Nat) (x : τ) : Shared I α σ τ :=
  match w.plans[i]? with
  | some (.ask r next) =>
    ⟨w.plans.set i (next (answer x r w.state).1), (answer x r w.state).2,
      w.turns ++ [⟨i, x, ⟨r, (answer x r w.state).1⟩⟩]⟩
  | _ => w

def after (w : Shared I α σ τ) : List (Nat × τ) → Shared I α σ τ
  | [] => w
  | (i, x) :: rest => (w.turn answer i x).after rest

theorem turn_cases (w : Shared I α σ τ) (i : Nat) (x : τ) :
    w.turn answer i x = w ∨
    ∃ r next, w.plans[i]? = some (.ask r next) ∧
      w.turn answer i x =
        ⟨w.plans.set i (next (answer x r w.state).1), (answer x r w.state).2,
          w.turns ++ [⟨i, x, ⟨r, (answer x r w.state).1⟩⟩]⟩ := by
  cases hplan : w.plans[i]? with
  | none =>
    left
    rw [turn, hplan]
  | some p =>
    cases p with
    | done a =>
      left
      rw [turn, hplan]
    | ask r next =>
      right
      exact ⟨r, next, rfl, by rw [turn, hplan]⟩

end Shared

variable {answer}

theorem alongTurns_concat {turns : List (Turn I τ)} {turn : Turn I τ} {s s' : σ}
    (h : AlongTurns answer turns s s')
    (hreply : (answer turn.under turn.exchange.request s').1 = turn.exchange.reply) :
    AlongTurns answer (turns ++ [turn]) s (answer turn.under turn.exchange.request s').2 := by
  induction turns generalizing s with
  | nil =>
    obtain rfl : s' = s := h
    exact ⟨hreply, rfl⟩
  | cons turn' turns ih => exact ⟨h.1, ih h.2⟩

/-- What plans have come to, from some plans and a state on. -/
structure Coherent (answer : τ → (r : I.Request) → σ → I.Answer r × σ) (plans : List (Plan I α))
    (s : σ) (w : Shared I α σ τ) : Prop where
  known : ∀ turn ∈ w.turns, ∃ p, plans[turn.plan]? = some p
  length : w.plans.length = plans.length
  courses : ∀ i p left, plans[i]? = some p → w.plans[i]? = some left →
    ∀ t a, Course left t a → Course p (own i w.turns ++ t) a
  along : AlongTurns answer w.turns s w.state

theorem coherent_start (plans : List (Plan I α)) (s : σ) :
    Coherent answer plans s (Shared.start plans s) where
  known turn hturn := by cases hturn
  length := rfl
  courses i p left hp hleft t a hcourse := by
    cases hp.symm.trans hleft
    exact hcourse
  along := rfl

theorem coherent_turn {plans : List (Plan I α)} {s : σ} {w : Shared I α σ τ}
    (h : Coherent answer plans s w) (i : Nat) (x : τ) :
    Coherent answer plans s (w.turn answer i x) := by
  rcases w.turn_cases answer i x with hsame | ⟨r, next, hplan, hturn⟩
  · rw [hsame]
    exact h
  rw [hturn]
  have hi : i < w.plans.length := (List.getElem?_eq_some_iff.1 hplan).1
  refine ⟨?_, ?_, ?_, alongTurns_concat h.along rfl⟩
  · intro turn hmem
    rcases List.mem_append.1 hmem with hmem | hmem
    · exact h.known turn hmem
    · obtain rfl := List.mem_singleton.1 hmem
      exact ⟨_, List.getElem?_eq_getElem (h.length ▸ hi)⟩
  · rw [List.length_set]
    exact h.length
  · intro j p left hp hleft t a hcourse
    -- A course of what is left of the plan after its turn goes on with one of what was left before.
    by_cases hj : j = i
    · subst hj
      rw [List.getElem?_set_self hi] at hleft
      cases hleft
      rw [own_concat_same, List.append_assoc]
      exact h.courses j p _ hp hplan _ a (.ask _ hcourse)
    · rw [List.getElem?_set_ne (Ne.symm hj)] at hleft
      rw [own_concat_other (Ne.symm hj)]
      exact h.courses j p left hp hleft t a hcourse

theorem coherent_after {plans : List (Plan I α)} {s : σ} {w : Shared I α σ τ}
    (h : Coherent answer plans s w) (schedule : List (Nat × τ)) :
    Coherent answer plans s (w.after answer schedule) := by
  induction schedule generalizing w with
  | nil => exact h
  | cons next rest ih => exact ih (coherent_turn h next.1 next.2)

section

variable {plans : List (Plan I α)} {s : σ} {w : Shared I α σ τ} (h : Coherent answer plans s w)
  {i : Nat} {p : Plan I α} (hp : plans[i]? = some p)

include h hp

/-- The turns of a plan that has come to its end are one of its courses. -/
theorem Coherent.course_of_done {a : α} (hdone : w.plans[i]? = some (.done a)) :
    Course p (own i w.turns) a := by
  have hcourse := h.courses i p _ hp hdone [] a (.done a)
  rwa [List.append_nil] at hcourse

/-- The turns of a plan begin one of its courses, one for every way to answer what is left. -/
theorem Coherent.begins {ρ : Type} (reply : (r : I.Request) → ρ → I.Answer r × ρ) (start : ρ) :
    ∃ t a, own i w.turns <+: t ∧ Course p t a := by
  have hi : i < w.plans.length := by
    rw [h.length]
    exact (List.getElem?_eq_some_iff.1 hp).1
  have hcourse := h.courses i p _ hp (List.getElem?_eq_getElem hi) _ _
    (course_transcript reply w.plans[i] start)
  exact ⟨_, _, List.prefix_append _ _, hcourse⟩

end

end Enrollment.Plan
