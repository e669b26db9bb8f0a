import Enrollment.Plan
/-!
# Transcripts of plans

What a plan asks and is answered, in order. A `Course` is a transcript that a plan may have, and the
value it then ends with, whatever the surroundings are; `Along` says that given surroundings answer
so, and how they change by it. A run is one of the courses, along which its surroundings go, so what
is found of every course holds of every run.

Results:
 1. `course_transcript`, `along_transcript`: a run is a course that its surroundings go along.
 2. `course_bind`: a course of a sequence is one of the first part and one of the second.
 3. `along_append`: how surroundings change along two transcripts.
 4. `Along.preserves`: what every answer keeps, a run keeps.
 5. `along_take`, `runFor_eq_some`: a run that is broken off has asked the first questions of the whole
    run, and has a value only if it has asked them all.
 6. `run_shown`, `transcript_shown`: surroundings that show others, and answer as these do, are asked
    the same and lead to the same value.
-/

namespace Enrollment

/-- A question and its answer. -/
structure Exchange (I : Interface) where
  request : I.Request
  reply : I.Answer request

namespace Plan

variable {I : Interface} {α β σ : Type}

/-- What is asked and answered in a run. -/
def transcript (answer : (r : I.Request) → σ → I.Answer r × σ) : Plan I α → σ → List (Exchange I)
  | .done _, _ => []
  | .ask r next, s =>
    ⟨r, (answer r s).1⟩ :: (next (answer r s).1).transcript answer (answer r s).2

/-- What may be asked and answered, and the value that a plan then ends with. -/
inductive Course : Plan I α → List (Exchange I) → α → Prop
  | done (a : α) : Course (.done a) [] a
  | ask {r : I.Request} {next : I.Answer r → Plan I α} (reply : I.Answer r)
      {t : List (Exchange I)} {a : α} (h : Course (next reply) t a) :
      Course (.ask r next) (⟨r, reply⟩ :: t) a

/-! ## Courses -/

theorem course_done {a b : α} {t : List (Exchange I)} :
    Course (.done a) t b ↔ t = [] ∧ b = a := by
  constructor
  · intro h
    cases h with
    | done => exact ⟨rfl, rfl⟩
  · rintro ⟨rfl, rfl⟩
    exact .done _

theorem course_request {r : I.Request} {t : List (Exchange I)} {a : I.Answer r} :
    Course (request r) t a ↔ t = [⟨r, a⟩] := by
  constructor
  · intro h
    cases h with
    | ask reply h =>
      obtain ⟨rfl, rfl⟩ := course_done.1 h
      rfl
  · rintro rfl
    exact .ask a (.done a)

theorem course_bind {p : Plan I α} {f : α → Plan I β} {t : List (Exchange I)} {b : β} :
    Course (p.bind f) t b ↔
      ∃ t₁ t₂ a, t = t₁ ++ t₂ ∧ Course p t₁ a ∧ Course (f a) t₂ b := by
  constructor
  -- The answers to the first part come first.
  · intro h
    induction p generalizing t with
    | done a => exact ⟨[], t, a, rfl, .done a, h⟩
    | ask r next ih =>
      cases h with
      | ask reply h =>
        obtain ⟨t₁, t₂, a, rfl, h₁, h₂⟩ := ih reply h
        exact ⟨⟨r, reply⟩ :: t₁, t₂, a, rfl, .ask reply h₁, h₂⟩
  · rintro ⟨t₁, t₂, a, rfl, h₁, h₂⟩
    induction h₁ with
    | done a => exact h₂
    | ask reply h ih => exact .ask reply (ih h₂)

/-! ## Surroundings -/

variable (answer : (r : I.Request) → σ → I.Answer r × σ)

/-- Surroundings answer as a transcript has it, and change from the first state to the second. -/
def Along : List (Exchange I) → σ → σ → Prop
  | [], s, s' => s' = s
  | e :: t, s, s' => (answer e.request s).1 = e.reply ∧ Along t (answer e.request s).2 s'

/-- Something holds of every exchange and the state in front of it. -/
def Throughout (P : σ → Exchange I → Prop) : List (Exchange I) → σ → Prop
  | [], _ => True
  | e :: t, s => P s e ∧ Throughout P t (answer e.request s).2

variable {answer}

theorem along_append {t₁ t₂ : List (Exchange I)} {s s' : σ} :
    Along answer (t₁ ++ t₂) s s' ↔ ∃ m, Along answer t₁ s m ∧ Along answer t₂ m s' := by
  induction t₁ generalizing s with
  | nil =>
    constructor
    · intro h
      exact ⟨s, rfl, h⟩
    · rintro ⟨m, rfl, h⟩
      exact h
  | cons e t₁ ih =>
    show _ ∧ Along answer (t₁ ++ t₂) _ s' ↔ ∃ m, (_ ∧ Along answer t₁ _ m) ∧ _
    rw [ih]
    constructor
    · rintro ⟨hreply, m, h₁, h₂⟩
      exact ⟨m, ⟨hreply, h₁⟩, h₂⟩
    · rintro ⟨m, ⟨hreply, h₁⟩, h₂⟩
      exact ⟨hreply, m, h₁, h₂⟩

theorem course_transcript (answer : (r : I.Request) → σ → I.Answer r × σ) (p : Plan I α) (s : σ) :
    Course p (p.transcript answer s) (p.run answer s).1 := by
  induction p generalizing s with
  | done a => exact .done a
  | ask r next ih => exact .ask _ (ih _ _)

theorem along_transcript (answer : (r : I.Request) → σ → I.Answer r × σ) (p : Plan I α) (s : σ) :
    Along answer (p.transcript answer s) s (p.run answer s).2 := by
  induction p generalizing s with
  | done a => rfl
  | ask r next ih => exact ⟨rfl, ih _ _⟩

/-- The transcript of a plan, from the first answer on. -/
theorem transcript_ask {p : Plan I α} {r : I.Request} {next : I.Answer r → Plan I α} {s s' : σ}
    {a : I.Answer r} (h : p = .ask r next) (hanswer : answer r s = (a, s')) :
    p.transcript answer s = ⟨r, a⟩ :: (next a).transcript answer s' := by
  subst h
  rw [transcript, hanswer]

/-- The run of a plan, from the first answer on. -/
theorem run_of_ask {p : Plan I α} {r : I.Request} {next : I.Answer r → Plan I α} {s s' : σ}
    {a : I.Answer r} (h : p = .ask r next) (hanswer : answer r s = (a, s')) :
    p.run answer s = (next a).run answer s' := by
  subst h
  rw [run_ask, hanswer]

/-- What a relation between states has of every answer, it has of a whole run. -/
theorem Along.preserves {R : σ → σ → Prop} (hrefl : ∀ s, R s s)
    (htrans : ∀ {a b c}, R a b → R b c → R a c) (hstep : ∀ r s, R s (answer r s).2)
    {t : List (Exchange I)} {s s' : σ} (h : Along answer t s s') : R s s' := by
  induction t generalizing s with
  | nil =>
    obtain rfl : s' = s := h
    exact hrefl s'
  | cons e t ih => exact htrans (hstep e.request s) (ih h.2)

theorem Along.answered {t : List (Exchange I)} {s s' : σ} (h : Along answer t s s')
    {e : Exchange I} (he : e ∈ t) : ∃ m, (answer e.request m).1 = e.reply := by
  induction t generalizing s with
  | nil => cases he
  | cons e' t ih =>
    rcases List.mem_cons.1 he with rfl | he
    · exact ⟨s, h.1⟩
    · exact ih h.2 he

/-! ## Surroundings that show others -/

section

variable {τ : Type} {answer' : (r : I.Request) → τ → I.Answer r × τ} {shown : τ → σ}

theorem run_shown
    (hshows : ∀ r m, answer r (shown m) = ((answer' r m).1, shown (answer' r m).2))
    (p : Plan I α) (m : τ) :
    p.run answer (shown m) = ((p.run answer' m).1, shown (p.run answer' m).2) := by
  induction p generalizing m with
  | done a => rfl
  | ask r next ih =>
    rw [run_ask, hshows r m]
    exact ih _ _

theorem transcript_shown
    (hshows : ∀ r m, answer r (shown m) = ((answer' r m).1, shown (answer' r m).2))
    (p : Plan I α) (m : τ) : p.transcript answer (shown m) = p.transcript answer' m := by
  induction p generalizing m with
  | done a => rfl
  | ask r next ih =>
    rw [transcript, transcript, hshows r m, ih]

end

/-! ## Runs that are broken off -/

/-- Runs a plan until so many questions have been answered. If one is left, there is no value. -/
def runFor (answer : (r : I.Request) → σ → I.Answer r × σ) : Nat → Plan I α → σ → Option α × σ
  | _, .done value, s => (some value, s)
  | 0, .ask _ _, s => (none, s)
  | limit + 1, .ask r next, s => (next (answer r s).1).runFor answer limit (answer r s).2

variable (answer)

theorem along_take (limit : Nat) (p : Plan I α) (s : σ) :
    Along answer ((p.transcript answer s).take limit) s (p.runFor answer limit s).2 := by
  induction limit generalizing p s with
  | zero => cases p <;> rfl
  | succ limit ih =>
    cases p with
    | done a => rfl
    | ask r next => exact ⟨rfl, ih _ _⟩

variable {answer}

theorem runFor_eq_some {limit : Nat} {p : Plan I α} {s : σ} {a : α}
    (h : (p.runFor answer limit s).1 = some a) :
    (p.run answer s).1 = a ∧ (p.transcript answer s).take limit = p.transcript answer s := by
  induction limit generalizing p s with
  | zero =>
    cases p with
    | done b =>
      cases h
      exact ⟨rfl, rfl⟩
    | ask r next => cases h
  | succ limit ih =>
    cases p with
    | done b =>
      cases h
      exact ⟨rfl, rfl⟩
    | ask r next =>
      obtain ⟨hvalue, htake⟩ := ih h
      refine ⟨hvalue, ?_⟩
      rw [transcript, List.take_succ_cons, htake]

end Plan

end Enrollment
