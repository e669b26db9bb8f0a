import Enrollment.Settings.Loading
/-!
# The variables of a path

Which variables must be set for a path to stand for something: those that it names without saying what
stands for them otherwise.

Results:
 1. `expandVariables_eq_error_iff`: the fault is the first of these that is not set.
 2. `expand_isOk_iff`: a path stands for something exactly if all of them are set.
-/

namespace Enrollment.Settings

/-- The name of a variable, unless something stands for it otherwise. -/
def needed : List Char × Option (List Char) → List String
  | (name, none) => [String.ofList name]
  | (_, some _) => []

/-- The variables that must be set, in the order in which they are named. -/
def neededIn (s : List Char) : List String :=
  match s with
  | [] => []
  | '$' :: rest =>
    match rest with
    | '\x7b' :: rest =>
      match rest.dropWhile (· != '\x7d') with
      | [] => neededIn rest
      | _ :: _ =>
        needed (readBraces (rest.takeWhile (· != '\x7d'))) ++
          neededIn (rest.dropWhile (· != '\x7d')).tail
    | '$' :: rest => neededIn rest
    | rest =>
      match rest.takeWhile inName with
      | [] => neededIn rest
      | name => needed (name, none) ++ neededIn (rest.dropWhile inName)
  | _ :: rest => neededIn rest
termination_by s.length
decreasing_by
  all_goals simp only [List.length_cons, List.length_tail]
  all_goals
    have h1 := (List.dropWhile_sublist (· != '\x7d') (l := rest)).length_le
    have h2 := (List.dropWhile_sublist inName (l := rest)).length_le
    omega

def isUnset (env : Environment) (name : String) : Bool :=
  (env.value? name).isNone

theorem needed_cases (env : Environment) (v : List Char × Option (List Char)) :
    (∃ value, valueOr env v.1 v.2 = .ok value ∧ (needed v).find? (isUnset env) = none) ∨
      ∃ name, valueOr env v.1 v.2 = .error name ∧ (needed v).find? (isUnset env) = some name := by
  obtain ⟨name, absent⟩ := v
  cases hvalue : env.value? (String.ofList name) with
  | some value =>
    refine .inl ⟨value.toList, by simp [valueOr, hvalue], ?_⟩
    cases absent <;> simp [needed, isUnset, hvalue]
  | none =>
    cases absent with
    | some absent => exact .inl ⟨absent, by simp [valueOr, hvalue], rfl⟩
    | none =>
      exact .inr ⟨String.ofList name, by simp [valueOr, hvalue], by simp [needed, isUnset, hvalue]⟩

theorem map_eq_error_iff {x : Except String (List Char)} {f : List Char → List Char} {name : String} :
    (do return f (← x)) = (.error name : Except String (List Char)) ↔ x = .error name := by
  cases x with
  | error fault => exact Iff.rfl
  | ok s => exact ⟨nofun, nofun⟩

/-- A variable in front of more that is read. -/
theorem append_eq_error_iff {env : Environment} (v : List Char × Option (List Char))
    {x : Except String (List Char)} {names : List String} {name : String}
    (hx : x = .error name ↔ names.find? (isUnset env) = some name) :
    (do let value ← valueOr env v.1 v.2; return value ++ (← x)) =
        (.error name : Except String (List Char)) ↔
      (needed v ++ names).find? (isUnset env) = some name := by
  rw [List.find?_append]
  rcases needed_cases env v with ⟨value, hvalue, hnone⟩ | ⟨fault, hvalue, hsome⟩
  · rw [hvalue, hnone, Option.none_or]
    exact map_eq_error_iff.trans hx
  · rw [hvalue, hsome, Option.some_or]
    exact ⟨fun h => congrArg some (Except.error.inj h), fun h => congrArg _ (Option.some.inj h)⟩

/-- What cannot be expanded fails at the first variable that is not set. -/
theorem expandVariables_eq_error_iff {env : Environment} {s : List Char} {name : String} :
    expandVariables env s = .error name ↔ (neededIn s).find? (isUnset env) = some name := by
  fun_induction neededIn s with
  | case1 =>
    rw [expandVariables]
    exact iff_of_false (fun h => by cases h) fun h => by cases h
  | case2 rest hopen ih =>
    rw [expandVariables, hopen]
    exact map_eq_error_iff.trans ih
  | case3 rest c behind hclosed ih =>
    rw [expandVariables, hclosed]
    rw [hclosed] at ih
    exact append_eq_error_iff _ ih
  | case4 rest ih =>
    rw [expandVariables]
    exact map_eq_error_iff.trans ih
  | case5 rest hbrace hdollar hname ih =>
    rw [expandVariables, hname]
    · exact map_eq_error_iff.trans ih
    · exact hbrace
    · exact hdollar
  | case6 rest hbrace hdollar hname ih =>
    rw [expandVariables]
    · split
      · next h => exact absurd h hname
      · exact append_eq_error_iff (rest.takeWhile inName, none) ih
    · exact hbrace
    · exact hdollar
  | case7 c rest hc ih =>
    rw [expandVariables]
    · exact map_eq_error_iff.trans ih
    · exact hc

theorem expand_eq_error_iff {env : Environment} {path name : String} :
    expand env path = .error name ↔ expandVariables env path.toList = .error name := by
  unfold expand
  cases expandVariables env path.toList with
  | error fault =>
    exact ⟨fun h => congrArg _ (Except.error.inj h), fun h => congrArg _ (Except.error.inj h)⟩
  | ok s =>
    refine ⟨fun h => ?_, nofun⟩
    have h : (if _ then _ else _) = _ := h
    split at h
    · cases h
    · cases h

/-- A path stands for something exactly if all the variables that it needs are set. -/
theorem expand_isOk_iff {env : Environment} {path : String} :
    (∃ p, expand env path = .ok p) ↔ ∀ name ∈ neededIn path.toList, isUnset env name = false := by
  have hnone : (∃ p, expand env path = .ok p) ↔
      (neededIn path.toList).find? (isUnset env) = none := by
    rw [Option.eq_none_iff_forall_ne_some]
    simp only [ne_eq, ← expandVariables_eq_error_iff, ← expand_eq_error_iff]
    cases expand env path with
    | ok p => exact ⟨fun _ _ => nofun, fun _ => ⟨p, rfl⟩⟩
    | error name => exact ⟨nofun, fun h => absurd rfl (h name)⟩
  rw [hnone, List.find?_eq_none]
  exact forall₂_congr fun _ _ => Bool.eq_false_iff.symm

end Enrollment.Settings
