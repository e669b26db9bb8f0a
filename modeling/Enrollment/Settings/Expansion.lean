import Enrollment.Settings.Environment
import Enrollment.Text.Alphanumeric
/-!
# Variables in paths

Paths in settings may name environment variables, as `$NAME`, `${NAME}` or `${NAME:-default}`, and
start with a tilde for the home directory. Two dollar signs stand for one.
-/

namespace Enrollment.Settings

/-- What may stand in the name of a variable. -/
def inName (c : Char) : Bool :=
  Text.isAlphanumeric c || c == '_'

/-- The name between braces, and what stands for a variable of that name that is not set. -/
def nameAndDefault : List Char → List Char × Option (List Char)
  | [] => ([], none)
  | ':' :: '-' :: rest => ([], some rest)
  | c :: rest =>
    let (name, absent) := nameAndDefault rest
    (c :: name, absent)

/-- What is between braces, cut at the first `:-`, unless nothing is in front of it. -/
def readBraces (inside : List Char) : List Char × Option (List Char) :=
  match nameAndDefault inside with
  | ([], _) => (inside, none)
  | r => r

/-- The value of a variable, else what stands for it; else the name is the fault. -/
def valueOr (env : Environment) (name : List Char) (absent : Option (List Char)) :
    Except String (List Char) :=
  match env.value? (String.ofList name), absent with
  | some value, _ => .ok value.toList
  | none, some absent => .ok absent
  | none, none => .error (String.ofList name)

/-- Puts values in the places of variables. -/
def expandVariables (env : Environment) (s : List Char) : Except String (List Char) :=
  match s with
  | [] => .ok []
  | '$' :: rest =>
    match rest with
    | '\x7b' :: rest =>
      match rest.dropWhile (· != '\x7d') with
      | [] => do return '$' :: '\x7b' :: (← expandVariables env rest)
      | _ :: _ => do
        let (name, absent) := readBraces (rest.takeWhile (· != '\x7d'))
        let value ← valueOr env name absent
        return value ++ (← expandVariables env (rest.dropWhile (· != '\x7d')).tail)
    | '$' :: rest => do return '$' :: (← expandVariables env rest)
    | rest =>
      match rest.takeWhile inName with
      | [] => do return '$' :: (← expandVariables env rest)
      | name => do
        let value ← valueOr env name none
        return value ++ (← expandVariables env (rest.dropWhile inName))
  | c :: rest => do return c :: (← expandVariables env rest)
termination_by s.length
decreasing_by
  all_goals simp only [List.length_cons, List.length_tail]
  all_goals
    have h1 := (List.dropWhile_sublist (· != '\x7d') (l := rest)).length_le
    have h2 := (List.dropWhile_sublist inName (l := rest)).length_le
    omega

def home? (env : Environment) : Option String :=
  env.nonEmpty? "HOME"

/-- Puts the home directory in the place of a tilde that stands alone or in front of a slash. -/
def expandTilde (env : Environment) (s : List Char) : List Char :=
  match s, home? env with
  | ['~'], some home => home.toList
  | '~' :: '/' :: rest, some home => home.toList ++ '/' :: rest
  | s, _ => s

/-- What a path stands for, or the name of a variable that is not set. A tilde that came out of a
variable stands for itself. -/
def expand (env : Environment) (path : String) : Except String String := do
  let expanded ← expandVariables env path.toList
  if path.toList.head? != some '~' && expanded.head? == some '~' then
    return String.ofList expanded
  else return String.ofList (expandTilde env expanded)

end Enrollment.Settings
