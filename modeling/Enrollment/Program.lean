import Enrollment.Command.Run
import Enrollment.Invocation.Reader
/-!
# The program

What a command line comes to: an invocation that is run, or a reason why none is.

Main statement: a command line that cannot be followed is explained and not run (`run_of_usage`).
-/

namespace Enrollment

/-- How a run of the program ended. -/
structure Ending where
  code : Nat
  complaint : String := ""
  usage : Option Invocation.Usage := none
  deriving DecidableEq, Repr

namespace Program

/-- Ends without running anything. -/
def explain (usage : Invocation.Usage) : Plan Host Ending := do
  if let .version text := usage then Host.print text
  return { code := usage.exitCode, usage := some usage }

/-- How a run ends that came to something. -/
def endingOf : Except Trouble Unit → Ending
  | .ok () => { code := 0 }
  | .error t => { code := 1, complaint := t.report }

/-- Runs the program with some words and variables. -/
def run (words : List String) (env : Environment) (isTerminal : Bool) : Plan Host Ending :=
  match Invocation.read env words with
  | .error usage => explain usage
  | .ok i => do return endingOf (← i.run env (Output.areColorsWanted env isTerminal))

theorem run_of_usage {words : List String} {env : Environment} {usage : Invocation.Usage}
    (h : Invocation.read env words = .error usage) (isTerminal : Bool) :
    run words env isTerminal = explain usage := by
  simp [run, h]

end Program

end Enrollment
