/-!
# Environment variables

The variables that a program is started with.
-/

namespace Enrollment

/-- Names and values; of two values of one name the first counts. -/
abbrev Environment := List (String × String)

def Environment.value? (env : Environment) (name : String) : Option String :=
  (env.find? fun v => v.1 == name).map (·.2)

/-- The value of a variable that says something. -/
def Environment.nonEmpty? (env : Environment) (name : String) : Option String :=
  (env.value? name).bind fun v => if v.isEmpty then none else some v

/-- A variable written as a name, an equals sign and a value. -/
def Environment.variableOf (assignment : List Char) : String × String :=
  (String.ofList (assignment.takeWhile (· != '=')),
    String.ofList (assignment.dropWhile (· != '=')).tail)

/-- The variables of assignments with a null character behind each. -/
def Environment.ofBlock (block : String) : Environment :=
  ((block.toList.splitOn '\x00').filter fun a => !a.isEmpty).map variableOf

end Enrollment
