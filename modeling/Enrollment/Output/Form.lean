import Enrollment.Document.Codec
/-!
# Forms of output

What a command found out is shown to people, or printed as a document.
-/

namespace Enrollment.Output

/-- The form in which a result is printed. -/
inductive Form
  | pretty
  | json
  | yaml
  deriving DecidableEq, Repr

namespace Form

def all : List Form :=
  [pretty, json, yaml]

def name : Form → String
  | pretty => "pretty"
  | json => "json"
  | yaml => "yaml"

def ofName? (given : String) : Option Form :=
  all.find? fun f => f.name == given

def codec : Document.Codec Form :=
  .named name all

end Form

end Enrollment.Output
