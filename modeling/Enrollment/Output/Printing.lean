import Enrollment.Host.Basic
import Enrollment.Json.Printer
import Enrollment.Output.Form
import Enrollment.Yaml.Printer
/-!
# Printing results

A result is printed as lines for people or as a document.
-/

namespace Enrollment.Output

def printLines (lines : List String) : Plan Host Unit :=
  Host.print (String.join (lines.map (· ++ "\n")))

/-- A document in the form of documents that is asked for; none if lines are. -/
def documentText? (form : Form) (document : Document.Value) : Option String :=
  match form with
  | .pretty => none
  | .json => some (Json.pretty document ++ "\n")
  | .yaml => some (Yaml.print document)

def present (form : Form) (document : Document.Value) (lines : List String) : Plan Host Unit :=
  match documentText? form document with
  | some text => Host.print text
  | none => printLines lines

end Enrollment.Output
