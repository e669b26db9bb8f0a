import Enrollment.Address
/-!
# Faults of documents

Why a document is not the text of a value of some type. Only faults that a reader of the document
can act on are told apart.
-/

namespace Enrollment.Document

/-- Why a document could not be decoded. -/
inductive Fault
  | malformed
  | missingField (name : String)
  | duplicateField (name : String)
  | unknownVariant (given : String) (expected : List String)
  | address (fault : Address.Fault)
  deriving DecidableEq, Repr

def inBackquotes (name : String) : String :=
  "\x60" ++ name ++ "\x60"

/-- The names that were expected: one, one of two, or one of several. -/
def expectation (names : List String) : String :=
  match names with
  | [] => "there are no variants"
  | [a] => "expected " ++ inBackquotes a
  | [a, b] => "expected " ++ inBackquotes a ++ " or " ++ inBackquotes b
  | names => "expected one of " ++ ", ".intercalate (names.map inBackquotes)

/-- The wording of a fault. That of an ill-formed document is left open. -/
def Fault.message : Fault → String
  | .malformed => "<parse error>"
  | .missingField name => "missing field " ++ inBackquotes name
  | .duplicateField name => "duplicate field " ++ inBackquotes name
  | .unknownVariant given expected =>
    "unknown variant " ++ inBackquotes given ++ ", " ++ expectation expected
  | .address fault => "invalid address: " ++ fault.message

end Enrollment.Document
