import Enrollment.Text.Printable
/-!
# Quoted renderings

A text or a character between quotes, with escapes for what would not show.
-/

namespace Enrollment.Text

/-- Which quote surrounds the rendering, and is therefore escaped inside it. -/
inductive Quote
  | single
  | double
  deriving DecidableEq, Repr

def Quote.char : Quote → Char
  | .single => '\''
  | .double => '"'

/-- One character inside quotes: the usual letters after a backslash where there is one, the code
point in braces for whatever would not show, and all else as it is. -/
def escape (quote : Quote) (c : Char) : List Char :=
  if c = '\x00' then ['\\', '0']
  else if c = '\t' then ['\\', 't']
  else if c = '\r' then ['\\', 'r']
  else if c = '\n' then ['\\', 'n']
  else if c = '\\' ∨ c = quote.char then ['\\', c]
  else if isExtending c || !isPrintable c then ['\\', 'u', '\x7b'] ++ toHex c.toNat ++ ['\x7d']
  else [c]

def quotedChar (c : Char) : String :=
  String.ofList ('\'' :: escape .single c ++ ['\''])

/-- A text between double quotes. -/
def quoted (s : String) : String :=
  String.ofList ('"' :: s.toList.flatMap (escape .double) ++ ['"'])

end Enrollment.Text
