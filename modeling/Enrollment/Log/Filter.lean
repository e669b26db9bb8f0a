import Enrollment.Text.Alphanumeric
import Enrollment.Text.Blank
import Enrollment.Text.Digits
/-!
# Filters of events

A filter is a list of directives between commas. A directive is a level, or the name of a part of
the program, or that of a span of work with fields, with a level behind an equals sign. Which
events pass a filter is not said here, only which texts are filters.
-/

namespace Enrollment.Log.Filter

/-- Why a text is no filter. -/
inductive Fault
  | directive
  | level
  deriving DecidableEq, Repr

def Fault.message : Fault → String
  | directive => "invalid filter directive"
  | level => "error parsing level filter: expected one of \"off\", \"error\", \"warn\", \"info\", " ++
    "\"debug\", \"trace\", or a number 0-5"

def Fault.causes : Fault → List String
  | directive => []
  | level => [Fault.message .level]

def levelNames : List String :=
  ["off", "error", "warn", "info", "debug", "trace"]

/-- Whether a text is a level: a name in any case, a number up to five, or nothing at all. -/
def isLevel (s : List Char) : Bool :=
  let digits := if s.head? == some '+' then s.tail else s
  s.isEmpty || levelNames.contains (String.ofList (s.map Char.toLower)) ||
    (Text.ofDecimal? digits).any fun n => n ≤ 5

/-- The level of a directive, if it names one, as far as the directive is well-formed. -/
abbrev LevelRead := Except Fault (Option (List Char))

/-- The level behind the bracket at the end of a span. -/
def levelBehindSpan (s : List Char) : LevelRead :=
  match s with
  | [] => .ok none
  | '=' :: level => .ok (some level)
  | _ => .error .directive

/-- The level behind the brace in front of a field. -/
def levelBehindBrace (s : List Char) : LevelRead :=
  match s.takeWhile (· != '\x7d'), s.dropWhile (· != '\x7d') with
  | _ :: _, _ :: ']' :: rest => levelBehindSpan rest
  | _, _ => .error .directive

/-- The level behind the bracket in front of a span. -/
def levelBehindBracket (s : List Char) : LevelRead :=
  match s.dropWhile fun c => c != ']' && c != '\x7b' with
  | ']' :: rest => levelBehindSpan rest
  | _ :: rest => levelBehindBrace rest
  | [] => .error .directive

def levelBehindName (s : List Char) : LevelRead :=
  match s.dropWhile fun c => c != '=' && c != '[' with
  | '=' :: level => .ok (some level)
  | _ :: rest => levelBehindBracket rest
  | [] => .ok none

def startsName (c : Char) : Bool :=
  c == '-' || c == ':' || c == '_' || Text.isAlphanumeric c

/-- The level of a directive without blanks at its ends. -/
def levelOf (s : List Char) : LevelRead :=
  match s with
  | [] => .error .directive
  | '[' :: rest => levelBehindBracket rest
  | c :: rest => if startsName c then levelBehindName rest else .error .directive

/-- Checks a directive. Blanks at its ends count as parts of the level behind an equals sign, and no
level has any. -/
def checkDirective (s : List Char) : Except Fault Unit :=
  match levelOf (Text.trim s) with
  | .error fault => .error fault
  | .ok none => .ok ()
  | .ok (some level) => if Text.trim s == s && isLevel level then .ok () else .error .level

def directives (s : String) : List (List Char) :=
  (s.toList.splitOn ',').filter fun d => !d.isEmpty

def checkEach : List (List Char) → Except Fault Unit
  | [] => .ok ()
  | d :: rest =>
    match checkDirective d with
    | .error fault => .error fault
    | .ok () => checkEach rest

def check (s : String) : Except Fault Unit :=
  checkEach (directives s)

end Enrollment.Log.Filter
