import Enrollment.Yaml.Resolution
/-!
# Texts in YAML

A text is written without quotes where it can be read back as the same text, else in single quotes,
else in double quotes with escapes. A text of several lines is written as a block of lines where
that can be read back.
-/

namespace Enrollment.Yaml

/-! ## Characters -/

def isBreak (c : Char) : Bool :=
  c == '\n' || c == '\r' || c == '\x85' || c == '\u2028' || c == '\u2029'

/-- Whether a character may stand outside of double quotes. -/
def isPlainChar (c : Char) : Bool :=
  let n := c.toNat
  n == 0xa || (0x20 ≤ n && n ≤ 0x7e) || (0xa0 ≤ n && n ≤ 0xfffd && n != 0xfeff) || 0x10000 ≤ n

/-- Whether a character separates words or lines. -/
def separates (c : Char) : Bool :=
  c == ' ' || c == '\t' || c == '\x00' || isBreak c

/-- Whether nothing follows, or what separates words or lines. -/
def separated (rest : List Char) : Bool :=
  match rest with
  | [] => true
  | c :: _ => separates c

/-- Whether two neighbours in a text are as said. -/
def hasNeighbours (p q : Char → Bool) : List Char → Bool
  | a :: b :: rest => (p a && q b) || hasNeighbours p q (b :: rest)
  | _ => false

def isSpace (c : Char) : Bool := c == ' '

/-! ## Styles -/

/-- The characters that mean something in front of a text. -/
def indicators : List Char :=
  "#,[]\x7b\x7d&*!|>'\"%@\x60".toList

def startMeansSomething (s : List Char) : Bool :=
  match s with
  | '-' :: '-' :: '-' :: _ => true
  | '.' :: '.' :: '.' :: _ => true
  | c :: rest => indicators.contains c || (['?', ':', '-'].contains c && separated rest)
  | [] => false

/-- Whether something behind the start of a text means something. -/
def restMeansSomething : List Char → Bool
  | a :: b :: rest =>
    (b == '#' && separates a) || (b == ':' && separated rest) || restMeansSomething (b :: rest)
  | _ => false

/-- How a text is written. -/
inductive Style
  | plain
  | singleQuoted
  | doubleQuoted
  | block
  deriving DecidableEq, Repr

/-- Whether a text has blanks or line breaks at one of its ends. -/
def hasLooseEnds (s : List Char) : Bool :=
  let loose (c : Option Char) : Bool := c.any fun c => isSpace c || isBreak c
  loose s.head? || loose s.getLast?

/-- Whether a text reads back as it was, written in a style. -/
def allows (s : List Char) : Style → Bool
  | .doubleQuoted => true
  | .block => s.getLast? != some ' ' && !hasNeighbours isSpace isBreak s && s.all isPlainChar
  | .singleQuoted =>
    !hasNeighbours isBreak isSpace s && !hasNeighbours isSpace isBreak s && s.all isPlainChar
  | .plain =>
    !hasLooseEnds s && s.all (fun c => isPlainChar c && !isBreak c) && !startMeansSomething s &&
      !restMeansSomething s

/-- The first of some styles that a text may be written in. -/
def firstAllowed (s : List Char) : List Style → Style
  | [] => .doubleQuoted
  | style :: rest => if allows s style then style else firstAllowed s rest

/-- The style in which a text is written. -/
def styleOf (s : List Char) : Style :=
  if s.contains '\n' then firstAllowed s [.block]
  else if needsQuotes s then firstAllowed s [.singleQuoted]
  else firstAllowed s [.plain, .singleQuoted]

/-! ## Writing -/

/-- The letter that stands for a character behind a backslash, if it has one. -/
def letterOf? (c : Char) : Option Char :=
  [('\x00', '0'), ('\x07', 'a'), ('\x08', 'b'), ('\t', 't'), ('\n', 'n'), ('\x0b', 'v'),
    ('\x0c', 'f'), ('\r', 'r'), ('\x1b', 'e'), ('"', '"'), ('\\', '\\'), ('\x85', 'N'),
    ('\u2028', 'L'), ('\u2029', 'P')].lookup c

/-- The number of a character in so many hexadecimal digits, or more. -/
def hexPadded (width : Nat) (c : Char) : List Char :=
  let digits := (Text.toHex c.toNat).map Char.toUpper
  List.replicate (width - digits.length) '0' ++ digits

/-- A character between double quotes. -/
def escape (c : Char) : List Char :=
  match letterOf? c with
  | some letter => ['\\', letter]
  | none =>
    if isPlainChar c then [c]
    else if c.toNat ≤ 0xff then '\\' :: 'x' :: hexPadded 2 c
    else '\\' :: 'u' :: hexPadded 4 c

/-- Lines with a margin in front of those that are not empty. The first line gets one if what
stands in front of it has ended. -/
def withMargin (margin : List Char) : Bool → List Char → List Char
  | _, [] => []
  | atStart, c :: rest =>
    if isBreak c then c :: withMargin margin true rest
    else (if atStart then margin else []) ++ c :: withMargin margin false rest

/-- Whether a text ends with a line break. -/
def endsLine (s : List Char) : Bool :=
  s.getLast?.any isBreak

/-- What the head of a block says of the lines: that the margin has two blanks, if the first line
does not show it, and whether line breaks at the end belong to the text. -/
def blockHead (s : List Char) : List Char :=
  let margin := if s.head?.any fun c => isSpace c || isBreak c then ['2'] else []
  let keeping :=
    match s.reverse with
    | [] => ['-']
    | c :: rest =>
      if !isBreak c then ['-'] else if rest.isEmpty || rest.head?.any isBreak then ['+'] else []
  '|' :: margin ++ keeping

/-- A text in a style, up to the end of its last line. -/
def writeText (margin : List Char) (s : List Char) : Style → List Char
  | .plain => s ++ ['\n']
  | .singleQuoted =>
    let lines := withMargin margin false (s.flatMap fun c => if c == '\'' then ['\'', '\''] else [c])
    '\'' :: lines ++ (if endsLine s then margin else []) ++ ['\'', '\n']
  | .doubleQuoted => '"' :: s.flatMap escape ++ ['"', '\n']
  | .block =>
    blockHead s ++ '\n' :: withMargin margin true s ++ (if endsLine s then [] else ['\n'])

end Enrollment.Yaml
