import Enrollment.Text.Digits
/-!
# The words of TOML

Blanks, comments and line ends, keys, and the four kinds of texts: between quotes, with escapes,
and between apostrophes, without, each on one line or over several. Every reader gives what it
read and what follows, or nothing if the text does not start with such a word.
-/

namespace Enrollment.Toml

open Text (hexValue?)

/-- A word read from the front of a text, and what follows it. -/
abbrev Scan (α : Type) := List Char → Option (α × List Char)

def isBlank (c : Char) : Bool :=
  c == ' ' || c == '\t'

def skipBlanks (s : List Char) : List Char :=
  s.dropWhile isBlank

/-- What may stand in a text as it is, and in a comment. -/
def inText (c : Char) : Bool :=
  c == '\t' || (0x20 ≤ c.toNat && c.toNat != 0x7f)

/-- What follows a line end, if there is one in front. -/
def skipLineEnd? (s : List Char) : Option (List Char) :=
  match s with
  | '\n' :: rest => some rest
  | '\r' :: '\n' :: rest => some rest
  | _ => none

/-- What follows a comment, if there is one in front. -/
def skipComment (s : List Char) : List Char :=
  match s with
  | '#' :: rest => rest.dropWhile inText
  | s => s

/-- What follows blanks, a comment and a line end; the end of everything ends a line too. -/
def skipRestOfLine? (s : List Char) : Option (List Char) :=
  match skipComment (skipBlanks s) with
  | [] => some []
  | s => skipLineEnd? s

/-- What follows blanks, comments and line ends; the bound is on the lines. -/
def skipLines : Nat → List Char → List Char
  | 0, s => s
  | bound + 1, s =>
    let s := skipBlanks s
    match skipLineEnd? (skipComment s) with
    | some rest => skipLines bound rest
    | none => s

/-! ## Texts -/

def ofHexDigits? (digits : List Char) : Option Char :=
  match Text.ofHex? digits with
  | some n => if n.isValidChar then some (Char.ofNat n) else none
  | none => none

/-- The character that a letter behind a backslash stands for. -/
def characterOf? (letter : Char) : Option Char :=
  match letter with
  | 'b' => some '\x08'
  | 't' => some '\t'
  | 'n' => some '\n'
  | 'f' => some '\x0c'
  | 'r' => some '\r'
  | '"' => some '"'
  | '\\' => some '\\'
  | _ => none

/-- Puts characters in front of a text that was read. -/
def prepend (cs : List Char) (r : Option (List Char × List Char)) :
    Option (List Char × List Char) :=
  r.map fun (text, rest) => (cs ++ text, rest)

/-- A text behind its opening quote. -/
def readQuoted : Scan (List Char)
  | [] => none
  | '"' :: rest => some ([], rest)
  | '\\' :: 'u' :: a :: b :: c :: d :: rest =>
    match ofHexDigits? [a, b, c, d] with
    | some x => prepend [x] (readQuoted rest)
    | none => none
  | '\\' :: 'U' :: a :: b :: c :: d :: e :: f :: g :: h :: rest =>
    match ofHexDigits? [a, b, c, d, e, f, g, h] with
    | some x => prepend [x] (readQuoted rest)
    | none => none
  | '\\' :: letter :: rest =>
    match characterOf? letter with
    | some x => prepend [x] (readQuoted rest)
    | none => none
  | c :: rest => if inText c && c != '\\' then prepend [c] (readQuoted rest) else none

/-- A text behind its opening apostrophe. -/
def readLiteral : Scan (List Char)
  | [] => none
  | '\'' :: rest => some ([], rest)
  | c :: rest => if inText c then prepend [c] (readLiteral rest) else none

/-- The end of a text over several lines: up to two delimiters more belong to the text. -/
def closeLines (delimiter : Char) (rest : List Char) : List Char × List Char :=
  match rest with
  | a :: b :: after =>
    if a = delimiter ∧ b = delimiter then ([a, b], after)
    else if a = delimiter then ([a], b :: after)
    else ([], rest)
  | [a] => if a = delimiter then ([a], []) else ([], rest)
  | [] => ([], [])

/-- A text over several lines behind its three opening quotes. Behind a backslash at the end of a
line, blanks and line ends are skipped. -/
def readQuotedLines (skipping : Bool) : Scan (List Char)
  | [] => none
  | '"' :: '"' :: '"' :: rest => some (closeLines '"' rest)
  | '\r' :: '\n' :: rest => prepend (if skipping then [] else ['\n']) (readQuotedLines skipping rest)
  | '\n' :: rest => prepend (if skipping then [] else ['\n']) (readQuotedLines skipping rest)
  | '\\' :: 'u' :: a :: b :: c :: d :: rest =>
    match ofHexDigits? [a, b, c, d] with
    | some x => prepend [x] (readQuotedLines false rest)
    | none => none
  | '\\' :: 'U' :: a :: b :: c :: d :: e :: f :: g :: h :: rest =>
    match ofHexDigits? [a, b, c, d, e, f, g, h] with
    | some x => prepend [x] (readQuotedLines false rest)
    | none => none
  | '\\' :: letter :: rest =>
    if (skipLineEnd? (skipBlanks (letter :: rest))).isSome then readQuotedLines true (letter :: rest)
    else
      match characterOf? letter with
      | some x => prepend [x] (readQuotedLines false rest)
      | none => none
  | c :: rest =>
    if skipping && isBlank c then readQuotedLines true rest
    else if inText c && c != '\\' then prepend [c] (readQuotedLines false rest)
    else none

/-- A text over several lines behind its three opening apostrophes. -/
def readLiteralLines : Scan (List Char)
  | [] => none
  | '\'' :: '\'' :: '\'' :: rest => some (closeLines '\'' rest)
  | '\r' :: '\n' :: rest => prepend ['\n'] (readLiteralLines rest)
  | '\n' :: rest => prepend ['\n'] (readLiteralLines rest)
  | c :: rest => if inText c then prepend [c] (readLiteralLines rest) else none

/-- What follows a line end, or all of a text that does not start with one. -/
def skipFirstLineEnd (s : List Char) : List Char :=
  (skipLineEnd? s).getD s

def readText : Scan (List Char)
  | '"' :: '"' :: '"' :: rest => readQuotedLines false (skipFirstLineEnd rest)
  | '"' :: rest => readQuoted rest
  | '\'' :: '\'' :: '\'' :: rest => readLiteralLines (skipFirstLineEnd rest)
  | '\'' :: rest => readLiteral rest
  | _ => none

/-! ## Keys -/

/-- What may stand in a key without quotes. -/
def inBareKey (c : Char) : Bool :=
  c.isAlphanum || c == '_' || c == '-'

def readKeyPart : Scan (List Char)
  | '"' :: rest => readQuoted rest
  | '\'' :: rest => readLiteral rest
  | s =>
    match s.takeWhile inBareKey with
    | [] => none
    | part => some (part, s.dropWhile inBareKey)

/-- How many parts a key may have, and how deep values may be nested. -/
def depthLimit : Nat := 79

/-- A key of at most so many parts with points between them, and the blanks behind it. -/
def readKey : Nat → Scan (List String)
  | 0, _ => none
  | bound + 1, s =>
    match readKeyPart (skipBlanks s) with
    | none => none
    | some (part, rest) =>
      match skipBlanks rest with
      | '.' :: rest =>
        (readKey bound rest).map fun (parts, rest) => (String.ofList part :: parts, rest)
      | rest => some ([String.ofList part], rest)

end Enrollment.Toml
