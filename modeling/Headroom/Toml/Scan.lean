/-!
# Scanning TOML

A scanner takes a value off the front of a text and gives the rest, or fails. Here are the scanners
for what surrounds values: blanks, line feeds, comments and the ends of lines.
-/

namespace Headroom.Toml

/-- Takes something off the front of a text. -/
abbrev Scan (α : Type) := List Char → Option (α × List Char)

/-- Outside the ASCII range, where TOML allows every character. -/
def isNonAscii (c : Char) : Bool := 0x80 ≤ c.toNat

/-- A blank within a line. -/
def isBlank (c : Char) : Bool := c == ' ' || c == '\t'

/-- May stand in a comment: everything but the ends of lines and other control characters. -/
def isCommentChar (c : Char) : Bool :=
  c == '\t' || (0x20 ≤ c.toNat && c.toNat ≤ 0x7f) || isNonAscii c

/-- A decimal digit. -/
def isDigit (c : Char) : Bool := '0' ≤ c && c ≤ '9'

/-- A hexadecimal digit, in either case. -/
def isHexDigit (c : Char) : Bool :=
  isDigit c || ('a' ≤ c && c ≤ 'f') || ('A' ≤ c && c ≤ 'F')

/-- An octal digit. -/
def isOctalDigit (c : Char) : Bool := '0' ≤ c && c ≤ '7'

/-- A binary digit. -/
def isBinaryDigit (c : Char) : Bool := '0' ≤ c && c ≤ '1'

/-- The value of a digit in a base of up to sixteen. -/
def digitValue (c : Char) : Nat :=
  if isDigit c then c.toNat - '0'.toNat
  else if 'a' ≤ c && c ≤ 'f' then c.toNat - 'a'.toNat + 10
  else c.toNat - 'A'.toNat + 10

/-- The number that digits write in a base. -/
def digitsValue (base : Nat) (ds : List Char) : Nat :=
  ds.foldl (fun n c => base * n + digitValue c) 0

/-- Drops the blanks in front. -/
def skipBlanks (s : List Char) : List Char := s.dropWhile isBlank

/-- One end of a line. A carriage return counts only before a line feed. -/
def newline? : List Char → Option (List Char)
  | '\n' :: rest => some rest
  | '\r' :: '\n' :: rest => some rest
  | _ => none

/-- Drops a comment, if there is one, up to the end of its line. -/
def skipComment : List Char → List Char
  | '#' :: rest => rest.dropWhile isCommentChar
  | s => s

/-- The rest of a line that holds nothing more than blanks and a comment. -/
def lineEnd? (s : List Char) : Option (List Char) :=
  match skipComment (skipBlanks s) with
  | [] => some []
  | rest => newline? rest

/-- Drops blanks, ends of lines and comments, at most as many runs as there is fuel. -/
def skipSpace : Nat → List Char → List Char
  | 0, s => s
  | fuel + 1, s =>
    match s with
    | '#' :: rest => skipSpace fuel (rest.dropWhile isCommentChar)
    | ' ' :: rest => skipSpace fuel rest
    | '\t' :: rest => skipSpace fuel rest
    | '\n' :: rest => skipSpace fuel rest
    | '\r' :: '\n' :: rest => skipSpace fuel rest
    | s => s

/-- Drops all blanks, ends of lines and comments in front. -/
def skipAllSpace (s : List Char) : List Char := skipSpace s.length s

end Headroom.Toml
