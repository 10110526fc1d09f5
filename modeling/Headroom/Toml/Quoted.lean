import Headroom.Toml.Scan

/-!
# TOML strings

The four kinds of strings: basic and literal, on one line and on several. A basic string has
escapes; a literal one has none. In a string on several lines up to two quotation marks may stand
together, also right before the three that close it, and a line feed right after the opening is
dropped.
-/

namespace Headroom.Toml

/-- Puts a character in front of what a scanner found. -/
def push (c : Char) : Option (List Char × List Char) → Option (List Char × List Char)
  | some (cs, rest) => some (c :: cs, rest)
  | none => none

/-- May stand in a basic string as it is. -/
def isBasicChar (c : Char) : Bool :=
  c == ' ' || c == '\t' || c == '!' || ('#' ≤ c && c ≤ '[') || (']' ≤ c && c ≤ '~') || isNonAscii c

/-- May stand in a literal string. -/
def isLiteralChar (c : Char) : Bool :=
  c == '\t' || (' ' ≤ c && c ≤ '&') || ('(' ≤ c && c ≤ '~') || isNonAscii c

/-- The character that hexadecimal digits name, unless it is a surrogate or too large. -/
def escapedChar? (ds : List Char) : Option Char :=
  if ds.all isHexDigit then
    let n := digitsValue 16 ds
    if n < 0xd800 || (0xdfff < n && n < 0x110000) then some (Char.ofNat n) else none
  else none

/-- What a backslash and one more character stand for. -/
def simpleEscape? : Char → Option Char
  | 'b' => some '\x08'
  | 'f' => some '\x0c'
  | 'n' => some '\n'
  | 'r' => some '\r'
  | 't' => some '\t'
  | '"' => some '"'
  | '\\' => some '\\'
  | _ => none

/-- The rest of a basic string on one line, after its opening mark. -/
def basicBody : Scan (List Char)
  | [] => none
  | '"' :: rest => some ([], rest)
  | '\\' :: 'u' :: a :: b :: c :: d :: rest =>
    (escapedChar? [a, b, c, d]).bind fun x => push x (basicBody rest)
  | '\\' :: 'U' :: a :: b :: c :: d :: e :: f :: g :: h :: rest =>
    (escapedChar? [a, b, c, d, e, f, g, h]).bind fun x => push x (basicBody rest)
  | '\\' :: c :: rest => (simpleEscape? c).bind fun x => push x (basicBody rest)
  | c :: rest => if isBasicChar c then push c (basicBody rest) else none

/-- The rest of a literal string on one line, after its opening mark. -/
def literalBody : Scan (List Char)
  | [] => none
  | '\'' :: rest => some ([], rest)
  | c :: rest => if isLiteralChar c then push c (literalBody rest) else none

/-- Where a scanner stands in a basic string on several lines. -/
inductive LineMode where
  | text
  /-- After a backslash that has to be followed by the end of its line. -/
  | continued
  /-- After a continued line, where blanks and line feeds are dropped. -/
  | trimming
  deriving DecidableEq

/-- The rest of a basic string on several lines, after its opening marks. -/
def linesBody : LineMode → Scan (List Char)
  | _, [] => none
  | .continued, '\n' :: rest => linesBody .trimming rest
  | .continued, '\r' :: '\n' :: rest => linesBody .trimming rest
  | .continued, c :: rest => if isBlank c then linesBody .continued rest else none
  | .trimming, ' ' :: rest => linesBody .trimming rest
  | .trimming, '\t' :: rest => linesBody .trimming rest
  | .trimming, '\n' :: rest => linesBody .trimming rest
  | .trimming, '\r' :: '\n' :: rest => linesBody .trimming rest
  | _, '"' :: '"' :: '"' :: '"' :: '"' :: rest => some (['"', '"'], rest)
  | _, '"' :: '"' :: '"' :: '"' :: rest => some (['"'], rest)
  | _, '"' :: '"' :: '"' :: rest => some ([], rest)
  | _, '"' :: rest => push '"' (linesBody .text rest)
  | _, '\\' :: 'u' :: a :: b :: c :: d :: rest =>
    (escapedChar? [a, b, c, d]).bind fun x => push x (linesBody .text rest)
  | _, '\\' :: 'U' :: a :: b :: c :: d :: e :: f :: g :: h :: rest =>
    (escapedChar? [a, b, c, d, e, f, g, h]).bind fun x => push x (linesBody .text rest)
  | _, '\\' :: '\n' :: rest => linesBody .trimming rest
  | _, '\\' :: '\r' :: '\n' :: rest => linesBody .trimming rest
  | _, '\\' :: c :: rest =>
    if isBlank c then linesBody .continued rest
    else (simpleEscape? c).bind fun x => push x (linesBody .text rest)
  | _, '\n' :: rest => push '\n' (linesBody .text rest)
  | _, '\r' :: '\n' :: rest => push '\n' (linesBody .text rest)
  | _, c :: rest => if isBasicChar c then push c (linesBody .text rest) else none

/-- The rest of a literal string on several lines, after its opening marks. -/
def literalLinesBody : Scan (List Char)
  | [] => none
  | '\'' :: '\'' :: '\'' :: '\'' :: '\'' :: rest => some (['\'', '\''], rest)
  | '\'' :: '\'' :: '\'' :: '\'' :: rest => some (['\''], rest)
  | '\'' :: '\'' :: '\'' :: rest => some ([], rest)
  | '\'' :: rest => push '\'' (literalLinesBody rest)
  | '\n' :: rest => push '\n' (literalLinesBody rest)
  | '\r' :: '\n' :: rest => push '\n' (literalLinesBody rest)
  | c :: rest => if isLiteralChar c then push c (literalLinesBody rest) else none

/-- A string on one line. -/
def shortString : Scan (List Char)
  | '"' :: rest => basicBody rest
  | '\'' :: rest => literalBody rest
  | _ => none

/-- A string of any kind. -/
def anyString : Scan (List Char)
  | '"' :: '"' :: '"' :: rest => linesBody .text ((newline? rest).getD rest)
  | '\'' :: '\'' :: '\'' :: rest => literalLinesBody ((newline? rest).getD rest)
  | s => shortString s

end Headroom.Toml
