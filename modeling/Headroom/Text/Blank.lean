/-!
# Blanks, words and lines

`isBlank` is the Unicode property White_Space. `words` cuts a text at its blanks, `lines` at its
line feeds; a carriage return right before a line feed belongs to the line's end.
-/

namespace Headroom.Text

/-- The Unicode property White_Space. -/
def isBlank (c : Char) : Bool :=
  let n := c.toNat
  (0x9 ≤ n && n ≤ 0xd) || n == 0x20 || n == 0x85 || n == 0xa0 || n == 0x1680 ||
    (0x2000 ≤ n && n ≤ 0x200a) || n == 0x2028 || n == 0x2029 || n == 0x202f || n == 0x205f ||
    n == 0x3000

/-- The first piece of a text before a separator, and all further pieces. A text without separators
is one piece. -/
def pieces (isSeparator : Char → Bool) : List Char → List Char × List (List Char)
  | [] => ([], [])
  | c :: cs =>
    let (first, rest) := pieces isSeparator cs
    if isSeparator c then ([], first :: rest) else (c :: first, rest)

/-- The maximal runs of characters that are no separators. -/
def splitWords (isSeparator : Char → Bool) (cs : List Char) : List (List Char) :=
  let (first, rest) := pieces isSeparator cs
  (first :: rest).filter (!·.isEmpty)

/-- The words of a text, cut at blanks. -/
def words (cs : List Char) : List (List Char) := splitWords isBlank cs

/-- Drops one carriage return at the end. -/
def chompReturn (line : List Char) : List Char :=
  match line.reverse with
  | '\r' :: rest => rest.reverse
  | _ => line

/-- The lines of a text. What follows the last line feed is a line too, and keeps a carriage return
at its end. -/
def lines (cs : List Char) : List (List Char) :=
  let (first, rest) := pieces (· == '\n') cs
  let all := first :: rest
  all.dropLast.map chompReturn ++ all.drop (all.length - 1)

end Headroom.Text
