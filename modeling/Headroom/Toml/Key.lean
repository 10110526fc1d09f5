import Headroom.Toml.Quoted

/-!
# TOML keys

A key is bare or quoted on one line; a dotted key is a sequence of keys with points between them.
-/

namespace Headroom.Toml

/-- May stand in a key without quotation marks. -/
def isBareChar (c : Char) : Bool :=
  isDigit c || ('a' ≤ c && c ≤ 'z') || ('A' ≤ c && c ≤ 'Z') || c == '_' || c == '-'

/-- One key. -/
def key : Scan String
  | s@('"' :: _) | s@('\'' :: _) => (shortString s).map fun (cs, rest) => (String.ofList cs, rest)
  | s =>
    match s.takeWhile isBareChar with
    | [] => none
    | cs => some (String.ofList cs, s.dropWhile isBareChar)

/-- Keys with points between them and blanks around each, at most as many as there is fuel. -/
def keys : Nat → Scan (List String)
  | 0, _ => none
  | fuel + 1, s =>
    (key (skipBlanks s)).bind fun (k, rest) =>
      match skipBlanks rest with
      | '.' :: rest => (keys fuel rest).map fun (ks, rest) => (k :: ks, rest)
      | rest => some ([k], rest)

/-- How deeply containers may nest, and how many parts a dotted key may have, plus one. -/
def nestingLimit : Nat := 80

/-- A dotted key. -/
def dottedKey : Scan (List String) := keys (nestingLimit - 1)

end Headroom.Toml
