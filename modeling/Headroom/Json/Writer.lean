import Headroom.Json.Value

/-!
# Writing JSON

`Json.compact` writes a value without space. `Json.pretty` writes one item a line, two blanks deeper
than its container.
-/

namespace Headroom.Json

/-- A character in a string. -/
def escape (c : Char) : List Char :=
  if c = '"' then ['\\', '"']
  else if c = '\\' then ['\\', '\\']
  else if c = '\n' then ['\\', 'n']
  else if c = '\r' then ['\\', 'r']
  else if c = '\t' then ['\\', 't']
  else if c = '\x08' then ['\\', 'b']
  else if c = '\x0c' then ['\\', 'f']
  else if c.toNat < 0x20 then
    ['\\', 'u', '0', '0', Nat.digitChar (c.toNat / 16), Nat.digitChar (c.toNat % 16)]
  else [c]

/-- A string in quotation marks. -/
def quote (text : Option String) : List Char :=
  '"' :: ((text.getD "").toList.flatMap escape ++ ['"'])

/-- How the parts of containers are laid out at a depth. -/
structure Layout where
  /-- What stands before an item at a depth. -/
  breakBefore : Nat → List Char
  /-- What stands between a name and its value. -/
  colon : List Char

/-- No space at all. -/
def Layout.compact : Layout := ⟨fun _ => [], [':']⟩

/-- One item a line. -/
def Layout.pretty : Layout := ⟨fun depth => '\n' :: List.replicate (2 * depth) ' ', [':', ' ']⟩

mutual

/-- The text of a value at a depth. -/
def write (l : Layout) (depth : Nat) : Json → List Char
  | .null => "null".toList
  | .boolean b => (if b then "true" else "false").toList
  | .number numeral => numeral
  | .string text => quote text
  | .array [] => ['[', ']']
  | .array items => '[' :: (writeItems l (depth + 1) items ++ l.breakBefore depth ++ [']'])
  | .object [] => ['\x7b', '\x7d']
  | .object members =>
    '\x7b' :: (writeMembers l (depth + 1) members ++ l.breakBefore depth ++ ['\x7d'])

/-- Items of an array, with commas between them. -/
def writeItems (l : Layout) (depth : Nat) : List Json → List Char
  | [] => []
  | v :: rest =>
    l.breakBefore depth ++ write l depth v ++
      (if rest.isEmpty then [] else ',' :: writeItems l depth rest)

/-- Members of an object, with commas between them. -/
def writeMembers (l : Layout) (depth : Nat) : List (Option String × Json) → List Char
  | [] => []
  | (k, v) :: rest =>
    l.breakBefore depth ++ quote k ++ l.colon ++ write l depth v ++
      (if rest.isEmpty then [] else ',' :: writeMembers l depth rest)

end

/-- The text of a value without any space. -/
def compact (v : Json) : String := String.ofList (write .compact 0 v)

/-- The text of a value over several lines. -/
def pretty (v : Json) : String := String.ofList (write .pretty 0 v)

end Headroom.Json
