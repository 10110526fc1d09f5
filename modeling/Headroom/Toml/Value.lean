import Headroom.Toml.Key
import Headroom.Toml.Moment
import Headroom.Toml.Number
import Headroom.Toml.Table

/-!
# TOML values

Scans a value. Arrays may spread over lines and end with a comma, inline tables may do neither. The
nesting of both is bounded, and the scanner recurses on what is left of the bound.
-/

namespace Headroom.Toml

/-- Values with commas between them up to the closing bracket, with space around each, at most as
many as there is fuel. A comma may stand before the bracket, but not alone. -/
def arrayItems (item : Scan Value) : Nat → Scan (List Value)
  | 0, _ => none
  | fuel + 1, s =>
    (item (skipAllSpace s)).bind fun (v, rest) =>
      match skipAllSpace rest with
      | ']' :: rest => some ([v], rest)
      | ',' :: rest =>
        match skipAllSpace rest with
        | ']' :: rest => some ([v], rest)
        | rest => (arrayItems item fuel rest).map fun (vs, rest) => (v :: vs, rest)
      | _ => none

/-- The rest of an array after its opening bracket. -/
def arrayBody (item : Scan Value) : Scan (List Value) := fun s =>
  match skipAllSpace s with
  | ']' :: rest => some ([], rest)
  | rest => arrayItems item (rest.length + 1) rest

/-- A key and its value with an equals sign between them. -/
def keyValue (item : Scan Value) : Scan (List String × Value) := fun s =>
  (dottedKey s).bind fun (ks, rest) =>
    match rest with
    | '=' :: rest => (item (skipBlanks rest)).map fun (v, rest) => ((ks, v), rest)
    | _ => none

/-- Keys and values with commas between them up to the closing brace, at most as many as there is
fuel, added to the entries so far. -/
def inlineItems (item : Scan Value) : Nat → Entries → Scan Entries
  | 0, _, _ => none
  | fuel + 1, es, s =>
    (keyValue item s).bind fun ((ks, v), rest) =>
      let (path, k) := splitPath ks
      (es.insert path k v).bind fun es =>
        match skipBlanks rest with
        | '}' :: rest => some (es, rest)
        | ',' :: rest => inlineItems item fuel es rest
        | _ => none

/-- The rest of an inline table after its opening brace. -/
def inlineBody (item : Scan Value) : Scan Entries := fun s =>
  match skipBlanks s with
  | '}' :: rest => some ([], rest)
  | rest => inlineItems item (rest.length + 1) [] rest

/-- A value that starts with a digit, a sign or the name of a number. -/
def scalar : Scan Value := fun s =>
  match moment s with
  | some (cs, rest) => some (.moment (String.ofList cs), rest)
  | none =>
    (number s).map fun (n, rest) =>
      match n with
      | .integer i => (.integer i, rest)
      | .float x => (.float x, rest)

/-- A value whose containers nest at most `depth` deep. -/
def value : Nat → Scan Value
  | depth, s =>
    match s with
    | '"' :: _ | '\'' :: _ => (anyString s).map fun (cs, rest) => (.string (String.ofList cs), rest)
    | 't' :: 'r' :: 'u' :: 'e' :: rest => some (.boolean true, rest)
    | 'f' :: 'a' :: 'l' :: 's' :: 'e' :: rest => some (.boolean false, rest)
    | '[' :: rest =>
      match depth with
      | 0 => none
      | depth + 1 => (arrayBody (value depth) rest).map fun (vs, rest) => (.array vs, rest)
    | '{' :: rest =>
      match depth with
      | 0 => none
      | depth + 1 =>
        (inlineBody (value depth) rest).map fun (es, rest) =>
          (.table (Entries.entryValues es), rest)
    | _ => scalar s

end Headroom.Toml
