import Headroom.Toml.Value

/-!
# TOML documents

A document is a sequence of lines with a key and a value, a header, a comment, or nothing. A header
opens the table that the lines after it fill. `Document.parse` gives the entries of the root table.
-/

namespace Headroom.Toml

/-- A document being read: what is finished, and the table that is open. -/
structure Document where
  root : Entries := []
  /-- The entries of the open table. -/
  current : Entries := []
  /-- Where the open table goes; at first it is the root itself. -/
  path : List String := []
  /-- The open table is one of several under one header. -/
  isElement : Bool := false

namespace Document

/-- Closes the open table and puts it in its place. -/
def closeTable (d : Document) : Option Document :=
  match d.path with
  | [] => some { d with root := d.current, current := [] }
  | ks =>
    let (path, k) := splitPath ks
    let place (es : Entries) : Option (Unit × Entries) :=
      match es.get? k with
      | none =>
        some ((), es.set k
          (if d.isElement then .tables [d.current] else .table false false d.current))
      | some (.tables elements) =>
        if d.isElement then some ((), es.set k (.tables (elements ++ [d.current]))) else none
      | some _ => none
    (d.root.descend false (fun _ => place) path false).map fun (_, root) =>
      { d with root := root, current := [] }

/-- Opens the table of a header. A table that stands there already is completed if it was only on
the way to another one. -/
def openTable (d : Document) (ks : List String) : Option Document :=
  let (path, k) := splitPath ks
  let take (es : Entries) : Option (Entries × Entries) :=
    match es.get? k with
    | none => some ([], es)
    | some (.table true false inner) => some (inner, es.erase k)
    | some _ => none
  (d.root.descend false (fun _ => take) path false).map fun (inner, root) =>
    { root := root, current := inner, path := ks, isElement := false }

/-- Opens one more of the tables under a header. -/
def openElement (d : Document) (ks : List String) : Option Document :=
  let (path, k) := splitPath ks
  let check (es : Entries) : Option (Unit × Entries) :=
    match es.get? k with
    | none => some ((), es)
    | some (.tables _) => some ((), es)
    | some _ => none
  (d.root.descend false (fun _ => check) path false).map fun (_, root) =>
    { root := root, current := [], path := ks, isElement := true }

/-- Adds a value to the open table. -/
def addValue (d : Document) (ks : List String) (v : Value) : Option Document :=
  let (path, k) := splitPath ks
  (d.current.insert path k v).map fun es => { d with current := es }

/-- A header after its opening bracket. -/
def header (d : Document) : List Char → Option (Document × List Char)
  | '[' :: rest =>
    (dottedKey rest).bind fun (ks, rest) =>
      match rest with
      | ']' :: ']' :: rest =>
        (lineEnd? rest).bind fun rest =>
          (d.closeTable.bind (·.openElement ks)).map (·, rest)
      | _ => none
  | rest =>
    (dottedKey rest).bind fun (ks, rest) =>
      match rest with
      | ']' :: rest =>
        (lineEnd? rest).bind fun rest =>
          (d.closeTable.bind (·.openTable ks)).map (·, rest)
      | _ => none

/-- One line, from its first character that is no blank. -/
def line (d : Document) : List Char → Option (Document × List Char)
  | '#' :: rest => (lineEnd? ('#' :: rest)).map (d, ·)
  | '[' :: rest => d.header rest
  | s =>
    match newline? s with
    | some rest => some (d, rest)
    | none =>
      (keyValue (value (nestingLimit - 1)) s).bind fun ((ks, v), rest) =>
        (lineEnd? rest).bind fun rest => (d.addValue ks v).map (·, rest)

/-- All lines, at most as many as there is fuel. -/
def lines : Nat → Document → List Char → Option Document
  | 0, _, _ => none
  | fuel + 1, d, s =>
    match skipBlanks s with
    | [] => some d
    | s => (d.line s).bind fun (d, rest) => lines fuel d rest

/-- The entries of the root table that a text describes. A byte order mark may stand in front. -/
def parse (text : List Char) : Option (List (String × Value)) :=
  let text :=
    match text with
    | '\ufeff' :: rest => rest
    | _ => text
  ((lines (text.length + 1) {} text).bind closeTable).map fun d => Entries.entryValues d.root

end Document

end Headroom.Toml
