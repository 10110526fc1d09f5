import Headroom.Num.Binary64

/-!
# TOML tables

What a document or an inline table holds while it is read. Tables arise by being written out, by
standing on the way to another table, or by dotted keys, and it depends on this what may still be
added to them:

* a header may complete a table that only stood on the way of another header, once;
* a dotted key goes through such tables, but adds only to tables that dotted keys made;
* every other second definition of a key is refused.
-/

namespace Headroom.Toml

/-- A value. A table in it is complete. -/
inductive Value where
  | string (text : String)
  | integer (value : Int)
  | float (value : Binary64)
  | boolean (value : Bool)
  | moment (text : String)
  | array (items : List Value)
  | table (entries : List (String × Value))

/-- An entry of a table under construction. -/
inductive Item where
  | value (v : Value)
  /-- A table. It is implicit if it has not been written out, and dotted if a dotted key made it. -/
  | table (implicit dotted : Bool) (entries : List (String × Item))
  /-- Tables written one by one under one header. -/
  | tables (elements : List (List (String × Item)))

/-- The entries of a table under construction, in order of arrival. -/
abbrev Entries := List (String × Item)

namespace Entries

/-- The entry of a key. -/
def get? (es : Entries) (k : String) : Option Item :=
  match es with
  | [] => none
  | (k', item) :: rest => if k' = k then some item else get? rest k

/-- Replaces the entry of a key, or adds it at the end. -/
def set (es : Entries) (k : String) (item : Item) : Entries :=
  match es with
  | [] => [(k, item)]
  | (k', item') :: rest => if k' = k then (k, item) :: rest else (k', item') :: set rest k item

/-- Takes out the entry of a key. -/
def erase (es : Entries) (k : String) : Entries := List.filter (fun e => e.1 != k) es

/-- Applies `f` to the table at the end of a path, given whether dotted keys made that table, and
gives what `f` found with the changed entries. Tables that are missing on the way are made implicit.
A path of a dotted key does not lead through tables that were written out; a path of a header does,
and goes to the last of several tables. -/
def descend {α : Type} (byDots : Bool) (f : Bool → Entries → Option (α × Entries)) :
    List String → Bool → Entries → Option (α × Entries)
  | [], isDotted, es => f isDotted es
  | k :: path, _, es =>
    match es.get? k with
    | none =>
      (descend byDots f path byDots []).map fun (a, inner) =>
        (a, es.set k (.table true byDots inner))
    | some (.value _) => none
    | some (.table implicit dotted inner) =>
      if byDots && !implicit then none
      else (descend byDots f path dotted inner).map fun (a, inner) =>
        (a, es.set k (.table implicit dotted inner))
    | some (.tables elements) =>
      (descend byDots f path false (elements.getLast?.getD [])).map fun (a, inner) =>
        (a, es.set k (.tables (elements.dropLast ++ [inner])))

/-- Adds a value under a dotted key. -/
def insert (es : Entries) (path : List String) (k : String) (v : Value) : Option Entries :=
  (descend true
    (fun isDotted inner =>
      if isDotted == path.isEmpty || (inner.get? k).isSome then none
      else some ((), inner.set k (.value v)))
    path false es).map (·.2)

mutual

/-- The value that a finished entry stands for. -/
def itemValue : Item → Value
  | .value v => v
  | .table _ _ es => .table (entryValues es)
  | .tables elements => .array (tableValues elements)

/-- The values of the entries of a table, under their keys. -/
def entryValues : List (String × Item) → List (String × Value)
  | [] => []
  | (k, item) :: rest => (k, itemValue item) :: entryValues rest

/-- The values of tables under one header, in order. -/
def tableValues : List (List (String × Item)) → List Value
  | [] => []
  | es :: rest => .table (entryValues es) :: tableValues rest

end

end Entries

/-- A dotted key cut into the path and the last key. -/
def splitPath (ks : List String) : List String × String := (ks.dropLast, ks.getLast?.getD "")

/-- A key without dots has no path. -/
@[simp]
theorem splitPath_singleton (k : String) : splitPath [k] = ([], k) := rfl

end Headroom.Toml
