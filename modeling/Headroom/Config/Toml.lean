import Headroom.Config.Option
import Headroom.Config.Validation
import Headroom.Toml.Document

/-!
# Configurations in TOML

Reads a configuration from a TOML document and writes one. A section is a table of options, or an
array of their values in order. Options that are missing keep their defaults, names that are unknown
are ignored, and an integer may stand for a number. Writing is possible if every count is a TOML
integer.
-/

namespace Headroom

/-- Why a configuration could not be loaded or written. -/
inductive ConfigError where
  | unreadable (detail : String)
  | malformed
  | unwritable
  | invalid (fault : Fault)
  deriving DecidableEq, Repr

namespace ConfigOption

/-- Sets an option to a value, if it is one of its kind. -/
def read? {σ : Type} (o : ConfigOption σ) (s : σ) (v : Toml.Value) : Option σ :=
  match o.slot, v with
  | .number _ set, .float x => some (set s x)
  | .number _ set, .integer i => some (set s (.ofInt i))
  | .count _ set bound, .integer i =>
    if 0 ≤ i && i < bound then some (set s i.toNat) else none
  | .optionalCount _ set bound, .integer i =>
    if 0 ≤ i && i < bound then some (set s (some i.toNat)) else none
  | _, _ => none

/-- The value of a key. -/
def lookup? (entries : List (String × Toml.Value)) (name : String) : Option Toml.Value :=
  (entries.find? (·.1 == name)).map (·.2)

/-- Sets the options that a table names. -/
def readNamed? {σ : Type} (entries : List (String × Toml.Value)) :
    List (ConfigOption σ) → σ → Option σ
  | [], s => some s
  | o :: rest, s =>
    match lookup? entries o.name with
    | none => readNamed? entries rest s
    | some v => (o.read? s v).bind (readNamed? entries rest)

/-- Sets options in order, as far as there are values. -/
def readInOrder? {σ : Type} : List (ConfigOption σ) → List Toml.Value → σ → Option σ
  | o :: rest, v :: vs, s => (o.read? s v).bind (readInOrder? rest vs)
  | _, _, s => some s

/-- Reads a section. A date or time is read like a table of which no name is known. -/
def readSection? {σ : Type} (options : List (ConfigOption σ)) (default : σ) :
    Option Toml.Value → Option σ
  | none => some default
  | some (.table entries) => readNamed? entries options default
  | some (.array items) => readInOrder? options items default
  | some (.moment _) => some default
  | some _ => none

end ConfigOption

/-- Numbers in TOML: no exponent, and a fraction always. -/
def NumeralStyle.toml : NumeralStyle where
  wholeSuffix := ".0"
  positional := none
  nan := "nan"
  infinity := "inf"
  negInfinity := "-inf"

namespace OptionValue

/-- The text of a value, if it is within TOML's integers. -/
def toml? : OptionValue → Option String
  | number x => some (x.render .toml)
  | count n => if n < Nat.pow 2 63 then some (decimalText n) else none

end OptionValue

namespace ConfigOption

/-- The line of an option, which is empty for an absent one. -/
def line? {σ : Type} (o : ConfigOption σ) (s : σ) : Option String :=
  match o.value? s with
  | none => some ""
  | some v => v.toml?.map fun text => o.name ++ " = " ++ text ++ "\n"

/-- The lines of a section. -/
def lines? {σ : Type} : List (ConfigOption σ) → σ → Option String
  | [], _ => some ""
  | o :: rest, s => (o.line? s).bind fun line => (lines? rest s).map (line ++ ·)

end ConfigOption

namespace Config

/-- The name of the pool's section. -/
def poolName : String := "pool"
/-- The name of the snapshotter's section. -/
def snapshotterName : String := "snapshotter"
/-- The name of the status's section. -/
def statusName : String := "status"

/-- The configuration that a document's entries describe, not validated. -/
def ofEntries? (entries : List (String × Toml.Value)) : Option Config :=
  let section? (name : String) := ConfigOption.lookup? entries name
  (ConfigOption.readSection? PoolConfig.options {} (section? poolName)).bind fun pool =>
    (ConfigOption.readSection? SnapshotterConfig.options {} (section? snapshotterName)).bind
      fun snapshotter =>
        (ConfigOption.readSection? StatusConfig.options {} (section? statusName)).map fun status =>
          ⟨pool, snapshotter, status⟩

/-- Reads and validates a configuration. -/
def ofToml (text : String) : Except ConfigError Config :=
  match (Toml.Document.parse text.toList).bind ofEntries? with
  | none => .error .malformed
  | some c =>
    match c.fault? with
    | some fault => .error (.invalid fault)
    | none => .ok c

/-- Reads a configuration from the bytes of a file. -/
def ofBytes (bytes : ByteArray) : Except ConfigError Config :=
  match String.fromUTF8? bytes with
  | some text => ofToml text
  | none => .error (.unreadable "stream did not contain valid UTF-8")

/-- The result of reading a file that does not exist. -/
def ofMissingFile : Except ConfigError Config :=
  .error (.unreadable "No such file or directory (os error 2)")

/-- Writes a configuration: a header for every section, its options in order, an empty line between
sections. -/
def toToml (c : Config) : Except ConfigError String :=
  let text? :=
    (ConfigOption.lines? PoolConfig.options c.pool).bind fun pool =>
      (ConfigOption.lines? SnapshotterConfig.options c.snapshotter).bind fun snapshotter =>
        (ConfigOption.lines? StatusConfig.options c.status).map fun status =>
          "[" ++ poolName ++ "]\n" ++ pool ++ "\n[" ++ snapshotterName ++ "]\n" ++ snapshotter ++
            "\n[" ++ statusName ++ "]\n" ++ status
  match text? with
  | some text => .ok text
  | none => .error .unwritable

end Config

end Headroom
