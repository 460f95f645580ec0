import BenchRelay.Config.Basic
import BenchRelay.Toml.Reader

/-!
# Configurations in TOML

A configuration file has a table `payload` and a table `output`. What it leaves out takes its
default, and keys that mean nothing are passed over. Either of the two may also be written as an
array of its fields in order, with fields missing at the end or items too many. A date in place of a
table is a table with one key of a fixed name.
-/

namespace BenchRelay.Config

open BenchRelay.Toml (Value)

/-- The key under which a date or time stands for a table. -/
def dateTimeKey : Text := "$__toml_private_datetime"

/-- A text. -/
def text? : Value → Option Text
  | .string text => some text
  | _ => none

/-- A list of texts. -/
def texts? : Value → Option (List Text)
  | .array items => items.mapM text?
  | _ => none

/-- A table of texts. -/
def environment? : Value → Option Environment
  | .table entries =>
    (entries.mapM fun entry => (text? entry.2).map (entry.1, ·)).map Environment.ofList
  | .dateTime text => some (Environment.ofList [(dateTimeKey, text)])
  | _ => none

/-- The greatest number of bytes that a read may be asked for. -/
def chunkLimit : Nat := Nat.pow 2 64 - 1

/-- A number of bytes. -/
def chunk? : Value → Option Nat
  | .integer (.ofNat n) => if n ≤ chunkLimit then some n else none
  | _ => none

/-- A field of a configuration: its name and how its value changes the configuration. -/
abbrev Field := Text × (Config → Value → Option Config)

/-- The fields of the table `payload`, in order. -/
def payloadFields : List Field :=
  [("command", fun config value => (text? value).map fun t => { config with command := some t }),
    ("args", fun config value => (texts? value).map fun ts => { config with args := ts }),
    ("cwd", fun config value => (text? value).map fun t => { config with directory := some t }),
    ("env", fun config value => (environment? value).map fun e => { config with environment := e })]

/-- The fields of the table `output`, in order. -/
def outputFields : List Field :=
  [("read_chunk_bytes",
    fun config value => (chunk? value).map fun n => { config with readChunkBytes := n })]

/-- Take one entry of a table: a field by its name, or else any value in range. -/
def takeEntry (fields : List Field) (config : Config) (entry : Text × Value) : Option Config :=
  match fields.lookup entry.1 with
  | some change => change config entry.2
  | none => if entry.2.inRange then some config else none

/-- Take the items of an array as fields in order. -/
def takeItems (config : Config) : List Field → List Value → Option Config
  | (_, change) :: fields, value :: values => do takeItems (← change config value) fields values
  | _, _ => some config

/-- Take a table, written in any of its forms. -/
def takeTable (fields : List Field) (config : Config) : Value → Option Config
  | .table entries => entries.foldlM (takeEntry fields) config
  | .array items => takeItems config fields items
  | .dateTime _ => some config
  | _ => none

/-- The tables of a configuration file. -/
def topFields : List Field :=
  [("payload", takeTable payloadFields), ("output", takeTable outputFields)]

/-- The configuration that a document says. -/
def ofDocument? (entries : List (Text × Value)) : Option Config :=
  entries.foldlM (takeEntry topFields) {}

/-- Read a configuration. -/
def parse? (text : Text) : Option Config := do ofDocument? (← Toml.document? text)

end BenchRelay.Config
