import Scriptorium.Config
import Scriptorium.Text.Quoted
import Scriptorium.Toml.Document

/-! Reading a configuration from a TOML document: each setting that is given replaces its default,
keys that name no setting are passed over, and the first value that does not fit is the error. A
section may also be written as an array of its settings in their order. -/

namespace Scriptorium

/-- Why a value does not fit the setting it is given for. -/
inductive SchemaError where
  | invalidType (found : Toml.Value) (expected : String)
  | outOfRange (n : Int) (expected : String)
  | unknownMode (name : String)
  /-- A mode is given by something that is neither its name nor a table. -/
  | noMode
  | emptyMode
  | manyModes
  /-- A mode is given as the key of a table, whose value is not empty. -/
  | modeWithContent (value : Toml.Value)

namespace SchemaError

/-- How a value is called in messages. -/
def describe : Toml.Value → String
  | .str s => s!"string {Text.quoted s}"
  | .int n => s!"integer `{n}`"
  | .float x => s!"floating point `{x.inFull}`"
  | .bool b => s!"boolean `{b}`"
  | .datetime => "map"
  | .array _ | .tables _ => "sequence"
  | .table _ => "map"

private def contentMessage : Toml.Value → String
  | .str _ => "expected table, found string"
  | .int _ => "expected table, found integer"
  | .float _ => "expected table, found float"
  | .bool _ => "expected table, found boolean"
  | .datetime => "expected table, found datetime"
  | .array _ | .table _ => "expected empty table"
  | .tables _ => "expected empty array"

def message : SchemaError → String
  | .invalidType found expected => s!"invalid type: {describe found}, expected {expected}"
  | .outOfRange n expected => s!"invalid value: integer `{n}`, expected {expected}"
  | .unknownMode name =>
    s!"unknown variant `{name}`, expected one of `auto`, `always`, `never`"
  | .noMode => "wanted string or table"
  | .emptyMode => "wanted exactly 1 element, found 0 elements"
  | .manyModes => "wanted exactly 1 element, more than 1 element"
  | .modeWithContent value => contentMessage value

end SchemaError

namespace Config

/-- One setting of a section: its key, and what its value does to the section. -/
structure Setting (σ : Type) where
  key : String
  set : σ → Toml.Value → Except SchemaError σ

def natural (bound : Nat) (expected : String) : Toml.Value → Except SchemaError Nat
  | .int n =>
    if 0 ≤ n ∧ n < bound then .ok n.toNat else .error (.outOfRange n expected)
  | v => .error (.invalidType v expected)

def size : Toml.Value → Except SchemaError Nat := natural UInt64.size "usize"

def flag : Toml.Value → Except SchemaError Bool
  | .bool b => .ok b
  | v => .error (.invalidType v "a boolean")

def path : Toml.Value → Except SchemaError String
  | .str s => .ok s
  | v => .error (.invalidType v "path string")

def modeNamed (name : String) : Except SchemaError IsolationMode :=
  match [IsolationMode.auto, .always, .never].find? (·.name == name) with
  | some m => .ok m
  | none => .error (.unknownMode name)

def mode : Toml.Value → Except SchemaError IsolationMode
  | .str s => modeNamed s
  | .table [] => .error .emptyMode
  | .table [(name, content)] => do
    let m ← modeNamed name
    match content with
    | .array [] | .tables [] | .table [] => .ok m
    | v => .error (.modeWithContent v)
  | .table _ => .error .manyModes
  | _ => .error .noMode

def setting (key : String) (read : Toml.Value → Except SchemaError α)
    (put : σ → α → σ) : Setting σ :=
  ⟨key, fun s v => (read v).map (put s)⟩

/-- Overlays a section with what a value gives for it. -/
def overlay (name : String) (settings : List (Setting σ)) (s : σ) :
    Toml.Value → Except SchemaError σ
  | .table entries =>
    entries.foldlM (fun s (k, v) =>
      match settings.find? (·.key == k) with
      | some setting => setting.set s v
      | none => .ok s) s
  | .datetime => .ok s
  | v =>
    match v.items? with
    | some items => (settings.zip items).foldlM (fun s (setting, v) => setting.set s v) s
    | none => .error (.invalidType v s!"struct {name}")

def cacheSettings : List (Setting CacheSettings) :=
  [setting "memory_capacity" size fun s n => { s with memoryCapacity := n },
   setting "persistent" flag fun s b => { s with persistent := b },
   setting "directory" path fun s d => { s with directory := d },
   setting "min_persist_size" size fun s n => { s with minPersistSize := n }]

def compileSettings : List (Setting CompileSettings) :=
  [setting "lazy" flag fun s b => { s with lazy := b },
   setting "optimistic_types" flag fun s b => { s with optimisticTypes := b },
   setting "strict" flag fun s b => { s with strict := b },
   setting "verify_code" flag fun s b => { s with verifyCode := b },
   setting "loader_per_compile" flag fun s b => { s with loaderPerCompile := b }]

def installSettings : List (Setting InstallSettings) :=
  [setting "isolation" mode fun s m => { s with isolation := m },
   setting "isolation_threshold" size fun s n => { s with isolationThreshold := n },
   setting "max_uses" (natural UInt32.size "u32") fun s n => { s with maxUses := n },
   setting "max_bytes" size fun s n => { s with maxBytes := n }]

def sections : List (Setting Config) :=
  [setting "cache" (overlay "CacheConfig" cacheSettings {}) fun c s => { c with cache := s },
   setting "compile" (overlay "CompileConfig" compileSettings {}) fun c s =>
     { c with compile := s },
   setting "installer" (overlay "InstallerConfig" installSettings {}) fun c s =>
     { c with installer := s }]

/-- The configuration that the root table of a document gives. -/
def ofTable (t : Toml.Table) : Except SchemaError Config :=
  overlay "RuntimeConfig" sections {} (.table t)

/-- Why a configuration could not be had. -/
inductive Failure where
  /-- The text is no TOML document. -/
  | malformed
  | schema (e : SchemaError)
  | invalid (e : Invalid)

def Failure.message : Failure → String
  | .malformed => "failed to parse configuration: malformed document"
  | .schema e => s!"failed to parse configuration: {e.message}"
  | .invalid .maxUsesZero => "validation error: installer.max_uses must be positive"
  | .invalid .maxBytesZero => "validation error: installer.max_bytes must be positive"
  | .invalid .directoryMissing => "missing required field: cache.directory"

/-- Reads the root table of a document and refuses an unusable configuration. -/
def load (t : Toml.Table) : Except Failure Config :=
  match ofTable t with
  | .error e => .error (.schema e)
  | .ok c =>
    match c.invalid? with
    | some e => .error (.invalid e)
    | none => .ok c

def loadText (text : String) : Except Failure Config :=
  match Toml.parse? text with
  | none => .error .malformed
  | some t => load t

end Config
end Scriptorium
