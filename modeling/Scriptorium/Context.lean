import Scriptorium.Artifact
import Scriptorium.Folding
import Scriptorium.Install.Anchors
import Scriptorium.Install.Installer
import Scriptorium.MemoryCache
import Scriptorium.Record.Store

/-! Execution contexts. A context owns what the global scopes of one embedding share: the caches,
the installers, the counters, the guards and the folding of global bindings. Its first scope brings
folding into being, and every later one ends it. -/

namespace Scriptorium

/-- What the compiles of a context came to. -/
structure Stats where
  memoryHits : Nat := 0
  persistentHits : Nat := 0
  freshCompiles : Nat := 0
  failedCompiles : Nat := 0
  /-- Units defined by name. -/
  namedUnits : Nat := 0
  /-- Units defined in isolation. -/
  isolatedUnits : Nat := 0
  /-- Loaders replaced because they were worn out. -/
  rotations : Nat := 0
  persistFailures : Nat := 0
deriving DecidableEq, Inhabited

/-- A global scope of a context. -/
structure ScopeId where
  number : Nat
deriving DecidableEq, Inhabited

namespace ScopeId

def display (id : ScopeId) : String := s!"scope#{id.number}"

def debug (id : ScopeId) : String := s!"Scope \x7b id: ScopeId({id.number}), .. \x7d"

end ScopeId

structure Context where
  config : Config
  version : String
  target : Target
  /-- Asked only if the configuration wants code to be verified. -/
  verifier : Option Verifier
  memory : Option (MemoryCache SourceKey Artifact)
  store : Option RecordStore
  /-- The installer by name that is kept for the next compile. -/
  named : Option NamedInstaller
  anchors : AnchorCache
  stats : Stats
  nextCompilation : UInt64
  nextScript : Nat
  nextSerial : Nat
  nextScope : Nat
  /-- Set by the first installation in isolation that fails; from then on all go by name. -/
  isolationFailed : Bool
  guards : GuardTable
  registry : GuardRegistry
  folding : Option Folding

namespace Context

/-- The version of the runtime that records are tagged with unless another one is given. -/
def runtimeVersion : String := "0.1.0"

/-- Opens the store that the configuration asks for; there is none if it cannot be opened. -/
def openStore (config : Config) (version : String) (files : FileTree) :
    Option RecordStore × FileTree :=
  if config.persistenceEnabled then
    let profile := Profile.ofFlag config.compile.optimisticTypes
    match RecordStore.openAt files config.cache.directory version profile
        config.cache.minPersistSize with
    | (files, .ok store) => (some store, files)
    | (files, .error _) => (none, files)
  else (none, files)

/-- The cache that the configuration asks for; there is none if nothing is to be kept in memory. -/
def openMemory (config : Config) : Except Fault (Option (MemoryCache SourceKey Artifact)) :=
  if config.cache.memoryCapacity = 0 then .ok none
  else (MemoryCache.new config.cache.memoryCapacity).map some

def new (config : Config) (version : String) (target : Target) (verifier : Option Verifier)
    (files : FileTree) : Except Fault (Context × FileTree) := do
  let memory ← openMemory config
  let (store, files) := openStore config version files
  .ok ({ config, version, target, verifier, memory, store
         named := none
         anchors := .empty
         stats := {}
         nextCompilation := 0
         nextScript := 0
         nextSerial := 0
         nextScope := 0
         isolationFailed := false
         guards := .empty
         registry := .empty
         folding := none }, files)

/-- Forgets all artifacts in memory; records on disk stay. -/
def clearMemory (c : Context) : Context := { c with memory := c.memory.map (·.clear) }

/-- The guard of a name, the same one at every request. -/
def guard (c : Context) (name : String) : GuardRef × Context :=
  let (guard, registry, guards) := c.registry.getOrCreate c.guards name
  (guard, { c with registry, guards })

/-- A guard that no request by name gives. -/
def createGuard (c : Context) (name : String) : GuardRef × Context :=
  let (guard, guards) := c.guards.create name
  (guard, { c with guards })

def invalidateNamed (c : Context) (name : String) : Bool × Context :=
  let (did, guards) := c.registry.invalidate c.guards name
  (did, { c with guards })

/-- Invalidates a guard and tells whether it was valid. -/
def invalidateGuard (c : Context) (guard : GuardRef) : Bool × Context :=
  (c.guards.isValid guard, { c with guards := c.guards.invalidate guard })

/-- Changes the folding of the context, if it has any. -/
def updateFolding (c : Context) (f : Folding → GuardTable → Folding × GuardTable) : Context :=
  match c.folding with
  | none => c
  | some folding =>
    let (folding, guards) := f folding c.guards
    { c with folding := some folding, guards }

/-- Drops all folded values. -/
def dropFolded (c : Context) : Context := c.updateFolding Folding.invalidateAll

/-- Ends folding. -/
def endFolding (c : Context) : Context := c.updateFolding Folding.invalidateForever

/-- The folding of the context as long as it may fold. -/
def activeFolding (c : Context) : Option Folding := c.folding.filter fun f => !f.isDisabled

def createScope (c : Context) : ScopeId × Context :=
  let c :=
    match c.folding with
    | none => { c with folding := some .new }
    | some _ => c.endFolding
  (⟨c.nextScope⟩, { c with nextScope := c.nextScope + 1 })

end Context
end Scriptorium
