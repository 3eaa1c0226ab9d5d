/-! The settings of a runtime: the caches, the way sources are compiled, and the choice of
installer. Every setting has a default. -/

namespace Scriptorium

structure CacheSettings where
  /-- Artifacts held in memory; none at all if zero. -/
  memoryCapacity : Nat := 50
  persistent : Bool := false
  directory : String := ".kiln-cache"
  /-- Sources with fewer octets are never persisted. -/
  minPersistSize : Nat := 1000
deriving DecidableEq, Inhabited

structure CompileSettings where
  lazy : Bool := true
  optimisticTypes : Bool := false
  strict : Bool := false
  verifyCode : Bool := false
  /-- Take a new loader for every compile. -/
  loaderPerCompile : Bool := false
deriving DecidableEq, Inhabited

inductive IsolationMode where
  | auto
  | always
  | never
deriving DecidableEq, Inhabited

def IsolationMode.name : IsolationMode → String
  | .auto => "auto"
  | .always => "always"
  | .never => "never"

structure InstallSettings where
  isolation : IsolationMode := .auto
  /-- The largest source, in octets, that is isolated under `auto`. -/
  isolationThreshold : Nat := 512
  /-- Units that a loader takes before it is replaced. -/
  maxUses : Nat := 10
  /-- Octets of code that a loader takes before it is replaced. -/
  maxBytes : Nat := 200000
deriving DecidableEq, Inhabited

def InstallSettings.allowsIsolation (s : InstallSettings) (length : Nat) : Bool :=
  match s.isolation with
  | .always => true
  | .never => false
  | .auto => length ≤ s.isolationThreshold

structure Config where
  cache : CacheSettings := {}
  compile : CompileSettings := {}
  installer : InstallSettings := {}
deriving DecidableEq, Inhabited

namespace Config

def persistenceEnabled (c : Config) : Bool := c.cache.persistent

/-- The same settings with another directory for records. -/
def withDirectory (c : Config) (directory : String) : Config :=
  { c with cache := { c.cache with directory } }

/-- What makes a complete configuration unusable. -/
inductive Invalid where
  | maxUsesZero
  | maxBytesZero
  | directoryMissing
deriving DecidableEq

/-- The first thing that makes a configuration unusable, if there is one. -/
def invalid? (c : Config) : Option Invalid :=
  if c.installer.maxUses = 0 then some .maxUsesZero
  else if c.installer.maxBytes = 0 then some .maxBytesZero
  else if c.cache.persistent ∧ c.cache.directory = "" then some .directoryMissing
  else none

end Config
end Scriptorium
