import Scriptorium.Context.Install
import Scriptorium.Diagnostic.Sink
import Scriptorium.Generator

/-! Compilation. A source is looked for in memory, then among the records on disk, and only then is
the generator asked. What was found on disk or generated is installed, and the artifact is entered
in memory. An id read from a record raises the counter of compilations above it. -/

namespace Scriptorium

/-- What a compile came to. -/
inductive Outcome where
  | done (artifact : Artifact)
  | failed (error : CompileError)
  /-- The compile was broken off; what it had changed by then stays changed. -/
  | broken (fault : Fault)

/-- A compile's outcome, and all that it may have changed. -/
structure Compiled where
  outcome : Outcome
  context : Context
  sink : Sink
  files : FileTree
  /-- Whether the generator was asked. -/
  asked : Bool

namespace Context

/-- The fingerprint under which a source is cached: it is strict if the source or the configuration
says so. -/
def fingerprintOf (c : Context) (source : Source) : Fingerprint :=
  source.fingerprint.withStrict (c.config.compile.strict || source.strict)

/-- The store and the key of a source's record, if it has one. Eager code that rests on assumptions
about types has none: a later run may not share them. -/
def record? (c : Context) (f : Fingerprint) : Option (RecordStore × RecordKey) :=
  if c.config.compile.optimisticTypes && !c.config.compile.lazy then none
  else (c.store.filter (·.isEligible f)).map fun s => (s, s.scriptKey f.key)

/-- The artifact in memory. -/
def fromMemory (c : Context) (held : List Artifact) (f : Fingerprint) : Option Artifact × Context :=
  match c.memory with
  | none => (none, c)
  | some memory =>
    let (found, memory) := memory.get? (fun a => held.any a.isSame) f.key
    (found, { c with memory := some memory })

/-- Makes the artifact of an installed bundle and enters it in memory. -/
def deliver (c : Context) (held : List Artifact) (f : Fingerprint) (installed : Installed)
    (constants : List Constant) (id : UInt64) : Artifact × Context :=
  let a : Artifact := ⟨c.nextSerial, f, installed, constants, id⟩
  (a, { c with
    nextSerial := c.nextSerial + 1
    memory := c.memory.map fun m => m.put (fun a => held.any a.isSame) f.key a })

def countFailure (c : Context) : Context :=
  { c with stats := { c.stats with failedCompiles := c.stats.failedCompiles + 1 } }

def countMemoryHit (c : Context) : Context :=
  { c with stats := { c.stats with memoryHits := c.stats.memoryHits + 1 } }

def countPersistentHit (c : Context) : Context :=
  { c with stats := { c.stats with persistentHits := c.stats.persistentHits + 1 } }

def countFresh (c : Context) : Context :=
  { c with stats := { c.stats with freshCompiles := c.stats.freshCompiles + 1 } }

def countPersistFailure (c : Context) : Context :=
  { c with stats := { c.stats with persistFailures := c.stats.persistFailures + 1 } }

/-- Raises the counter of compilations above an id; above the greatest one it cannot be raised. -/
def reserve (c : Context) (id : UInt64) : Except Fault Context :=
  if id.toNat + 1 < UInt64.size then
    .ok { c with nextCompilation := max c.nextCompilation (id + 1) }
  else .error .addOverflow

/-- Ends a compile whose installation met with a setback. Only a refusal is a failure. -/
def giveUp (c : Context) : Setback → Outcome × Context
  | .refused e => (.failed (.installation e), c.countFailure)
  | .broken fault => (.broken fault, c)

/-- Installs what a record holds. -/
def restore (c : Context) (held : List Artifact) (source : Source) (f : Fingerprint)
    (record : Record) : Outcome × Context :=
  match c.countPersistentHit.install held source record.bundle with
  | (.error s, c) => c.giveUp s
  | (.ok installed, c) =>
    match c.reserve record.compilationId with
    | .error fault => (.broken fault, c)
    | .ok c =>
      let (a, c) := c.deliver held f installed record.bundle.constants record.compilationId
      (.done a, c)

/-- Writes the record of a bundle, if it has a place. A record that cannot be written is counted and
does no other harm. -/
def persist (c : Context) (files : FileTree) (place : Option (RecordStore × RecordKey))
    (f : Fingerprint) (b : Bundle) (id : UInt64) : Context × FileTree :=
  match place with
  | none => (c, files)
  | some (store, key) =>
    match store.store files key f.key b id with
    | .ok files => (c, files)
    | .error _ => (c.countPersistFailure, files)

/-- Installs and persists what the generator made. -/
def establish (c : Context) (held : List Artifact) (files : FileTree) (source : Source)
    (f : Fingerprint) (place : Option (RecordStore × RecordKey)) (b : Bundle) :
    Outcome × Context × FileTree :=
  match c.install held source b with
  | (.error s, c) =>
    let (outcome, c) := c.giveUp s
    (outcome, c, files)
  | (.ok installed, c) =>
    let id := c.nextCompilation
    let c := { c with nextCompilation := id + 1 }
    let (c, files) := c.countFresh.persist files place f b id
    let (a, c) := c.deliver held f installed b.constants id
    (.done a, c, files)

/-- What the generator has to say goes to the sink. Its bundle counts only if there is no error
among that. -/
def generate (generator : Generator) (source : Source) (strict : Bool) (sink : Sink) :
    Except CompileError Bundle × Sink :=
  let generated := generator source strict
  let sink := sink.emitAll generated.diagnostics
  match generated.bundle with
  | some b => if sink.hasErrors then (.error (.diagnostics sink.pending), sink) else (.ok b, sink)
  | none => (.error (.diagnostics sink.pending), sink)

/-- The record of a source, if it has one on disk. -/
def fromDisk (place : Option (RecordStore × RecordKey)) (files : FileTree) (f : Fingerprint) :
    Except Fault (Option Record) :=
  match place with
  | none => .ok none
  | some (store, key) => store.load files f.key key

/-- Compiles a source. `held` are the artifacts of this context that someone holds. -/
def compile (c : Context) (generator : Generator) (held : List Artifact) (files : FileTree)
    (sink : Sink) (source : Source) : Compiled :=
  let sink := sink.reset
  let f := c.fingerprintOf source
  match c.fromMemory held f with
  | (some a, c) => ⟨.done a, c.countMemoryHit, sink, files, false⟩
  | (none, c) =>
    let place := c.record? f
    match fromDisk place files f with
    | .error fault => ⟨.broken fault, c, sink, files, false⟩
    | .ok (some record) =>
      let (outcome, c) := c.restore held source f record
      ⟨outcome, c, sink, files, false⟩
    | .ok none =>
      match generate generator source f.strict sink with
      | (.error e, sink) => ⟨.failed e, c.countFailure, sink, files, true⟩
      | (.ok b, sink) =>
        let (outcome, c, files) := c.establish held files source f place b
        ⟨outcome, c, sink, files, true⟩

end Context
end Scriptorium
