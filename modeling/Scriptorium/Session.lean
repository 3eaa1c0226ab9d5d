import Scriptorium.Context.Compile
import Scriptorium.Slots

/-! Sessions: several contexts that share a tree of files, a sink for diagnostics and one current
scope, and named slots for all that is handed out. What is held in the slots decides which artifacts
and anchors are alive. A context whose name is taken away stays as long as a scope of it is held;
contexts are therefore known by number. Binding a scope drops the constants folded in its context,
and leaving a scope binds the one that was current when it was entered. -/

namespace Scriptorium

namespace Session

/-- A context, and what its generator was asked for: names of sources, and whether they were to be
compiled strictly. -/
structure Station where
  context : Context
  requests : List (String × Bool)

/-- An artifact and the number of the context that made it. -/
structure HeldArtifact where
  station : Nat
  artifact : Artifact

def HeldArtifact.isSame (a b : HeldArtifact) : Bool :=
  a.station == b.station && a.artifact.isSame b.artifact

structure Scope where
  station : Nat
  id : ScopeId
deriving DecidableEq, Inhabited

structure HeldGuard where
  station : Nat
  guard : GuardRef
deriving DecidableEq, Inhabited

/-- A scope that was entered: what was current before. -/
structure Entered where
  previous : Option Scope
deriving DecidableEq, Inhabited

end Session

structure Session where
  stations : List Session.Station
  names : Slots Nat
  files : FileTree
  sink : Sink
  artifacts : Slots Session.HeldArtifact
  scopes : Slots Session.Scope
  entered : Slots Session.Entered
  guards : Slots Session.HeldGuard
  current : Option Session.Scope

namespace Session

def new (files : FileTree) : Session :=
  ⟨[], .empty, files, .empty, .empty, .empty, .empty, .empty, none⟩

/-! Contexts. -/

def number? (s : Session) (name : String) : Option Nat := s.names.get? name

def station? (s : Session) (n : Nat) : Option Station := s.stations[n]?

def context? (s : Session) (n : Nat) : Option Context := (s.station? n).map (·.context)

/-- Changes a context. -/
def update (s : Session) (n : Nat) (f : Context → Context) : Session :=
  { s with stations := s.stations.modify n fun st => { st with context := f st.context } }

/-- Does something in a context that has a result. -/
def within {α : Type} (s : Session) (n : Nat) (f : Context → α × Context) : Option (α × Session) :=
  (s.context? n).map fun c =>
    let (a, c) := f c
    (a, s.update n fun _ => c)

/-- Makes a context and gives it a name, which another context may lose. -/
def openContext (s : Session) (name : String) (config : Config) (version : String)
    (target : Target) (verifier : Option Verifier) : Except Fault (Context × Session) := do
  let (context, files) ← Context.new config version target verifier s.files
  .ok (context, { s with
    stations := s.stations ++ [⟨context, []⟩], names := s.names.put name s.stations.length, files })

/-- The names of a context: one, or none if it was lost. -/
def namesOf (s : Session) (n : Nat) : List String := s.names.namesWhere (· == n)

/-! Artifacts. -/

/-- The artifacts of a context that are held. -/
def heldOf (s : Session) (n : Nat) : List Artifact :=
  s.artifacts.values.filterMap fun h => if h.station = n then some h.artifact else none

/-- The slots that hold an artifact. -/
def slotsOf (s : Session) (h : HeldArtifact) : List String := s.artifacts.namesWhere h.isSame

/-- Compiles a source in a context. -/
def compile (s : Session) (n : Nat) (generator : Generator) (source : Source) :
    Option (Outcome × Session) :=
  (s.station? n).map fun st =>
    let c := st.context.compile generator (s.heldOf n) s.files s.sink source
    let requests :=
      if c.asked then st.requests ++ [(source.name, (st.context.fingerprintOf source).strict)]
      else st.requests
    (c.outcome, { s with
      stations := s.stations.set n ⟨c.context, requests⟩, files := c.files, sink := c.sink })

/-- Holds on to an artifact if a slot for it is given. -/
def holdArtifact (s : Session) (slot : Option String) (h : HeldArtifact) : Session :=
  match slot with
  | some slot => { s with artifacts := s.artifacts.put slot h }
  | none => s

/-! Scopes. -/

/-- Makes a scope of a context and holds it. -/
def createScope (s : Session) (n : Nat) (slot : String) : Option (Scope × Session) :=
  (s.within n Context.createScope).map fun (id, s) =>
    (⟨n, id⟩, { s with scopes := s.scopes.put slot ⟨n, id⟩ })

/-- Makes a scope the current one, or none. -/
def bind (s : Session) (scope : Option Scope) : Session :=
  let s := match scope with
    | some scope => s.update scope.station Context.dropFolded
    | none => s
  { s with current := scope }

/-- Leaves a scope that was entered. Nothing happens if the slot is empty. -/
def exit (s : Session) (slot : String) : Session :=
  match s.entered.get? slot with
  | none => s
  | some e => bind { s with entered := s.entered.drop slot } e.previous

/-- Enters a scope until the slot is given up. If the slot is in use, what was entered with it is
left after that. -/
def enter (s : Session) (scope : Scope) (slot : String) : Session :=
  let opened := s.bind (some scope)
  let left := opened.exit slot
  { left with entered := left.entered.put slot ⟨s.current⟩ }

/-! Guards. -/

/-- Holds on to a guard if a slot for it is given. -/
def holdGuard (s : Session) (slot : Option String) (h : HeldGuard) : Session :=
  match slot with
  | some slot => { s with guards := s.guards.put slot h }
  | none => s

def guard? (s : Session) (h : HeldGuard) : Option Guard :=
  (s.context? h.station).bind fun c => c.guards.get? h.guard

def isValid (s : Session) (h : HeldGuard) : Bool := (s.guard? h).any (·.valid)

/-- Does something in the folding of a context; `none` if the context has no scope yet. -/
def fold {α : Type} (s : Session) (n : Nat) (f : Folding → GuardTable → α × Folding × GuardTable) :
    Option (α × Session) :=
  match s.context? n with
  | none => none
  | some c =>
    c.folding.map fun folding =>
      let (a, folding, guards) := f folding c.guards
      (a, s.update n fun c => { c with folding := some folding, guards })

end Session
end Scriptorium
