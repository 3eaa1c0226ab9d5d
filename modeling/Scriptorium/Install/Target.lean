import Scriptorium.Bytes
import Scriptorium.Install.Error

/-! Where code becomes callable. A loader is a name space: a name is defined in it at most once, and
units defined in it can refer to each other. Units defined against an anchor have no name, and
nothing can refer to them. `Host` keeps the tables of both; a call that fails changes none of them.
`Target` is what installers call: a host, of which some calls may be out of order. -/

namespace Scriptorium

structure AnchorId where
  number : Nat
deriving DecidableEq, Inhabited

def AnchorId.display (id : AnchorId) : String := s!"@{id.number}"

/-- The address of an installed unit. -/
structure EntryPoint where
  number : Nat
deriving DecidableEq, Inhabited

/-- Tables of what was defined. Loaders, anchors and entry points are numbered in one sequence. -/
structure Host where
  /-- Whether units can be defined against anchors at all. -/
  isolation : Bool
  nextNumber : Nat
  /-- The names defined in each loader. -/
  loaders : List (LoaderId × List String)
  /-- The origin that each anchor was made for. -/
  anchors : List (AnchorId × String)
  isolatedUnits : Nat
deriving DecidableEq, Inhabited

namespace Host

def new (isolation : Bool) : Host := ⟨isolation, 1, [], [], 0⟩

def names? (h : Host) (loader : LoaderId) : Option (List String) := h.loaders.lookup loader

def unitsIn (h : Host) (loader : LoaderId) : Nat := ((h.names? loader).getD []).length

def createLoader (h : Host) : LoaderId × Host :=
  let id : LoaderId := ⟨h.nextNumber⟩
  (id, { h with nextNumber := h.nextNumber + 1, loaders := h.loaders ++ [(id, [])] })

def createAnchor (h : Host) (origin : String) : Except InstallError (AnchorId × Host) :=
  if !h.isolation then .error .isolationUnavailable
  else
    let id : AnchorId := ⟨h.nextNumber⟩
    .ok (id, { h with nextNumber := h.nextNumber + 1, anchors := h.anchors ++ [(id, origin)] })

private def addName (loader : LoaderId) (name : String) (e : LoaderId × List String) :
    LoaderId × List String :=
  if e.1 = loader then (e.1, e.2 ++ [name]) else e

def defineNamed (h : Host) (loader : LoaderId) (name : String) (code : Bytes) :
    Except InstallError (EntryPoint × Host) :=
  if code.isEmpty then .error (.rejected name "empty code")
  else
    match h.names? loader with
    | none => .error (.rejected name s!"unknown loader {loader.display}")
    | some names =>
      if name ∈ names then .error (.duplicateUnit loader name)
      else
        .ok (⟨h.nextNumber⟩, { h with
          nextNumber := h.nextNumber + 1, loaders := h.loaders.map (addName loader name) })

private theorem lookup_map_addName (loader : LoaderId) (name : String)
    (es : List (LoaderId × List String)) (other : LoaderId) :
    (es.map (addName loader name)).lookup other =
      if other = loader then (es.lookup other).map (· ++ [name]) else es.lookup other := by
  induction es with
  | nil => simp
  | cons e es ih =>
    obtain ⟨id, names⟩ := e
    by_cases found : other = id
    · subst found
      by_cases mine : other = loader
      · simp [addName, mine]
      · simp [addName, mine]
    · have differs : (other == id) = false := beq_eq_false_iff_ne.mpr found
      have same : (addName loader name (id, names)).1 = id := by
        rw [addName]
        split <;> rfl
      rw [List.map_cons, List.lookup_cons, List.lookup_cons, same, differs]
      exact ih

/-- A new loader has no units. -/
theorem names?_createLoader {h : Host} (unused : h.names? ⟨h.nextNumber⟩ = none)
    (other : LoaderId) : h.createLoader.2.names? other =
      if other = ⟨h.nextNumber⟩ then some [] else h.names? other := by
  simp only [names?, createLoader, List.lookup_append]
  split
  · next same =>
    rw [same, show h.loaders.lookup ⟨h.nextNumber⟩ = none from unused]
    exact List.lookup_cons_self
  · next differ =>
    rw [List.lookup_cons, beq_eq_false_iff_ne.mpr differ, List.lookup_nil, Option.or_none]

/-- What the definition of a unit asks for, and what it changes. -/
theorem defineNamed_eq_ok {h h' : Host} {loader : LoaderId} {name : String} {code : Bytes}
    {entry : EntryPoint} (defined : h.defineNamed loader name code = .ok (entry, h')) :
    code ≠ [] ∧ (∃ names, h.names? loader = some names ∧ name ∉ names) ∧
      h'.nextNumber = h.nextNumber + 1 ∧ ∀ other, h'.names? other =
        if other = loader then (h.names? other).map (· ++ [name]) else h.names? other := by
  rw [defineNamed] at defined
  split at defined
  · cases defined
  · next nonempty =>
    split at defined
    · cases defined
    · next names known =>
      split at defined
      · cases defined
      · next fresh =>
        cases defined
        refine ⟨fun empty => nonempty (List.isEmpty_iff.mpr empty), ⟨names, known, fresh⟩, rfl, ?_⟩
        exact lookup_map_addName loader name h.loaders

/-- A unit that has code can be defined in a loader under a name that is new there. -/
theorem exists_defineNamed {h : Host} {loader : LoaderId} {name : String} {code : Bytes}
    {names : List String} (nonempty : code ≠ []) (known : h.names? loader = some names)
    (fresh : name ∉ names) : ∃ entry h', h.defineNamed loader name code = .ok (entry, h') := by
  rw [defineNamed, if_neg (by simpa using nonempty), known]
  exact ⟨_, _, if_neg fresh⟩

/-- What stands in messages for the name of a unit that has none. -/
def anonymous : String := "<anonymous>"

def defineIsolated (h : Host) (anchor : AnchorId) (code : Bytes) :
    Except InstallError (EntryPoint × Host) :=
  if !h.isolation then .error .isolationUnavailable
  else if (h.anchors.lookup anchor).isNone then
    .error (.rejected anonymous s!"unknown anchor {anchor.display}")
  else if code.isEmpty then .error (.rejected anonymous "empty code")
  else
    .ok (⟨h.nextNumber⟩, { h with
      nextNumber := h.nextNumber + 1, isolatedUnits := h.isolatedUnits + 1 })

end Host

/-- The calls that an installer makes. -/
inductive HostCall where
  | createLoader
  | createAnchor
  | defineNamed
  | defineIsolated
deriving DecidableEq, Inhabited

namespace HostCall

def all : List HostCall := [createLoader, createAnchor, defineNamed, defineIsolated]

def name : HostCall → String
  | .createLoader => "create_loader"
  | .createAnchor => "create_anchor"
  | .defineNamed => "define_named"
  | .defineIsolated => "define_isolated"

end HostCall

/-- A host of which some calls are out of order: they are rejected and never reach it. -/
structure Target where
  host : Host
  /-- Whether isolation is said to be available even if the host has none. -/
  advertisesIsolation : Bool
  failing : List HostCall
deriving DecidableEq, Inhabited

namespace Target

/-- A host with all calls in order. -/
def ofHost (host : Host) : Target := ⟨host, false, []⟩

def isolationAvailable (t : Target) : Bool := t.advertisesIsolation || t.host.isolation

/-- Passes a call on to the host unless it is out of order. -/
def pass {α : Type} (t : Target) (call : HostCall) (result : Except InstallError (α × Host)) :
    Except InstallError (α × Target) :=
  if call ∈ t.failing then .error (.rejected s!"<{call.name}>" "scripted")
  else result.map fun (a, host) => (a, { t with host })

def createLoader (t : Target) : Except InstallError (LoaderId × Target) :=
  t.pass .createLoader (.ok t.host.createLoader)

def createAnchor (t : Target) (origin : String) : Except InstallError (AnchorId × Target) :=
  t.pass .createAnchor (t.host.createAnchor origin)

def defineNamed (t : Target) (loader : LoaderId) (name : String) (code : Bytes) :
    Except InstallError (EntryPoint × Target) :=
  t.pass .defineNamed (t.host.defineNamed loader name code)

def defineIsolated (t : Target) (anchor : AnchorId) (code : Bytes) :
    Except InstallError (EntryPoint × Target) :=
  t.pass .defineIsolated (t.host.defineIsolated anchor code)

end Target
end Scriptorium
