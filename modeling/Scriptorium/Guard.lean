import Scriptorium.Text.Quoted

/-! Guards. Generated code that rests on an assumption checks a guard and leaves the fast path once
the guard is invalid; no guard becomes valid again. Guards are shared, so that a guard is told from
another one with the same name: all guards stand in one table, and a guard is known by its place
there. -/

namespace Scriptorium

structure Guard where
  name : String
  valid : Bool
deriving DecidableEq, Inhabited

def Guard.debug (g : Guard) : String :=
  s!"Guard \x7b name: {Text.quoted g.name}, valid: {g.valid} \x7d"

/-- The place of a guard in its table. -/
structure GuardRef where
  index : Nat
deriving DecidableEq, Inhabited

structure GuardTable where
  guards : List Guard
deriving DecidableEq, Inhabited

namespace GuardTable

def empty : GuardTable := ⟨[]⟩

def get? (t : GuardTable) (r : GuardRef) : Option Guard := t.guards[r.index]?

def isValid (t : GuardTable) (r : GuardRef) : Bool := (t.get? r).any (·.valid)

/-- Adds a valid guard. -/
def create (t : GuardTable) (name : String) : GuardRef × GuardTable :=
  (⟨t.guards.length⟩, ⟨t.guards ++ [⟨name, true⟩]⟩)

/-- Invalidates a guard for good. -/
def invalidate (t : GuardTable) (r : GuardRef) : GuardTable :=
  ⟨t.guards.modify r.index fun g => { g with valid := false }⟩

def invalidateAll (t : GuardTable) (rs : List GuardRef) : GuardTable := rs.foldl invalidate t

theorem isValid_create (t : GuardTable) (name : String) (r : GuardRef) :
    (t.create name).2.isValid r = (t.isValid r || r == (t.create name).1) := by
  cases r with
  | mk i =>
    simp only [isValid, get?, create]
    grind

theorem isValid_invalidate (t : GuardTable) (r s : GuardRef) :
    (t.invalidate r).isValid s = (t.isValid s && s != r) := by
  cases r; cases s
  simp only [isValid, get?, invalidate]
  grind

end GuardTable

/-- The guards that are handed out by name, one for each name. -/
structure GuardRegistry where
  entries : List (String × GuardRef)
deriving DecidableEq, Inhabited

namespace GuardRegistry

def empty : GuardRegistry := ⟨[]⟩

def size (r : GuardRegistry) : Nat := r.entries.length

def isEmpty (r : GuardRegistry) : Bool := r.entries.isEmpty

def get? (r : GuardRegistry) (name : String) : Option GuardRef := r.entries.lookup name

/-- The guard of a name, which is made at the first request. -/
def getOrCreate (r : GuardRegistry) (t : GuardTable) (name : String) :
    GuardRef × GuardRegistry × GuardTable :=
  match r.get? name with
  | some guard => (guard, r, t)
  | none =>
    let (guard, t) := t.create name
    (guard, ⟨r.entries ++ [(name, guard)]⟩, t)

/-- Invalidates the guard of a name, if there is one, and tells whether it was valid. -/
def invalidate (r : GuardRegistry) (t : GuardTable) (name : String) : Bool × GuardTable :=
  match r.get? name with
  | some guard => (t.isValid guard, t.invalidate guard)
  | none => (false, t)

end GuardRegistry
end Scriptorium
