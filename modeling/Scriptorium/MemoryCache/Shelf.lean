import Scriptorium.MemoryCache
import Scriptorium.Slots

/-! A memory cache for values that are held in slots named like them. Each value put into the cache
is an instance with a number of its own; the slot is all that keeps the instance alive. -/

namespace Scriptorium

namespace Shelf

/-- One instance of a value. -/
structure Instance where
  value : String
  number : Nat
deriving DecidableEq, Inhabited

end Shelf

structure Shelf where
  cache : MemoryCache String Shelf.Instance
  /-- The number of the instance that is held of each value. -/
  slots : Slots Nat
  nextNumber : Nat

namespace Shelf

def new (capacity : Nat) : Except Fault Shelf :=
  (MemoryCache.new capacity).map fun cache => ⟨cache, .empty, 0⟩

def isLive (s : Shelf) (i : Instance) : Bool := s.slots.get? i.value == some i.number

/-- Puts the instance that is held of a value, or else a new one, into the cache. A new instance is
held from then on if `hold` says so. -/
def put (s : Shelf) (key value : String) (hold : Bool) : Shelf :=
  match s.slots.get? value with
  | some number => { s with cache := s.cache.put s.isLive key ⟨value, number⟩ }
  | none =>
    { cache := s.cache.put s.isLive key ⟨value, s.nextNumber⟩
      slots := if hold then s.slots.put value s.nextNumber else s.slots
      nextNumber := s.nextNumber + 1 }

def get? (s : Shelf) (key : String) : Option Instance × Shelf :=
  let (found, cache) := s.cache.get? s.isLive key
  (found, { s with cache })

/-- Lets go of a value. -/
def release (s : Shelf) (value : String) : Shelf := { s with slots := s.slots.drop value }

def releaseAll (s : Shelf) : Shelf := { s with slots := .empty }

/-- Removes dead entries and counts them. -/
def purge (s : Shelf) : Nat × Shelf :=
  (s.cache.deadCount s.isLive, { s with cache := s.cache.purge s.isLive })

def clear (s : Shelf) : Shelf := { s with cache := s.cache.clear }

end Shelf
end Scriptorium
