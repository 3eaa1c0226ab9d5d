import Scriptorium.Fault

/-! A bounded cache that holds its values weakly: it never keeps a value alive. Which values are
still alive is known to the caller and handed in as `live`. Dead entries stay until the next access
purges them, and they never answer one. Entries stand in the order of their last use, the oldest
first; a new entry takes the place of the oldest one when the cache is full. -/

namespace Scriptorium

structure MemoryCache (κ ν : Type) where
  capacity : Nat
  /-- The entry that was used longest ago comes first. -/
  entries : List (κ × ν)
  positive : 0 < capacity
  distinct : (entries.map (·.1)).Nodup
  bounded : entries.length ≤ capacity

namespace MemoryCache

variable {κ ν : Type}

def empty (capacity : Nat) (positive : 0 < capacity) : MemoryCache κ ν :=
  ⟨capacity, [], positive, .nil, Nat.zero_le _⟩

/-- The largest capacity that room can be asked for. Keys are found by a table whose places are a
power of two in number and filled to seven eighths at most. At eight octets a place, half of the
memory that 64 bits address has fewer than `2 ^ 60` places. -/
def capacityLimit : Nat := 504403158264495552

/-- Makes a cache; the room for all its entries is asked for at once. -/
def new (capacity : Nat) : Except Fault (MemoryCache κ ν) :=
  if positive : 0 < capacity then
    if capacity ≤ capacityLimit then .ok (.empty capacity positive) else .error .tableOverflow
  else .error .zeroCapacity

def size (c : MemoryCache κ ν) : Nat := c.entries.length

def isEmpty (c : MemoryCache κ ν) : Bool := c.entries.isEmpty

def clear (c : MemoryCache κ ν) : MemoryCache κ ν := .empty c.capacity c.positive

/-- Keeps the entries that pass a test. -/
def restrict (c : MemoryCache κ ν) (p : κ × ν → Bool) : MemoryCache κ ν where
  capacity := c.capacity
  entries := c.entries.filter p
  positive := c.positive
  distinct := c.distinct.sublist (List.filter_sublist.map _)
  bounded := Nat.le_trans (List.length_filter_le _ _) c.bounded

/-- Removes the entries whose values have died. -/
def purge (c : MemoryCache κ ν) (live : ν → Bool) : MemoryCache κ ν := c.restrict fun e => live e.2

/-- The number of entries that a purge would remove. -/
def deadCount (c : MemoryCache κ ν) (live : ν → Bool) : Nat := c.entries.countP fun e => !live e.2

@[simp] theorem entries_purge (c : MemoryCache κ ν) (live : ν → Bool) :
    (c.purge live).entries = c.entries.filter fun e => live e.2 := rfl

@[simp] theorem capacity_purge (c : MemoryCache κ ν) (live : ν → Bool) :
    (c.purge live).capacity = c.capacity := rfl

theorem size_purge (c : MemoryCache κ ν) (live : ν → Bool) :
    (c.purge live).size + c.deadCount live = c.size := by
  simp only [size, deadCount, entries_purge]
  induction c.entries with
  | nil => rfl
  | cons e es ih => simp only [List.filter_cons, List.countP_cons]; grind

variable [DecidableEq κ]

/-- Whether the key has an entry, be it dead or alive. -/
def contains (c : MemoryCache κ ν) (key : κ) : Bool := c.entries.any fun e => e.1 = key

/-- Makes a value the most recent entry. The key's former entry goes, and if the cache is still
full, so does the oldest one. -/
def enter (c : MemoryCache κ ν) (key : κ) (value : ν) : MemoryCache κ ν where
  capacity := c.capacity
  entries :=
    let others := c.entries.filter fun e => e.1 ≠ key
    others.drop (others.length + 1 - c.capacity) ++ [(key, value)]
  positive := c.positive
  distinct := by
    have others := c.distinct.sublist
      ((List.filter_sublist : c.entries.filter (fun e => decide (e.1 ≠ key)) |>.Sublist _).map
        (·.1))
    rw [List.map_append]
    refine List.nodup_append.mpr ⟨others.sublist ((List.drop_sublist _ _).map _), by simp, ?_⟩
    intro k hk k' hk' h
    obtain ⟨e, he, rfl⟩ := List.mem_map.mp hk
    have := (List.mem_filter.mp (List.mem_of_mem_drop he)).2
    simp_all
  bounded := by
    have := c.positive
    simp only [List.length_append, List.length_drop, List.length_singleton]
    omega

@[simp] theorem entries_enter (c : MemoryCache κ ν) (key : κ) (value : ν) :
    (c.enter key value).entries =
      (c.entries.filter fun e => e.1 ≠ key).drop
        ((c.entries.filter fun e => e.1 ≠ key).length + 1 - c.capacity) ++ [(key, value)] := rfl

/-- The live value of a key, which becomes the most recent entry. -/
def get? (c : MemoryCache κ ν) (live : ν → Bool) (key : κ) : Option ν × MemoryCache κ ν :=
  let c := c.purge live
  match c.entries.lookup key with
  | none => (none, c)
  | some value => (some value, c.enter key value)

def put (c : MemoryCache κ ν) (live : ν → Bool) (key : κ) (value : ν) : MemoryCache κ ν :=
  (c.purge live).enter key value

end MemoryCache
end Scriptorium
