/-! Named slots, each of which holds one value. What a slot holds after a change is said by
`get?_put` and `get?_drop`. -/

namespace Scriptorium

structure Slots (α : Type) where
  entries : List (String × α)

namespace Slots

variable {α : Type}

def empty : Slots α := ⟨[]⟩

instance : EmptyCollection (Slots α) := ⟨empty⟩
instance : Inhabited (Slots α) := ⟨empty⟩

def get? (s : Slots α) (name : String) : Option α := s.entries.lookup name

def drop (s : Slots α) (name : String) : Slots α := ⟨s.entries.filter fun e => e.1 != name⟩

/-- Puts a value into a slot, in place of the one that was there. -/
def put (s : Slots α) (name : String) (a : α) : Slots α := ⟨(name, a) :: (s.drop name).entries⟩

def holds (s : Slots α) (name : String) : Bool := (s.get? name).isSome

def values (s : Slots α) : List α := s.entries.map (·.2)

/-- The names of the slots whose values pass a test, in ascending order. -/
def namesWhere (s : Slots α) (p : α → Bool) : List String :=
  ((s.entries.filter fun e => p e.2).map (·.1)).mergeSort fun a b => a ≤ b

private theorem lookup_filter_ne {name other : String} (es : List (String × α)) :
    (es.filter fun e => e.1 != name).lookup other =
      if other = name then none else es.lookup other := by
  induction es with
  | nil => simp
  | cons e es ih => grind

theorem get?_drop (s : Slots α) (name other : String) :
    (s.drop name).get? other = if other = name then none else s.get? other :=
  lookup_filter_ne s.entries

theorem get?_put (s : Slots α) (name other : String) (a : α) :
    (s.put name a).get? other = if other = name then some a else s.get? other := by
  simp only [get?, put, List.lookup_cons]
  by_cases h : other = name
  · simp [h]
  · have : (other == name) = false := by simpa using h
    simpa [this, h, get?] using get?_drop s name other

end Slots
end Scriptorium
