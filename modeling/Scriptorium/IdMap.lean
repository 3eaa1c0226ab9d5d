/-! Finite maps from 32-bit ids, kept as the list of their entries in ascending order of the id, so
that equal maps are equal lists. They are built from a list in which a later entry replaces an
earlier one with its id; the entries of a map give the map back (`IdMap.ofList_entries`). -/

namespace Scriptorium

structure IdMap (α : Type) where
  entries : List (UInt32 × α)
  ascending : entries.Pairwise (·.1 < ·.1)

namespace IdMap

variable {α : Type}

def empty : IdMap α := ⟨[], .nil⟩

instance : EmptyCollection (IdMap α) := ⟨empty⟩
instance : Inhabited (IdMap α) := ⟨empty⟩

theorem eq_of_entries {m n : IdMap α} (h : m.entries = n.entries) : m = n := by
  cases m; cases n; cases h; rfl

instance [DecidableEq α] : DecidableEq (IdMap α) := fun m n =>
  decidable_of_iff (m.entries = n.entries) ⟨eq_of_entries, fun h => h ▸ rfl⟩

/-- Enters a value into a descending list, in place of the one that had its id. -/
private def place (id : UInt32) (a : α) : List (UInt32 × α) → List (UInt32 × α)
  | [] => [(id, a)]
  | e :: rest =>
    if e.1 < id then (id, a) :: e :: rest
    else if id < e.1 then e :: place id a rest
    else (id, a) :: rest

private theorem mem_place {id : UInt32} {a : α} {es : List (UInt32 × α)} {e : UInt32 × α}
    (h : e ∈ place id a es) : e = (id, a) ∨ e ∈ es := by
  induction es with
  | nil => simpa [place] using h
  | cons x rest ih =>
    simp only [place] at h
    split at h
    · simpa using h
    · split at h
      · rcases List.mem_cons.mp h with h | h
        · exact .inr (h ▸ List.mem_cons_self)
        · exact (ih h).imp_right (List.mem_cons_of_mem _)
      · rcases List.mem_cons.mp h with h | h
        · exact .inl h
        · exact .inr (List.mem_cons_of_mem _ h)

private theorem place_descending {id : UInt32} {a : α} {es : List (UInt32 × α)}
    (h : es.Pairwise (·.1 > ·.1)) : (place id a es).Pairwise (·.1 > ·.1) := by
  induction es with
  | nil => simp [place]
  | cons x rest ih =>
    obtain ⟨hx, hrest⟩ := List.pairwise_cons.mp h
    simp only [place]
    split
    · next lt =>
      refine List.pairwise_cons.mpr ⟨fun e he => ?_, h⟩
      rcases List.mem_cons.mp he with rfl | he
      · exact lt
      · exact UInt32.lt_trans (hx e he) lt
    · next nlt =>
      split
      · next gt =>
        refine List.pairwise_cons.mpr ⟨fun e he => ?_, ih hrest⟩
        rcases mem_place he with rfl | he
        · exact gt
        · exact hx e he
      · next ngt =>
        have same : x.1 = id := UInt32.le_antisymm (UInt32.not_lt.mp ngt) (UInt32.not_lt.mp nlt)
        exact List.pairwise_cons.mpr ⟨fun e he => by simpa [← same] using hx e he, hrest⟩

private theorem place_above {id : UInt32} {a : α} {es : List (UInt32 × α)}
    (h : ∀ e ∈ es, e.1 < id) : place id a es = (id, a) :: es := by
  cases es with
  | nil => rfl
  | cons x rest => simp only [place, if_pos (h x List.mem_cons_self)]

/-- Enters the entries of a list into a descending one, one after another. -/
private def placeAll (placed es : List (UInt32 × α)) : List (UInt32 × α) :=
  es.foldl (fun placed e => place e.1 e.2 placed) placed

private theorem placeAll_descending {es placed : List (UInt32 × α)}
    (h : placed.Pairwise (·.1 > ·.1)) : (placeAll placed es).Pairwise (·.1 > ·.1) := by
  induction es generalizing placed with
  | nil => exact h
  | cons e rest ih => exact ih (place_descending h)

/-- The map of the entries of a list. Of several entries with one id the last one counts. -/
def ofList (es : List (UInt32 × α)) : IdMap α :=
  ⟨(placeAll [] es).reverse, List.pairwise_reverse.mpr (placeAll_descending .nil)⟩

private theorem mem_placeAll {es placed : List (UInt32 × α)} {e : UInt32 × α}
    (h : e ∈ placeAll placed es) : e ∈ es ∨ e ∈ placed := by
  induction es generalizing placed with
  | nil => exact .inr h
  | cons x rest ih =>
    rcases ih h with mem | mem
    · exact .inl (List.mem_cons_of_mem x mem)
    · rcases mem_place mem with rfl | mem
      · exact .inl List.mem_cons_self
      · exact .inr mem

theorem mem_of_mem_ofList {es : List (UInt32 × α)} {e : UInt32 × α}
    (h : e ∈ (ofList es).entries) : e ∈ es :=
  (mem_placeAll (List.mem_reverse.mp h)).resolve_right List.not_mem_nil

def get? (m : IdMap α) (id : UInt32) : Option α := m.entries.lookup id

def isEmpty (m : IdMap α) : Bool := m.entries.isEmpty

def size (m : IdMap α) : Nat := m.entries.length

private theorem placeAll_ascending {es placed : List (UInt32 × α)}
    (h : (placed.reverse ++ es).Pairwise (·.1 < ·.1)) :
    placeAll placed es = es.reverse ++ placed := by
  induction es generalizing placed with
  | nil => rfl
  | cons e rest ih =>
    have below : ∀ x ∈ placed, x.1 < e.1 := fun x hx =>
      (List.pairwise_append.mp h).2.2 x (List.mem_reverse.mpr hx) e List.mem_cons_self
    have step : placeAll placed (e :: rest) = placeAll (e :: placed) rest := by
      rw [placeAll, List.foldl_cons, place_above below, placeAll]
    rw [step, ih (by simpa using h)]
    simp

theorem ofList_entries (m : IdMap α) : ofList m.entries = m := by
  have placed : placeAll [] m.entries = m.entries.reverse ++ [] :=
    placeAll_ascending (by simpa using m.ascending)
  exact eq_of_entries (by simp [ofList, placed])

end IdMap
end Scriptorium
