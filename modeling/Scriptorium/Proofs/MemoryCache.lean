import Mathlib.Data.List.Nodup
import Mathlib.Data.List.Induction
import Scriptorium.MemoryCache

/-! Memory caches forget what was used longest ago. The reference for that keeps its entries in no
order: each has the time of its last use, and when room is needed the oldest one is looked for
(`StampedCache`). The entries of a cache are those of the reference in the order of their times
(`StampedCache.Sorts`), whatever is done to both and whichever values die in between; so both give
the same answers (`MemoryCache.run_stamped`). -/

namespace Scriptorium

namespace MemoryCache

/-- What can be done to a cache. -/
inductive Use (κ ν : Type) where
  | put (key : κ) (value : ν)
  | get (key : κ)
  | purge
  | clear

inductive Answer (ν : Type) where
  | done
  | found (value : Option ν)
  | purged (count : Nat)
deriving DecidableEq

/-- A use, and the values that are alive at that time. -/
abbrev Moment (κ ν : Type) := Use κ ν × (ν → Bool)

end MemoryCache

namespace StampedCache

structure Entry (κ ν : Type) where
  key : κ
  value : ν
  /-- When the value was last put or got. -/
  time : Nat

end StampedCache

structure StampedCache (κ ν : Type) where
  capacity : Nat
  now : Nat
  entries : List (StampedCache.Entry κ ν)

variable {κ ν : Type}

namespace StampedCache

def empty (capacity : Nat) : StampedCache κ ν := ⟨capacity, 0, []⟩

def purge (s : StampedCache κ ν) (live : ν → Bool) : StampedCache κ ν :=
  { s with entries := s.entries.filter fun e => live e.value }

def deadCount (s : StampedCache κ ν) (live : ν → Bool) : Nat :=
  s.entries.countP fun e => !live e.value

def clear (s : StampedCache κ ν) : StampedCache κ ν := { s with entries := [] }

/-- Whether no entry of a list is older. -/
def isOldest (es : List (Entry κ ν)) (e : Entry κ ν) : Bool := es.all fun e' => e.time ≤ e'.time

/-- All entries but the oldest one. -/
def evict (es : List (Entry κ ν)) : List (Entry κ ν) := es.eraseP (isOldest es)

/-- Gives a key a value that is used now, beside the entries that are kept. -/
def stamp (s : StampedCache κ ν) (kept : List (Entry κ ν)) (key : κ) (value : ν) :
    StampedCache κ ν :=
  { s with now := s.now + 1, entries := ⟨key, value, s.now⟩ :: kept }

variable [DecidableEq κ]

def find? (s : StampedCache κ ν) (key : κ) : Option (Entry κ ν) :=
  s.entries.find? fun e => e.key = key

/-- The entries of all other keys. -/
def others (s : StampedCache κ ν) (key : κ) : List (Entry κ ν) :=
  s.entries.filter fun e => e.key ≠ key

/-- The live value of a key. No entry goes but the dead ones. -/
def get? (s : StampedCache κ ν) (live : ν → Bool) (key : κ) : Option ν × StampedCache κ ν :=
  let s := s.purge live
  match s.find? key with
  | none => (none, s)
  | some e => (some e.value, s.stamp (s.others key) key e.value)

/-- Dead entries go and the key's own one. If there are as many others as the capacity, the oldest
of them goes as well. -/
def put (s : StampedCache κ ν) (live : ν → Bool) (key : κ) (value : ν) : StampedCache κ ν :=
  let s := s.purge live
  let others := s.others key
  s.stamp (if others.length < s.capacity then others else evict others) key value

def use (s : StampedCache κ ν) (live : ν → Bool) :
    MemoryCache.Use κ ν → MemoryCache.Answer ν × StampedCache κ ν
  | .put key value => (.done, s.put live key value)
  | .get key => (.found (s.get? live key).1, (s.get? live key).2)
  | .purge => (.purged (s.deadCount live), s.purge live)
  | .clear => (.done, s.clear)

/-- The answers to all uses, and the cache after them. -/
def run (s : StampedCache κ ν) (us : List (MemoryCache.Moment κ ν)) :
    List (MemoryCache.Answer ν) × StampedCache κ ν :=
  us.foldl (fun (as, s) (u, live) => (as ++ [(s.use live u).1], (s.use live u).2)) ([], s)

end StampedCache

namespace MemoryCache

variable [DecidableEq κ]

def use (m : MemoryCache κ ν) (live : ν → Bool) : Use κ ν → Answer ν × MemoryCache κ ν
  | .put key value => (.done, m.put live key value)
  | .get key => (.found (m.get? live key).1, (m.get? live key).2)
  | .purge => (.purged (m.deadCount live), m.purge live)
  | .clear => (.done, m.clear)

/-- The answers to all uses, and the cache after them. -/
def run (m : MemoryCache κ ν) (us : List (Moment κ ν)) : List (Answer ν) × MemoryCache κ ν :=
  us.foldl (fun (as, m) (u, live) => (as ++ [(m.use live u).1], (m.use live u).2)) ([], m)

def Use.valueFor? (key : κ) : Use κ ν → Option ν
  | .put key' value => if key' = key then some value else none
  | _ => none

/-- The value that was last put under a key. -/
def latestPut (us : List (Moment κ ν)) (key : κ) : Option ν :=
  us.reverse.findSome? fun u => u.1.valueFor? key

end MemoryCache

/-! ### The entries of the reference in order -/

namespace StampedCache

variable {s : StampedCache κ ν} {m : MemoryCache κ ν} {es : List (Entry κ ν)} {live : ν → Bool}
  {key : κ} {value : ν}

/-- The entries are those of the reference and of the cache, the oldest first. -/
structure Lists (s : StampedCache κ ν) (m : MemoryCache κ ν) (es : List (Entry κ ν)) : Prop where
  perm : es.Perm s.entries
  aging : es.Pairwise (·.time < ·.time)
  entries : m.entries = es.map fun e => (e.key, e.value)

/-- The cache has the entries of the reference, sorted by time. -/
structure Sorts (s : StampedCache κ ν) (m : MemoryCache κ ν) : Prop where
  capacity : s.capacity = m.capacity
  past : ∀ e ∈ s.entries, e.time < s.now
  lists : ∃ es, s.Lists m es

theorem sorts_empty (capacity : Nat) (positive : 0 < capacity) :
    (empty capacity : StampedCache κ ν).Sorts (.empty capacity positive) :=
  ⟨rfl, fun _ mem => absurd mem List.not_mem_nil, [], .refl _, .nil, rfl⟩

theorem Lists.distinct (h : s.Lists m es) : (es.map (·.key)).Nodup := by
  have distinct := m.distinct
  rwa [h.entries, List.map_map] at distinct

theorem Lists.length_le (h : s.Lists m es) : es.length ≤ m.capacity := by
  have bounded := m.bounded
  rwa [h.entries, List.length_map] at bounded

/-- Entries with the same key are the same. -/
theorem Lists.eq_of_key {e e' : Entry κ ν} (h : s.Lists m es) (mem : e ∈ es) (mem' : e' ∈ es)
    (same : e.key = e'.key) : e = e' :=
  List.inj_on_of_nodup_map h.distinct mem mem' same

/-! ### Entries that die -/

theorem Sorts.purge (h : s.Sorts m) (live : ν → Bool) : (s.purge live).Sorts (m.purge live) := by
  obtain ⟨es, lists⟩ := h.lists
  refine ⟨h.capacity, fun e mem => h.past e (List.mem_filter.mp mem).1,
    es.filter fun e => live e.value, lists.perm.filter _, lists.aging.filter _, ?_⟩
  rw [MemoryCache.entries_purge, lists.entries, List.filter_map]
  rfl

theorem Sorts.deadCount_eq (h : s.Sorts m) (live : ν → Bool) :
    m.deadCount live = s.deadCount live := by
  obtain ⟨es, lists⟩ := h.lists
  rw [MemoryCache.deadCount, StampedCache.deadCount, lists.entries, List.countP_map,
    ← lists.perm.countP_eq]
  rfl

theorem Sorts.clear (h : s.Sorts m) : s.clear.Sorts m.clear :=
  ⟨h.capacity, fun _ mem => absurd mem List.not_mem_nil, [], .refl _, .nil, rfl⟩

/-! ### Entries that are used -/

/-- Where one entry is older than all others, it is the one that is evicted. -/
theorem evict_perm {all rest : List (Entry κ ν)} {e : Entry κ ν} (perm : (e :: rest).Perm all)
    (oldest : ∀ e' ∈ rest, e.time < e'.time) : rest.Perm (evict all) := by
  have isOldest_iff : ∀ x, isOldest all x ↔ ∀ e' ∈ e :: rest, x.time ≤ e'.time := by
    intro x
    simp [isOldest, ← perm.mem_iff]
  have first : isOldest all e := by
    refine (isOldest_iff e).mpr (List.forall_mem_cons.mpr ⟨Nat.le_refl _, fun e' mem => ?_⟩)
    exact Nat.le_of_lt (oldest e' mem)
  have only : ∀ x ∈ rest, ¬ isOldest all x := by
    intro x mem isFirst
    have le := (isOldest_iff x).mp isFirst e List.mem_cons_self
    exact absurd (oldest x mem) (Nat.not_lt.mpr le)
  have unique : (e :: rest).Pairwise fun x y => isOldest all x → isOldest all y → False := by
    refine List.pairwise_cons.mpr ⟨fun y mem _ isFirst => only y mem isFirst, ?_⟩
    exact List.Pairwise.imp_of_mem (fun mem _ _ isFirst _ => only _ mem isFirst)
      (List.pairwise_of_forall fun _ _ => trivial)
  have erased := perm.eraseP (isOldest all) unique
  rwa [List.eraseP_cons_of_pos first] at erased

variable [DecidableEq κ]

private theorem mem_of_find?_key {e : Entry κ ν} (h : (es.find? fun e => e.key = key) = some e) :
    e ∈ es ∧ e.key = key :=
  ⟨List.mem_of_find?_eq_some h, by simpa using List.find?_some h⟩

/-- A key has at most one entry, so it does not matter in which order entries are searched. -/
theorem Lists.find?_eq (h : s.Lists m es) (key : κ) :
    s.find? key = es.find? fun e => e.key = key := by
  rw [find?]
  cases found : s.entries.find? fun e => e.key = key with
  | none =>
    symm
    rw [List.find?_eq_none] at found ⊢
    exact fun e mem => found e (h.perm.mem_iff.mp mem)
  | some e =>
    obtain ⟨mem, mine⟩ := mem_of_find?_key found
    cases found' : es.find? fun e => e.key = key with
    | none =>
      have missing := List.find?_eq_none.mp found' e (h.perm.mem_iff.mpr mem)
      exact absurd (decide_eq_true mine) missing
    | some e' =>
      obtain ⟨mem', mine'⟩ := mem_of_find?_key found'
      rw [h.eq_of_key (h.perm.mem_iff.mpr mem) mem' (mine.trans mine'.symm)]

theorem Lists.lookup_eq (h : s.Lists m es) (key : κ) :
    m.entries.lookup key = (s.find? key).map (·.value) := by
  rw [h.find?_eq, h.entries]
  clear h
  induction es with
  | nil => rfl
  | cons e es ih =>
    rw [List.map_cons, List.lookup_cons, List.find?_cons]
    by_cases mine : e.key = key
    · simp [mine]
    · have differs : (key == e.key) = false := beq_eq_false_iff_ne.mpr (Ne.symm mine)
      simpa [mine, differs] using ih

/-- A key that has an entry leaves room for one. -/
theorem Sorts.room {e : Entry κ ν} (h : s.Sorts m) (found : s.find? key = some e) :
    (s.others key).length < s.capacity := by
  obtain ⟨es, lists⟩ := h.lists
  obtain ⟨mem, mine⟩ := mem_of_find?_key found
  have fewer : (s.others key).length < s.entries.length :=
    List.length_filter_lt_length_iff_exists.mpr ⟨e, mem, by simpa using mine⟩
  have bounded := lists.length_le
  rw [lists.perm.length_eq, ← h.capacity] at bounded
  exact Nat.lt_of_lt_of_le fewer bounded

/-- What becomes of the other entries when a value is entered in a cache: none of them goes if there
is room, or else the oldest one does. -/
theorem Sorts.displaces (h : s.Sorts m) (key : κ) (value : ν) :
    ∃ gone kept : List (Entry κ ν), (gone ++ kept).Perm (s.others key) ∧
      (gone ++ kept).Pairwise (·.time < ·.time) ∧
      (m.enter key value).entries = kept.map (fun e => (e.key, e.value)) ++ [(key, value)] ∧
      if (s.others key).length < s.capacity then gone = [] else ∃ oldest, gone = [oldest] := by
  obtain ⟨es, lists⟩ := h.lists
  let rest := es.filter fun e => e.key ≠ key
  have sublist : rest.Sublist es := List.filter_sublist
  have perm : rest.Perm (s.others key) := lists.perm.filter _
  have others : (m.entries.filter fun e => e.1 ≠ key) = rest.map fun e => (e.key, e.value) := by
    rw [lists.entries, List.filter_map]
    rfl
  have bounded := Nat.le_trans sublist.length_le lists.length_le
  have positive := m.positive
  refine ⟨rest.take (rest.length + 1 - m.capacity), rest.drop (rest.length + 1 - m.capacity),
    ?_, ?_, ?_, ?_⟩
  · rwa [List.take_append_drop]
  · rw [List.take_append_drop]
    exact lists.aging.sublist sublist
  · rw [MemoryCache.entries_enter, others, List.length_map, List.map_drop]
  · rw [← perm.length_eq, h.capacity]
    split
    · next room => rw [Nat.sub_eq_zero_of_le room, List.take_zero]
    · next full =>
      have one : (rest.take (rest.length + 1 - m.capacity)).length = 1 := by
        rw [List.length_take]
        omega
      exact List.length_eq_one_iff.mp one

/-- A value that is used becomes the last entry, and the others stay in their order. -/
theorem Sorts.enter (h : s.Sorts m) (key : κ) (value : ν) :
    (s.stamp (if (s.others key).length < s.capacity then s.others key else evict (s.others key))
      key value).Sorts (m.enter key value) := by
  obtain ⟨gone, kept, perm, aging, entries, displaced⟩ := h.displaces key value
  have earlier : ∀ e ∈ kept, e.time < s.now := fun e mem =>
    h.past e (List.mem_filter.mp (perm.mem_iff.mp (List.mem_append_right gone mem))).1
  have same : kept.Perm
      (if (s.others key).length < s.capacity then s.others key else evict (s.others key)) := by
    split at displaced
    · next room => rwa [if_pos room, ← List.nil_append kept, ← displaced]
    · next full =>
      obtain ⟨oldest, rfl⟩ := displaced
      rw [if_neg full]
      exact evict_perm perm (List.pairwise_cons.mp aging).1
  refine ⟨h.capacity, List.forall_mem_cons.mpr ⟨Nat.lt_succ_self _, fun e mem => ?_⟩,
    kept ++ [⟨key, value, s.now⟩], ?_, ?_, ?_⟩
  · exact Nat.lt_succ_of_lt (earlier e (same.mem_iff.mpr mem))
  · exact (List.perm_append_singleton _ kept).trans (same.cons _)
  · refine List.pairwise_append.mpr ⟨(List.pairwise_append.mp aging).2.1,
      List.pairwise_singleton _ _, ?_⟩
    intro e mem e' mem'
    rw [List.mem_singleton.mp mem']
    exact earlier e mem
  · rw [entries, List.map_append]
    rfl

theorem Sorts.put (h : s.Sorts m) (live : ν → Bool) (key : κ) (value : ν) :
    (s.put live key value).Sorts (m.put live key value) := (h.purge live).enter key value

theorem Sorts.get? (h : s.Sorts m) (live : ν → Bool) (key : κ) :
    (m.get? live key).1 = (s.get? live key).1 ∧ (s.get? live key).2.Sorts (m.get? live key).2 := by
  have purged := h.purge live
  obtain ⟨es, lists⟩ := purged.lists
  have looked := lists.lookup_eq key
  simp only [MemoryCache.get?, StampedCache.get?, looked]
  cases found : (s.purge live).find? key with
  | none => exact ⟨rfl, purged⟩
  | some e =>
    have entered := purged.enter key e.value
    rw [if_pos (purged.room found)] at entered
    exact ⟨rfl, entered⟩

/-- Whatever is done to both, the answers are the same, and the cache stays sorted. -/
theorem Sorts.use (h : s.Sorts m) (live : ν → Bool) (u : MemoryCache.Use κ ν) :
    (m.use live u).1 = (s.use live u).1 ∧ (s.use live u).2.Sorts (m.use live u).2 := by
  cases u with
  | put key value => exact ⟨rfl, h.put live key value⟩
  | get key => exact ⟨congrArg _ (h.get? live key).1, (h.get? live key).2⟩
  | purge => exact ⟨congrArg _ (h.deadCount_eq live), h.purge live⟩
  | clear => exact ⟨rfl, h.clear⟩

/-! ### Values in the reference -/

/-- Every entry has the value that was last put under its key. -/
def Recalls (s : StampedCache κ ν) (us : List (MemoryCache.Moment κ ν)) : Prop :=
  ∀ e ∈ s.entries, MemoryCache.latestPut us e.key = some e.value

theorem latestPut_concat (us : List (MemoryCache.Moment κ ν)) (u : MemoryCache.Use κ ν)
    (live : ν → Bool) (key : κ) : MemoryCache.latestPut (us ++ [(u, live)]) key =
      (u.valueFor? key).or (MemoryCache.latestPut us key) := by
  rw [MemoryCache.latestPut, List.reverse_append, List.reverse_singleton, List.singleton_append,
    List.findSome?_cons]
  cases u.valueFor? key <;> rfl

theorem mem_of_mem_others {e : Entry κ ν} (h : e ∈ (s.purge live).others key) :
    e ∈ s.entries ∧ e.key ≠ key := by
  obtain ⟨mem, other⟩ := List.mem_filter.mp h
  exact ⟨(List.mem_filter.mp mem).1, of_decide_eq_true other⟩

theorem Recalls.use {us : List (MemoryCache.Moment κ ν)} (h : s.Recalls us) (live : ν → Bool)
    (u : MemoryCache.Use κ ν) : (s.use live u).2.Recalls (us ++ [(u, live)]) := by
  intro e mem
  rw [latestPut_concat]
  cases u with
  | put key value =>
    rcases List.mem_cons.mp mem with rfl | mem
    · simp [MemoryCache.Use.valueFor?]
    · have kept : e ∈ (s.purge live).others key := by
        split at mem
        · exact mem
        · exact List.mem_of_mem_eraseP mem
      obtain ⟨before, other⟩ := mem_of_mem_others kept
      simpa [MemoryCache.Use.valueFor?, Ne.symm other] using h e before
  | get key =>
    have before : ∃ e' ∈ s.entries, e'.key = e.key ∧ e'.value = e.value := by
      simp only [StampedCache.use, StampedCache.get?] at mem
      split at mem
      · exact ⟨e, (List.mem_filter.mp mem).1, rfl, rfl⟩
      · next e' found =>
        obtain ⟨mem', mine⟩ := mem_of_find?_key found
        rcases List.mem_cons.mp mem with rfl | mem
        · exact ⟨e', (List.mem_filter.mp mem').1, mine, rfl⟩
        · exact ⟨e, (mem_of_mem_others mem).1, rfl, rfl⟩
    obtain ⟨e', mem', key', value'⟩ := before
    rw [← key', ← value']
    exact h e' mem'
  | purge => exact h e (List.mem_filter.mp mem).1
  | clear => cases mem

theorem Recalls.get?_eq_some {us : List (MemoryCache.Moment κ ν)} (h : s.Recalls us) :
    (s.get? live key).1 = some value ↔
      live value ∧ MemoryCache.latestPut us key = some value ∧ key ∈ s.entries.map (·.key) := by
  have recalled : ∀ e, (s.purge live).find? key = some e →
      e ∈ s.entries ∧ e.key = key ∧ live e.value ∧ MemoryCache.latestPut us key = some e.value := by
    intro e found
    obtain ⟨mem, rfl⟩ := mem_of_find?_key found
    obtain ⟨before, alive⟩ := List.mem_filter.mp mem
    exact ⟨before, rfl, alive, h e before⟩
  have got : (s.get? live key).1 = ((s.purge live).find? key).map (·.value) := by
    rw [StampedCache.get?]
    cases (s.purge live).find? key <;> rfl
  rw [got, Option.map_eq_some_iff]
  constructor
  · rintro ⟨e, found, rfl⟩
    obtain ⟨mem, rfl, alive, latest⟩ := recalled e found
    exact ⟨alive, latest, List.mem_map_of_mem mem⟩
  · rintro ⟨alive, latest, present⟩
    obtain ⟨e, mem, rfl⟩ := List.mem_map.mp present
    cases (h e mem).symm.trans latest
    cases found : (s.purge live).find? e.key with
    | none =>
      have kept : e ∈ (s.purge live).entries := List.mem_filter.mpr ⟨mem, alive⟩
      exact absurd (decide_eq_true rfl) (List.find?_eq_none.mp found e kept)
    | some e' =>
      obtain ⟨-, -, -, latest'⟩ := recalled e' found
      exact ⟨e', rfl, Option.some.inj (latest'.symm.trans latest)⟩

theorem capacity_use (s : StampedCache κ ν) (live : ν → Bool) (u : MemoryCache.Use κ ν) :
    (s.use live u).2.capacity = s.capacity := by
  cases u with
  | get key =>
    simp only [StampedCache.use, StampedCache.get?]
    split <;> rfl
  | _ => rfl

end StampedCache

/-! ### All uses -/

namespace MemoryCache

variable [DecidableEq κ] {m : MemoryCache κ ν} {s : StampedCache κ ν} {us : List (Moment κ ν)}

/-- What a cache is after some uses, told by the reference after the same uses. A purge removes the
dead entries and nothing else. A value is got exactly if it is alive, was put last under its key,
and has an entry still. A put keeps the live entries of all other keys, but for the oldest one if
there are as many as the capacity. -/
structure Mirrors (m : MemoryCache κ ν) (s : StampedCache κ ν) (us : List (Moment κ ν)) :
    Prop where
  sorts : s.Sorts m
  distinct : (m.entries.map (·.1)).Nodup
  bounded : m.size ≤ s.capacity
  purge : ∀ live, (m.purge live).size + s.deadCount live = m.size
  get? : ∀ live key value, (m.get? live key).1 = some value ↔
    live value ∧ latestPut us key = some value ∧ key ∈ s.entries.map (·.key)
  put : ∀ live key value, ∃ gone kept : List (StampedCache.Entry κ ν),
    (gone ++ kept).Perm ((s.purge live).others key) ∧
      (m.put live key value).entries = kept.map (fun e => (e.key, e.value)) ++ [(key, value)] ∧
      if ((s.purge live).others key).length < s.capacity then gone = []
      else ∃ oldest, gone = [oldest] ∧ ∀ e ∈ kept, oldest.time < e.time

theorem mirrors_of_sorts (sorts : s.Sorts m) (recalls : s.Recalls us) : m.Mirrors s us := by
  refine ⟨sorts, m.distinct, sorts.capacity ▸ m.bounded, fun live => ?_, fun live key value => ?_,
    fun live key value => ?_⟩
  · rw [← sorts.deadCount_eq]
    exact m.size_purge live
  · rw [(sorts.get? live key).1]
    exact recalls.get?_eq_some
  · obtain ⟨gone, kept, perm, aging, entries, displaced⟩ :=
      (sorts.purge live).displaces key value
    refine ⟨gone, kept, perm, entries, ?_⟩
    change if ((s.purge live).others key).length < s.capacity then _ else _ at displaced
    split at displaced
    · next room => rwa [if_pos room]
    · next full =>
      obtain ⟨oldest, rfl⟩ := displaced
      rw [if_neg full]
      exact ⟨oldest, rfl, (List.pairwise_cons.mp aging).1⟩

theorem run_concat (m : MemoryCache κ ν) (us : List (Moment κ ν)) (u : Moment κ ν) :
    m.run (us ++ [u]) =
      ((m.run us).1 ++ [((m.run us).2.use u.2 u.1).1], ((m.run us).2.use u.2 u.1).2) := by
  rw [run, List.foldl_append]
  rfl

end MemoryCache

theorem StampedCache.run_concat [DecidableEq κ] (s : StampedCache κ ν)
    (us : List (MemoryCache.Moment κ ν)) (u : MemoryCache.Moment κ ν) :
    s.run (us ++ [u]) =
      ((s.run us).1 ++ [((s.run us).2.use u.2 u.1).1], ((s.run us).2.use u.2 u.1).2) := by
  rw [run, List.foldl_append]
  rfl

namespace MemoryCache

variable [DecidableEq κ]

theorem run_recalls {capacity : Nat} (positive : 0 < capacity) (us : List (Moment κ ν)) :
    let cached := (empty capacity positive : MemoryCache κ ν).run us
    let stamped := (StampedCache.empty capacity : StampedCache κ ν).run us
    cached.1 = stamped.1 ∧ stamped.2.Sorts cached.2 ∧ stamped.2.Recalls us ∧
      stamped.2.capacity = capacity := by
  induction us using List.reverseRecOn with
  | nil =>
    exact ⟨rfl, StampedCache.sorts_empty capacity positive,
      fun _ mem => absurd mem List.not_mem_nil, rfl⟩
  | append_singleton us u ih =>
    obtain ⟨answers, sorts, recalls, same⟩ := ih
    obtain ⟨answer, sorts'⟩ := sorts.use u.2 u.1
    simp only [run_concat, StampedCache.run_concat]
    exact ⟨by rw [answers, answer], sorts', recalls.use u.2 u.1,
      (StampedCache.capacity_use _ u.2 u.1).trans same⟩

/-- A cache does what the reference does, whatever its capacity, its uses, and the values that die
from one use to the next. -/
theorem run_stamped {capacity : Nat} (positive : 0 < capacity) (us : List (Moment κ ν)) :
    let cached := (empty capacity positive : MemoryCache κ ν).run us
    let stamped := (StampedCache.empty capacity : StampedCache κ ν).run us
    cached.1 = stamped.1 ∧ cached.2.Mirrors stamped.2 us ∧ stamped.2.capacity = capacity := by
  obtain ⟨answers, sorts, recalls, same⟩ := run_recalls positive us
  exact ⟨answers, mirrors_of_sorts sorts recalls, same⟩

/-- A full cache in which the oldest value has died: the next put evicts none of the others, the one
after that evicts the value that was not got. -/
theorem run_stamped_full :
    let us : List (Moment String Nat) :=
      [(.put "a" 1, fun _ => true), (.put "b" 2, fun _ => true), (.put "c" 3, (· ≠ 1)),
        (.get "b", (· ≠ 1)), (.put "d" 4, (· ≠ 1)), (.get "c", (· ≠ 1)), (.get "b", (· ≠ 1))]
    let cached := (empty 2 (by decide) : MemoryCache String Nat).run us
    let stamped := (StampedCache.empty 2 : StampedCache String Nat).run us
    cached.1 = stamped.1 ∧ cached.2.Mirrors stamped.2 us ∧ stamped.2.capacity = 2 ∧
      cached.1 = [.done, .done, .done, .found (some 2), .done, .found none, .found (some 2)] ∧
        cached.2.entries = [("d", 4), ("b", 2)] := by
  intro us
  obtain ⟨answers, mirrors, capacity⟩ := run_stamped (by decide : 0 < 2) us
  exact ⟨answers, mirrors, capacity, by decide, by decide⟩

end MemoryCache
end Scriptorium
