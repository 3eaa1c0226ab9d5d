import Mathlib.Data.Finset.Card
import Mathlib.Data.Finset.Dedup
import Scriptorium.Proofs.Context.History

/-! An artifact that is held is found again as long as fewer others were delivered since than memory
has room for (`Context.History.found_again`). What carries the proof is that all entries behind that
of the artifact have keys of sources that were compiled since (`MemoryCache.Retains`): memory evicts
from the front, so it would have to fill up with those first. -/

namespace Scriptorium

namespace MemoryCache

variable {κ ν : Type} {m : MemoryCache κ ν} {live : ν → Bool} {key other : κ} {value value' : ν}
  {keys keys' : Finset κ}

/-- The value has an entry, and what was used after it has some of the keys. -/
def Retains (m : MemoryCache κ ν) (key : κ) (value : ν) (keys : Finset κ) : Prop :=
  ∃ older newer, m.entries = older ++ (key, value) :: newer ∧ ∀ e ∈ newer, e.1 ∈ keys

theorem Retains.mono (h : m.Retains key value keys) (subset : keys ⊆ keys') :
    m.Retains key value keys' := by
  obtain ⟨older, newer, entries, recent⟩ := h
  exact ⟨older, newer, entries, fun e mem => subset (recent e mem)⟩

theorem Retains.purge (h : m.Retains key value keys) (alive : live value) :
    (m.purge live).Retains key value keys := by
  obtain ⟨older, newer, entries, recent⟩ := h
  refine ⟨older.filter fun e => live e.2, newer.filter fun e => live e.2, ?_, fun e mem => ?_⟩
  · rw [entries_purge, entries, List.filter_append]
    exact congrArg _ (List.filter_cons_of_pos alive)
  · exact recent e (List.mem_filter.mp mem).1

variable [DecidableEq κ]

theorem retains_enter (m : MemoryCache κ ν) (key : κ) (value : ν) :
    (m.enter key value).Retains key value ∅ :=
  ⟨_, [], m.entries_enter key value, fun _ mem => absurd mem List.not_mem_nil⟩

/-- The keys of entries are different, so there are no more entries than keys that they may have. -/
theorem length_le_card {es : List (κ × ν)} (distinct : (es.map (·.1)).Nodup)
    (keys_ : ∀ e ∈ es, e.1 ∈ keys) : es.length ≤ keys.card := by
  rw [← List.length_map (·.1), ← List.toFinset_card_of_nodup distinct]
  refine Finset.card_le_card fun k mem => ?_
  obtain ⟨e, entry, rfl⟩ := List.mem_map.mp (List.mem_toFinset.mp mem)
  exact keys_ e entry

/-- Another key may push a value out only if there are as many other keys as the capacity. -/
theorem Retains.enter (h : m.Retains key value keys) (ne : other ≠ key)
    (few : ((insert other keys).erase key).card < m.capacity) :
    (m.enter other value').Retains key value (insert other keys) := by
  obtain ⟨older, newer, entries, recent⟩ := h
  let before := older.filter fun e => e.1 ≠ other
  let behind := newer.filter fun e => e.1 ≠ other
  have others : (m.entries.filter fun e => e.1 ≠ other) = before ++ (key, value) :: behind := by
    rw [entries, List.filter_append, List.filter_cons_of_pos (by simpa using ne.symm)]
  have distinct := m.distinct
  rw [entries, List.map_append, List.map_cons, List.nodup_append, List.nodup_cons] at distinct
  have keys_ : ∀ e ∈ behind, e.1 ∈ ((insert other keys).erase key).erase other := by
    intro e mem
    obtain ⟨mem, differs⟩ := List.mem_filter.mp mem
    refine Finset.mem_erase.mpr ⟨of_decide_eq_true differs, Finset.mem_erase.mpr ⟨fun same => ?_,
      Finset.mem_insert_of_mem (recent e mem)⟩⟩
    exact distinct.2.1.1 (List.mem_map.mpr ⟨e, mem, same⟩)
  have counted : behind.length ≤ _ :=
    length_le_card (distinct.2.1.2.sublist (List.filter_sublist.map _)) keys_
  have fewer := Finset.card_erase_lt_of_mem
    (Finset.mem_erase.mpr ⟨ne, Finset.mem_insert_self other keys⟩)
  -- The entries that go are among those in front of the value's own.
  have front : before.length + (behind.length + 1) + 1 - m.capacity ≤ before.length := by
    omega
  have entered : (m.enter other value').entries =
      before.drop (before.length + (behind.length + 1) + 1 - m.capacity) ++
        (key, value) :: (behind ++ [(other, value')]) := by
    rw [entries_enter, others, List.length_append, List.length_cons,
      List.drop_append_of_le_length front, List.append_assoc, List.cons_append]
  refine ⟨_, _, entered, fun e mem => ?_⟩
  rcases List.mem_append.mp mem with mem | mem
  · exact Finset.mem_of_mem_erase (Finset.mem_of_mem_erase (keys_ e mem))
  · rw [List.mem_singleton.mp mem]
    exact Finset.mem_insert_self other keys

/-- A value that is got becomes the last one. -/
theorem retains_get? (hit : (m.get? live key).1 = some value) :
    (m.get? live key).2.Retains key value ∅ := by
  simp only [MemoryCache.get?] at hit ⊢
  split at hit
  · cases hit
  · cases hit
    exact retains_enter ..

theorem lookup_eq_some {es : List (κ × ν)} (distinct : (es.map (·.1)).Nodup)
    (mem : (key, value) ∈ es) : es.lookup key = some value := by
  induction es with
  | nil => cases mem
  | cons e es ih =>
    obtain ⟨unused, distinct⟩ := List.nodup_cons.mp distinct
    rcases List.mem_cons.mp mem with rfl | mem
    · exact List.lookup_cons_self
    · have differs : key ≠ e.1 := by
        intro same
        exact unused (List.mem_map.mpr ⟨_, mem, same⟩)
      rw [List.lookup_cons, beq_eq_false_iff_ne.mpr differs]
      exact ih distinct mem

theorem capacity_get? (m : MemoryCache κ ν) (live : ν → Bool) (key : κ) :
    (m.get? live key).2.capacity = m.capacity := by
  simp only [MemoryCache.get?]
  split <;> rfl

/-- A live value that is retained is got. -/
theorem Retains.get?_self (h : m.Retains key value keys) (live : ν → Bool)
    (alive : live value) :
    m.get? live key = (some value, (m.purge live).enter key value) := by
  obtain ⟨older, newer, entries, -⟩ := h.purge alive
  have mem : (key, value) ∈ (m.purge live).entries := by
    rw [entries]
    exact List.mem_append_right older List.mem_cons_self
  simp only [MemoryCache.get?, lookup_eq_some (m.purge live).distinct mem]

/-- Looking in vain for another key keeps the value. -/
theorem Retains.get?_none (h : m.Retains key value keys) (alive : live value)
    (miss : (m.get? live other).1 = none) : (m.get? live other).2.Retains key value keys := by
  simp only [MemoryCache.get?] at miss ⊢
  split at miss
  · exact h.purge alive
  · cases miss

theorem Retains.get?_some (h : m.Retains key value keys) (alive : live value) (ne : other ≠ key)
    (few : ((insert other keys).erase key).card < m.capacity)
    (hit : (m.get? live other).1 = some value') :
    (m.get? live other).2.Retains key value (insert other keys) := by
  simp only [MemoryCache.get?] at hit ⊢
  split at hit
  · cases hit
  · exact (h.purge alive).enter ne few

theorem Retains.put (h : m.Retains key value keys) (alive : live value) (ne : other ≠ key)
    (few : ((insert other keys).erase key).card < m.capacity) :
    (m.put live other value').Retains key value (insert other keys) :=
  (h.purge alive).enter ne few

end MemoryCache

namespace Context

variable {allowed : List Event → Target → Target → Prop} {log recent earlier : List Event}
  {c c' c₀ : Context} {call call₀ : Call} {generator : Generator} {held : List Artifact}
  {files : FileTree} {sink : Sink} {source : Source} {f : Fingerprint} {a : Artifact}
  {m : MemoryCache SourceKey Artifact}

/-- The key of the source of a compile that delivered an artifact. -/
def Event.deliveredKey? : Event → Option SourceKey
  | .compiled c call =>
    (c.answer call).outcome.artifact?.map fun _ => (c.fingerprintOf call.source).key
  | .cleared => none

/-- The keys of the sources for which artifacts were delivered. -/
def deliveredKeys (log : List Event) : Finset SourceKey :=
  (log.filterMap Event.deliveredKey?).toFinset

/-! ### Memory in a history -/

theorem fromMemory_of_some (memory : c.memory = some m) :
    c.fromMemory held f = ((m.get? (fun a => held.any a.isSame) f.key).1,
      { c with memory := some (m.get? (fun a => held.any a.isSame) f.key).2 }) := by
  rw [fromMemory, memory]

/-- What becomes of memory: the artifact that is found there is delivered, and one that is delivered
otherwise is put there. -/
theorem Compiles.memory_eq {r : Compiled} (h : c.Compiles generator held files sink source f r)
    (memory : c.memory = some m) :
    let live := fun a => held.any a.isSame
    let got := m.get? live f.key
    (∃ a, got.1 = some a ∧ r.outcome = .done a ∧ r.context.memory = some got.2) ∨
      (got.1 = none ∧ (∃ a, r.outcome = .done a ∧
        r.context.memory = some (got.2.put live f.key a))) ∨
      (got.1 = none ∧ (∀ a, r.outcome ≠ .done a) ∧ r.context.memory = some got.2) := by
  intro live got
  have remembers := h.memory
  rw [fromMemory_of_some memory] at remembers
  rcases remembers with hit | ⟨miss, remembers⟩
  · exact .inl hit
  · refine .inr ?_
    by_cases done : ∃ a, r.outcome = .done a
    · obtain ⟨a, done⟩ := done
      exact .inl ⟨miss, a, done, remembers.done a done⟩
    · have none_ := not_exists.mp done
      exact .inr ⟨miss, none_, remembers.otherwise none_⟩

/-- The memory of a context has the room that the configuration gives it. -/
def HasRoom (c : Context) : Prop :=
  ∃ m, c.memory = some m ∧ m.capacity = c.config.cache.memoryCapacity

theorem History.hasRoom (h : History allowed log c)
    (caches : 0 < c.config.cache.memoryCapacity) : c.HasRoom := by
  induction h with
  | new _ made =>
    obtain ⟨memory, opened, made⟩ := bind_eq_ok.mp made
    cases made
    rw [openMemory, if_neg (Nat.ne_of_gt caches), MemoryCache.new, dif_pos caches] at opened
    split at opened
    · exact ⟨_, (Except.ok.inj opened).symm, rfl⟩
    · cases opened
  | @compiled _ c call _ ih =>
    have config := (answer_setup c call).config
    obtain ⟨m, memory, capacity⟩ := ih (config ▸ caches)
    rw [HasRoom, config, ← capacity]
    have compiles := c.answer_compiles call
    rcases compiles.memory_eq memory with ⟨a, -, -, after⟩ | ⟨-, a, -, after⟩ | ⟨-, -, after⟩
    · exact ⟨_, after, m.capacity_get? ..⟩
    · exact ⟨_, after, m.capacity_get? ..⟩
    · exact ⟨_, after, m.capacity_get? ..⟩
  | cleared _ ih =>
    obtain ⟨m, memory, capacity⟩ := ih caches
    exact ⟨m.clear, congrArg (Option.map _) memory, capacity⟩
  | aside _ ih => exact ih caches
  | shared _ _ ih => exact ih caches

/-- The artifact is in memory, behind artifacts with some keys only. -/
def Retains (c : Context) (key : SourceKey) (a : Artifact) (keys : Finset SourceKey) : Prop :=
  ∃ m, c.memory = some m ∧ m.capacity = c.config.cache.memoryCapacity ∧ m.Retains key a keys

/-- A compile leaves the artifact that it delivers behind all others. -/
theorem HasRoom.retains (h : c.HasRoom) (call : Call)
    (done : (c.answer call).outcome = .done a) :
    (c.answer call).context.Retains (c.fingerprintOf call.source).key a ∅ := by
  obtain ⟨m, memory, capacity⟩ := h
  rw [Retains, (answer_setup c call).config, ← capacity]
  have compiles := c.answer_compiles call
  rcases compiles.memory_eq memory with ⟨b, hit, done', after⟩ | ⟨-, b, done', after⟩ |
    ⟨-, none_, -⟩
  · cases done.symm.trans done'
    exact ⟨_, after, m.capacity_get? .., MemoryCache.retains_get? hit⟩
  · cases done.symm.trans done'
    exact ⟨_, after, m.capacity_get? .., MemoryCache.retains_enter ..⟩
  · exact absurd done (none_ a)

theorem deliveredKeys_done (done : (c.answer call).outcome = .done a) :
    deliveredKeys (.compiled c call :: recent) =
      insert (c.fingerprintOf call.source).key (deliveredKeys recent) := by
  have delivered : (Event.compiled c call).deliveredKey? =
      some (c.fingerprintOf call.source).key := by
    rw [Event.deliveredKey?, done]
    rfl
  rw [deliveredKeys, List.filterMap_cons_some delivered, List.toFinset_cons]
  rfl

theorem deliveredKeys_subset (e : Event) (recent : List Event) :
    deliveredKeys recent ⊆ deliveredKeys (e :: recent) := by
  intro key mem
  obtain ⟨e', mem', delivered⟩ := List.mem_filterMap.mp (List.mem_toFinset.mp mem)
  exact List.mem_toFinset.mpr
    (List.mem_filterMap.mpr ⟨e', List.mem_cons_of_mem _ mem', delivered⟩)

/-- An artifact that is held stays in memory as long as few others are delivered. -/
theorem Retains.answer {key : SourceKey} (h : c.Retains key a (deliveredKeys recent))
    (alive : call.held.any a.isSame)
    (few : ((deliveredKeys (.compiled c call :: recent)).erase key).card <
      c.config.cache.memoryCapacity) :
    (c.answer call).context.Retains key a (deliveredKeys (.compiled c call :: recent)) := by
  obtain ⟨m, memory, capacity, retains⟩ := h
  rw [← capacity] at few
  rw [Retains, (answer_setup c call).config, ← capacity]
  have compiles := c.answer_compiles call
  have same := m.capacity_get? (fun a => call.held.any a.isSame) (c.fingerprintOf call.source).key
  have outcomes := compiles.memory_eq memory
  by_cases own : (c.fingerprintOf call.source).key = key
  · rw [own] at outcomes
    have got := congrArg Prod.fst (retains.get?_self (fun a => call.held.any a.isSame) alive)
    rcases outcomes with ⟨b, hit, -, after⟩ | ⟨miss, -⟩ | ⟨miss, -⟩
    · cases got.symm.trans hit
      exact ⟨_, after, own ▸ same, (MemoryCache.retains_get? hit).mono (Finset.empty_subset _)⟩
    · cases got.symm.trans miss
    · cases got.symm.trans miss
  · rcases outcomes with ⟨b, hit, done, after⟩ | ⟨miss, b, done, after⟩ | ⟨miss, -, after⟩
    · rw [deliveredKeys_done done] at few ⊢
      exact ⟨_, after, same, retains.get?_some alive own few hit⟩
    · rw [deliveredKeys_done done] at few ⊢
      exact ⟨_, after, same, (retains.get?_none alive miss).put alive own (same ▸ few)⟩
    · exact ⟨_, after, same, (retains.get?_none alive miss).mono (deliveredKeys_subset _ _)⟩

/-- An artifact that was delivered once stays in memory if it was held at every compile since, and
artifacts for few other sources were delivered. -/
theorem History.retains (h : History allowed (recent ++ .compiled c₀ call₀ :: earlier) c)
    (returned : (c₀.answer call₀).outcome = .done a) (uncleared : .cleared ∉ recent)
    (alive : ∀ before call, .compiled before call ∈ recent → call.held.any a.isSame)
    (few : ((deliveredKeys recent).erase (c₀.fingerprintOf call₀.source).key).card <
      c.config.cache.memoryCapacity) :
    c.Retains (c₀.fingerprintOf call₀.source).key a (deliveredKeys recent) := by
  generalize split : recent ++ .compiled c₀ call₀ :: earlier = log at h
  induction h generalizing recent with
  | new => exact absurd split (by simp)
  | @compiled log c call h ih =>
    have config := (answer_setup c call).config
    rw [config] at few
    cases recent with
    | nil =>
      cases split
      exact (h.hasRoom (Nat.zero_lt_of_lt few)).retains _ returned
    | cons e recent =>
      obtain ⟨rfl, rest⟩ := List.cons.inj split
      have fewer := (Finset.card_le_card (Finset.erase_subset_erase _
        (deliveredKeys_subset (.compiled c call) recent))).trans_lt few
      have before := ih (fun mem => uncleared (List.mem_cons_of_mem _ mem))
        (fun c' call' mem => alive c' call' (List.mem_cons_of_mem _ mem)) fewer rest
      exact before.answer (alive c call List.mem_cons_self) few
  | cleared =>
    cases recent with
    | nil => cases split
    | cons e recent =>
      obtain ⟨rfl, -⟩ := List.cons.inj split
      exact absurd List.mem_cons_self uncleared
  | aside _ ih => exact ih uncleared alive few split
  | shared _ _ ih => exact ih uncleared alive few split

/-- Whatever happens in a context, an artifact that is held is found again unless memory was cleared
or artifacts for as many other sources as it has room for were delivered since. It does not matter
what the generator, the verifier and the target are then, or what files there are: none of them is
asked, and nothing but memory and the number of its hits changes. -/
theorem History.found_again (h : History allowed (recent ++ .compiled c₀ call₀ :: earlier) c)
    (returned : (c₀.answer call₀).outcome = .done a) (uncleared : .cleared ∉ recent)
    (alive : ∀ before call, .compiled before call ∈ recent → call.held.any a.isSame)
    (few : ((deliveredKeys recent).erase (c₀.fingerprintOf call₀.source).key).card <
      c.config.cache.memoryCapacity)
    (still : held.any a.isSame)
    (same : (c.fingerprintOf source).key = (c₀.fingerprintOf call₀.source).key) :
    ∃ memory, ∀ verifier target generator files sink,
      ({ c with verifier, target }).compile generator held files sink source =
        ⟨.done a, { c with
            verifier, target, memory
            stats := { c.stats with memoryHits := c.stats.memoryHits + 1 } },
          .empty, files, false⟩ := by
  obtain ⟨m, memory, -, retains⟩ := h.retains returned uncleared alive few
  rw [← same] at retains
  have got := retains.get?_self (fun a => held.any a.isSame) still
  let after := (m.purge fun a => held.any a.isSame).enter (c.fingerprintOf source).key a
  refine ⟨some after, fun verifier target generator files sink => ?_⟩
  have hit : fromMemory { c with verifier, target } held (c.fingerprintOf source) =
      (some a, { c with verifier, target, memory := some after }) := by
    rw [fromMemory_of_some (c := { c with verifier, target }) memory, got]
  exact compile_of_hit hit

/-- With room for two artifacts, one that is held is found again after another one was delivered. -/
theorem History.found_again_two :
    let generator : Generator := fun _ _ => ⟨[], some ⟨⟨"main", [1]⟩, ∅, []⟩⟩
    ∃ (c₀ c : Context) (a : Artifact),
      (c₀.answer ⟨generator, [], .empty, .empty, .ofString "a" "x"⟩).outcome = .done a ∧
      c = ((c₀.answer ⟨generator, [], .empty, .empty, .ofString "a" "x"⟩).context.answer
        ⟨generator, [a], .empty, .empty, .ofString "b" "x"⟩).context ∧
      c.config.cache.memoryCapacity = 2 ∧ ∃ memory, ∀ verifier target generator files sink,
        ({ c with verifier, target }).compile generator [a] files sink (.ofString "a" "x") =
          ⟨.done a, { c with
              verifier, target, memory
              stats := { c.stats with memoryHits := c.stats.memoryHits + 1 } },
            .empty, files, false⟩ := by
  intro generator
  let config : Config := { cache := { memoryCapacity := 2 } }
  let call₀ : Call := ⟨generator, [], .empty, .empty, .ofString "a" "x"⟩
  have checks : (Context.new config "1" (.ofHost (.new false)) none .empty).toOption.any fun x =>
      (x.1.answer call₀).outcome.artifact?.isSome := by
    decide +kernel
  obtain ⟨⟨c₀, files⟩, made, delivered⟩ := (Option.any_eq_true _ _).mp checks
  obtain ⟨a, delivered⟩ := Option.isSome_iff_exists.mp delivered
  have done := Outcome.artifact?_eq_some.mp delivered
  let call : Call := ⟨generator, [a], .empty, .empty, .ofString "b" "x"⟩
  let c := ((c₀.answer call₀).context.answer call).context
  have setup := (answer_setup c₀ call₀).trans (answer_setup _ call)
  have new := eq_ok_of_toOption made
  have config_ : c.config = config := setup.config.trans (new_eq_ok new).1.setup.1
  have history : History (fun _ _ _ => True)
      ([.compiled (c₀.answer call₀).context call] ++ .compiled c₀ call₀ :: []) c :=
    .compiled call (.compiled call₀ (.new trivial new))
  have still : [a].any a.isSame := by simp [Artifact.isSame]
  have alive : ∀ before call', .compiled before call' ∈
      [Event.compiled (c₀.answer call₀).context call] → call'.held.any a.isSame := by
    intro before call' mem
    cases List.mem_singleton.mp mem
    exact still
  have few : ((deliveredKeys [.compiled (c₀.answer call₀).context call]).erase
      (c₀.fingerprintOf call₀.source).key).card < c.config.cache.memoryCapacity := by
    rw [config_]
    exact (Finset.card_erase_le.trans ((List.toFinset_card_le _).trans
      (List.length_filterMap_le ..))).trans_lt Nat.one_lt_two
  have same : c.fingerprintOf (.ofString "a" "x") = c₀.fingerprintOf call₀.source := by
    rw [fingerprintOf, setup.config]
    rfl
  have found := history.found_again done (by simp) alive few still (congrArg _ same)
  exact ⟨c₀, c, a, done, rfl, by rw [config_], found⟩

end Context
end Scriptorium
