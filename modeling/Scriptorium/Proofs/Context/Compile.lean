import Scriptorium.Context.Compile
import Scriptorium.Proofs.Context.Install

/-! What can come of a compile. An artifact that is delivered stands for the bundle that was
installed for it, be that restored or generated (`Context.Delivers`), and memory gains no other
entry. The cases of a compile are told apart once (`Context.Compiles`). -/

namespace Scriptorium

/-- The artifact stands for the bundle. -/
structure Artifact.Carries (a : Artifact) (b : Bundle) : Prop where
  installed : a.installed.Holds b
  constants : a.constants = b.constants

/-! ### Memory -/

namespace MemoryCache

variable {κ ν : Type} [DecidableEq κ] {m : MemoryCache κ ν} {live : ν → Bool} {key : κ} {value : ν}

theorem mem_entries_enter {e : κ × ν} (h : e ∈ (m.enter key value).entries) :
    e = (key, value) ∨ e ∈ m.entries := by
  rw [entries_enter] at h
  rcases List.mem_append.mp h with h | h
  · exact .inr (List.mem_filter.mp (List.mem_of_mem_drop h)).1
  · exact .inl (List.mem_singleton.mp h)

theorem mem_entries_put {e : κ × ν} (h : e ∈ (m.put live key value).entries) :
    e = (key, value) ∨ e ∈ m.entries :=
  (mem_entries_enter h).imp_right fun mem => (List.mem_filter.mp mem).1

private theorem mem_of_lookup {es : List (κ × ν)} (h : es.lookup key = some value) :
    (key, value) ∈ es := by
  induction es with
  | nil => cases h
  | cons e es ih => grind

/-- The value that is got for a key is that of one of its entries, and alive. -/
theorem mem_of_get? (h : (m.get? live key).1 = some value) :
    (key, value) ∈ m.entries ∧ live value := by
  simp only [get?] at h
  split at h
  · cases h
  · next found =>
    cases h
    exact List.mem_filter.mp (mem_of_lookup found)

/-- Getting a value adds no entry. -/
theorem mem_entries_get? {e : κ × ν} (h : e ∈ (m.get? live key).2.entries) : e ∈ m.entries := by
  simp only [get?] at h
  split at h
  · exact (List.mem_filter.mp h).1
  · next found =>
    rcases mem_entries_enter h with rfl | h
    · exact (List.mem_filter.mp (mem_of_lookup found)).1
    · exact (List.mem_filter.mp h).1

end MemoryCache

namespace Context

variable {c c' : Context} {generator : Generator} {held : List Artifact} {files : FileTree}
  {sink : Sink} {source : Source} {f : Fingerprint} {b : Bundle} {record : Record}
  {place : Option (RecordStore × RecordKey)} {a : Artifact}

/-- The entries in memory. -/
def remembered (c : Context) : List (SourceKey × Artifact) :=
  match c.memory with
  | none => []
  | some m => m.entries

theorem remembered_eq (h : c'.memory = c.memory) : c'.remembered = c.remembered := by
  rw [remembered, remembered, h]

theorem remembered_clearMemory (c : Context) : c.clearMemory.remembered = [] := by
  rw [clearMemory, remembered]
  cases c.memory <;> rfl

/-- What a context was made with and what it installs with is the same. -/
structure SameMeans (c c' : Context) : Prop extends c.SameSetup c' where
  target : c'.target = c.target
  named : c'.named = c.named
  nextScript : c'.nextScript = c.nextScript

theorem SameMeans.refl (c : Context) : c.SameMeans c := ⟨SameSetup.refl c, rfl, rfl, rfl⟩

theorem SameMeans.trans {d : Context} (h : c.SameMeans d) (h' : d.SameMeans c') :
    c.SameMeans c' :=
  ⟨h.toSameSetup.trans h'.toSameSetup, h'.target.trans h.target, h'.named.trans h.named,
    h'.nextScript.trans h.nextScript⟩

theorem SameMeans.ready (h : c.SameMeans c') (ready : c.Ready) : c'.Ready := by
  refine ⟨?_, ?_, fun i kept => ?_, fun i kept => ?_⟩
  · rw [h.target]; exact ready.inOrder
  · rw [h.target]; exact ready.numbered
  · rw [h.target, h.nextScript]; exact ready.serves i (h.named ▸ kept)
  · rw [h.config]; exact ready.limits i (h.named ▸ kept)

theorem SameMeans.roomFor (h : c.SameMeans c') (us : List CodeUnit) :
    c'.RoomFor us ↔ c.RoomFor us := roomFor_congr h.config h.target h.named us

theorem fromMemory_means (c : Context) (held : List Artifact) (f : Fingerprint) :
    c.SameMeans (c.fromMemory held f).2 := by
  rw [fromMemory]
  split
  · exact SameMeans.refl c
  · exact ⟨⟨rfl, rfl, rfl, rfl⟩, rfl, rfl, rfl⟩

theorem fromMemory_stats (c : Context) (held : List Artifact) (f : Fingerprint) :
    (c.fromMemory held f).2.stats = c.stats := by
  rw [fromMemory]
  split <;> rfl

theorem mem_fromMemory {e : SourceKey × Artifact} (h : e ∈ (c.fromMemory held f).2.remembered) :
    e ∈ c.remembered := by
  cases memory : c.memory with
  | none => simpa [fromMemory, memory] using h
  | some m =>
    simp only [fromMemory, memory, remembered] at h ⊢
    exact MemoryCache.mem_entries_get? h

theorem fromMemory_eq_some (h : (c.fromMemory held f).1 = some a) :
    (f.key, a) ∈ c.remembered ∧ held.any a.isSame := by
  cases memory : c.memory with
  | none => simp [fromMemory, memory] at h
  | some m =>
    simp only [fromMemory, memory, remembered] at h ⊢
    exact MemoryCache.mem_of_get? h

theorem mem_deliver {e : SourceKey × Artifact} {installed : Installed} {constants : List Constant}
    {id : UInt64} (h : e ∈ (c.deliver held f installed constants id).2.remembered) :
    e ∈ c.remembered ∨ e = (f.key, (c.deliver held f installed constants id).1) := by
  cases memory : c.memory with
  | none => simp [deliver, remembered, memory] at h
  | some m =>
    simp only [deliver, remembered, memory, Option.map_some] at h ⊢
    exact (MemoryCache.mem_entries_put h).symm

/-! ### Deliveries -/

/-- What comes of delivering a bundle under a fingerprint. -/
structure Delivers (c : Context) (f : Fingerprint) (b : Bundle) (o : Outcome) (c' : Context) :
    Prop where
  setup : c.SameSetup c'
  ready : ∀ store, c.store = some store → c.Ready → c'.Ready
  remembered : ∀ e ∈ c'.remembered, e ∈ c.remembered ∨ ∃ a, e = (f.key, a) ∧ o = .done a
  done : ∀ a, o = .done a → a.fingerprint = f ∧ a.Carries b

/-- An installation that is not delivered leaves memory alone. -/
private theorem delivers_nothing {d e : Context} {result : Except Setback Installed}
    {o : Outcome} (counted : c.SameMeans d) (memory : d.memory = c.memory)
    (installs : d.install held source b = (result, e)) (means : e.SameMeans c')
    (memory' : c'.memory = e.memory) (none_ : ∀ a, o ≠ .done a) : c.Delivers f b o c' := by
  have keeps := install_keeps d held source b
  rw [installs] at keeps
  refine ⟨counted.toSameSetup.trans (keeps.toSameSetup.trans means.toSameSetup),
    fun store same ready => ?_, fun x mem => .inl ?_, fun a done => absurd done (none_ a)⟩
  · have after := install_ready held source b (counted.ready ready) (counted.store.trans same)
    rw [installs] at after
    exact means.ready after
  · rwa [remembered_eq (memory'.trans (keeps.memory.trans memory))] at mem

/-- An installed bundle is delivered as an artifact, which is all that memory gains. -/
private theorem delivers_deliver {d e e' : Context} {installed : Installed} {id : UInt64}
    (counted : c.SameMeans d) (memory : d.memory = c.memory)
    (installs : d.install held source b = (.ok installed, e)) (means : e.SameMeans e')
    (memory' : e'.memory = e.memory) :
    c.Delivers f b (.done (e'.deliver held f installed b.constants id).1)
      (e'.deliver held f installed b.constants id).2 := by
  have keeps := install_keeps d held source b
  have ok : (d.install held source b).1 = .ok installed := by rw [installs]
  rw [installs] at keeps
  have means' : e.SameMeans (e'.deliver held f installed b.constants id).2 :=
    means.trans ⟨⟨rfl, rfl, rfl, rfl⟩, rfl, rfl, rfl⟩
  refine ⟨counted.toSameSetup.trans (keeps.toSameSetup.trans means'.toSameSetup),
    fun store same ready => ?_, fun x mem => ?_, fun a done => ?_⟩
  · have after := install_ready held source b (counted.ready ready) (counted.store.trans same)
    rw [installs] at after
    exact means'.ready after
  · rw [← remembered_eq (memory'.trans (keeps.memory.trans memory))]
    exact (mem_deliver mem).imp_right fun same => ⟨_, same, rfl⟩
  · cases done
    exact ⟨rfl, install_eq_ok ok, rfl⟩

/-- A compile that is given up delivers nothing. -/
theorem giveUp_ne_done (s : Setback) : (c.giveUp s).1 ≠ .done a := by
  cases s <;> nofun

theorem giveUp_means (c : Context) (s : Setback) :
    c.SameMeans (c.giveUp s).2 ∧ (c.giveUp s).2.memory = c.memory := by
  cases s with
  | refused e => exact ⟨⟨⟨rfl, rfl, rfl, rfl⟩, rfl, rfl, rfl⟩, rfl⟩
  | broken fault => exact ⟨SameMeans.refl c, rfl⟩

theorem restore_delivers (c : Context) (held : List Artifact) (source : Source) (f : Fingerprint)
    (record : Record) : c.Delivers f record.bundle (c.restore held source f record).1
      (c.restore held source f record).2 := by
  have counted : c.SameMeans c.countPersistentHit := ⟨⟨rfl, rfl, rfl, rfl⟩, rfl, rfl, rfl⟩
  rw [restore]
  split
  · next s e installs =>
    obtain ⟨means, memory⟩ := e.giveUp_means s
    exact delivers_nothing counted rfl installs means memory fun _ => giveUp_ne_done s
  · next installed e installs =>
    split
    · exact delivers_nothing counted rfl installs (SameMeans.refl e) rfl nofun
    · next e' reserved =>
      rw [reserve] at reserved
      split at reserved
      · cases reserved
        exact delivers_deliver counted rfl installs ⟨⟨rfl, rfl, rfl, rfl⟩, rfl, rfl, rfl⟩ rfl
      · cases reserved

/-- All that persisting does to a context is to count a failure. -/
theorem persist_cases (c : Context) (files : FileTree) (place : Option (RecordStore × RecordKey))
    (f : Fingerprint) (b : Bundle) (id : UInt64) :
    (c.persist files place f b id).1 = c ∨
      (c.persist files place f b id).1 = c.countPersistFailure := by
  simp only [persist]
  split
  · exact .inl rfl
  · split
    · exact .inl rfl
    · exact .inr rfl

theorem persist_means (c : Context) (files : FileTree) (place : Option (RecordStore × RecordKey))
    (f : Fingerprint) (b : Bundle) (id : UInt64) :
    c.SameMeans (c.persist files place f b id).1 ∧
      (c.persist files place f b id).1.memory = c.memory := by
  rcases c.persist_cases files place f b id with same | same
  · rw [same]
    exact ⟨SameMeans.refl c, rfl⟩
  · rw [same]
    exact ⟨⟨⟨rfl, rfl, rfl, rfl⟩, rfl, rfl, rfl⟩, rfl⟩

theorem establish_delivers (c : Context) (held : List Artifact) (files : FileTree)
    (source : Source) (f : Fingerprint) (place : Option (RecordStore × RecordKey)) (b : Bundle) :
    c.Delivers f b (c.establish held files source f place b).1
      (c.establish held files source f place b).2.1 := by
  rw [establish]
  split
  · next s e installs =>
    obtain ⟨means, memory⟩ := e.giveUp_means s
    exact delivers_nothing (SameMeans.refl c) rfl installs means memory fun _ => giveUp_ne_done s
  · next installed e installs =>
    have counted : e.SameMeans (countFresh { e with nextCompilation := e.nextCompilation + 1 }) :=
      ⟨⟨rfl, rfl, rfl, rfl⟩, rfl, rfl, rfl⟩
    obtain ⟨means, memory⟩ := persist_means
      (countFresh { e with nextCompilation := e.nextCompilation + 1 }) files place f b
      e.nextCompilation
    exact delivers_deliver (SameMeans.refl c) rfl installs (counted.trans means) memory

/-! ### Compiles -/

theorem record?_eq_some {store : RecordStore} {key : RecordKey} :
    c.record? f = some (store, key) ↔ c.store = some store ∧ key = store.scriptKey f.key ∧
      store.isEligible f ∧ (c.config.compile.lazy ∨ ¬ c.config.compile.optimisticTypes) := by
  rw [record?]
  constructor
  · intro h
    split at h
    · cases h
    · next allowed =>
      obtain ⟨s, kept, same⟩ := Option.map_eq_some_iff.mp h
      obtain ⟨opened, eligible⟩ := Option.filter_eq_some_iff.mp kept
      cases same
      refine ⟨opened, rfl, eligible, ?_⟩
      cases lazy_ : c.config.compile.lazy
      · cases optimistic : c.config.compile.optimisticTypes
        · exact .inr nofun
        · simp [lazy_, optimistic] at allowed
      · exact .inl rfl
  · rintro ⟨opened, rfl, eligible, allowed⟩
    have kept : c.store.filter (·.isEligible f) = some store :=
      Option.filter_eq_some_iff.mpr ⟨opened, eligible⟩
    rw [if_neg, kept]
    · rfl
    · rcases allowed with lazy_ | standard
      · simp [lazy_]
      · simp [standard]

theorem SameSetup.record?_eq (h : c.SameSetup c') (f : Fingerprint) :
    c'.record? f = c.record? f := by
  rw [record?, record?, h.config, h.store]

theorem fromDisk_eq_some (h : fromDisk place files f = .ok (some record)) :
    ∃ store key, place = some (store, key) ∧ store.load files f.key key = .ok (some record) := by
  simp only [fromDisk] at h
  split at h
  · cases h
  · exact ⟨_, _, rfl, h⟩

theorem generate_eq_ok {strict : Bool} {sink' : Sink}
    (h : generate generator source strict sink = (.ok b, sink')) :
    (generator source strict).bundle = some b := by
  simp only [generate] at h
  split at h
  · next found =>
    split at h
    · cases h
    · cases h; exact found
  · cases h

/-- Establishing a bundle writes no file but its record, which has the number of the artifact. -/
theorem files_of_establish (c : Context) (held : List Artifact) (files : FileTree)
    (source : Source) (f : Fingerprint) (place : Option (RecordStore × RecordKey)) (b : Bundle) :
    (c.establish held files source f place b).2.2 = files ∨ ∃ store key a,
      place = some (store, key) ∧ (c.establish held files source f place b).1 = .done a ∧
        store.store files key f.key b a.compilationId =
          .ok (c.establish held files source f place b).2.2 := by
  simp only [establish]
  split
  · exact .inl rfl
  · simp only [persist]
    split
    · exact .inl rfl
    · split
      · next stored => exact .inr ⟨_, _, _, rfl, rfl, stored⟩
      · exact .inl rfl

/-- How the compile of a source with this fingerprint goes: an artifact is found in memory, or else
a record on disk, or else the generator is asked. Reading the record may break the compile off, and
the generator may refuse. -/
inductive Compiles (c : Context) (generator : Generator) (held : List Artifact) (files : FileTree)
    (sink : Sink) (source : Source) (f : Fingerprint) : Compiled → Prop
  | remembered {a : Artifact} {d : Context} : c.fromMemory held f = (some a, d) →
      Compiles c generator held files sink source f
        ⟨.done a, d.countMemoryHit, sink.reset, files, false⟩
  | broken {d : Context} {fault} : c.fromMemory held f = (none, d) →
      fromDisk (c.record? f) files f = .error fault →
      Compiles c generator held files sink source f ⟨.broken fault, d, sink.reset, files, false⟩
  | restored {d : Context} {record : Record} : c.fromMemory held f = (none, d) →
      fromDisk (c.record? f) files f = .ok (some record) →
      Compiles c generator held files sink source f
        ⟨(d.restore held source f record).1, (d.restore held source f record).2, sink.reset, files,
          false⟩
  | refused {d : Context} {e sink'} : c.fromMemory held f = (none, d) →
      fromDisk (c.record? f) files f = .ok none →
      generate generator source f.strict sink.reset = (.error e, sink') →
      Compiles c generator held files sink source f ⟨.failed e, d.countFailure, sink', files, true⟩
  | established {d : Context} {b : Bundle} {sink'} : c.fromMemory held f = (none, d) →
      fromDisk (c.record? f) files f = .ok none →
      generate generator source f.strict sink.reset = (.ok b, sink') →
      Compiles c generator held files sink source f
        ⟨(d.establish held files source f (c.record? f) b).1,
          (d.establish held files source f (c.record? f) b).2.1, sink',
          (d.establish held files source f (c.record? f) b).2.2, true⟩

theorem compiles_compile (c : Context) (generator : Generator) (held : List Artifact)
    (files : FileTree) (sink : Sink) (source : Source) :
    c.Compiles generator held files sink source (c.fingerprintOf source)
      (c.compile generator held files sink source) := by
  have setup := (fromMemory_means c held (c.fingerprintOf source)).toSameSetup
  simp only [compile]
  split
  · next hit => exact .remembered hit
  · next d miss =>
    rw [miss] at setup
    rw [setup.record?_eq]
    split
    · next loaded => exact .broken miss loaded
    · next loaded => exact .restored miss loaded
    · next loaded =>
      split
      · next generated => exact .refused miss loaded generated
      · next generated => exact .established miss loaded generated

/-- What is found in memory is returned, whatever is on disk. -/
theorem compile_of_hit (hit : c.fromMemory held (c.fingerprintOf source) = (some a, c')) :
    c.compile generator held files sink source =
      ⟨.done a, c'.countMemoryHit, .empty, files, false⟩ := by
  simp only [compile, hit]
  rfl

/-- What comes of a compile: an artifact from memory, or nothing, or what is delivered for the
bundle of a record or of the generator; in the last case its record may have been written. -/
theorem Compiles.delivers {r : Compiled} (h : c.Compiles generator held files sink source f r) :
    let found := c.fromMemory held f
    (∃ a, found.1 = some a ∧ r.outcome = .done a ∧ r.context = found.2.countMemoryHit ∧
      r.files = files) ∨
    ((∀ a, r.outcome ≠ .done a) ∧ found.2.SameMeans r.context ∧
      r.context.memory = found.2.memory ∧ r.files = files) ∨
    (∃ store record, c.store = some store ∧
      store.load files f.key (store.scriptKey f.key) = .ok (some record) ∧
      found.2.Delivers f record.bundle r.outcome r.context ∧ r.files = files) ∨
    ∃ b, (generator source f.strict).bundle = some b ∧
      found.2.Delivers f b r.outcome r.context ∧ (r.files = files ∨
        ∃ store id, c.store = some store ∧
          store.store files (store.scriptKey f.key) f.key b id = .ok r.files) := by
  cases h with
  | remembered hit =>
    rw [hit]
    exact .inl ⟨_, rfl, rfl, rfl, rfl⟩
  | broken miss loaded =>
    rw [miss]
    exact .inr (.inl ⟨nofun, SameMeans.refl _, rfl, rfl⟩)
  | restored miss loaded =>
    rw [miss]
    obtain ⟨store, key, place, loaded⟩ := fromDisk_eq_some loaded
    obtain ⟨opened, rfl, -⟩ := record?_eq_some.mp place
    exact .inr (.inr (.inl ⟨store, _, opened, loaded, restore_delivers .., rfl⟩))
  | refused miss loaded generated =>
    rw [miss]
    exact .inr (.inl ⟨nofun, ⟨⟨rfl, rfl, rfl, rfl⟩, rfl, rfl, rfl⟩, rfl, rfl⟩)
  | established miss loaded generated =>
    rw [miss]
    refine .inr (.inr (.inr ⟨_, generate_eq_ok generated, establish_delivers .., ?_⟩))
    refine (files_of_establish ..).imp_right fun ⟨store, key, a, place, _, stored⟩ => ?_
    obtain ⟨opened, rfl, -⟩ := record?_eq_some.mp place
    exact ⟨store, a.compilationId, opened, stored⟩

theorem Compiles.setup {r : Compiled} (h : c.Compiles generator held files sink source f r) :
    c.SameSetup r.context := by
  have looked := (fromMemory_means c held f).toSameSetup
  rcases h.delivers with ⟨a, -, -, context, -⟩ | ⟨-, means, -⟩ |
    ⟨store, record, -, -, delivers, -⟩ | ⟨b, -, delivers, -⟩
  · rw [context]
    exact looked.trans ⟨rfl, rfl, rfl, rfl⟩
  · exact looked.trans means.toSameSetup
  · exact looked.trans delivers.setup
  · exact looked.trans delivers.setup

end Context
end Scriptorium
