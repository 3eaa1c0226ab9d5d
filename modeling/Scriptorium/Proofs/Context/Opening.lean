import Scriptorium.Proofs.Context.Compile
import Scriptorium.Proofs.Except
import Scriptorium.Proofs.Record.Store

/-! What a new context starts with: nothing in memory, no installer, and a store only if it could be
opened for the version and the profile of the context. -/

namespace Scriptorium

/-- The profile of a family tells whether its types are optimistic. -/
theorem Profile.ofFlag_eq_optimistic (flag : Bool) : decide (ofFlag flag = .optimistic) = flag := by
  cases flag <;> rfl

namespace Context

variable {c : Context} {config : Config} {version : String} {target : Target}
  {verifier : Option Verifier} {files files' : FileTree}

/-- The store that belongs to a context is one of its version and profile. -/
structure StoreFits (c : Context) (store : RecordStore) : Prop where
  opened : RecordStore.Opened c.config.cache.directory store
  version : store.version = c.version
  profile : store.profile = Profile.ofFlag c.config.compile.optimisticTypes
  minSize : store.minSize = c.config.cache.minPersistSize

theorem SameSetup.storeFits {c' : Context} {store : RecordStore} (h : c.SameSetup c')
    (fits : c.StoreFits store) : c'.StoreFits store := by
  obtain ⟨opened, sameVersion, profile, minSize⟩ := fits
  rw [← h.config] at opened profile minSize
  rw [← h.version] at sameVersion
  exact ⟨opened, sameVersion, profile, minSize⟩

private theorem openStore_grows (config : Config) (version : String) (files : FileTree) :
    files.Grows (openStore config version files).2 := by
  have grows := RecordStore.openAt_grows files config.cache.directory version
    (Profile.ofFlag config.compile.optimisticTypes) config.cache.minPersistSize
  rw [openStore]
  split
  · dsimp only
    split
    · next made => rw [made] at grows; exact grows
    · next failed => rw [failed] at grows; exact grows
  · exact FileTree.Grows.refl files

private theorem openStore_eq_some {store : RecordStore}
    (h : (openStore config version files).1 = some store) : config.persistenceEnabled = true ∧
    ∃ files', RecordStore.openAt files config.cache.directory version
      (Profile.ofFlag config.compile.optimisticTypes) config.cache.minPersistSize =
        (files', .ok store) := by
  rw [openStore] at h
  split at h
  · next enabled =>
    dsimp only at h
    split at h
    · next made => cases h; exact ⟨enabled, _, made⟩
    · cases h
  · cases h

/-- What is true of a new context. -/
structure IsNew (c : Context) (config : Config) (version : String) (target : Target)
    (verifier : Option Verifier) : Prop where
  setup : c.config = config ∧ c.version = version ∧ c.verifier = verifier
  target : c.target = target
  named : c.named = none
  stats : c.stats = {}
  remembered : c.remembered = []
  store : ∀ store, c.store = some store → config.persistenceEnabled = true ∧ c.StoreFits store

private theorem openMemory_eq_ok {memory : Option (MemoryCache SourceKey Artifact)}
    (h : openMemory config = .ok memory) : ∀ m, memory = some m → m.entries = [] := by
  rw [openMemory] at h
  split at h
  · cases h; nofun
  · rw [MemoryCache.new] at h
    split at h
    · split at h
      · cases h; exact fun m same => Option.some.inj same ▸ rfl
      · cases h
    · cases h

theorem new_eq_ok (h : Context.new config version target verifier files = .ok (c, files')) :
    c.IsNew config version target verifier ∧ files.Grows files' := by
  obtain ⟨memory, opened, h⟩ := bind_eq_ok.mp h
  have grows := openStore_grows config version files
  split at h
  · next store files₁ chosen =>
    cases h
    rw [chosen] at grows
    refine ⟨⟨⟨rfl, rfl, rfl⟩, rfl, rfl, rfl, ?_, fun s same => ?_⟩, grows⟩
    · cases memory with
      | none => rfl
      | some m => exact openMemory_eq_ok opened m rfl
    · cases same
      obtain ⟨enabled, files₂, made⟩ := openStore_eq_some (congrArg Prod.fst chosen)
      obtain ⟨rfl, -, -⟩ := RecordStore.openAt_eq_ok made
      exact ⟨enabled, ⟨files, version, _, _, files₂, made⟩, rfl, rfl, rfl⟩

end Context
end Scriptorium
