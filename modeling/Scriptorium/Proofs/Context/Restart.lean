import Scriptorium.Proofs.Context.Opening

/-! Restarts. A bundle whose record was written was defined by name before, so it can be defined
again by any context with a store, whatever that context has been through: a context with a store
is ready in each state that can be reached (`Context.Reached.settled`). Hence a context restores
what another one persisted, and asks no generator; only counts at the end of their range can keep it
from that (`Context.Reached.restores`). -/

namespace Scriptorium

/-- A host with all calls in order, on which each loader has a number that was given out. -/
structure Target.Local (t : Target) : Prop where
  inOrder : t.failing = []
  numbered : t.host.Numbered

theorem Target.local_ofHost_new (isolation : Bool) : (ofHost (.new isolation)).Local :=
  ⟨rfl, nofun⟩

namespace Context

variable {c c' : Context} {generator generator' : Generator} {held held' : List Artifact}
  {files files' : FileTree} {sink sink' : Sink} {source source' : Source} {f : Fingerprint}
  {b : Bundle} {store : RecordStore} {key : RecordKey} {record : Record} {a : Artifact}

/-! ### Reachable contexts -/

/-- The contexts that can be reached. What a compile is given is arbitrary each time. The host may
be shared with others, who leave the loader of the kept installer alone. -/
inductive Reached : Context → Prop
  | new {c : Context} {config version target verifier files files'} : target.Local →
      Context.new config version target verifier files = .ok (c, files') → Reached c
  | compiled {c : Context} {generator held files sink source} : Reached c →
      Reached (c.compile generator held files sink source).context
  | cleared {c : Context} : Reached c → Reached c.clearMemory
  | withScope {c : Context} : Reached c → Reached c.createScope.2
  | folded {c : Context} {change} : Reached c → Reached (c.updateFolding change)
  | guarded {c : Context} {guards registry} : Reached c → Reached { c with guards, registry }
  | shared {c : Context} {target : Target} : Reached c → target.Local →
      (∀ i, c.named = some i → target.host.names? i.loader = c.target.host.names? i.loader) →
      Reached { c with target }

theorem updateFolding_means (c : Context) (f : Folding → GuardTable → Folding × GuardTable) :
    c.SameMeans (c.updateFolding f) := by
  rw [updateFolding]
  split
  · exact SameMeans.refl c
  · exact ⟨⟨rfl, rfl, rfl, rfl⟩, rfl, rfl, rfl⟩

theorem createScope_means (c : Context) : c.SameMeans c.createScope.2 := by
  rw [createScope]
  cases c.folding with
  | none => exact ⟨⟨rfl, rfl, rfl, rfl⟩, rfl, rfl, rfl⟩
  | some folding =>
    have ended := updateFolding_means c Folding.invalidateForever
    exact ended.trans ⟨⟨rfl, rfl, rfl, rfl⟩, rfl, rfl, rfl⟩

theorem Compiles.ready {r : Compiled} (h : c.Compiles generator held files sink source f r)
    (ready : c.Ready) (opened : c.store = some store) : r.context.Ready := by
  have looked := fromMemory_means c held f
  have kept := looked.store.trans opened
  rcases h.delivers with ⟨a, -, -, context, -⟩ | ⟨-, means, -⟩ |
    ⟨_, record, -, -, delivers, -⟩ | ⟨b, -, delivers, -⟩
  · have counted : c.SameMeans (c.fromMemory held f).2.countMemoryHit :=
      looked.trans ⟨⟨rfl, rfl, rfl, rfl⟩, rfl, rfl, rfl⟩
    rw [context]
    exact counted.ready ready
  · exact (looked.trans means).ready ready
  · exact delivers.ready store kept (looked.ready ready)
  · exact delivers.ready store kept (looked.ready ready)

/-- What a context with a store is good for in each state. -/
structure Settled (c : Context) (store : RecordStore) : Prop where
  fits : c.StoreFits store
  ready : c.Ready

theorem SameMeans.settled (h : c.SameMeans c') (settled : c.Settled store) : c'.Settled store :=
  ⟨h.storeFits settled.fits, h.ready settled.ready⟩

theorem Reached.settled (h : c.Reached) (opened : c.store = some store) : c.Settled store := by
  induction h with
  | new local_ made =>
    obtain ⟨isNew, -⟩ := new_eq_ok made
    have nothing : ∀ {P : NamedInstaller → Prop} i, _ = some i → P i := fun i kept => by
      cases isNew.named.symm.trans kept
    refine ⟨(isNew.store store opened).2, ?_, ?_, nothing, nothing⟩
    · rw [isNew.target]; exact local_.inOrder
    · rw [isNew.target]; exact local_.numbered
  | @compiled c generator held files sink source _ ih =>
    have compiles := c.compiles_compile generator held files sink source
    have before := compiles.setup.store.symm.trans opened
    obtain ⟨fits, ready⟩ := ih before
    exact ⟨compiles.setup.storeFits fits, compiles.ready ready before⟩
  | cleared _ ih =>
    refine SameMeans.settled ?_ (ih opened)
    exact ⟨⟨rfl, rfl, rfl, rfl⟩, rfl, rfl, rfl⟩
  | @withScope c _ ih =>
    have means := createScope_means c
    exact means.settled (ih (means.store.symm.trans opened))
  | @folded c f _ ih =>
    have means := updateFolding_means c f
    exact means.settled (ih (means.store.symm.trans opened))
  | guarded _ ih =>
    refine SameMeans.settled ?_ (ih opened)
    exact ⟨⟨rfl, rfl, rfl, rfl⟩, rfl, rfl, rfl⟩
  | shared _ local_ same ih =>
    obtain ⟨⟨belongs, version, profile, minSize⟩, ready⟩ := ih opened
    refine ⟨⟨belongs, version, profile, minSize⟩, local_.inOrder, local_.numbered, fun i kept => ?_,
      ready.limits⟩
    obtain ⟨names, known, earlier⟩ := ready.serves i kept
    exact ⟨names, (same i kept).trans known, earlier⟩

/-! ### What is persisted -/

/-- A compile asked the generator, and the record of what came of that was written. -/
structure Persists (c : Context) (f : Fingerprint) (r : Compiled) (a : Artifact) : Prop where
  done : r.outcome = .done a
  asked : r.asked = true
  placed : (c.record? f).isSome
  unfailed : r.context.stats.persistFailures = c.stats.persistFailures

/-- A bundle that was established and persisted can be defined, and its record was stored. -/
theorem establish_persisted {kept : RecordStore} (ready : c.Ready) (opened : c.store = some kept)
    (done : (c.establish held files source f (some (store, key)) b).1 = .done a)
    (unfailed : (c.establish held files source f (some (store, key)) b).2.1.stats.persistFailures =
      c.stats.persistFailures) :
    b.Definable ∧ store.store files key f.key b a.compilationId =
      .ok (c.establish held files source f (some (store, key)) b).2.2 := by
  have keeps := install_keeps c held source b
  simp only [establish] at done unfailed ⊢
  split at done
  · exact absurd done (giveUp_ne_done _)
  · next installed e installs =>
    rw [installs] at keeps
    have ok : (c.install held source b).1 = .ok installed := by rw [installs]
    have definable := (install_byName ready opened ok).2
    simp only [installs, persist] at done unfailed ⊢
    cases stored : store.store files key f.key b e.nextCompilation with
    | ok files' =>
      rw [stored] at done
      cases done
      exact ⟨definable, stored⟩
    | error failure =>
      rw [stored] at unfailed
      have counted : e.stats.persistFailures + 1 = c.stats.persistFailures := unfailed
      have before : e.stats.persistFailures = c.stats.persistFailures := keeps.persistFailures
      omega

theorem Persists.opened {r : Compiled} (h : c.Persists f r a) : ∃ store, c.store = some store := by
  obtain ⟨⟨store, key⟩, placed⟩ := Option.isSome_iff_exists.mp h.placed
  exact ⟨store, (record?_eq_some.mp placed).1⟩

/-- What is persisted is a bundle of the generator that can be defined. -/
theorem Persists.bundle {r : Compiled} (persists : c.Persists f r a) (ready : c.Ready)
    (opened : c.store = some store) (h : c.Compiles generator held files sink source f r) :
    ∃ b, (generator source f.strict).bundle = some b ∧ b.Definable ∧ a.Carries b ∧
      store.store files (store.scriptKey f.key) f.key b a.compilationId = .ok r.files := by
  obtain ⟨done, asked, placed, unfailed⟩ := persists
  obtain ⟨⟨kept, key⟩, placed⟩ := Option.isSome_iff_exists.mp placed
  obtain ⟨opened', rfl, -⟩ := record?_eq_some.mp placed
  cases opened.symm.trans opened'
  have looked := fromMemory_means c held f
  have stats := fromMemory_stats c held f
  cases h with
  | remembered | broken | restored => cases asked
  | refused => cases done
  | @established d b sink' miss loaded generated =>
    rw [miss] at looked stats
    rw [placed] at done unfailed ⊢
    have delivers := establish_delivers d held files source f
      (some (store, store.scriptKey f.key)) b
    obtain ⟨definable, stored⟩ := establish_persisted (looked.ready ready)
      (looked.store.trans opened) done (unfailed.trans (congrArg Stats.persistFailures stats.symm))
    exact ⟨b, generate_eq_ok generated, definable, (delivers.done a done).2, stored⟩

/-! ### What is restored -/

/-- The verifier of the context, if it is asked at all, has nothing against the units. -/
def Accepts (c : Context) (b : Bundle) : Prop :=
  ∀ verifier, c.activeVerifier = some verifier → ∀ u ∈ b.units, verifier u = none

theorem Accepts.malformed? (h : c.Accepts b) : c.activeVerifier.bind b.malformed? = none := by
  cases active : c.activeVerifier with
  | none => rfl
  | some verifier =>
    apply List.findSome?_eq_none_iff.mpr
    intro u mem
    rw [h verifier active u mem]
    rfl

/-- A context with a store may use the records of another one. -/
structure Succeeds (c c' : Context) : Prop where
  directory : c'.config.cache.directory = c.config.cache.directory
  version : c'.version = c.version
  optimisticTypes : c'.config.compile.optimisticTypes = c.config.compile.optimisticTypes
  allowed : c'.config.compile.lazy ∨ ¬ c'.config.compile.optimisticTypes
  opened : c'.store.isSome

/-- Stores that differ at most in what they think worth a record. -/
theorem Succeeds.store_eq {store' : RecordStore} (h : c.Succeeds c') (fits : c.StoreFits store)
    (fits' : c'.StoreFits store') :
    store' = { store with minSize := c'.config.cache.minPersistSize } := by
  have version := (fits'.version.trans h.version).trans fits.version.symm
  have profile : store'.profile = store.profile := by
    rw [fits'.profile, fits.profile, h.optimisticTypes]
  have directory : store'.directory = store.directory := by
    rw [fits'.opened.directory, fits.opened.directory, h.directory, version, profile]
  have minSize := fits'.minSize
  cases store'
  cases store
  cases version
  cases profile
  cases directory
  cases minSize
  rfl

/-- The record that a context wrote is loaded by its successor. -/
theorem Succeeds.load {store' : RecordStore} {id : UInt64} {sourceKey : SourceKey}
    {before after : FileTree} (h : c.Succeeds c') (fits : c.StoreFits store)
    (fits' : c'.StoreFits store') (holdable : b.Holdable)
    (stored : store.store before (store.scriptKey sourceKey) sourceKey b id = .ok after)
    (unaltered : files'.read (store.recordPath (store.scriptKey sourceKey)) =
      after.read (store.recordPath (store.scriptKey sourceKey))) :
    store'.load files' sourceKey (store'.scriptKey sourceKey) =
      .ok (some ⟨(store.scriptKey sourceKey).text, b, id⟩) := by
  have written := FileTree.read_of_write (RecordStore.store_eq_ok stored)
  rw [h.store_eq fits fits']
  refine RecordStore.load_eq_some.mpr ⟨_, unaltered.trans written, ?_⟩
  refine (RecordStore.recordIn_contentOf_eq_ok fits.opened
    (RecordStore.holdable_scriptKey store sourceKey) holdable).mpr ⟨⟨rfl, rfl, rfl, rfl⟩, rfl⟩

end Context
end Scriptorium
