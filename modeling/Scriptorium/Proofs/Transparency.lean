import Scriptorium.Proofs.Context.Opening
import Scriptorium.Session

/-! The caches are transparent. In any history of a session whose generators agree, each artifact
that a compile hands out stands for what the generator makes of the source, wherever the artifact
came from (`Session.History.transparent`). The invariant speaks of all that an artifact may come
from: every entry in the memory of a context, and every record that some store below the root may
take from its place (`Session.Sound`). -/

namespace Scriptorium

/-- What all generators of one version, with types optimistic or not, make of a text from an origin,
compiled strictly or not. -/
abbrev Translation :=
  (version : String) → (optimistic : Bool) → (text origin : String) → (strict : Bool) →
    Option Bundle

/-- The translation makes no bundle that memory cannot hold. -/
def Translation.Holdable (g : Translation) : Prop :=
  ∀ version optimistic text origin strict b, g version optimistic text origin strict = some b →
    b.Holdable

/-- The bundles of a generator are those of the translation. -/
def Translation.Governs (g : Translation) (version : String) (optimistic : Bool)
    (generator : Generator) : Prop :=
  ∀ source strict,
    (generator source strict).bundle = g version optimistic source.text source.origin strict

namespace Session

/-- A compile that was asked for, and what it came to. -/
structure Request where
  version : String
  settings : CompileSettings
  source : Source
  outcome : Outcome

namespace Request

/-- Whether the source was compiled strictly. -/
def strict (r : Request) : Bool := r.settings.strict || r.source.strict

/-- The fingerprint under which the source was looked for. -/
def fingerprint (r : Request) : Fingerprint := r.source.fingerprint.withStrict r.strict

end Request

/-- Files were changed from outside: they may be gone or damaged, but no store is offered a record
that it was not offered before. -/
def Interference (root : Path) (before after : FileTree) : Prop :=
  ∀ store source record, RecordStore.Offers root after store source record →
    RecordStore.Offers root before store source record

/-- The files are the same, and each context was there before with the same artifacts in memory. -/
structure SameCaches (s s' : Session) : Prop where
  files : s'.files = s.files
  contexts : ∀ n c', s'.context? n = some c' →
    ∃ c, s.context? n = some c ∧ c.SameSetup c' ∧ c'.memory = c.memory

theorem SameCaches.of_stations {s s' : Session} (files : s'.files = s.files)
    (stations : s'.stations = s.stations) : s.SameCaches s' := by
  refine ⟨files, fun n c known => ⟨c, ?_, Context.SameSetup.refl c, rfl⟩⟩
  rwa [context?, station?, stations] at known

theorem SameCaches.trans {s s' u : Session} (h : s.SameCaches u) (h' : u.SameCaches s') :
    s.SameCaches s' := by
  refine ⟨h'.files.trans h.files, fun n c' known => ?_⟩
  obtain ⟨d, between, setup', memory'⟩ := h'.contexts n c' known
  obtain ⟨c, before, setup, memory⟩ := h.contexts n d between
  exact ⟨c, before, setup.trans setup', memory'.trans memory⟩

/-- A context after an update was there before, changed or not. -/
theorem context?_of_update {s : Session} {n i : Nat} {f : Context → Context} {c' : Context}
    (h : (s.update n f).context? i = some c') :
    ∃ c, s.context? i = some c ∧ (c' = c ∨ c' = f c) := by
  obtain ⟨st', found, rfl⟩ := Option.map_eq_some_iff.mp h
  rw [station?, update, List.getElem?_modify] at found
  obtain ⟨st, before, same⟩ := Option.map_eq_some_iff.mp found
  refine ⟨st.context, Option.map_eq_some_iff.mpr ⟨st, before, rfl⟩, ?_⟩
  split at same
  · cases same
    exact .inr rfl
  · cases same
    exact .inl rfl

theorem SameCaches.update (s : Session) (n : Nat) {f : Context → Context}
    (keeps : ∀ c : Context, c.SameSetup (f c) ∧ (f c).memory = c.memory) :
    s.SameCaches (s.update n f) := by
  refine ⟨rfl, fun i c' known => ?_⟩
  obtain ⟨c, before, rfl | rfl⟩ := context?_of_update known
  · exact ⟨c', before, Context.SameSetup.refl c', rfl⟩
  · exact ⟨c, before, keeps c⟩

/-- Holding on to an artifact leaves the caches alone. -/
theorem sameCaches_holdArtifact (s : Session) (slot : Option String) (h : HeldArtifact) :
    s.SameCaches (s.holdArtifact slot h) := by
  cases slot <;> exact .of_stations rfl rfl

/-- So does letting go of one. -/
theorem sameCaches_release (s : Session) (slot : String) :
    s.SameCaches { s with artifacts := s.artifacts.drop slot } := .of_stations rfl rfl

/-- So does the loss of a context. -/
theorem sameCaches_lose (s : Session) (name : String) :
    s.SameCaches { s with names := s.names.drop name } := .of_stations rfl rfl

/-- So does making a scope current, though values folded in its context are dropped. -/
theorem sameCaches_bind (s : Session) (scope : Option Scope) : s.SameCaches (s.bind scope) := by
  have keeps : ∀ c : Context, c.SameSetup c.dropFolded ∧ c.dropFolded.memory = c.memory := by
    intro c
    rw [Context.dropFolded, Context.updateFolding]
    split <;> exact ⟨⟨rfl, rfl, rfl, rfl⟩, rfl⟩
  cases scope with
  | none => exact .of_stations rfl rfl
  | some scope => exact (SameCaches.update s scope.station keeps).trans (.of_stations rfl rfl)

/-- What can happen in a session whose contexts share one root for their records: the requests, the
last one first, and the session that they have led to. Contexts are made anew at any time. Whatever
leaves files and caches alone may happen in between: artifacts are held and let go, contexts lose
their names, targets fail, scopes and guards come and go. -/
inductive History (g : Translation) (root : Path) : List Request → Session → Prop
  | start {files} : RecordStore.NoRecords root files → History g root [] (Session.new files)
  | opened {log s name config version target verifier c s'} : History g root log s →
      (config.persistenceEnabled = true → config.cache.directory = root) →
      s.openContext name config version target verifier = .ok (c, s') → History g root log s'
  | compiled {log s n c generator source outcome s'} : History g root log s →
      s.context? n = some c → g.Governs c.version c.config.compile.optimisticTypes generator →
      source.Short → s.compile n generator source = some (outcome, s') →
      History g root (⟨c.version, c.config.compile, source, outcome⟩ :: log) s'
  | cleared {log s n} : History g root log s → History g root log (s.update n Context.clearMemory)
  | interfered {log s files} : History g root log s → Interference root s.files files →
      History g root log { s with files }
  | aside {log s s'} : History g root log s → s.SameCaches s' → History g root log s'

/-! ### The invariant -/

variable {g : Translation} {root : Path} {log : List Request} {s s' : Session} {version : String}
  {optimistic : Bool} {key : SourceKey} {b : Bundle} {a : Artifact} {c c' : Context}

/-- The bundle is the translation of a source of the log that the key identifies. -/
def Stems (g : Translation) (log : List Request) (version : String) (optimistic : Bool)
    (key : SourceKey) (b : Bundle) : Prop :=
  ∃ r ∈ log, r.source.fingerprint.identity = key.identity ∧
    g version optimistic r.source.text r.source.origin key.strict = some b

/-- The artifact stands for such a bundle, and has the fingerprint of a source of the log. -/
structure Faithful (g : Translation) (log : List Request) (version : String) (optimistic : Bool)
    (key : SourceKey) (a : Artifact) : Prop where
  found : a.fingerprint.key = key
  fingerprint : ∃ r ∈ log, a.fingerprint = r.source.fingerprint.withStrict key.strict
  bundle : ∃ b, Stems g log version optimistic key b ∧ a.Carries b

theorem Stems.cons (r : Request) (h : Stems g log version optimistic key b) :
    Stems g (r :: log) version optimistic key b := by
  obtain ⟨r', mem, rest⟩ := h
  exact ⟨r', List.mem_cons_of_mem r mem, rest⟩

theorem Faithful.cons (r : Request) (h : Faithful g log version optimistic key a) :
    Faithful g (r :: log) version optimistic key a := by
  obtain ⟨r', mem, same⟩ := h.fingerprint
  obtain ⟨b, stems, carries⟩ := h.bundle
  exact ⟨h.found, ⟨r', List.mem_cons_of_mem r mem, same⟩, b, stems.cons r, carries⟩

/-- Whatever record a store is offered stems from the log. -/
def SoundFiles (g : Translation) (root : Path) (log : List Request) (files : FileTree) : Prop :=
  ∀ store source record, RecordStore.Offers root files store source record →
    Stems g log store.version (store.profile = .optimistic) source record.bundle

/-- A context stores its records below the root and remembers faithful artifacts only. -/
structure SoundContext (g : Translation) (root : Path) (log : List Request) (c : Context) :
    Prop where
  store : ∀ store, c.store = some store → c.config.cache.directory = root ∧ c.StoreFits store
  memory : ∀ e ∈ c.remembered,
    Faithful g log c.version c.config.compile.optimisticTypes e.1 e.2

structure Sound (g : Translation) (root : Path) (log : List Request) (s : Session) : Prop where
  short : ∀ r ∈ log, r.source.Short
  files : SoundFiles g root log s.files
  contexts : ∀ n c, s.context? n = some c → SoundContext g root log c
  outcomes : ∀ r ∈ log, ∀ a, r.outcome = .done a →
    Faithful g log r.version r.settings.optimisticTypes r.fingerprint.key a

theorem Stems.of_request {r : Request}
    (made : g version optimistic r.source.text r.source.origin key.strict = some b)
    (identity : r.source.fingerprint.identity = key.identity) :
    Stems g (r :: log) version optimistic key b :=
  ⟨r, List.mem_cons_self, identity, made⟩

theorem SoundFiles.cons (r : Request) {files : FileTree} (h : SoundFiles g root log files) :
    SoundFiles g root (r :: log) files :=
  fun store source record offers => (h store source record offers).cons r

theorem SoundContext.cons (r : Request) (h : SoundContext g root log c) :
    SoundContext g root (r :: log) c :=
  ⟨h.store, fun e mem => (h.memory e mem).cons r⟩

/-! ### One compile -/

/-- A compile answers a request soundly: with a faithful artifact, if any, and sound files. -/
structure SoundResult (g : Translation) (root : Path) (log : List Request) (r : Request)
    (compiled : Compiled) : Prop where
  outcome : ∀ a, compiled.outcome = .done a →
    Faithful g (r :: log) r.version r.settings.optimisticTypes r.fingerprint.key a
  context : SoundContext g root (r :: log) compiled.context
  files : SoundFiles g root (r :: log) compiled.files

theorem SoundContext.of_subset (h : SoundContext g root log c) (setup : c.SameSetup c')
    (memory : ∀ e ∈ c'.remembered, e ∈ c.remembered) : SoundContext g root log c' := by
  refine ⟨fun store same => ?_, fun e mem => ?_⟩
  · obtain ⟨shared, fits⟩ := h.store store (setup.store ▸ same)
    exact ⟨setup.config ▸ shared, setup.storeFits fits⟩
  · rw [setup.version, setup.config]
    exact h.memory e (memory e mem)

/-- A bundle that stems from the log is delivered faithfully. -/
private theorem sound_of_delivers {r : Request} {compiled : Compiled}
    (version : r.version = c.version) (settings : r.settings = c.config.compile)
    (sound : SoundContext g root log c)
    (delivers : c.Delivers r.fingerprint b compiled.outcome compiled.context)
    (stems : Stems g (r :: log) r.version r.settings.optimisticTypes r.fingerprint.key b)
    (files : SoundFiles g root (r :: log) compiled.files) : SoundResult g root log r compiled := by
  have outcome : ∀ a, compiled.outcome = .done a →
      Faithful g (r :: log) r.version r.settings.optimisticTypes r.fingerprint.key a := by
    intro a done
    obtain ⟨fingerprint, carries⟩ := delivers.done a done
    exact ⟨by rw [fingerprint], ⟨r, List.mem_cons_self, fingerprint⟩, b, stems, carries⟩
  have setup := delivers.setup
  refine ⟨outcome, ⟨fun store same => ?_, fun e mem => ?_⟩, files⟩
  · obtain ⟨shared, fits⟩ := sound.store store (setup.store ▸ same)
    exact ⟨setup.config ▸ shared, setup.storeFits fits⟩
  · rw [setup.version, setup.config]
    rcases delivers.remembered e mem with before | ⟨a, rfl, done⟩
    · exact (sound.memory e before).cons r
    · rw [← version, ← settings]
      exact outcome a done

/-- The record of a bundle of the log keeps the files sound. -/
private theorem sound_of_store {r : Request} {store : RecordStore} {id : UInt64}
    {files files' : FileTree} (sound : SoundFiles g root log files) (holdable : b.Holdable)
    (opened : RecordStore.Opened root store)
    (stems : Stems g (r :: log) store.version (store.profile = .optimistic) key b)
    (stored : store.store files (store.scriptKey key) key b id = .ok files') :
    SoundFiles g root (r :: log) files' := by
  intro store' source record offers
  rcases offers.of_store opened holdable stored with before | ⟨version, profile, rfl, rfl⟩
  · exact (sound store' source record before).cons r
  · rw [← version, ← profile]
    exact stems

theorem compile_sound (holdable : g.Holdable) {r : Request} {files : FileTree}
    {generator : Generator} (held : List Artifact) (sink : Sink) (version : r.version = c.version)
    (settings : r.settings = c.config.compile) (sound : SoundContext g root log c)
    (soundFiles : SoundFiles g root log files)
    (governs : g.Governs c.version c.config.compile.optimisticTypes generator) :
    SoundResult g root log r (c.compile generator held files sink r.source) := by
  have same : c.fingerprintOf r.source = r.fingerprint := by
    rw [Context.fingerprintOf, Request.fingerprint, Request.strict, settings]
  have setup := (Context.fromMemory_means c held r.fingerprint).toSameSetup
  have looked : SoundContext g root log (c.fromMemory held r.fingerprint).2 :=
    sound.of_subset setup fun e => Context.mem_fromMemory
  have version' := version.trans setup.version.symm
  have settings' := settings.trans (congrArg Config.compile setup.config.symm)
  -- The profile of the store says whether types are optimistic.
  have family : ∀ store, c.store = some store → RecordStore.Opened root store ∧
      store.version = r.version ∧
        decide (store.profile = .optimistic) = r.settings.optimisticTypes := by
    intro store opened
    obtain ⟨shared, fits⟩ := sound.store store opened
    refine ⟨shared ▸ fits.opened, fits.version.trans version.symm, ?_⟩
    rw [fits.profile, settings]
    exact Profile.ofFlag_eq_optimistic _
  have compiles := c.compiles_compile generator held files sink r.source
  rw [same] at compiles
  rcases compiles.delivers with ⟨a, hit, outcome, context, wrote⟩ |
    ⟨nothing, means, memory, wrote⟩ | ⟨store, record, opened, loaded, delivers, wrote⟩ |
    ⟨b, made, delivers, wrote⟩
  · -- The artifact was remembered, and faithful before.
    have remembered := sound.memory _ (Context.fromMemory_eq_some hit).1
    refine ⟨fun a' done => ?_, ?_, by rw [wrote]; exact soundFiles.cons r⟩
    · rw [outcome] at done
      cases done
      rw [version, settings]
      exact remembered.cons r
    · have counted : SoundContext g root log
          (c.fromMemory held r.fingerprint).2.countMemoryHit :=
        looked.of_subset ⟨rfl, rfl, rfl, rfl⟩ fun _ => id
      rw [context]
      exact counted.cons r
  · -- Nothing came of it.
    refine ⟨fun a done => absurd done (nothing a), ?_, by rw [wrote]; exact soundFiles.cons r⟩
    refine (looked.of_subset means.toSameSetup fun e mem => ?_).cons r
    rwa [Context.remembered_eq memory] at mem
  · -- The record was one that the store was offered.
    obtain ⟨belongs, sameVersion, profile⟩ := family store opened
    have stems := (soundFiles _ _ _ (RecordStore.offers_of_load belongs loaded)).cons r
    rw [sameVersion, profile] at stems
    exact sound_of_delivers version' settings' looked delivers stems
      (by rw [wrote]; exact soundFiles.cons r)
  · -- The generator made the bundle, and its record may have been written.
    rw [governs, ← version, ← settings] at made
    have stems : Stems g (r :: log) r.version r.settings.optimisticTypes r.fingerprint.key b :=
      Stems.of_request made rfl
    apply sound_of_delivers version' settings' looked delivers stems
    rcases wrote with wrote | ⟨store, id, opened, stored⟩
    · rw [wrote]
      exact soundFiles.cons r
    · obtain ⟨belongs, sameVersion, profile⟩ := family store opened
      refine sound_of_store soundFiles (holdable _ _ _ _ _ _ made) belongs ?_ stored
      rw [sameVersion, profile]
      exact stems

/-! ### Histories -/

theorem Sound.opened {name : String} {config : Config} {target : Target}
    {verifier : Option Verifier} (h : Sound g root log s)
    (shared : config.persistenceEnabled = true → config.cache.directory = root)
    (opened : s.openContext name config version target verifier = .ok (c, s')) :
    Sound g root log s' := by
  obtain ⟨⟨c₀, files⟩, made, opened⟩ := bind_eq_ok.mp opened
  cases opened
  obtain ⟨isNew, grows⟩ := Context.new_eq_ok made
  refine ⟨h.short, fun store source record offers => ?_, fun n c' known => ?_, h.outcomes⟩
  · exact h.files store source record (offers.of_grows grows)
  · obtain ⟨st, found, rfl⟩ := Option.map_eq_some_iff.mp known
    have mem := List.mem_of_getElem? found
    rcases List.mem_append.mp mem with mem | mem
    · obtain ⟨i, found⟩ := List.getElem?_of_mem mem
      exact h.contexts i _ (Option.map_eq_some_iff.mpr ⟨st, found, rfl⟩)
    · rw [List.mem_singleton.mp mem]
      refine ⟨fun store same => ?_, fun e mem => ?_⟩
      · obtain ⟨enabled, fits⟩ := isNew.store store same
        exact ⟨by rw [isNew.setup.1, shared enabled], fits⟩
      · rw [isNew.remembered] at mem
        cases mem

theorem Sound.compiled (holdable : g.Holdable) {n : Nat} {generator : Generator} {source : Source}
    {outcome : Outcome} (h : Sound g root log s) (known : s.context? n = some c)
    (governs : g.Governs c.version c.config.compile.optimisticTypes generator)
    (short : source.Short) (compiled : s.compile n generator source = some (outcome, s')) :
    Sound g root (⟨c.version, c.config.compile, source, outcome⟩ :: log) s' := by
  obtain ⟨st, found, rfl⟩ := Option.map_eq_some_iff.mp known
  rw [compile, found, Option.map_some, Option.some.injEq, Prod.mk.injEq] at compiled
  obtain ⟨rfl, rfl⟩ := compiled
  have result := compile_sound holdable (s.heldOf n) s.sink
    (r := ⟨st.context.version, st.context.config.compile, source,
      (st.context.compile generator (s.heldOf n) s.files s.sink source).outcome⟩)
    rfl rfl (h.contexts n _ known) h.files governs
  refine ⟨List.forall_mem_cons.mpr ⟨short, h.short⟩, result.files, fun i c' known' => ?_,
    List.forall_mem_cons.mpr
      ⟨result.outcome, fun r mem a done => (h.outcomes r mem a done).cons _⟩⟩
  obtain ⟨st', found', rfl⟩ := Option.map_eq_some_iff.mp known'
  rcases List.mem_or_eq_of_mem_set (List.mem_of_getElem? found') with mem | rfl
  · obtain ⟨j, found⟩ := List.getElem?_of_mem mem
    exact (h.contexts j _ (Option.map_eq_some_iff.mpr ⟨st', found, rfl⟩)).cons _
  · exact result.context

theorem Sound.aside (h : Sound g root log s) (same : s.SameCaches s') : Sound g root log s' := by
  refine ⟨h.short, same.files ▸ h.files, fun n c' known => ?_, h.outcomes⟩
  obtain ⟨c, before, setup, memory⟩ := same.contexts n c' known
  apply (h.contexts n c before).of_subset setup
  intro e mem
  rwa [Context.remembered_eq memory] at mem

theorem Sound.cleared (n : Nat) (h : Sound g root log s) :
    Sound g root log (s.update n Context.clearMemory) := by
  refine ⟨h.short, h.files, fun i c' known => ?_, h.outcomes⟩
  obtain ⟨c, before, rfl | rfl⟩ := context?_of_update known
  · exact h.contexts i c' before
  · have setup : c.SameSetup c.clearMemory := ⟨rfl, rfl, rfl, rfl⟩
    apply (h.contexts i c before).of_subset setup
    intro e mem
    rw [Context.remembered_clearMemory] at mem
    cases mem

theorem History.sound (holdable : g.Holdable) (h : History g root log s) : Sound g root log s := by
  induction h with
  | start none_ =>
    exact ⟨fun _ mem => absurd mem List.not_mem_nil,
      fun _ _ _ offers => absurd offers none_.not_offers,
      fun n c known => by simp [context?, station?, Session.new] at known,
      fun _ mem => absurd mem List.not_mem_nil⟩
  | opened _ shared made ih => exact ih.opened shared made
  | compiled _ known governs short compiled ih =>
    exact ih.compiled holdable known governs short compiled
  | cleared _ ih => exact ih.cleared _
  | interfered _ interference ih =>
    exact ⟨ih.short, fun store source record offers =>
      ih.files store source record (interference store source record offers), ih.contexts,
      ih.outcomes⟩
  | aside _ same ih => exact ih.aside same

/-- Wherever an artifact came from, it has the fingerprint of its source, strict if the source or
the settings say so, and stands for what the generator makes of that. -/
theorem History.transparent (h : History g root log s) (holdable : g.Holdable)
    (free : Digest.CollisionFree (log.map (·.source.stream))) {r : Request} (mem : r ∈ log)
    (done : r.outcome = .done a) :
    a.fingerprint = r.source.fingerprint.withStrict (r.settings.strict || r.source.strict) ∧
      ∃ b, g r.version r.settings.optimisticTypes r.source.text r.source.origin
          (r.settings.strict || r.source.strict) = some b ∧ a.Carries b := by
  have sound := h.sound holdable
  obtain ⟨found, ⟨r₁, mem₁, fingerprint⟩, b, ⟨r₂, mem₂, identity, made⟩, carries⟩ :=
    sound.outcomes r mem a done
  have same : ∀ r' ∈ log, r'.source.fingerprint.identity = r.source.fingerprint.identity →
      r'.source.text = r.source.text ∧ r'.source.origin = r.source.origin := by
    intro r' mem' equal
    have streams := free _ (List.mem_map_of_mem mem') _ (List.mem_map_of_mem mem) equal
    exact Source.stream_injective (sound.short r' mem') (sound.short r mem) streams
  refine ⟨?_, b, ?_, carries⟩
  · have equal : r₁.source.fingerprint.identity = r.source.fingerprint.identity := by
      have keys := congrArg SourceKey.identity found
      rw [fingerprint] at keys
      exact keys
    obtain ⟨text, origin⟩ := same r₁ mem₁ equal
    rw [fingerprint, Source.fingerprint, text, origin]
    rfl
  · obtain ⟨text, origin⟩ := same r₂ mem₂ identity
    rw [← text, ← origin]
    exact made

theorem context?_of_compile {n : Nat} {generator : Generator} {source : Source}
    {x : Outcome × Session} (h : s.compile n generator source = some x) :
    ∃ c, s.context? n = some c := by
  obtain ⟨st, found, -⟩ := Option.map_eq_some_iff.mp h
  exact ⟨st.context, Option.map_eq_some_iff.mpr ⟨st, found, rfl⟩⟩

/-- A source is compiled, and compiled again after a restart. -/
theorem History.transparent_restart :
    let g : Translation := fun _ _ _ _ strict =>
      some ⟨⟨"main", [if strict then 2 else 1]⟩, ∅, [.bool strict]⟩
    let source : Source := ⟨"a", "a", "x", true⟩
    ∃ s first second a, History g "/k" [second, first] s ∧ first.source = source ∧
      second.source = source ∧ second.outcome = .done a ∧ a.fingerprint = source.fingerprint ∧
        a.Carries ⟨⟨"main", [2]⟩, ∅, [.bool true]⟩ := by
  intro g source
  let config : Config :=
    { cache := { persistent := true, directory := "/k", minPersistSize := 0 } }
  let generator : Generator := fun _ strict =>
    ⟨[], some ⟨⟨"main", [if strict then 2 else 1]⟩, ∅, [.bool strict]⟩⟩
  let start := fun s : Session =>
    (s.openContext "c" config "1" (.ofHost (.new false)) none).toOption
  let run := (start (Session.new .empty)).bind fun x =>
    (x.2.compile 0 generator source).bind fun y =>
      (start y.2).bind fun z => z.2.compile 1 generator source
  have isDone : (run.bind fun x => match x.1 with | .done a => some a | _ => none).isSome := by
    decide +kernel
  obtain ⟨a, found⟩ := Option.isSome_iff_exists.mp isDone
  obtain ⟨⟨o₄, s₄⟩, ran, done⟩ := Option.bind_eq_some_iff.mp found
  obtain ⟨⟨c₁, s₁⟩, opened₁, ran⟩ := Option.bind_eq_some_iff.mp ran
  obtain ⟨⟨o₂, s₂⟩, compiled₂, ran⟩ := Option.bind_eq_some_iff.mp ran
  obtain ⟨⟨c₃, s₃⟩, opened₃, compiled₄⟩ := Option.bind_eq_some_iff.mp ran
  obtain ⟨c, known⟩ := context?_of_compile compiled₂
  obtain ⟨c', known'⟩ := context?_of_compile compiled₄
  have short : source.Short := by decide +kernel
  have governs : ∀ version optimistic, g.Governs version optimistic generator :=
    fun _ _ _ _ => rfl
  have before := ((History.start (RecordStore.noRecords_empty "/k")).opened (fun _ => rfl)
    (eq_ok_of_toOption opened₁)).compiled known (governs _ _) short compiled₂
  have history := (before.opened (fun _ => rfl) (eq_ok_of_toOption opened₃)).compiled known'
    (governs _ _) short compiled₄
  have holdable : g.Holdable := by
    rintro _ _ _ _ strict b ⟨⟩
    cases strict <;> decide
  have outcome : o₄ = .done a := by
    split at done
    · next same => cases done; exact same
    · cases done
  have free : Digest.CollisionFree [source.stream, source.stream] := by decide +kernel
  obtain ⟨fingerprint, b, made, carries⟩ :=
    transparent history holdable free List.mem_cons_self outcome
  refine ⟨s₄, _, _, a, history, rfl, rfl, outcome, ?_, ?_⟩
  · rw [fingerprint, Bool.or_true]
    rfl
  · rw [Bool.or_true] at made
    cases made
    exact carries

end Session
end Scriptorium
