import Scriptorium.Proofs.Context.Selection

/-! Several contexts over one host. Each keeps to a loader of its own and numbers its scripts, and a
host forgets no anchor (`Context.Tenants.accommodated`). So what else was compiled in the host, and
whether it failed, has no influence on an installation: the bundle alone decides whether it is
refused, and with which error, and only counts that have no room for its units can break it off
(`Context.Tenants.install_exact`). -/

namespace Scriptorium

theorem NamedInstaller.Serves.mono {i : NamedInstaller} {t : Target} {script next : Nat}
    (h : i.Serves t script) (le : script ≤ next) : i.Serves t next := by
  obtain ⟨names, known, earlier⟩ := h
  refine ⟨names, known, fun x mem => ?_⟩
  obtain ⟨name, before, same, lt⟩ := earlier x mem
  exact ⟨name, before, same, Nat.lt_of_lt_of_le lt le⟩

theorem NamedInstaller.Serves.of_names {i : NamedInstaller} {t t' : Target} {script : Nat}
    (h : i.Serves t script) (same : t'.host.names? i.loader = t.host.names? i.loader) :
    i.Serves t' script := by
  obtain ⟨names, known, earlier⟩ := h
  exact ⟨names, same.trans known, earlier⟩

namespace Context

/-- The context once others have changed the target. -/
def sees (c : Context) (t : Target) : Context := { c with target := t }

variable {c c' d : Context} {cs : List Context} {t t' : Target} {held : List Artifact}
  {source : Source} {b : Bundle} {i : NamedInstaller}

/-! ### One tenant -/

/-- The kept installer serves the next script and has the limits of the configuration, and the host
knows all anchors that are cached. -/
structure Housed (c : Context) : Prop where
  serves : ∀ i, c.named = some i → i.Serves c.target c.nextScript
  limits : ∀ i, c.named = some i → i.limits = c.config.installer.limits
  anchored : c.Anchored

theorem InstallsAlike.housed (h : c.InstallsAlike c') (housed : c.Housed) : c'.Housed := by
  refine ⟨fun i kept => ?_, fun i kept => ?_, fun a mem => ?_⟩
  · rw [h.target, h.nextScript]
    exact housed.serves i (h.named ▸ kept)
  · rw [h.config]
    exact housed.limits i (h.named ▸ kept)
  · rw [h.target]
    exact housed.anchored a (h.anchors ▸ mem)

/-- An installer that was taken serves the script. -/
theorem Takes.serves {script : Nat} (takes : c.Takes i d)
    (serves : ∀ i, c.named = some i → i.Serves c.target script) : i.Serves d.target script := by
  rcases takes.origin with ⟨reused, names⟩ | ⟨-, -, names, -⟩
  · exact (serves i (Option.filter_eq_some_iff.mp reused).1).of_names names
  · exact ⟨[], names, fun _ mem => absurd mem List.not_mem_nil⟩

theorem Takes.limits (takes : c.Takes i d)
    (limits : ∀ i, c.named = some i → i.limits = c.config.installer.limits) :
    i.limits = c.config.installer.limits := by
  rcases takes.origin with ⟨reused, -⟩ | ⟨-, -, -, -, -, own⟩
  · exact limits i (Option.filter_eq_some_iff.mp reused).1
  · exact own

/-- What an installation of one tenant does to the loaders: of those that there were before it uses
at most the kept one. -/
structure KeepsToLoader (c c' : Context) : Prop where
  numbered : c'.target.host.Numbered
  kept : ∀ i, c'.named = some i →
    (∃ j, c.named = some j ∧ j.loader = i.loader) ∨ c.target.host.names? i.loader = none
  elsewhere : ∀ loader, c.target.host.names? loader ≠ none →
    (∀ j, c.named = some j → j.loader ≠ loader) →
      c'.target.host.names? loader = c.target.host.names? loader

theorem attemptFor?_eq_some {a : Attempt} (h : c.attemptFor? held source b = some a) :
    a.script = c.nextScript := by
  rw [attemptFor?] at h
  split at h
  · cases h; rfl
  · cases h

/-- An installation keeps to the loader of its context, and leaves the context well housed. -/
theorem install_keepsToLoader (local_ : c.target.Local) (housed : c.Housed) (held : List Artifact)
    (source : Source) (b : Bundle) : c.KeepsToLoader (c.install held source b).2 ∧
      (c.install held source b).2.Housed := by
  obtain ⟨advances, script⟩ := c.install_advances held source b
  have anchored := advances.anchored housed.anchored
  rcases install_cases local_ held source b with ⟨-, same⟩ | ⟨a, d, attempt, makes, installs⟩
  · -- Without an attempt the script goes by, and what serves it serves the next one.
    have names := same.target.names
    refine ⟨⟨same.target.numbered local_.numbered, fun i kept => ?_, fun _ _ _ => names _⟩,
      fun i kept => ?_, fun i kept => ?_, anchored⟩
    · exact .inl ⟨i, same.named.symm.trans kept, rfl⟩
    · have serves := (housed.serves i (same.named.symm.trans kept)).of_names (names i.loader)
      exact serves.mono (script ▸ Nat.le_succ _)
    · rw [same.config]
      exact housed.limits i (same.named.symm.trans kept)
  · obtain ⟨i', defined, defines⟩ := makes.defines
    have fills := defines.fills
    obtain ⟨config, target, -, named⟩ := settle_named (c := d) defines.installer a.bundle
    rw [installs] at script anchored ⊢
    dsimp only at script anchored ⊢
    -- The installer that was taken is put back or lost, but never replaced.
    have kept : ∀ i, (d.settle a.progress a.bundle).named = some i → i = i' := by
      intro i kept
      rw [named, makes.takes.named] at kept
      split at kept
      · exact (Option.some.inj kept).symm
      · split at kept
        · exact (Option.some.inj kept).symm
        · cases kept
    have own : (∃ j, c.named = some j ∧ j.loader = a.installer.loader) ∨
        c.target.host.names? a.installer.loader = none := by
      rcases makes.takes.origin with ⟨reused, -⟩ | ⟨-, unknown, -⟩
      · exact .inl ⟨_, (Option.filter_eq_some_iff.mp reused).1, rfl⟩
      · exact .inr unknown
    refine ⟨⟨target ▸ makes.local_.numbered, fun i same => ?_, fun loader known others => ?_⟩,
      fun i same => ?_, fun i same => ?_, anchored⟩
    · rw [kept i same, fills.loader]
      exact own
    · have ne : loader ≠ a.installer.loader := by
        rintro rfl
        rcases own with ⟨j, same, loader⟩ | unknown
        · exact others j same loader
        · exact known unknown
      rw [target, fills.names, if_neg ne, makes.start, makes.takes.elsewhere loader ne]
    · have serves := makes.takes.serves housed.serves
      rw [← makes.start, ← attemptFor?_eq_some attempt] at serves
      rw [kept i same, target, script, ← attemptFor?_eq_some attempt]
      exact serves.fill fills
    · rw [kept i same, fills.limits, config, makes.takes.config]
      exact makes.takes.limits housed.limits

theorem KeepsToLoader.alike {d' : Context} (h : d.KeepsToLoader d') (before : c.InstallsAlike d)
    (after : d'.InstallsAlike c') : c.KeepsToLoader c' := by
  obtain ⟨numbered, kept, elsewhere⟩ := h
  rw [before.target, before.named] at kept elsewhere
  rw [← after.target] at numbered elsewhere
  rw [← after.named] at kept
  exact ⟨numbered, kept, elsewhere⟩

/-- A compile is no different from its installation. -/
theorem answer_keepsToLoader (local_ : c.target.Local) (housed : c.Housed) (call : Call) :
    c.KeepsToLoader (c.answer call).context ∧ (c.answer call).context.Housed ∧
      c.target.Advances (c.answer call).context.target := by
  rcases c.answer_alike call with ⟨-, same⟩ | ⟨d, b, -, before, after, -⟩
  · have nothing : c.KeepsToLoader c := ⟨local_.numbered, fun i kept => .inl ⟨i, kept, rfl⟩,
      fun _ _ _ => rfl⟩
    refine ⟨nothing.alike ⟨.refl c, rfl, rfl, rfl, rfl, rfl, rfl⟩ same, same.housed housed, ?_⟩
    rw [same.target]
    exact .refl _
  · have local_' : d.target.Local := before.target ▸ local_
    obtain ⟨keeps, housed'⟩ :=
      install_keepsToLoader local_' (before.housed housed) call.held call.source b
    have advances := (d.install_advances call.held call.source b).1.target
    refine ⟨keeps.alike before after, after.housed housed', ?_⟩
    rw [after.target, ← before.target]
    exact advances

/-! ### All tenants -/

/-- No two contexts keep the same loader. -/
def Apart (c d : Context) : Prop :=
  ∀ i j, c.named = some i → d.named = some j → i.loader ≠ j.loader

theorem Apart.symm (h : c.Apart d) : d.Apart c := fun i j kept kept' same =>
  h j i kept' kept same.symm

/-- One tenant leaves the loaders of another one alone. -/
theorem KeepsToLoader.beside (h : c.KeepsToLoader c') (advances : c.target.Advances c'.target)
    (shared : d.target = c.target) (apart : c.Apart d) (housed : d.Housed) :
    (d.sees c'.target).Housed ∧ c'.Apart d := by
  have known : ∀ j, d.named = some j → c.target.host.names? j.loader ≠ none := by
    intro j kept
    obtain ⟨names, known, -⟩ := housed.serves j kept
    rw [← shared, known]
    exact Option.some_ne_none names
  refine ⟨⟨fun j kept => ?_, housed.limits, fun a mem => ?_⟩, fun i j kept kept' same => ?_⟩
  · refine (housed.serves j kept).of_names ?_
    rw [shared]
    exact h.elsewhere j.loader (known j kept) fun i kept' => apart i j kept' kept
  · exact advances.anchors a.id (shared ▸ housed.anchored a mem)
  · rcases h.kept i kept with ⟨i', before, loader⟩ | unknown
    · exact apart i' j before kept' (loader.trans same)
    · exact known j kept' (same ▸ unknown)

/-- What is true of all contexts that share a host. -/
structure Accommodated (cs : List Context) (t : Target) : Prop where
  inOrder : t.failing = []
  honest : t.advertisesIsolation = false
  numbered : t.host.Numbered
  shared : ∀ c ∈ cs, c.target = t
  housed : ∀ c ∈ cs, c.Housed
  apart : cs.Pairwise Apart

theorem Accommodated.local_ (h : Accommodated cs t) (mem : c ∈ cs) : c.target.Local := by
  rw [h.shared c mem]
  exact ⟨h.inOrder, h.numbered⟩

theorem Accommodated.compiled (h : Accommodated (c :: cs) t) (call : Call) :
    Accommodated ((c.answer call).context :: cs.map (·.sees (c.answer call).context.target))
      (c.answer call).context.target := by
  have shared : c.target = t := h.shared c List.mem_cons_self
  obtain ⟨keeps, housed, advances⟩ := answer_keepsToLoader (h.local_ List.mem_cons_self)
    (h.housed c List.mem_cons_self) call
  obtain ⟨apart, others⟩ := List.pairwise_cons.mp h.apart
  have beside : ∀ d ∈ cs, (d.sees (c.answer call).context.target).Housed ∧
      (c.answer call).context.Apart d := fun d mem =>
    keeps.beside advances ((h.shared d (List.mem_cons_of_mem c mem)).trans shared.symm)
      (apart d mem) (h.housed d (List.mem_cons_of_mem c mem))
  refine ⟨?_, ?_, keeps.numbered, ?_, ?_, ?_⟩
  · rw [advances.failing, shared, h.inOrder]
  · rw [advances.advertises, shared, h.honest]
  · refine List.forall_mem_cons.mpr ⟨rfl, fun x mem => ?_⟩
    obtain ⟨d, -, rfl⟩ := List.mem_map.mp mem
    rfl
  · refine List.forall_mem_cons.mpr ⟨housed, fun x mem => ?_⟩
    obtain ⟨d, listed, rfl⟩ := List.mem_map.mp mem
    exact (beside d listed).1
  · refine List.pairwise_cons.mpr ⟨fun x mem => ?_, List.pairwise_map.mpr others⟩
    obtain ⟨d, listed, rfl⟩ := List.mem_map.mp mem
    exact (beside d listed).2

/-- No unit was defined, in any loader or in isolation. -/
structure DefinesNothing (t t' : Target) : Prop where
  unitsIn : ∀ loader, t'.host.unitsIn loader = t.host.unitsIn loader
  isolatedUnits : t'.host.isolatedUnits = t.host.isolatedUnits

/-- The installer by name that a bundle gets: the kept one, or one that has defined nothing yet in a
loader that there was not before. -/
def Gets (c : Context) (i : NamedInstaller) : Prop :=
  c.reusable? = some i ∨
    c.reusable? = none ∧ c.target.host.names? i.loader = none ∧ i.uses = 0 ∧ i.bytes = 0

theorem Takes.gets (takes : c.Takes i d) : c.Gets i := by
  rcases takes.origin with ⟨reused, -⟩ | ⟨none_, unknown, -, uses, bytes, -⟩
  · exact .inl reused
  · exact .inr ⟨none_, unknown, uses, bytes⟩

/-- A bundle that is not to be isolated is refused by the verifier before anything is defined. If
the verifier has no objection, the units before the first obstacle break the installation off if
there is no room for them, and it is refused for the obstacle otherwise. -/
theorem Housed.install_named (housed : c.Housed) (local_ : c.target.Local) (held : List Artifact)
    (byName : (c.mayIsolate source && !b.isLinked) = false) :
    let r := c.install held source b
    ∃ i, c.takeNamed.1 = .ok i ∧ c.Gets i ∧
      (∀ e, c.activeVerifier.bind b.malformed? = some e →
        r.1 = .error (.refused e) ∧ DefinesNothing c.target r.2.target ∧ r.2.named = some i) ∧
      (c.activeVerifier.bind b.malformed? = none → i.Ends c.nextScript [] b.units r.1) := by
  intro r
  let c₁ : Context := { c with nextScript := c.nextScript + 1 }
  obtain ⟨i, taken, takes⟩ := takeNamed_takes (c := c₁) local_
  have chosen : c₁.selectInstaller held source b = (.ok (.named i), c₁.takeNamed.2) := by
    rw [selectInstaller_named (c := c₁) held byName, takeInstaller_eq_ok taken]
  have installs : r = _ := Context.install_named chosen
  rw [installs]
  refine ⟨i, (c.takeNamed_nextScript _).symm.trans taken, takes.gets, fun e rejected => ?_,
    fun accepted => ?_⟩
  · have nothing :=
      Installer.install_rejected (.named i) c₁.takeNamed.2.target c.nextScript rejected
    obtain ⟨-, target, -, named⟩ := settle_named (c := c₁.takeNamed.2)
      (p := ⟨.error (.refused e), .named i, c₁.takeNamed.2.target⟩) rfl b
    have complains : (Setback.refused e).isVerification :=
      Installer.isVerification_of_malformed rejected
    dsimp only at target named
    rw [if_pos complains] at named
    simp only [nothing]
    refine ⟨trivial, ?_, named⟩
    rw [target]
    exact ⟨takes.unitsIn, (takeNamed_leaves c₁).isolatedUnits⟩
  · have ends := (takes.serves housed.serves).install_ends (b := b) takes.local_.inOrder
    rwa [← Installer.install_named_result accepted] at ends

/-- A single unit that is to be isolated is refused by the verifier before it is defined, or by the
host because it has no code, or not at all. -/
theorem Housed.install_isolated (housed : c.Housed) (local_ : c.target.Local)
    (honest : c.target.advertisesIsolation = false) (held : List Artifact)
    (isolated : (c.mayIsolate source && !b.isLinked) = true) :
    let r := c.install held source b
    (∀ e, c.activeVerifier.bind b.malformed? = some e →
      r.1 = .error (.refused e) ∧ DefinesNothing c.target r.2.target ∧ r.2.named = c.named) ∧
    (c.activeVerifier.bind b.malformed? = none → ∀ e, r.1 = .error (.refused e) ↔
      b.main.code = [] ∧ e = .rejected Host.anonymous "empty code") ∧
    ∀ fault, r.1 ≠ .error (.broken fault) := by
  intro r
  obtain ⟨may, single⟩ := Bool.and_eq_true_iff.mp isolated
  have unlinked : b.isLinked = false := by rwa [Bool.not_eq_true'] at single
  obtain ⟨-, -, -, available, -⟩ := mayIsolate_iff.mp may
  have isolation : c.target.host.isolation = true := by
    rwa [Target.isolationAvailable, honest, Bool.false_or] at available
  have passes : .createAnchor ∉ c.target.failing := by
    rw [local_.inOrder]
    exact List.not_mem_nil
  obtain ⟨a, t', anchors, got⟩ := c.anchors.exists_getOrCreate (isAnchored held) source.origin
    passes isolation
  have obtains := AnchorCache.getOrCreate_obtains got
  have installs : r = _ := Context.install_isolated isolated got
  rw [installs]
  refine ⟨fun e rejected => ?_, fun accepted e => ?_,
    Installer.install_isolated_unbroken a t' c.nextScript c.activeVerifier b⟩
  · have nothing := Installer.install_rejected (.isolated a) t' c.nextScript rejected
    simp only [nothing]
    exact ⟨trivial, ⟨obtains.loaders.unitsIn, obtains.isolatedUnits⟩, rfl⟩
  · refine (Installer.install_isolated_eq_refused accepted).trans (Anchor.install_eq_error
      (obtains.target.failing.trans local_.inOrder) (obtains.target.isolation.trans isolation)
      (obtains.known housed.anchored a obtains.cached) unlinked)

end Context
end Scriptorium
