import Scriptorium.Context.Install
import Scriptorium.Proofs.Install.Refusal

/-! What an installation means for its context. It leaves the caches alone (`Context.Keeps`), and it
is broken off only if the installer by name that is taken has no room in its counts
(`Context.RoomFor`). A context with a store never isolates, and as long as its target is in order it
stays ready for every bundle that can be defined at all (`Context.Ready`): the loader that it keeps
has names of earlier scripts only. -/

namespace Scriptorium.Context

variable {c c' : Context} {held : List Artifact} {source : Source} {b : Bundle}
  {installed : Installed}

/-! ### What stays -/

/-- What a context was made with is the same. -/
structure SameSetup (c c' : Context) : Prop where
  config : c'.config = c.config
  version : c'.version = c.version
  verifier : c'.verifier = c.verifier
  store : c'.store = c.store

theorem SameSetup.refl (c : Context) : c.SameSetup c := ⟨rfl, rfl, rfl, rfl⟩

theorem SameSetup.trans {d : Context} (h : c.SameSetup d) (h' : d.SameSetup c') : c.SameSetup c' :=
  ⟨h'.config.trans h.config, h'.version.trans h.version, h'.verifier.trans h.verifier,
    h'.store.trans h.store⟩

/-- The artifacts in memory and the count of failures to persist are the same as well. -/
structure Keeps (c c' : Context) : Prop extends c.SameSetup c' where
  memory : c'.memory = c.memory
  persistFailures : c'.stats.persistFailures = c.stats.persistFailures

theorem Keeps.trans {d : Context} (h : c.Keeps d) (h' : d.Keeps c') : c.Keeps c' :=
  ⟨h.toSameSetup.trans h'.toSameSetup, h'.memory.trans h.memory,
    h'.persistFailures.trans h.persistFailures⟩

theorem takeNamed_keeps (c : Context) : c.Keeps c.takeNamed.2 := by
  rw [takeNamed]
  split
  · exact ⟨⟨rfl, rfl, rfl, rfl⟩, rfl, rfl⟩
  · dsimp only
    split <;> exact ⟨⟨rfl, rfl, rfl, rfl⟩, rfl, rfl⟩

theorem selectInstaller_keeps (c : Context) (held : List Artifact) (source : Source) (b : Bundle) :
    c.Keeps (c.selectInstaller held source b).2 := by
  rw [selectInstaller]
  split
  · split
    · exact ⟨⟨rfl, rfl, rfl, rfl⟩, rfl, rfl⟩
    · next anchors _ =>
      have before : c.Keeps { c with anchors, isolationFailed := true } :=
        ⟨⟨rfl, rfl, rfl, rfl⟩, rfl, rfl⟩
      exact before.trans (takeNamed_keeps _)
  · exact takeNamed_keeps c

theorem settle_keeps (c : Context) (p : Installer.Progress) (b : Bundle) :
    c.Keeps (c.settle p b) := by
  rw [settle]
  dsimp only
  split <;> exact ⟨⟨rfl, rfl, rfl, rfl⟩, rfl, rfl⟩

/-- After a setback the installer by name is kept if it was the verifier that objected. -/
theorem settle_named_error (c : Context) (s : Setback) (i : NamedInstaller) (target : Target)
    (b : Bundle) : c.settle ⟨.error s, .named i, target⟩ b =
      { c with target, named := if s.isVerification then some i else c.named } := by
  cases s with
  | refused e => cases e <;> rfl
  | broken fault => rfl

theorem install_keeps (c : Context) (held : List Artifact) (source : Source) (b : Bundle) :
    c.Keeps (c.install held source b).2 := by
  have counted : c.Keeps { c with nextScript := c.nextScript + 1 } :=
    ⟨⟨rfl, rfl, rfl, rfl⟩, rfl, rfl⟩
  have selected := counted.trans (selectInstaller_keeps _ held source b)
  rw [install]
  dsimp only
  split
  · next failed => rw [failed] at selected; exact selected
  · next chosen => rw [chosen] at selected; exact selected.trans (settle_keeps _ _ b)

theorem install_eq_ok (h : (c.install held source b).1 = .ok installed) : installed.Holds b := by
  rw [install] at h
  dsimp only at h
  split at h
  · cases h
  · exact Installer.install_eq_ok h

/-! ### Room in the counts -/

/-- The installer by name that a bundle would get has room for these units in its counts. -/
def RoomFor (c : Context) (us : List CodeUnit) : Prop :=
  ∀ i, c.takeNamed.1 = .ok i → i.RoomFor us

theorem takeNamed_fst (c : Context) : c.takeNamed.1 =
    match c.reusable? with
    | some i => .ok i
    | none => (NamedInstaller.new c.target c.config.installer.limits).map (·.1) := by
  rw [takeNamed]
  cases c.reusable? with
  | some i => rfl
  | none =>
    dsimp only
    cases NamedInstaller.new c.target c.config.installer.limits <;> rfl

/-- The installer that is taken depends on the kept one and on what makes a new one. -/
theorem takeNamed_congr (config : c'.config = c.config) (target : c'.target = c.target)
    (named : c'.named = c.named) : c'.takeNamed.1 = c.takeNamed.1 := by
  rw [takeNamed_fst, takeNamed_fst, reusable?, reusable?, config, target, named]

theorem takeNamed_nextScript (c : Context) (nextScript : Nat) :
    (takeNamed { c with nextScript }).1 = c.takeNamed.1 := takeNamed_congr rfl rfl rfl

theorem roomFor_congr (config : c'.config = c.config) (target : c'.target = c.target)
    (named : c'.named = c.named) (us : List CodeUnit) : c'.RoomFor us ↔ c.RoomFor us := by
  rw [RoomFor, RoomFor, takeNamed_congr config target named]

theorem selectInstaller_named_eq {i : NamedInstaller} {d : Context}
    (chosen : c.selectInstaller held source b = (.ok (.named i), d)) : c.takeNamed.1 = .ok i := by
  have taken : ∀ c : Context, c.takeInstaller.1 = .ok (.named i) → c.takeNamed.1 = .ok i := by
    intro c taken
    rw [takeInstaller] at taken
    dsimp only at taken
    cases got : c.takeNamed.1 with
    | error e => rw [got] at taken; cases taken
    | ok j => rw [got] at taken; cases taken; rfl
  rw [selectInstaller] at chosen
  split at chosen
  · split at chosen
    · cases chosen
    · next anchors _ =>
      have same : (takeNamed { c with anchors, isolationFailed := true }).1 = c.takeNamed.1 :=
        takeNamed_congr rfl rfl rfl
      exact same.symm.trans (taken _ (congrArg Prod.fst chosen))
  · exact taken c (congrArg Prod.fst chosen)

/-- An installation is broken off only if there is no room for the units of its bundle. -/
theorem install_eq_broken {fault : Fault}
    (broken : (c.install held source b).1 = .error (.broken fault)) :
    fault = .addOverflow ∧ ¬ c.RoomFor b.units := by
  rw [install] at broken
  dsimp only at broken
  split at broken
  · cases broken
  · next i d chosen =>
    cases i with
    | isolated a => exact absurd broken (Installer.install_isolated_unbroken _ _ _ _ _ fault)
    | named i =>
      obtain ⟨overflow, full⟩ := Installer.install_named_eq_broken broken
      have taken := (c.takeNamed_nextScript _).symm.trans (selectInstaller_named_eq chosen)
      exact ⟨overflow, fun room => full (room i taken)⟩

/-! ### Contexts with a store -/

/-- The target is in order, and a kept installer can take the next script. -/
structure Ready (c : Context) : Prop where
  inOrder : c.target.failing = []
  numbered : c.target.host.Numbered
  serves : ∀ i, c.named = some i → i.Serves c.target c.nextScript
  limits : ∀ i, c.named = some i → i.limits = c.config.installer.limits

theorem takeNamed_serves {next : Nat} (inOrder : c.target.failing = [])
    (numbered : c.target.host.Numbered) (serves : ∀ i, c.named = some i → i.Serves c.target next)
    (limits : ∀ i, c.named = some i → i.limits = c.config.installer.limits) :
    ∃ i, c.takeNamed.1 = .ok i ∧ i.Serves c.takeNamed.2.target next ∧
      i.limits = c.config.installer.limits ∧
      c.takeNamed.2.target.failing = [] ∧ c.takeNamed.2.target.host.Numbered ∧
      c.takeNamed.2.named = none ∧ c.takeNamed.2.nextScript = c.nextScript := by
  cases kept : c.reusable? with
  | some i =>
    have same : c.named = some i := (Option.filter_eq_some_iff.mp kept).1
    rw [takeNamed, kept]
    exact ⟨i, rfl, serves i same, limits i same, inOrder, numbered, rfl, rfl⟩
  | none =>
    obtain ⟨i, t', made, limits', inOrder', numbered', serves'⟩ :=
      NamedInstaller.new_eq_ok inOrder numbered c.config.installer.limits
    rw [takeNamed, kept]
    dsimp only
    rw [made]
    exact ⟨i, rfl, serves' next, limits', inOrder', numbered', rfl, rfl⟩

theorem selectInstaller_of_store {store : RecordStore} (h : c.store = some store) :
    c.selectInstaller held source b = c.takeInstaller := by
  rw [selectInstaller, mayIsolate, h]
  rfl

/-- With a store, a bundle is defined by name in a loader that serves the script. -/
private theorem install_of_store {store : RecordStore} (held : List Artifact) (source : Source)
    (b : Bundle) (ready : c.Ready) (h : c.store = some store) :
    ∃ i c₁, c.takeNamed.1 = .ok i ∧ i.Serves c₁.target c.nextScript ∧
      i.limits = c.config.installer.limits ∧
      c₁.target.failing = [] ∧ c₁.target.host.Numbered ∧ c₁.named = none ∧
      c₁.nextScript = c.nextScript + 1 ∧ c.Keeps c₁ ∧
      c.install held source b =
        let p := Installer.install (.named i) c₁.target c.nextScript c₁.activeVerifier b
        (p.result, c₁.settle p b) := by
  have counted : c.Keeps { c with nextScript := c.nextScript + 1 } :=
    ⟨⟨rfl, rfl, rfl, rfl⟩, rfl, rfl⟩
  obtain ⟨i, taken, serves, limits, inOrder, numbered, none_, script⟩ :=
    takeNamed_serves (c := { c with nextScript := c.nextScript + 1 }) ready.inOrder ready.numbered
      ready.serves ready.limits
  refine ⟨i, _, (c.takeNamed_nextScript _).symm.trans taken, serves, limits, inOrder, numbered,
    none_, script, counted.trans (takeNamed_keeps _), ?_⟩
  rw [install, selectInstaller_of_store (c := { c with nextScript := c.nextScript + 1 }) h,
    takeInstaller]
  simp only [taken, Except.map]

/-- The installer is kept if all of the bundle was defined or nothing was. -/
private theorem settle_ready {p : Installer.Progress} {i : NamedInstaller} (none_ : c.named = none)
    (installer : p.installer = .named i) (serves : i.Serves p.target c.nextScript)
    (limits : i.limits = c.config.installer.limits) (inOrder : p.target.failing = [])
    (numbered : p.target.host.Numbered) : (c.settle p b).Ready := by
  obtain ⟨result, _, target⟩ := p
  cases installer
  have kept : ∀ {P : NamedInstaller → Prop}, P i → ∀ j, some i = some j → P j :=
    fun holds j same => Option.some.inj same ▸ holds
  cases result with
  | ok installed => exact ⟨inOrder, numbered, kept serves, kept limits⟩
  | error s =>
    rw [settle_named_error, none_]
    cases s.isVerification with
    | true => exact ⟨inOrder, numbered, kept serves, kept limits⟩
    | false => exact ⟨inOrder, numbered, nofun, nofun⟩

theorem install_ready {store : RecordStore} (held : List Artifact) (source : Source) (b : Bundle)
    (ready : c.Ready) (h : c.store = some store) : (c.install held source b).2.Ready := by
  obtain ⟨i, c₁, -, serves, limits, inOrder, numbered, none_, script, keeps, installs⟩ :=
    install_of_store held source b ready h
  obtain ⟨i', defined, defines⟩ :=
    Installer.install_defines i c₁.target c.nextScript c₁.activeVerifier b
  have fills := defines.fills
  rw [installs]
  refine settle_ready none_ defines.installer ?_ ?_ (fills.failing.trans inOrder)
    (fills.numbered numbered)
  · rw [script]
    exact serves.fill fills
  · rw [fills.limits, limits, keeps.config]

/-- With a store, what was installed was defined by name, and can be again. -/
theorem install_byName {store : RecordStore} (ready : c.Ready) (h : c.store = some store)
    (ok : (c.install held source b).1 = .ok installed) : installed.ByName ∧ b.Definable := by
  obtain ⟨i, c₁, -, serves, -, inOrder, -, -, -, -, installs⟩ :=
    install_of_store held source b ready h
  rw [installs] at ok
  simp only [Installer.install] at ok
  split at ok
  · cases ok
  · have ends := serves.install_ends (b := b) inOrder
    rw [show (i.install c₁.target c.nextScript b).result = .ok installed from ok] at ends
    exact ⟨(NamedInstaller.install_eq_ok ok).2, ends.definable rfl⟩

end Scriptorium.Context
