import Scriptorium.Proofs.Context.History
import Scriptorium.Proofs.Context.Restart

/-! Attempts to install by name. What a compile does besides its installation, no later installation
depends on (`Context.answer_alike`). It makes at most one attempt (`Context.attempt?`), and if it
makes none, all loaders stay as they were and so does the kept installer (`Context.SameLoaders`).
The installer of an attempt is the kept one, or else it has a loader that there was not before
(`Context.Takes`). -/

namespace Scriptorium

/-- An installation by name. -/
structure Attempt where
  script : Nat
  bundle : Bundle
  /-- The installer as it was taken. -/
  installer : NamedInstaller
  /-- The target just before the first definition. -/
  start : Target
  /-- How far it came. -/
  progress : Installer.Progress

namespace Attempt

def loader (a : Attempt) : LoaderId := a.installer.loader

def succeeded (a : Attempt) : Bool := a.progress.result.isOk

/-- Whether the loader may take another bundle: all of this one was defined, or the verifier
objected before anything was. -/
def keeps (a : Attempt) : Bool :=
  match a.progress.result with
  | .ok _ => true
  | .error e => e.isVerification

end Attempt

namespace Context

variable {c c' d : Context} {i : NamedInstaller} {a : Attempt}

/-- The attempt that is made for a bundle. -/
def attemptFor? (c : Context) (held : List Artifact) (source : Source) (b : Bundle) :
    Option Attempt :=
  match selectInstaller { c with nextScript := c.nextScript + 1 } held source b with
  | (.ok (.named i), d) =>
    some ⟨c.nextScript, b, i, d.target,
      Installer.install (.named i) d.target c.nextScript d.activeVerifier b⟩
  | _ => none

/-- The bundle that a compile installs, and the context in which it does so. -/
def installation? (c : Context) (call : Call) : Option (Context × Bundle) :=
  let f := c.fingerprintOf call.source
  match c.fromMemory call.held f with
  | (some _, _) => none
  | (none, d) =>
    match fromDisk (c.record? f) call.files f with
    | .error _ => none
    | .ok (some record) => some (d.countPersistentHit, record.bundle)
    | .ok none =>
      match generate call.generator call.source f.strict call.sink.reset with
      | (.error _, _) => none
      | (.ok b, _) => some (d, b)

/-- The attempt that a compile makes. -/
def attempt? (c : Context) (call : Call) : Option Attempt :=
  (c.installation? call).bind fun (d, b) => d.attemptFor? call.held call.source b

def Event.attempt? : Event → Option Attempt
  | .compiled c call => c.attempt? call
  | .cleared => none

/-- All attempts, the last one first. -/
def attempts (log : List Event) : List Attempt := log.filterMap Event.attempt?

/-! ### What a compile does besides -/

/-- All that installations depend on is the same, and so is the count of loaders replaced. -/
structure InstallsAlike (c c' : Context) : Prop extends c.SameSetup c' where
  target : c'.target = c.target
  named : c'.named = c.named
  anchors : c'.anchors = c.anchors
  nextScript : c'.nextScript = c.nextScript
  isolationFailed : c'.isolationFailed = c.isolationFailed
  rotations : c'.stats.rotations = c.stats.rotations

theorem InstallsAlike.trans (h : c.InstallsAlike d) (h' : d.InstallsAlike c') :
    c.InstallsAlike c' :=
  ⟨h.toSameSetup.trans h'.toSameSetup, h'.target.trans h.target, h'.named.trans h.named,
    h'.anchors.trans h.anchors, h'.nextScript.trans h.nextScript,
    h'.isolationFailed.trans h.isolationFailed, h'.rotations.trans h.rotations⟩

theorem installsAlike_fromMemory (c : Context) (held : List Artifact) (f : Fingerprint) :
    c.InstallsAlike (c.fromMemory held f).2 := by
  rw [fromMemory]
  split <;> exact ⟨⟨rfl, rfl, rfl, rfl⟩, rfl, rfl, rfl, rfl, rfl, rfl⟩

/-- What a compile comes to tells how its installation ended. -/
inductive Concludes : Except Setback Installed → Outcome → Prop
  | failed (e : InstallError) : Concludes (.error (.refused e)) (.failed (.installation e))
  | brokenOff (fault : Fault) : Concludes (.error (.broken fault)) (.broken fault)
  | done {a : Artifact} {installed : Installed} : a.installed = installed →
      Concludes (.ok installed) (.done a)
  | broken (installed : Installed) (fault : Fault) : Concludes (.ok installed) (.broken fault)

theorem giveUp_concludes (c : Context) (s : Setback) :
    c.InstallsAlike (c.giveUp s).2 ∧ Concludes (.error s) (c.giveUp s).1 := by
  cases s with
  | refused e => exact ⟨⟨⟨rfl, rfl, rfl, rfl⟩, rfl, rfl, rfl, rfl, rfl, rfl⟩, .failed e⟩
  | broken fault => exact ⟨⟨⟨rfl, rfl, rfl, rfl⟩, rfl, rfl, rfl, rfl, rfl, rfl⟩, .brokenOff fault⟩

theorem restore_concludes (c : Context) (held : List Artifact) (source : Source) (f : Fingerprint)
    (record : Record) :
    let installs := c.countPersistentHit.install held source record.bundle
    let restored := c.restore held source f record
    installs.2.InstallsAlike restored.2 ∧ Concludes installs.1 restored.1 := by
  intro installs restored
  simp only [installs, restored, restore]
  split
  · next s d ended =>
    rw [ended]
    exact d.giveUp_concludes s
  · next installed d done =>
    rw [done]
    split
    · exact ⟨⟨⟨rfl, rfl, rfl, rfl⟩, rfl, rfl, rfl, rfl, rfl, rfl⟩, .broken installed _⟩
    · next d' reserved =>
      rw [reserve] at reserved
      split at reserved
      · cases reserved
        exact ⟨⟨⟨rfl, rfl, rfl, rfl⟩, rfl, rfl, rfl, rfl, rfl, rfl⟩, .done rfl⟩
      · cases reserved

theorem installsAlike_persist (c : Context) (files : FileTree)
    (place : Option (RecordStore × RecordKey)) (f : Fingerprint) (b : Bundle) (id : UInt64) :
    c.InstallsAlike (c.persist files place f b id).1 := by
  rcases c.persist_cases files place f b id with same | same <;> rw [same]
  · exact ⟨⟨rfl, rfl, rfl, rfl⟩, rfl, rfl, rfl, rfl, rfl, rfl⟩
  · exact ⟨⟨rfl, rfl, rfl, rfl⟩, rfl, rfl, rfl, rfl, rfl, rfl⟩

theorem establish_concludes (c : Context) (held : List Artifact) (files : FileTree)
    (source : Source) (f : Fingerprint) (place : Option (RecordStore × RecordKey)) (b : Bundle) :
    let installs := c.install held source b
    let established := c.establish held files source f place b
    installs.2.InstallsAlike established.2.1 ∧ Concludes installs.1 established.1 := by
  intro installs established
  simp only [installs, established, establish]
  split
  · next s d ended =>
    rw [ended]
    exact d.giveUp_concludes s
  · next installed d done =>
    rw [done]
    have counted :
        d.InstallsAlike (countFresh { d with nextCompilation := d.nextCompilation + 1 }) :=
      ⟨⟨rfl, rfl, rfl, rfl⟩, rfl, rfl, rfl, rfl, rfl, rfl⟩
    have persisted := counted.trans (installsAlike_persist _ files place f b d.nextCompilation)
    exact ⟨persisted.trans ⟨⟨rfl, rfl, rfl, rfl⟩, rfl, rfl, rfl, rfl, rfl, rfl⟩, .done rfl⟩

/-- A compile either installs nothing, or it is an installation as far as installers are
concerned. -/
theorem answer_alike (c : Context) (call : Call) :
    (c.installation? call = none ∧ c.InstallsAlike (c.answer call).context) ∨
      ∃ d b, c.installation? call = some (d, b) ∧ c.InstallsAlike d ∧
        (d.install call.held call.source b).2.InstallsAlike (c.answer call).context ∧
        Concludes (d.install call.held call.source b).1 (c.answer call).outcome := by
  have looked := installsAlike_fromMemory c call.held (c.fingerprintOf call.source)
  have compiles := c.answer_compiles call
  simp only [installation?]
  generalize c.answer call = r at compiles ⊢
  cases compiles with
  | remembered hit =>
    rw [hit] at looked
    rw [hit]
    exact .inl ⟨rfl, looked.trans ⟨⟨rfl, rfl, rfl, rfl⟩, rfl, rfl, rfl, rfl, rfl, rfl⟩⟩
  | broken miss loaded =>
    rw [miss] at looked
    rw [miss, loaded]
    exact .inl ⟨rfl, looked⟩
  | refused miss loaded generated =>
    rw [miss] at looked
    rw [miss, loaded, generated]
    exact .inl ⟨rfl, looked.trans ⟨⟨rfl, rfl, rfl, rfl⟩, rfl, rfl, rfl, rfl, rfl, rfl⟩⟩
  | @restored d record miss loaded =>
    rw [miss] at looked
    rw [miss, loaded]
    have counted : d.InstallsAlike d.countPersistentHit :=
      ⟨⟨rfl, rfl, rfl, rfl⟩, rfl, rfl, rfl, rfl, rfl, rfl⟩
    exact .inr ⟨_, _, rfl, looked.trans counted, restore_concludes ..⟩
  | established miss loaded generated =>
    rw [miss] at looked
    rw [miss, loaded, generated]
    exact .inr ⟨_, _, rfl, looked, establish_concludes ..⟩

/-- The loaders are the same, and so is the kept installer. -/
structure SameLoaders (c c' : Context) : Prop where
  config : c'.config = c.config
  named : c'.named = c.named
  rotations : c'.stats.rotations = c.stats.rotations
  target : c.target.SameLoaders c'.target

theorem SameLoaders.trans (h : c.SameLoaders d) (h' : d.SameLoaders c') : c.SameLoaders c' :=
  ⟨h'.config.trans h.config, h'.named.trans h.named, h'.rotations.trans h.rotations,
    h.target.trans h'.target⟩

theorem SameLoaders.local_ (h : c.SameLoaders c') (local_ : c.target.Local) : c'.target.Local :=
  ⟨h.target.failing.trans local_.inOrder, h.target.numbered local_.numbered⟩

theorem sameLoaders_of_eq (config : c'.config = c.config) (named : c'.named = c.named)
    (rotations : c'.stats.rotations = c.stats.rotations) (target : c'.target = c.target) :
    c.SameLoaders c' :=
  ⟨config, named, rotations, target ▸ .refl c.target⟩

theorem InstallsAlike.sameLoaders (h : c.InstallsAlike c') : c.SameLoaders c' :=
  sameLoaders_of_eq h.config h.named h.rotations h.target

/-- A compile either installs nothing and leaves all loaders alone, or it is an installation as far
as loaders are concerned. -/
theorem answer_installs (c : Context) (call : Call) :
    (c.installation? call = none ∧ c.SameLoaders (c.answer call).context) ∨
      ∃ d b, c.installation? call = some (d, b) ∧ c.SameLoaders d ∧
        (d.install call.held call.source b).2.SameLoaders (c.answer call).context ∧
        Concludes (d.install call.held call.source b).1 (c.answer call).outcome := by
  rcases c.answer_alike call with ⟨nothing, same⟩ | ⟨d, b, bundle, before, after, concludes⟩
  · exact .inl ⟨nothing, same.sameLoaders⟩
  · exact .inr ⟨d, b, bundle, before.sameLoaders, after.sameLoaders, concludes⟩

/-! ### The choice of a loader -/

/-- What a context is like once its installer by name was taken out. -/
structure Takes (c : Context) (i : NamedInstaller) (d : Context) : Prop where
  config : d.config = c.config
  local_ : d.target.Local
  named : d.named = none
  rotations : d.stats.rotations =
    c.stats.rotations + if c.named.any (·.isExhausted) then 1 else 0
  elsewhere : ∀ other, other ≠ i.loader → d.target.host.names? other = c.target.host.names? other
  origin : (c.reusable? = some i ∧
      d.target.host.names? i.loader = c.target.host.names? i.loader) ∨
    (c.reusable? = none ∧ c.target.host.names? i.loader = none ∧
      d.target.host.names? i.loader = some [] ∧ i.uses = 0 ∧ i.bytes = 0 ∧
      i.limits = c.config.installer.limits)

theorem takeNamed_takes (local_ : c.target.Local) :
    ∃ i, c.takeNamed.1 = .ok i ∧ c.Takes i c.takeNamed.2 := by
  cases kept : c.reusable? with
  | some i =>
    obtain ⟨same, usable⟩ := Option.filter_eq_some_iff.mp kept
    have unworn : i.isExhausted = false := by
      simp only [Bool.and_eq_true, Bool.not_eq_true'] at usable
      exact usable.1
    rw [takeNamed, kept]
    refine ⟨i, rfl, rfl, local_, rfl, ?_, fun _ _ => rfl, .inl ⟨kept, rfl⟩⟩
    rw [same, Option.any_some, unworn]
    rfl
  | none =>
    obtain ⟨t', made, inOrder, numbered, unused, names⟩ :=
      NamedInstaller.new_opens local_.inOrder local_.numbered c.config.installer.limits
    rw [takeNamed, kept]
    dsimp only
    rw [made]
    refine ⟨_, rfl, rfl, ⟨inOrder, numbered⟩, rfl, rfl, fun other ne => ?_,
      .inr ⟨kept, unused, ?_, rfl, rfl, rfl⟩⟩
    · exact (names other).trans (if_neg ne)
    · exact (names _).trans (if_pos rfl)

/-- An installer is taken without defining anything. -/
theorem Takes.unitsIn (takes : c.Takes i d) (loader : LoaderId) :
    d.target.host.unitsIn loader = c.target.host.unitsIn loader := by
  rw [Host.unitsIn, Host.unitsIn]
  by_cases own : loader = i.loader
  · subst own
    rcases takes.origin with ⟨-, names⟩ | ⟨-, unknown, names, -⟩
    · rw [names]
    · rw [names, unknown]
      rfl
  · rw [takes.elsewhere loader own]

/-- A single unit may be isolated; for everything else a loader is taken. -/
theorem selectInstaller_cases (local_ : c.target.Local) (held : List Artifact) (source : Source)
    (b : Bundle) :
    (∃ a d, c.selectInstaller held source b = (.ok (.isolated a), d) ∧ c.SameLoaders d) ∨
      ∃ i d, c.selectInstaller held source b = (.ok (.named i), d) ∧ c.Takes i d := by
  have taken : ∀ {c : Context}, c.target.Local →
      ∃ i d, c.takeInstaller = (.ok (.named i), d) ∧ c.Takes i d := by
    intro c local_
    obtain ⟨i, ok, takes⟩ := takeNamed_takes local_
    exact ⟨i, _, by simp only [takeInstaller, ok, Except.map], takes⟩
  rw [selectInstaller]
  split
  · split
    · next a target anchors got =>
      refine .inl ⟨a, _, rfl, rfl, rfl, rfl, ?_⟩
      simp only [AnchorCache.getOrCreate] at got
      split at got
      · cases got
        exact .refl _
      · split at got
        · cases got
        · next created =>
          cases got
          exact Target.sameLoaders_createAnchor created
    · next anchors _ =>
      obtain ⟨i, d, chosen, takes⟩ :=
        taken (c := { c with anchors, isolationFailed := true }) local_
      exact .inr ⟨i, d, chosen, takes.config, takes.local_, takes.named, takes.rotations,
        takes.elsewhere, takes.origin⟩
  · exact .inr (taken local_)

/-! ### The end of an installation -/

theorem settle_named {p : Installer.Progress} (installer : p.installer = .named i) (b : Bundle) :
    (c.settle p b).config = c.config ∧ (c.settle p b).target = p.target ∧
      (c.settle p b).stats.rotations = c.stats.rotations ∧
      (c.settle p b).named =
        match p.result with
        | .ok _ => some i
        | .error e => if e.isVerification then some i else c.named := by
  obtain ⟨result, _, target⟩ := p
  cases installer
  cases result with
  | ok installed => exact ⟨rfl, rfl, rfl, rfl⟩
  | error s =>
    rw [settle_named_error]
    exact ⟨rfl, rfl, rfl, rfl⟩

theorem settle_isolated {p : Installer.Progress} {a : Anchor}
    (installer : p.installer = .isolated a) (b : Bundle) :
    (c.settle p b).config = c.config ∧ (c.settle p b).target = p.target ∧
      (c.settle p b).stats.rotations = c.stats.rotations ∧ (c.settle p b).named = c.named := by
  obtain ⟨result, _, target⟩ := p
  cases installer
  cases result <;> exact ⟨rfl, rfl, rfl, rfl⟩

/-- The attempt is made with an installer that is taken out of a context. -/
structure Makes (c : Context) (a : Attempt) (d : Context) : Prop where
  takes : c.Takes a.installer d
  start : a.start = d.target
  progress : ∃ verifier, a.progress =
    Installer.install (.named a.installer) a.start a.script verifier a.bundle

theorem Makes.defines (h : c.Makes a d) : ∃ i' defined,
    a.progress.Defines a.script a.bundle a.installer a.start i' defined := by
  obtain ⟨verifier, progress⟩ := h.progress
  rw [progress]
  exact Installer.install_defines ..

theorem Makes.local_ (h : c.Makes a d) : a.progress.target.Local := by
  obtain ⟨i', defined, defines⟩ := h.defines
  have before := h.takes.local_
  rw [← h.start] at before
  exact ⟨defines.fills.failing.trans before.inOrder, defines.fills.numbered before.numbered⟩

/-- An installation leaves all loaders alone, or it makes an attempt and settles it. -/
theorem install_cases (local_ : c.target.Local) (held : List Artifact) (source : Source)
    (b : Bundle) :
    (c.attemptFor? held source b = none ∧ c.SameLoaders (c.install held source b).2) ∨
      ∃ a d, c.attemptFor? held source b = some a ∧ c.Makes a d ∧
        c.install held source b = (a.progress.result, d.settle a.progress a.bundle) := by
  rw [attemptFor?, install]
  rcases selectInstaller_cases (c := { c with nextScript := c.nextScript + 1 }) local_ held source b
    with ⟨a, d, chosen, same⟩ | ⟨i, d, chosen, takes⟩
  · rw [chosen]
    obtain ⟨target, installer⟩ :=
      Installer.sameLoaders_install a d.target c.nextScript d.activeVerifier b
    obtain ⟨config, target', rotations, named⟩ := settle_isolated (c := d) installer b
    refine .inl ⟨rfl, config.trans same.config, named.trans same.named,
      rotations.trans same.rotations, ?_⟩
    rw [target']
    exact same.target.trans target
  · rw [chosen]
    have takes' : c.Takes i d := ⟨takes.config, takes.local_, takes.named, takes.rotations,
      takes.elsewhere, takes.origin⟩
    exact .inr ⟨_, d, rfl, ⟨takes', rfl, _, rfl⟩, rfl⟩

theorem SameLoaders.makes (h : c.SameLoaders c') (makes : c'.Makes a d) : c.Makes a d := by
  have takes := makes.takes
  have reusable : c'.reusable? = c.reusable? := by
    rw [reusable?, reusable?, h.named, h.config]
  have names := h.target.names
  have origin := takes.origin
  rw [reusable, names, h.config] at origin
  refine ⟨⟨takes.config.trans h.config, takes.local_, takes.named, ?_, fun other ne => ?_, origin⟩,
    makes.start, makes.progress⟩
  · rw [takes.rotations, h.rotations, h.named]
  · rw [takes.elsewhere other ne, names]

/-- A compile leaves all loaders alone, or it makes an attempt and settles it. -/
theorem answer_cases (local_ : c.target.Local) (call : Call) :
    (c.attempt? call = none ∧ c.SameLoaders (c.answer call).context) ∨
      ∃ a d, c.attempt? call = some a ∧ c.Makes a d ∧
        (d.settle a.progress a.bundle).SameLoaders (c.answer call).context ∧
        Concludes a.progress.result (c.answer call).outcome := by
  rw [attempt?]
  rcases c.answer_installs call with ⟨nothing, same⟩ | ⟨c₁, b, bundle, before, after, concludes⟩
  · rw [nothing]
    exact .inl ⟨rfl, same⟩
  · rw [bundle, Option.bind_some]
    rcases install_cases (before.local_ local_) call.held call.source b with
      ⟨isolated, same⟩ | ⟨a, d, attempt, makes, installs⟩
    · exact .inl ⟨isolated, before.trans (same.trans after)⟩
    · rw [installs] at after concludes
      exact .inr ⟨a, d, attempt, before.makes makes, after, concludes⟩

end Context
end Scriptorium
