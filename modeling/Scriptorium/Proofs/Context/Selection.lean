import Scriptorium.Proofs.Context.Attempt
import Scriptorium.Proofs.Install.Refusal

/-! The choice between the two kinds of installers. A bundle of one unit is isolated if its context
may isolate and gets an anchor (`Context.install_isolated`); otherwise it is defined by name
(`Context.install_named`). Only an anchor that is refused, or an isolated installation that fails,
ends isolation in its context. -/

namespace Scriptorium.Context

variable {c d : Context} {held : List Artifact} {source : Source} {b : Bundle} {i : NamedInstaller}
  {a : Anchor} {t : Target} {anchors : AnchorCache} {e : InstallError}

theorem mayIsolate_iff : c.mayIsolate source = true ↔
    c.store = none ∧ c.config.compile.lazy = true ∧ c.isolationFailed = false ∧
      c.target.isolationAvailable = true ∧
      c.config.installer.allowsIsolation source.length = true := by
  simp [mayIsolate, and_assoc]

theorem InstallsAlike.mayIsolate (h : c.InstallsAlike d) (source : Source) :
    d.mayIsolate source = c.mayIsolate source := by
  rw [Context.mayIsolate, Context.mayIsolate, h.store, h.config, h.isolationFailed, h.target]

theorem new_isolation {config : Config} {version : String} {verifier : Option Verifier}
    {files files' : FileTree}
    (made : Context.new config version t verifier files = .ok (c, files')) :
    c.anchors = .empty ∧ c.isolationFailed = false := by
  obtain ⟨memory, -, made⟩ := bind_eq_ok.mp made
  cases made
  exact ⟨rfl, rfl⟩

/-! ### Taking a loader -/

/-- What isolation depends on is the same, and all anchors are known still. -/
structure LeavesIsolation (c d : Context) : Prop where
  anchors : d.anchors = c.anchors
  nextScript : d.nextScript = c.nextScript
  isolationFailed : d.isolationFailed = c.isolationFailed
  target : c.target.Advances d.target
  isolatedUnits : d.target.host.isolatedUnits = c.target.host.isolatedUnits

theorem takeNamed_leaves (c : Context) : c.LeavesIsolation c.takeNamed.2 := by
  rw [takeNamed]
  split
  · exact ⟨rfl, rfl, rfl, .refl _, rfl⟩
  · dsimp only
    split
    · exact ⟨rfl, rfl, rfl, .refl _, rfl⟩
    · next i t made =>
      refine ⟨rfl, rfl, rfl, (NamedInstaller.new_sameAnchors made).advances, ?_⟩
      simp only [NamedInstaller.new, Target.createLoader, Target.pass] at made
      split at made
      · cases made
      · cases made
        rfl

/-- A target that makes loaders has one for every bundle. -/
theorem exists_takeNamed (passes : .createLoader ∉ c.target.failing) :
    ∃ i, c.takeNamed.1 = .ok i := by
  rw [takeNamed]
  split
  · exact ⟨_, rfl⟩
  · dsimp only
    rw [NamedInstaller.new, Target.createLoader, Target.pass, if_neg passes]
    exact ⟨_, rfl⟩

/-! ### The end of an installation -/

theorem settle_leaves (p : Installer.Progress) (b : Bundle) :
    (c.settle p b).anchors = c.anchors ∧ (c.settle p b).nextScript = c.nextScript ∧
      (c.settle p b).target = p.target := by
  obtain ⟨result, installer, target⟩ := p
  cases installer with
  | named i =>
    cases result with
    | ok installed => exact ⟨rfl, rfl, rfl⟩
    | error s =>
      rw [settle_named_error]
      exact ⟨rfl, rfl, rfl⟩
  | isolated a => cases result <;> exact ⟨rfl, rfl, rfl⟩

theorem isolationFailed_settle_named {p : Installer.Progress} (installer : p.installer = .named i)
    (b : Bundle) : (c.settle p b).isolationFailed = c.isolationFailed := by
  obtain ⟨result, _, target⟩ := p
  cases installer
  cases result with
  | ok installed => rfl
  | error s => rw [settle_named_error]

/-- The end of an isolated installation is the end of isolation if it failed. -/
theorem isolationFailed_settle_isolated {p : Installer.Progress}
    (installer : p.installer = .isolated a) (b : Bundle) :
    (c.settle p b).isolationFailed = (c.isolationFailed || !p.result.isOk) := by
  obtain ⟨result, _, target⟩ := p
  cases installer
  cases result with
  | ok installed => exact (Bool.or_false _).symm
  | error e => exact (Bool.or_true _).symm

/-! ### Either way -/

/-- A context that may isolate and gets an anchor isolates a single unit. -/
theorem selectInstaller_isolated (isolates : (c.mayIsolate source && !b.isLinked) = true)
    (got : c.anchors.getOrCreate (isAnchored held) c.target source.origin = (.ok (a, t), anchors)) :
    c.selectInstaller held source b = (.ok (.isolated a), { c with anchors, target := t }) := by
  rw [selectInstaller, if_pos isolates, got]

/-- Without an anchor it defines the unit by name and ends isolation. -/
theorem selectInstaller_refused (isolates : (c.mayIsolate source && !b.isLinked) = true)
    (got : c.anchors.getOrCreate (isAnchored held) c.target source.origin = (.error e, anchors)) :
    c.selectInstaller held source b =
      takeInstaller { c with anchors, isolationFailed := true } := by
  rw [selectInstaller, if_pos isolates, got]

/-- A bundle that is not to be isolated is defined by name. -/
theorem selectInstaller_named (held : List Artifact)
    (not : (c.mayIsolate source && !b.isLinked) = false) :
    c.selectInstaller held source b = c.takeInstaller := by
  rw [selectInstaller, if_neg (Bool.eq_false_iff.mp not)]

theorem takeInstaller_eq_ok (taken : c.takeNamed.1 = .ok i) :
    c.takeInstaller = (.ok (.named i), c.takeNamed.2) := by
  rw [takeInstaller]
  simp only [taken, Except.map]

theorem install_isolated (isolates : (c.mayIsolate source && !b.isLinked) = true)
    (got : c.anchors.getOrCreate (isAnchored held) c.target source.origin = (.ok (a, t), anchors)) :
    c.install held source b =
      let p := Installer.install (.isolated a) t c.nextScript c.activeVerifier b
      (p.result, settle { c with nextScript := c.nextScript + 1, anchors, target := t } p b) := by
  rw [install,
    selectInstaller_isolated (c := { c with nextScript := c.nextScript + 1 }) isolates got]
  rfl

/-- A bundle for which a loader is taken is defined there. -/
theorem install_named
    (chosen : selectInstaller { c with nextScript := c.nextScript + 1 } held source b =
      (.ok (.named i), d)) :
    c.install held source b =
      let p := Installer.install (.named i) d.target c.nextScript c.activeVerifier b
      (p.result, d.settle p b) := by
  have keeps := selectInstaller_keeps { c with nextScript := c.nextScript + 1 } held source b
  rw [chosen] at keeps
  have same : d.activeVerifier = c.activeVerifier := by
    rw [activeVerifier, activeVerifier, keeps.config, keeps.verifier]
  rw [install, chosen, ← same]

/-! ### What an installation leaves in order -/

/-- The host knows all anchors that are cached. -/
def Anchored (c : Context) : Prop :=
  ∀ a ∈ c.anchors.anchors, (c.target.host.anchors.lookup a.id).isSome

/-- The target is one of the same kind, and cached anchors are known to it still. -/
structure Advances (c d : Context) : Prop where
  target : c.target.Advances d.target
  anchored : c.Anchored → d.Anchored

theorem Advances.trans {c' : Context} (h : c.Advances d) (h' : d.Advances c') : c.Advances c' :=
  ⟨h.target.trans h'.target, fun anchored => h'.anchored (h.anchored anchored)⟩

/-- Where anchors are only forgotten, the ones that are left are known still. -/
theorem advances_of_subset (target : c.target.Advances d.target)
    (subset : ∀ a ∈ d.anchors.anchors, a ∈ c.anchors.anchors) : c.Advances d :=
  ⟨target, fun anchored a mem => target.anchors a.id (anchored a (subset a mem))⟩

theorem takeNamed_advances (c : Context) : c.Advances c.takeNamed.2 := by
  have leaves := c.takeNamed_leaves
  exact advances_of_subset leaves.target fun a mem => leaves.anchors ▸ mem

theorem selectInstaller_advances (c : Context) (held : List Artifact) (source : Source)
    (b : Bundle) : c.Advances (c.selectInstaller held source b).2 ∧
      (c.selectInstaller held source b).2.nextScript = c.nextScript := by
  rw [selectInstaller]
  split
  · split
    · next got =>
      have obtains := AnchorCache.getOrCreate_obtains got
      exact ⟨⟨obtains.target, obtains.known⟩, rfl⟩
    · next e anchors got =>
      have forgets : c.Advances { c with anchors, isolationFailed := true } :=
        advances_of_subset (.refl _) fun a mem => AnchorCache.mem_of_getOrCreate_error got mem
      exact ⟨forgets.trans (takeNamed_advances _), (takeNamed_leaves _).nextScript⟩
  · exact ⟨takeNamed_advances c, c.takeNamed_leaves.nextScript⟩

theorem install_advances (c : Context) (held : List Artifact) (source : Source) (b : Bundle) :
    c.Advances (c.install held source b).2 ∧
      (c.install held source b).2.nextScript = c.nextScript + 1 := by
  obtain ⟨selected, script⟩ :=
    selectInstaller_advances { c with nextScript := c.nextScript + 1 } held source b
  have counted : c.Advances { c with nextScript := c.nextScript + 1 } := ⟨.refl _, id⟩
  rw [install]
  dsimp only
  split
  · next failed =>
    rw [failed] at selected script
    exact ⟨counted.trans selected, script⟩
  · next i d chosen =>
    rw [chosen] at selected script
    obtain ⟨anchors, nextScript, target⟩ :=
      d.settle_leaves (i.install d.target c.nextScript d.activeVerifier b) b
    have installs :=
      (i.install_sameAnchors d.target c.nextScript d.activeVerifier b).advances
    have settled : d.Advances
        (d.settle (i.install d.target c.nextScript d.activeVerifier b) b) :=
      advances_of_subset (target ▸ installs) fun a mem => anchors ▸ mem
    exact ⟨(counted.trans selected).trans settled, nextScript.trans script⟩

end Scriptorium.Context
