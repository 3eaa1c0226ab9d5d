import Scriptorium.Proofs.Context.Compile

/-! What installations and compiles have no part in. An installation changes the target, the
installers, the number of the next script and the counts of what was installed
(`Context.InstallChanges`). A compile changes memory, the other numbers and the other counts as well
(`Context.CompileChanges`), but never scopes, guards and folding. -/

namespace Scriptorium.Context

variable {c c' d : Context} {held : List Artifact} {source : Source} {f : Fingerprint} {b : Bundle}

/-! ### Installations -/

/-- The contexts differ at most in what an installation changes. -/
def InstallChanges (c c' : Context) : Prop :=
  ∃ target named anchors nextScript isolationFailed namedUnits isolatedUnits rotations,
    c' = { c with target, named, anchors, nextScript, isolationFailed,
                  stats := { c.stats with namedUnits, isolatedUnits, rotations } }

theorem InstallChanges.trans (h : c.InstallChanges d) (h' : d.InstallChanges c') :
    c.InstallChanges c' := by
  obtain ⟨_, _, _, _, _, _, _, _, rfl⟩ := h
  obtain ⟨_, _, _, _, _, _, _, _, rfl⟩ := h'
  exact ⟨_, _, _, _, _, _, _, _, rfl⟩

theorem takeNamed_changes (c : Context) : c.InstallChanges c.takeNamed.2 := by
  rw [takeNamed]
  split
  · exact ⟨_, _, _, _, _, _, _, _, rfl⟩
  · dsimp only
    split <;> exact ⟨_, _, _, _, _, _, _, _, rfl⟩

theorem selectInstaller_changes (c : Context) (held : List Artifact) (source : Source)
    (b : Bundle) : c.InstallChanges (c.selectInstaller held source b).2 := by
  rw [selectInstaller]
  split
  · split
    · exact ⟨_, _, _, _, _, _, _, _, rfl⟩
    · next anchors _ =>
      have before : c.InstallChanges { c with anchors, isolationFailed := true } :=
        ⟨_, _, _, _, _, _, _, _, rfl⟩
      exact before.trans (takeNamed_changes _)
  · exact takeNamed_changes c

theorem settle_changes (c : Context) (p : Installer.Progress) (b : Bundle) :
    c.InstallChanges (c.settle p b) := by
  rw [settle]
  dsimp only
  split <;> exact ⟨_, _, _, _, _, _, _, _, rfl⟩

theorem install_changes (c : Context) (held : List Artifact) (source : Source) (b : Bundle) :
    c.InstallChanges (c.install held source b).2 := by
  have counted : c.InstallChanges { c with nextScript := c.nextScript + 1 } :=
    ⟨_, _, _, _, _, _, _, _, rfl⟩
  have selected := counted.trans (selectInstaller_changes _ held source b)
  rw [install]
  dsimp only
  split
  · next failed => rw [failed] at selected; exact selected
  · next chosen => rw [chosen] at selected; exact selected.trans (settle_changes _ _ b)

/-! ### Compiles -/

/-- The contexts differ at most in what a compile changes. -/
def CompileChanges (c c' : Context) : Prop :=
  ∃ target memory named anchors stats nextCompilation nextScript nextSerial isolationFailed,
    c' = { c with target, memory, named, anchors, stats, nextCompilation, nextScript, nextSerial,
                  isolationFailed }

theorem CompileChanges.trans (h : c.CompileChanges d) (h' : d.CompileChanges c') :
    c.CompileChanges c' := by
  obtain ⟨_, _, _, _, _, _, _, _, _, rfl⟩ := h
  obtain ⟨_, _, _, _, _, _, _, _, _, rfl⟩ := h'
  exact ⟨_, _, _, _, _, _, _, _, _, rfl⟩

theorem InstallChanges.compile (h : c.InstallChanges c') : c.CompileChanges c' := by
  obtain ⟨_, _, _, _, _, _, _, _, rfl⟩ := h
  exact ⟨_, _, _, _, _, _, _, _, _, rfl⟩

theorem fromMemory_changes (c : Context) (held : List Artifact) (f : Fingerprint) :
    c.CompileChanges (c.fromMemory held f).2 := by
  rw [fromMemory]
  split <;> exact ⟨_, _, _, _, _, _, _, _, _, rfl⟩

theorem giveUp_changes (c : Context) (s : Setback) : c.CompileChanges (c.giveUp s).2 := by
  cases s <;> exact ⟨_, _, _, _, _, _, _, _, _, rfl⟩

theorem restore_changes (c : Context) (held : List Artifact) (source : Source) (f : Fingerprint)
    (record : Record) : c.CompileChanges (c.restore held source f record).2 := by
  have counted : c.CompileChanges c.countPersistentHit := ⟨_, _, _, _, _, _, _, _, _, rfl⟩
  have installed := counted.trans
    (c.countPersistentHit.install_changes held source record.bundle).compile
  rw [restore]
  split
  · next s d installs =>
    rw [installs] at installed
    exact installed.trans (d.giveUp_changes s)
  · next _ d installs =>
    rw [installs] at installed
    split
    · exact installed
    · next reserved =>
      rw [reserve] at reserved
      split at reserved
      · cases reserved
        exact installed.trans ⟨_, _, _, _, _, _, _, _, _, rfl⟩
      · cases reserved

theorem persist_changes (c : Context) (files : FileTree) (place : Option (RecordStore × RecordKey))
    (f : Fingerprint) (b : Bundle) (id : UInt64) :
    c.CompileChanges (c.persist files place f b id).1 := by
  rcases c.persist_cases files place f b id with same | same <;> rw [same]
  · exact ⟨_, _, _, _, _, _, _, _, _, rfl⟩
  · exact ⟨_, _, _, _, _, _, _, _, _, rfl⟩

theorem establish_changes (c : Context) (held : List Artifact) (files : FileTree) (source : Source)
    (f : Fingerprint) (place : Option (RecordStore × RecordKey)) (b : Bundle) :
    c.CompileChanges (c.establish held files source f place b).2.1 := by
  have installed := (c.install_changes held source b).compile
  rw [establish]
  split
  · next s d installs =>
    rw [installs] at installed
    exact installed.trans (d.giveUp_changes s)
  · next _ d installs =>
    rw [installs] at installed
    have counted :
        d.CompileChanges (countFresh { d with nextCompilation := d.nextCompilation + 1 }) :=
      ⟨_, _, _, _, _, _, _, _, _, rfl⟩
    have persisted := counted.trans (persist_changes _ files place f b d.nextCompilation)
    exact (installed.trans persisted).trans ⟨_, _, _, _, _, _, _, _, _, rfl⟩

theorem compile_changes (c : Context) (generator : Generator) (held : List Artifact)
    (files : FileTree) (sink : Sink) (source : Source) :
    c.CompileChanges (c.compile generator held files sink source).context := by
  have looked := c.fromMemory_changes held (c.fingerprintOf source)
  have compiles := c.compiles_compile generator held files sink source
  generalize c.compile generator held files sink source = r at compiles ⊢
  cases compiles with
  | remembered hit =>
    rw [hit] at looked
    exact looked.trans ⟨_, _, _, _, _, _, _, _, _, rfl⟩
  | broken miss =>
    rw [miss] at looked
    exact looked
  | restored miss =>
    rw [miss] at looked
    exact looked.trans (restore_changes ..)
  | refused miss =>
    rw [miss] at looked
    exact looked.trans ⟨_, _, _, _, _, _, _, _, _, rfl⟩
  | established miss =>
    rw [miss] at looked
    exact looked.trans (establish_changes ..)

end Scriptorium.Context
