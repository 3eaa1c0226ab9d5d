import Scriptorium.Proofs.Context.Failure
import Scriptorium.Proofs.Context.Isolation
import Scriptorium.Proofs.Context.Serials

/-! Live anchors. An anchor stays alive only in artifacts, which are kept and dropped at will; the
cache of a context has all anchors that are alive, so that an origin never has two of them
(`Context.Anchoring`). The host is asked for an anchor of an origin exactly if no artifact with such
an anchor is alive, and gives out no id for a second time (`Context.Holding.one_anchor_per_origin`).
-/

namespace Scriptorium

/-- Units that are defined by name keep no anchor alive. -/
theorem Installed.LivesIn.anchors {i : Installed} {loader : LoaderId} (h : i.LivesIn loader) :
    i.anchors = [] := by
  rw [Installed.anchors, List.filterMap_eq_nil_iff]
  refine List.forall_mem_cons.mpr ⟨by rw [h.1]; rfl, fun handle mem => ?_⟩
  obtain ⟨e, entry, rfl⟩ := List.mem_map.mp mem
  rw [h.2 e entry]
  rfl

/-- An isolated artifact keeps an anchor alive. -/
theorem Artifact.anchors_ne_nil {x : Artifact} (h : x.isIsolated = true) :
    x.installed.anchors ≠ [] := by
  obtain ⟨an, owner⟩ := Option.isSome_iff_exists.mp h
  refine List.ne_nil_of_mem (a := an) (List.mem_filterMap.mpr ⟨_, List.mem_cons_self, owner⟩)

/-- What was isolated keeps its one anchor alive. -/
theorem Installer.anchors_install_isolated {a : Anchor} {t : Target} {script : Nat}
    {verifier : Option Verifier} {b : Bundle} {installed : Installed}
    (h : (Installer.install (.isolated a) t script verifier b).result = .ok installed) :
    installed.anchors = [a] := by
  obtain ⟨owner, none_⟩ := Installer.install_isolated h
  rw [Installed.anchors, none_, List.filterMap_cons, owner]
  rfl

namespace Context

variable {log : List Event} {held : List Artifact} {c d : Context} {call : Call} {source : Source}
  {b : Bundle}

/-- An artifact that is alive has a unit at an anchor of the origin. -/
def HoldsAnchorOf (held : List Artifact) (origin : String) : Prop :=
  ∃ x ∈ held, ∃ an ∈ x.installed.anchors, an.origin = origin

theorem isAnchored_iff {an : Anchor} :
    isAnchored held an = true ↔ ∃ x ∈ held, an ∈ x.installed.anchors := by
  simp [isAnchored]

/-- On the way from one target to another for a unit of the origin, an anchor was made exactly if
the unit was isolated and no artifact with an anchor of the origin was alive. Its number is above
those of all anchors that the host ever made. -/
structure AnchorsOnDemand (held : List Artifact) (origin : String) (isolated : Bool)
    (t t' : Target) : Prop where
  unisolated : isolated = false → t'.host.anchors = t.host.anchors
  shared : isolated = true → HoldsAnchorOf held origin → t'.host.anchors = t.host.anchors
  made : isolated = true → ¬ HoldsAnchorOf held origin →
    ∃ id, t'.host.anchors = t.host.anchors ++ [(id, origin)] ∧
      ∀ e ∈ t.host.anchors, e.1.number < id.number

theorem AnchorsOnDemand.of_unisolated {origin : String} {t t' : Target}
    (same : t'.host.anchors = t.host.anchors) : AnchorsOnDemand held origin false t t' :=
  ⟨fun _ => same, fun isolated => absurd isolated Bool.false_ne_true,
    fun isolated => absurd isolated Bool.false_ne_true⟩

/-- The cache has all anchors that are alive. -/
def Caches (c : Context) (held : List Artifact) : Prop :=
  ∀ an, isAnchored held an = true → an ∈ c.anchors.anchors

/-! ### One installation -/

theorem takeNamed_sameAnchors (c : Context) : c.target.SameAnchors c.takeNamed.2.target := by
  rw [takeNamed]
  split
  · exact .refl _
  · dsimp only
    split
    · exact .refl _
    · next made => exact NamedInstaller.new_sameAnchors made

/-- An installation in isolation gets an anchor of its source's origin, which what it installs keeps
alive. -/
theorem install_gets (kind : c.target.OfKind true false) (held : List Artifact)
    (isolates : (c.mayIsolate source && !b.isLinked) = true) :
    ∃ an t, an.origin = source.origin ∧
      c.anchors.Gets (isAnchored held) c.target an t (c.install held source b).2.anchors ∧
      t.SameAnchors (c.install held source b).2.target ∧
      ∀ installed, (c.install held source b).1 = .ok installed → installed.anchors = [an] := by
  obtain ⟨an, t, anchors, got⟩ := c.anchors.exists_getOrCreate (isAnchored held) source.origin
    (kind.passes nofun) kind.isolation
  obtain ⟨origin, gets⟩ := AnchorCache.getOrCreate_gets got
  have same := Installer.install_sameAnchors (.isolated an) t c.nextScript c.activeVerifier b
  obtain ⟨cache, -, target⟩ := settle_leaves
    (c := { c with nextScript := c.nextScript + 1, anchors, target := t })
    (Installer.install (.isolated an) t c.nextScript c.activeVerifier b) b
  rw [install_isolated isolates got]
  exact ⟨an, t, origin, cache ▸ gets, target ▸ same,
    fun _ done => Installer.anchors_install_isolated done⟩

/-- An installation by name has nothing to do with anchors. -/
theorem install_named_anchors (kind : c.target.OfKind true false) (held : List Artifact)
    (named : (c.mayIsolate source && !b.isLinked) = false) :
    (c.install held source b).2.anchors = c.anchors ∧
      c.target.SameAnchors (c.install held source b).2.target ∧
      ∀ installed, (c.install held source b).1 = .ok installed → installed.anchors = [] := by
  obtain ⟨i, taken⟩ := exists_takeNamed (c := { c with nextScript := c.nextScript + 1 })
    (kind.passes nofun)
  have chosen := (selectInstaller_named (c := { c with nextScript := c.nextScript + 1 }) held
    named).trans (takeInstaller_eq_ok taken)
  have took := takeNamed_sameAnchors { c with nextScript := c.nextScript + 1 }
  have leaves := takeNamed_leaves { c with nextScript := c.nextScript + 1 }
  rw [install_named chosen]
  generalize (takeNamed { c with nextScript := c.nextScript + 1 }).2 = d at took leaves
  have same := Installer.install_sameAnchors (.named i) d.target c.nextScript c.activeVerifier b
  obtain ⟨cache, -, target⟩ := settle_leaves (c := d)
    (Installer.install (.named i) d.target c.nextScript c.activeVerifier b) b
  obtain ⟨_, _, defines⟩ :=
    Installer.install_defines i d.target c.nextScript c.activeVerifier b
  exact ⟨cache.trans leaves.anchors, target ▸ took.trans same,
    fun installed done => (defines.handles installed done).anchors⟩

/-- What an installation has to do with anchors. -/
structure Anchors (c : Context) (held : List Artifact) (source : Source) (isolated : Bool)
    (result : Except Setback Installed) (d : Context) : Prop where
  issues : c.target.Issues d.target
  fits : d.anchors.Fits d.target
  caches : d.Caches held
  /-- The anchors of what was installed are of the origin of the source. -/
  installed : ∀ installed, result = .ok installed → ∀ an ∈ installed.anchors,
    an.origin = source.origin ∧ an ∈ d.anchors.anchors
  onDemand : AnchorsOnDemand held source.origin isolated c.target d.target

theorem install_anchors (kind : c.target.OfKind true false)
    (numbered : c.target.host.AnchorsNumbered) (fits : c.anchors.Fits c.target)
    (caches : c.Caches held) :
    c.Anchors held source (c.isolationFor? held source b).isSome (c.install held source b).1
      (c.install held source b).2 := by
  have isolates := (decides kind nofun held source b).isolates.trans (and_iff_left rfl)
  rw [Bool.eq_iff_iff.mpr isolates]
  cases path : c.mayIsolate source && !b.isLinked with
  | false =>
    obtain ⟨cache, same, none_⟩ := install_named_anchors kind held path
    refine ⟨same.issues, cache ▸ fits.issues same.issues, fun an alive => cache ▸ caches an alive,
      fun installed done an mem => ?_, .of_unisolated same.anchors⟩
    rw [none_ installed done] at mem
    exact absurd mem List.not_mem_nil
  | true =>
    obtain ⟨an, t, origin, gets, same, one⟩ := install_gets kind held path
    obtain ⟨mem, keeps⟩ := gets.mem
    refine ⟨gets.issues.trans same.issues, (fits.gets numbered gets).issues same.issues,
      fun x alive => keeps x (caches x alive) alive, fun installed done x mem' => ?_,
      fun unisolated => absurd unisolated.symm Bool.false_ne_true, fun _ holds => ?_,
      fun _ none_ => ?_⟩
    · rw [one installed done] at mem'
      cases List.mem_singleton.mp mem'
      exact ⟨origin, mem⟩
    · rw [same.anchors]
      cases gets with
      | kept _ _ unchanged => rw [unchanged]
      | made missing =>
        obtain ⟨x, held_, y, there, same⟩ := holds
        have alive := isAnchored_iff.mpr ⟨x, held_, there⟩
        exact absurd (same.trans origin.symm) (missing y (caches y alive) alive)
    · rw [same.anchors]
      cases gets with
      | kept _ alive =>
        obtain ⟨x, held_, there⟩ := isAnchored_iff.mp alive
        exact absurd ⟨x, held_, an, there, origin⟩ none_
      | made _ creates =>
        rw [creates.anchors, origin]
        exact ⟨an.id, rfl, creates.lt numbered⟩

/-! ### Runs -/

/-- Others who share the target leave it in order, and only add anchors to it. -/
def KeepsAnchors (_ : List Event) (before after : Target) : Prop :=
  after.OfKind true false ∧ after.host.AnchorsNumbered ∧ before.Issues after

/-- Histories with the artifacts that are held: a compile returns one to its caller, and any of them
may be dropped at any time. -/
inductive Holding (allowed : List Event → Target → Target → Prop) :
    List Event → List Artifact → Context → Prop
  | new {c : Context} {config version target verifier files files'} : allowed [] target target →
      Context.new config version target verifier files = .ok (c, files') → Holding allowed [] [] c
  | compiled {log : List Event} {held : List Artifact} {c : Context} (call : Call) :
      Holding allowed log held c → call.held = held →
      Holding allowed (.compiled c call :: log)
        ((c.answer call).outcome.artifact?.toList ++ held) (c.answer call).context
  | dropped {log : List Event} {held held' : List Artifact} {c : Context} :
      Holding allowed log held c → held' ⊆ held → Holding allowed log held' c
  | cleared {log : List Event} {held : List Artifact} {c : Context} :
      Holding allowed log held c → Holding allowed (.cleared :: log) held c.clearMemory
  | aside {log : List Event} {held : List Artifact} {c : Context}
      {guards registry folding nextScope} : Holding allowed log held c →
      Holding allowed log held { c with guards, registry, folding, nextScope }
  | shared {log : List Event} {held : List Artifact} {c : Context} {target : Target} :
      Holding allowed log held c → allowed log c.target target →
      Holding allowed log held { c with target }

theorem Holding.history {allowed : List Event → Target → Target → Prop}
    (h : Holding allowed log held c) : History allowed log c := by
  induction h with
  | new kind made => exact .new kind made
  | compiled call _ _ ih => exact ih.compiled call
  | dropped _ _ ih => exact ih
  | cleared _ ih => exact ih.cleared
  | aside _ ih => exact ih.aside
  | shared _ kind ih => exact ih.shared kind

theorem mem_toList_append {o : Outcome} {x : Artifact} :
    x ∈ o.artifact?.toList ++ held ↔ o = .done x ∨ x ∈ held := by
  rw [List.mem_append, Option.mem_toList, Outcome.artifact?_eq_some]

/-- What is held was returned. -/
theorem Holding.returned {allowed : List Event → Target → Target → Prop}
    (h : Holding allowed log held c) : ∀ x ∈ held, x ∈ returned log := by
  induction h with
  | new => exact fun _ mem => absurd mem List.not_mem_nil
  | compiled call _ _ ih =>
    exact fun x mem => mem_returned_compiled.mpr ((mem_toList_append.mp mem).imp_right (ih x))
  | dropped _ subset ih => exact fun x mem => ih x (subset mem)
  | cleared _ ih => exact ih
  | aside _ ih => exact ih
  | shared _ _ ih => exact ih

/-- What a run says of the anchors of its context and of the artifacts that are held. -/
structure Anchoring (log : List Event) (held : List Artifact) (c : Context) : Prop where
  kind : c.target.OfKind true false
  numbered : c.target.host.AnchorsNumbered
  fits : c.anchors.Fits c.target
  caches : c.Caches held
  origins : ∀ x ∈ held, ∀ an ∈ x.installed.anchors, ∀ origin, MadeFrom log x origin →
    an.origin = origin
  earlier : ∀ before call, .compiled before call ∈ log → before.target.Issues c.target

/-- What a compile has to do with anchors: what it returns was held already, or else has been made
with no anchor but those of its source's origin, and is cached with them. -/
structure AnswersAnchored (c : Context) (call : Call) : Prop where
  kind : (c.answer call).context.target.OfKind true false
  issues : c.target.Issues (c.answer call).context.target
  fits : (c.answer call).context.anchors.Fits (c.answer call).context.target
  caches : (c.answer call).context.Caches call.held
  returned : ∀ a, (c.answer call).outcome = .done a → a ∈ call.held ∨
    (c.installation? call).isSome ∧ ∀ an ∈ a.installed.anchors,
      an.origin = call.source.origin ∧ an ∈ (c.answer call).context.anchors.anchors

theorem Concludes.of_done {result : Except Setback Installed}
    (h : Concludes result (.done a)) : result = .ok a.installed := by
  cases h with
  | done same => rw [same]

theorem Anchoring.install (h : Anchoring log held c) (alike : c.InstallsAlike d) (source : Source)
    (b : Bundle) : d.Anchors held source (d.isolationFor? held source b).isSome
      (d.install held source b).1 (d.install held source b).2 := by
  apply install_anchors
  · exact alike.target ▸ h.kind
  · exact alike.target ▸ h.numbered
  · rw [alike.anchors, alike.target]
    exact h.fits
  · rw [Caches, alike.anchors]
    exact h.caches

theorem Anchoring.answers (h : Anchoring log call.held c) (serialed : Serialed log c)
    (held_ : ∀ x ∈ call.held, x ∈ returned log)
    (remembered : ∀ e ∈ c.remembered, e.2 ∈ returned log) : c.AnswersAnchored call := by
  rcases c.answer_alike call with ⟨none_, same⟩ | ⟨d, b, some_, before, after, concludes⟩
  · refine ⟨same.target ▸ h.kind, same.target ▸ .refl _, ?_, ?_, fun a done => .inl ?_⟩
    · rw [same.anchors, same.target]
      exact h.fits
    · rw [Caches, same.anchors]
      exact h.caches
    · cases c.answer_serials call with
      | recalled _ done' mem alive =>
        cases done'.symm.trans done
        exact serialed.mem_of_any held_ (remembered _ mem) alive
      | nothing _ none_ => exact absurd done (none_ a)
      | installed some_ => simp [none_] at some_
  · have installs := h.install before call.source b
    refine ⟨?_, ?_, ?_, ?_, fun a done => .inr ⟨some_ ▸ rfl, ?_⟩⟩
    · rw [after.target]
      exact (d.install_advances call.held call.source b).1.target.ofKind (before.target ▸ h.kind)
    · rw [after.target, ← before.target]
      exact installs.issues
    · rw [after.anchors, after.target]
      exact installs.fits
    · rw [Caches, after.anchors]
      exact installs.caches
    · rw [done] at concludes
      rw [after.anchors]
      exact installs.installed a.installed concludes.of_done

theorem Anchoring.answer (h : Anchoring log call.held c) (serialed : Serialed log c)
    (held_ : ∀ x ∈ call.held, x ∈ returned log)
    (remembered : ∀ e ∈ c.remembered, e.2 ∈ returned log) :
    Anchoring (.compiled c call :: log) ((c.answer call).outcome.artifact?.toList ++ call.held)
      (c.answer call).context := by
  have answers := h.answers serialed held_ remembered
  refine ⟨answers.kind, answers.issues.numbered h.numbered, answers.fits, fun an alive => ?_,
    fun x mem an there origin made => ?_, fun before call' mem => ?_⟩
  · obtain ⟨x, mem, there⟩ := isAnchored_iff.mp alive
    have held_ : x ∈ call.held → an ∈ (c.answer call).context.anchors.anchors := fun mem =>
      answers.caches an (isAnchored_iff.mpr ⟨x, mem, there⟩)
    rcases mem_toList_append.mp mem with done | mem
    · rcases answers.returned x done with mem | ⟨-, new⟩
      · exact held_ mem
      · exact (new an there).2
    · exact held_ mem
  · have old : x ∈ call.held → an.origin = origin := fun mem =>
      h.origins x mem an there origin (serialed.madeFrom_before (held_ x mem) made)
    rcases mem_toList_append.mp mem with done | mem
    · rcases answers.returned x done with mem | ⟨installs, new⟩
      · exact old mem
      · exact (new an there).1.trans ((serialed.madeFrom_last installs done).mp made)
    · exact old mem
  · rcases List.mem_cons.mp mem with same | mem
    · cases same
      exact answers.issues
    · exact (h.earlier before call' mem).trans answers.issues

theorem Holding.anchoring (h : Holding KeepsAnchors log held c) : Anchoring log held c := by
  induction h with
  | new kept made =>
    have isNew := (new_eq_ok made).1
    have cache := (new_isolation made).1
    refine ⟨isNew.target ▸ kept.1, isNew.target ▸ kept.2.1, cache ▸ .empty _, fun an alive => ?_,
      fun _ mem => absurd mem List.not_mem_nil, fun _ _ mem => absurd mem List.not_mem_nil⟩
    cases alive
  | compiled call h same ih =>
    subst same
    exact ih.answer h.history.serialed h.returned fun _ => h.history.returned_of_remembered
  | dropped _ subset ih =>
    refine ⟨ih.kind, ih.numbered, ih.fits, fun an alive => ih.caches an ?_,
      fun x mem => ih.origins x (subset mem), ih.earlier⟩
    obtain ⟨x, mem, there⟩ := isAnchored_iff.mp alive
    exact isAnchored_iff.mpr ⟨x, subset mem, there⟩
  | cleared _ ih =>
    refine ⟨ih.kind, ih.numbered, ih.fits, ih.caches, fun x mem an there origin made => ?_,
      fun before call mem => ?_⟩
    · exact ih.origins x mem an there origin made.of_cleared
    · exact ih.earlier before call ((List.mem_cons.mp mem).resolve_left nofun)
  | aside _ ih => exact ⟨ih.kind, ih.numbered, ih.fits, ih.caches, ih.origins, ih.earlier⟩
  | shared _ kept ih =>
    obtain ⟨kind, numbered, issues⟩ := kept
    exact ⟨kind, numbered, ih.fits.issues issues, ih.caches, ih.origins,
      fun before call mem => (ih.earlier before call mem).trans issues⟩

/-! ### New anchors -/

/-- The host is asked for an anchor by isolated installations only, and only if no artifact with an
anchor of the origin is alive. -/
theorem Anchoring.answer_onDemand (h : Anchoring log call.held c) :
    AnchorsOnDemand call.held call.source.origin (c.isolation? call).isSome c.target
      (c.answer call).context.target := by
  rw [isolation?]
  rcases c.answer_alike call with ⟨none_, same⟩ | ⟨d, b, some_, before, after, -⟩
  · rw [none_, same.target]
    exact .of_unisolated rfl
  · rw [some_, after.target, ← before.target]
    exact (h.install before call.source b).onDemand

/-- At every moment of a run, live artifacts that were isolated have the same anchor if they were
made from sources of one origin, and anchors with different ids if not, each anchor being one of the
origin. A compile makes an anchor exactly if it isolates its unit and no artifact with an anchor of
the origin is alive; its number is above those of all anchors the host ever made. -/
theorem Holding.one_anchor_per_origin (h : Holding KeepsAnchors log held c) :
    (∀ x ∈ held, (x.isIsolated = true → x.installed.anchors ≠ []) ∧
      ∃ origin, MadeFrom log x origin ∧ ∀ other, MadeFrom log x other → other = origin) ∧
    (∀ x ∈ held, ∀ y ∈ held, ∀ an ∈ x.installed.anchors, ∀ an' ∈ y.installed.anchors,
      ∀ origin origin', MadeFrom log x origin → MadeFrom log y origin' → an.origin = origin ∧
        (origin = origin' → an = an') ∧ (origin ≠ origin' → an.id ≠ an'.id)) ∧
    (∀ before call, .compiled before call ∈ log →
      before.target.host.anchors <+: c.target.host.anchors) ∧
    ∀ call, call.held = held →
      AnchorsOnDemand held call.source.origin (c.isolation? call).isSome c.target
        (c.answer call).context.target := by
  have anchoring := h.anchoring
  refine ⟨fun x mem => ⟨Artifact.anchors_ne_nil, h.history.exists_madeFrom (h.returned x mem)⟩,
    fun x memx y memy an there an' there' origin origin' made made' => ?_,
    fun before call mem => (anchoring.earlier before call mem).anchors_grow,
    fun call same => ?_⟩
  · have own := anchoring.origins x memx an there origin made
    have own' := anchoring.origins y memy an' there' origin' made'
    have cached := anchoring.caches an (isAnchored_iff.mpr ⟨x, memx, there⟩)
    have cached' := anchoring.caches an' (isAnchored_iff.mpr ⟨y, memy, there'⟩)
    refine ⟨own, fun equal => ?_, fun differ => ?_⟩
    · exact anchoring.fits.unique an cached an' cached' (own.trans (equal.trans own'.symm))
    · exact anchoring.fits.id_ne cached cached' fun equal =>
        differ (own.symm.trans (equal.trans own'))
  · subst same
    exact anchoring.answer_onDemand

/-- Two artifacts share the anchor of their origin. After both were dropped, the next unit from
there gets another anchor. -/
theorem Holding.one_anchor_per_origin_dropped :
    ∃ (log : List Event) (c : Context) (a b : Artifact) (call : Call),
      Holding KeepsAnchors log [b, a] c ∧ a.serial ≠ b.serial ∧
        (∃ an ∈ a.installed.anchors, an ∈ b.installed.anchors ∧ an.origin = call.source.origin) ∧
      Holding KeepsAnchors log [] c ∧ call.held = [] ∧ c.target.host.anchors ≠ [] ∧
        ∃ id, (c.answer call).context.target.host.anchors =
            c.target.host.anchors ++ [(id, call.source.origin)] ∧
          ∀ e ∈ c.target.host.anchors, e.1.number < id.number := by
  let call := fun (held : List Artifact) (text : String) =>
    (⟨fun _ _ => ⟨[], some ⟨⟨"main", [1]⟩, ∅, []⟩⟩, held, .empty, .empty,
      ⟨"a", "file:a.js", text, false⟩⟩ : Call)
  let run := do
    let x ← (Context.new {} "1" (.ofHost (.new true)) none .empty).toOption
    let a ← (x.1.answer (call [] "1")).outcome.artifact?
    let b ← ((x.1.answer (call [] "1")).context.answer (call [a] "2")).outcome.artifact?
    some (x.1, a, b)
  have checks : run.any fun (x, a, b) =>
      let c := (x.answer (call [] "1")).context
      let d := (c.answer (call [a] "2")).context
      (x.installation? (call [] "1")).isSome && (c.installation? (call [a] "2")).isSome &&
      decide (a.serial ≠ b.serial) && a.installed.anchors.head?.isSome &&
      b.installed.anchors.head?.isSome && (d.isolation? (call [] "3")).isSome &&
      decide (d.target.host.anchors ≠ []) := by
    decide +kernel
  obtain ⟨⟨x, a, b⟩, ran, checks⟩ := (Option.any_eq_true _ _).mp checks
  obtain ⟨x, made, ran⟩ := Option.bind_eq_some_iff.mp ran
  obtain ⟨a, done, ran⟩ := Option.bind_eq_some_iff.mp ran
  obtain ⟨b, done', ran⟩ := Option.bind_eq_some_iff.mp ran
  cases ran
  simp only [Bool.and_eq_true, decide_eq_true_eq] at checks
  obtain ⟨⟨⟨⟨⟨⟨installs, installs'⟩, differ⟩, anchored⟩, anchored'⟩, isolates⟩, earlier⟩ := checks
  obtain ⟨an, anchored⟩ := Option.isSome_iff_exists.mp anchored
  obtain ⟨an', anchored'⟩ := Option.isSome_iff_exists.mp anchored'
  have kept : KeepsAnchors [] (.ofHost (.new true)) (.ofHost (.new true)) :=
    ⟨⟨rfl, rfl, rfl⟩, fun _ mem => absurd mem List.not_mem_nil, .refl _⟩
  have one := Holding.compiled (call [] "1") (.new kept (eq_ok_of_toOption made)) rfl
  rw [done] at one
  have two := Holding.compiled (call [a] "2") one rfl
  rw [done'] at two
  have none_ : Holding KeepsAnchors _ [] _ := two.dropped (List.nil_subset _)
  have first : MadeFrom [.compiled x.1 (call [] "1")] a "file:a.js" :=
    ⟨_, _, List.mem_cons_self, Outcome.artifact?_eq_some.mp done, installs, rfl⟩
  have second : ∀ log, MadeFrom (.compiled (x.1.answer (call [] "1")).context (call [a] "2") :: log)
      b "file:a.js" :=
    fun _ => ⟨_, _, List.mem_cons_self, Outcome.artifact?_eq_some.mp done', installs', rfl⟩
  obtain ⟨own, shared, -⟩ := two.one_anchor_per_origin.2.1 a
    (List.mem_cons_of_mem _ List.mem_cons_self) b List.mem_cons_self
    an (List.mem_of_head? anchored) an' (List.mem_of_head? anchored') _ _ (first.cons _) (second _)
  have unheld : ¬ HoldsAnchorOf [] "file:a.js" := fun ⟨_, mem, _⟩ => absurd mem List.not_mem_nil
  obtain ⟨-, -, -, next⟩ := none_.one_anchor_per_origin
  have created := (next (call [] "3") rfl).made isolates unheld
  exact ⟨_, _, a, b, call [] "3", two, differ, ⟨an, List.mem_of_head? anchored,
    shared rfl ▸ List.mem_of_head? anchored', own⟩, none_, rfl, earlier, created⟩

end Context
end Scriptorium
