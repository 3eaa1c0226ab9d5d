import Scriptorium.Proofs.Context.Selection

/-! When units are isolated. A context isolates the unit of a compile as long as neither an isolated
installation nor a request for an anchor has failed in it, and defines by name whatever else it
installs (`Context.History.isolates`). What ends isolation is told by the log, so that once ended it
stays so. Targets are hosts with or without isolation, or ones that pretend to isolate: these are
said to do so even if their host does not, and define no isolated unit. -/

namespace Scriptorium

/-- A host, or one behind a target that pretends to isolate. -/
structure Target.OfKind (isolation pretends : Bool) (t : Target) : Prop where
  isolation : t.host.isolation = isolation
  advertises : t.advertisesIsolation = pretends
  failing : t.failing = if pretends then [.defineIsolated] else []

namespace Target

variable {isolation pretends : Bool} {t t' : Target}

theorem Advances.ofKind (h : t.Advances t') (kind : t.OfKind isolation pretends) :
    t'.OfKind isolation pretends :=
  ⟨h.isolation.trans kind.isolation, h.advertises.trans kind.advertises,
    h.failing.trans kind.failing⟩

/-- Only isolated units are refused out of order. -/
theorem OfKind.passes (kind : t.OfKind isolation pretends) {call : HostCall}
    (ne : call ≠ .defineIsolated) : call ∉ t.failing := by
  rw [kind.failing]
  split
  · exact fun mem => ne (List.mem_singleton.mp mem)
  · exact List.not_mem_nil

end Target

/-- A target that pretends to isolate has no success in it. -/
theorem Installer.isOk_install_of_pretends {isolation : Bool} {a : Anchor} {t : Target}
    (kind : t.OfKind isolation true) (script : Nat) (verifier : Option Verifier) (b : Bundle) :
    (install (.isolated a) t script verifier b).result.isOk = false := by
  have fails : ∃ e, a.install t b = .error e := by
    have refused : HostCall.defineIsolated ∈ t.failing := by
      rw [kind.failing]
      exact List.mem_singleton_self _
    rw [Anchor.install, Target.defineIsolated, Target.pass, if_pos refused]
    split
    · exact ⟨_, rfl⟩
    · exact ⟨_, rfl⟩
  obtain ⟨e, fails⟩ := fails
  simp only [install, fails]
  split
  · rfl
  · rfl

namespace Context

variable {c c' d : Context} {held : List Artifact} {source : Source} {b : Bundle} {call : Call}
  {isolation pretends : Bool} {p : Installer.Progress}

/-- The isolated installation that is made for a bundle. -/
def isolationFor? (c : Context) (held : List Artifact) (source : Source) (b : Bundle) :
    Option Installer.Progress :=
  match selectInstaller { c with nextScript := c.nextScript + 1 } held source b with
  | (.ok (.isolated a), d) =>
    some (Installer.install (.isolated a) d.target c.nextScript d.activeVerifier b)
  | _ => none

/-- The isolated installation that a compile makes. -/
def isolation? (c : Context) (call : Call) : Option Installer.Progress :=
  (c.installation? call).bind fun (d, b) => d.isolationFor? call.held call.source b

/-- The compile made an isolated installation, and it failed. -/
def Event.FailsIsolated : Event → Prop
  | .compiled c call => ∃ p e, c.isolation? call = some p ∧ p.result = .error e
  | .cleared => False

/-- The compile was to make an isolated installation but got no anchor. -/
def Event.LacksAnchor : Event → Prop
  | .compiled c call => c.isolation? call = none ∧
      (c.installation? call).any fun (d, b) => d.mayIsolate call.source && !b.isLinked
  | .cleared => False

def Event.EndsIsolation (ev : Event) : Prop := ev.FailsIsolated ∨ ev.LacksAnchor

/-! ### One installation -/

/-- How an installation goes about isolation: it isolates if it is to and anchors can be had, and
defines by name otherwise. Either it fails in isolation, or it asks for an anchor in vain, or
nothing ends isolation. -/
structure Decides (isolation pretends : Bool) (c : Context) (held : List Artifact)
    (source : Source) (b : Bundle) : Prop where
  isolates : (c.isolationFor? held source b).isSome ↔
    (c.mayIsolate source && !b.isLinked) = true ∧ isolation = true
  isolated : ∀ p, c.isolationFor? held source b = some p → c.attemptFor? held source b = none ∧
    (c.install held source b).1 = p.result ∧
    (c.install held source b).2.isolationFailed = !p.result.isOk ∧
    (pretends = true → p.result.isOk = false)
  named : c.isolationFor? held source b = none → (c.attemptFor? held source b).isSome ∧
    (c.install held source b).2.isolationFailed =
      (c.isolationFailed || (c.mayIsolate source && !b.isLinked))
  anchors : isolation = false → (c.install held source b).2.anchors = c.anchors

/-- With anchors, a unit is isolated. -/
theorem decides_isolated (kind : c.target.OfKind true pretends) (held : List Artifact)
    (isolates : (c.mayIsolate source && !b.isLinked) = true) :
    c.Decides true pretends held source b := by
  obtain ⟨may, -⟩ := Bool.and_eq_true_iff.mp isolates
  obtain ⟨-, -, intact, -⟩ := mayIsolate_iff.mp may
  obtain ⟨a, t, anchors, got⟩ := c.anchors.exists_getOrCreate (isAnchored held) source.origin
    (kind.passes nofun) kind.isolation
  have kind' := (AnchorCache.getOrCreate_obtains got).target.ofKind kind
  have chosen := selectInstaller_isolated (c := { c with nextScript := c.nextScript + 1 })
    isolates got
  have installs := Context.install_isolated isolates got
  have installer := (Installer.sameLoaders_install a t c.nextScript c.activeVerifier b).2
  have progress : c.isolationFor? held source b =
      some (Installer.install (.isolated a) t c.nextScript c.activeVerifier b) := by
    rw [isolationFor?, chosen]
    rfl
  refine ⟨?_, fun p isolated => ?_, fun none_ => ?_, nofun⟩
  · rw [progress]
    exact iff_of_true rfl ⟨isolates, rfl⟩
  · cases progress.symm.trans isolated
    refine ⟨by rw [attemptFor?, chosen], by rw [installs], ?_, fun same => ?_⟩
    · rw [installs, isolationFailed_settle_isolated installer]
      exact congrArg (· || _) intact
    · exact Installer.isOk_install_of_pretends (same ▸ kind') ..
  · cases progress.symm.trans none_

/-- A bundle for which a loader is taken is defined by name, and that is the end of isolation only
if it was before. -/
theorem decides_named {i : NamedInstaller}
    (chosen : selectInstaller { c with nextScript := c.nextScript + 1 } held source b =
      (.ok (.named i), d))
    (not : ¬ ((c.mayIsolate source && !b.isLinked) = true ∧ isolation = true))
    (flag : d.isolationFailed = (c.isolationFailed || (c.mayIsolate source && !b.isLinked)))
    (anchors : d.anchors = c.anchors) : c.Decides isolation pretends held source b := by
  obtain ⟨_, _, defines⟩ :=
    Installer.install_defines i d.target c.nextScript c.activeVerifier b
  have installs := Context.install_named chosen
  have progress : c.isolationFor? held source b = none := by rw [isolationFor?, chosen]
  refine ⟨?_, fun p isolated => ?_, fun _ => ⟨?_, ?_⟩, fun _ => ?_⟩
  · rw [progress]
    exact iff_of_false Bool.false_ne_true not
  · cases progress.symm.trans isolated
  · rw [attemptFor?, chosen]
    rfl
  · rw [installs]
    exact (isolationFailed_settle_named defines.installer b).trans flag
  · rw [installs]
    exact (d.settle_leaves _ b).1.trans anchors

/-- Every installation goes one of these ways. -/
theorem decides (kind : c.target.OfKind isolation pretends)
    (anchors : isolation = false → c.anchors = .empty) (held : List Artifact) (source : Source)
    (b : Bundle) : c.Decides isolation pretends held source b := by
  let c₁ : Context := { c with nextScript := c.nextScript + 1 }
  cases path : c.mayIsolate source && !b.isLinked with
  | false =>
    obtain ⟨i, taken⟩ := exists_takeNamed (c := c₁) (kind.passes nofun)
    have chosen : c₁.selectInstaller held source b = (.ok (.named i), c₁.takeNamed.2) := by
      rw [selectInstaller_named (c := c₁) held path, takeInstaller_eq_ok taken]
    have leaves := takeNamed_leaves c₁
    refine decides_named chosen (by simp [path]) ?_ leaves.anchors
    rw [path, Bool.or_false]
    exact leaves.isolationFailed
  | true =>
    cases isolation with
    | true => exact decides_isolated kind held path
    | false =>
      obtain ⟨e, got⟩ := AnchorCache.getOrCreate_refused (isAnchored held) source.origin
        kind.isolation
      rw [← anchors rfl] at got
      let c₂ : Context := { c₁ with isolationFailed := true }
      obtain ⟨i, taken⟩ := exists_takeNamed (c := c₂) (kind.passes nofun)
      have chosen : c₁.selectInstaller held source b = (.ok (.named i), c₂.takeNamed.2) := by
        rw [selectInstaller_refused (c := c₁) path got]
        exact takeInstaller_eq_ok taken
      have leaves := takeNamed_leaves c₂
      refine decides_named chosen nofun ?_ leaves.anchors
      rw [path, Bool.or_true]
      exact leaves.isolationFailed

/-! ### Histories -/

/-- Others who share the target leave it of the same kind. -/
def KeepsKind (isolation pretends : Bool) (_ : List Event) (_ after : Target) : Prop :=
  after.OfKind isolation pretends

/-- What a history says of isolation in its context. -/
structure Isolating (isolation pretends : Bool) (log : List Event) (c : Context) : Prop where
  kind : c.target.OfKind isolation pretends
  anchors : isolation = false → c.anchors = .empty
  flag : c.isolationFailed = true ↔ ∃ ev ∈ log, ev.EndsIsolation

variable {log : List Event}

theorem Isolating.of_eq (h : Isolating isolation pretends log c)
    (kind : c'.target.OfKind isolation pretends) (anchors : c'.anchors = c.anchors)
    (flag : c'.isolationFailed = c.isolationFailed) : Isolating isolation pretends log c' :=
  ⟨kind, fun none_ => anchors.trans (h.anchors none_), flag ▸ h.flag⟩

theorem InstallsAlike.isolating (h : c.InstallsAlike c')
    (isolating : Isolating isolation pretends log c) : Isolating isolation pretends log c' :=
  isolating.of_eq (h.target ▸ isolating.kind) h.anchors h.isolationFailed

/-- What the compile of a bundle has to do with isolation. -/
theorem Isolating.answer_decides (h : Isolating isolation pretends log c)
    (installs : c.installation? call = some (d, b)) :
    c.InstallsAlike d ∧ d.Decides isolation pretends call.held call.source b ∧
      (d.install call.held call.source b).2.InstallsAlike (c.answer call).context ∧
      Concludes (d.install call.held call.source b).1 (c.answer call).outcome := by
  rcases c.answer_alike call with ⟨none_, -⟩ | ⟨d', b', some_, before, after, concludes⟩
  · cases none_.symm.trans installs
  · cases some_.symm.trans installs
    have isolating := before.isolating h
    exact ⟨before, decides isolating.kind isolating.anchors .., after, concludes⟩

/-- A compile ends isolation exactly if it fails in isolation or asks for an anchor in vain. -/
theorem Isolating.answer_flag (h : Isolating isolation pretends log c) (call : Call) :
    (c.answer call).context.isolationFailed = true ↔
      c.isolationFailed = true ∨ (Event.compiled c call).EndsIsolation := by
  rw [Event.EndsIsolation, Event.FailsIsolated, Event.LacksAnchor, isolation?]
  cases installs : c.installation? call with
  | none =>
    rcases c.answer_alike call with ⟨-, same⟩ | ⟨_, _, some_, -⟩
    · rw [same.isolationFailed]
      simp
    · cases installs.symm.trans some_
  | some x =>
    obtain ⟨d, b⟩ := x
    obtain ⟨before, decides, after, -⟩ := h.answer_decides installs
    rw [after.isolationFailed, Option.bind_some]
    cases progress : d.isolationFor? call.held call.source b with
    | none =>
      rw [(decides.named progress).2, before.isolationFailed]
      simp [progress]
    | some p =>
      -- What is isolated has found isolation intact, so that the flag is up to the result alone.
      obtain ⟨path, -⟩ := decides.isolates.mp (progress ▸ rfl)
      obtain ⟨-, -, intact, -⟩ := mayIsolate_iff.mp (Bool.and_eq_true_iff.mp path).1
      rw [(decides.isolated p progress).2.2.1, ← before.isolationFailed, intact]
      cases result : p.result <;> simp [progress, result, Except.isOk, Except.toBool]

theorem Isolating.answer (h : Isolating isolation pretends log c) (call : Call) :
    Isolating isolation pretends (.compiled c call :: log) (c.answer call).context := by
  have flag : (c.answer call).context.isolationFailed = true ↔
      ∃ ev ∈ Event.compiled c call :: log, ev.EndsIsolation := by
    rw [h.answer_flag call, h.flag, or_comm]
    simp only [List.mem_cons, exists_eq_or_imp]
  rcases c.answer_alike call with ⟨-, same⟩ | ⟨d, b, some_, -⟩
  · exact ⟨(same.isolating h).kind, (same.isolating h).anchors, flag⟩
  · obtain ⟨before, decides, after, -⟩ := h.answer_decides some_
    have advances := (d.install_advances call.held call.source b).1.target
    refine ⟨?_, fun none_ => ?_, flag⟩
    · rw [after.target]
      exact advances.ofKind (before.isolating h).kind
    · rw [after.anchors, decides.anchors none_, before.anchors, h.anchors none_]

theorem History.isolating (h : History (KeepsKind isolation pretends) log c) :
    Isolating isolation pretends log c := by
  induction h with
  | new kind made =>
    have isNew := (new_eq_ok made).1
    refine ⟨isNew.target ▸ kind, fun _ => (new_isolation made).1, ?_⟩
    rw [(new_isolation made).2]
    simp
  | compiled call _ ih => exact ih.answer call
  | cleared _ ih =>
    obtain ⟨kind, anchors, flag⟩ := ih
    refine ⟨kind, anchors, flag.trans ?_⟩
    simp [Event.EndsIsolation, Event.FailsIsolated, Event.LacksAnchor]
  | aside _ ih => exact ih.of_eq ih.kind rfl rfl
  | shared _ kind ih => exact ih.of_eq kind rfl rfl

/-- The conditions under which the bundle of a compile is to be isolated. -/
structure Isolable (log : List Event) (c : Context) (source : Source) (b : Bundle) : Prop where
  store : c.store = none
  isLazy : c.config.compile.lazy = true
  available : c.target.isolationAvailable = true
  allowed : c.config.installer.allowsIsolation source.length = true
  single : b.isLinked = false
  intact : ∀ ev ∈ log, ¬ ev.EndsIsolation

theorem Isolating.isolable_iff (h : Isolating isolation pretends log c) :
    Isolable log c source b ↔ (c.mayIsolate source && !b.isLinked) = true := by
  have intact : c.isolationFailed = false ↔ ∀ ev ∈ log, ¬ ev.EndsIsolation := by
    rw [← Bool.not_eq_true, h.flag]
    simp
  rw [Bool.and_eq_true_iff, mayIsolate_iff, intact, Bool.not_eq_true']
  constructor
  · rintro ⟨store, isLazy, available, allowed, single, intact⟩
    exact ⟨⟨store, isLazy, intact, available, allowed⟩, single⟩
  · rintro ⟨⟨store, isLazy, intact, available, allowed⟩, single⟩
    exact ⟨store, isLazy, available, allowed, single, intact⟩

/-- In any history, isolation has ended in a context exactly if a compile has failed in isolation or
asked for an anchor in vain. A compile that installs nothing changes nothing about that. Of the
others, those whose bundles are to be isolated are, if the host has isolation: they make no attempt
by name, and failing they end isolation. All others define by name, and only those of them that
asked for an anchor end isolation. -/
theorem History.isolates (h : History (KeepsKind isolation pretends) log c) (call : Call) :
    let r := c.answer call
    (c.isolationFailed = true ↔ ∃ ev ∈ log, ev.EndsIsolation) ∧
    (c.installation? call = none → r.context.isolationFailed = c.isolationFailed) ∧
    ∀ d b, c.installation? call = some (d, b) →
      ((c.isolation? call).isSome ↔ Isolable log c call.source b ∧ isolation = true) ∧
      (∀ p, c.isolation? call = some p → c.attempt? call = none ∧ Concludes p.result r.outcome ∧
        r.context.isolationFailed = !p.result.isOk ∧ (pretends = true → p.result.isOk = false)) ∧
      (c.isolation? call = none → (c.attempt? call).isSome ∧ (r.context.isolationFailed = true ↔
        c.isolationFailed = true ∨ Isolable log c call.source b)) := by
  intro r
  have isolating := h.isolating
  refine ⟨isolating.flag, fun none_ => ?_, fun d b installs => ?_⟩
  · rcases c.answer_alike call with ⟨-, same⟩ | ⟨_, _, some_, -⟩
    · exact same.isolationFailed
    · cases none_.symm.trans some_
  · obtain ⟨before, decides, after, concludes⟩ := isolating.answer_decides installs
    have isolation_ : c.isolation? call = d.isolationFor? call.held call.source b := by
      rw [isolation?, installs, Option.bind_some]
    have attempt : c.attempt? call = d.attemptFor? call.held call.source b := by
      rw [attempt?, installs, Option.bind_some]
    rw [isolating.isolable_iff, isolation_, attempt, after.isolationFailed,
      ← before.mayIsolate call.source, ← before.isolationFailed]
    refine ⟨decides.isolates, fun p progress => ?_, fun none_ => ?_⟩
    · obtain ⟨unattempted, result, flag, fails⟩ := decides.isolated p progress
      exact ⟨unattempted, result ▸ concludes, flag, fails⟩
    · obtain ⟨attempted, flag⟩ := decides.named none_
      refine ⟨attempted, ?_⟩
      rw [flag, Bool.or_eq_true_iff]

/-- A target pretends to isolate: the first compile fails in isolation, the second one defines the
same unit by name. -/
theorem History.isolates_pretending :
    let call : Call :=
      ⟨fun _ _ => ⟨[], some ⟨⟨"main", [1]⟩, ∅, []⟩⟩, [], .empty, .empty, .ofString "a" "x"⟩
    ∃ c, History (KeepsKind true true) [] c ∧ (c.isolation? call).isSome ∧
      (c.answer call).context.isolationFailed = true ∧
      ((c.answer call).context.isolation? call) = none ∧
      ((c.answer call).context.attempt? call).isSome := by
  intro call
  let target : Target := ⟨.new true, true, [.defineIsolated]⟩
  have checks : (Context.new {} "1" target none .empty).toOption.any fun x =>
      (x.1.isolation? call).isSome && (x.1.installation? call).isSome &&
        ((x.1.answer call).context.installation? call).isSome := by decide +kernel
  obtain ⟨⟨c, files⟩, made, checks⟩ := (Option.any_eq_true _ _).mp checks
  simp only [Bool.and_eq_true] at checks
  obtain ⟨⟨isolates, installs⟩, again⟩ := checks
  have h : History (KeepsKind true true) [] c := .new ⟨rfl, rfl, rfl⟩ (eq_ok_of_toOption made)
  obtain ⟨x, installs⟩ := Option.isSome_iff_exists.mp installs
  obtain ⟨y, again⟩ := Option.isSome_iff_exists.mp again
  obtain ⟨p, progress⟩ := Option.isSome_iff_exists.mp isolates
  obtain ⟨-, -, one⟩ := h.isolates call
  obtain ⟨ended, -, two⟩ := (h.compiled call).isolates call
  obtain ⟨-, -, flag, fails⟩ := (one _ _ installs).2.1 p progress
  have failed : (c.answer call).context.isolationFailed = true := by rw [flag, fails rfl]; rfl
  obtain ⟨path, -, named⟩ := two _ _ again
  have none_ : (c.answer call).context.isolation? call = none := by
    rw [← Option.not_isSome_iff_eq_none, path]
    rintro ⟨⟨-, -, -, -, -, intact⟩, -⟩
    obtain ⟨ev, mem, ends⟩ := ended.mp failed
    exact intact ev mem ends
  exact ⟨c, h, isolates, failed, none_, (named none_).1⟩

/-- That the target says it isolates is not enough. Before a host that makes no anchor, a bundle for
which all else holds is defined by name, although no isolated installation has failed. -/
theorem History.not_isolated_whenever_available :
    ¬ ∀ (isolation pretends : Bool) (log : List Event) (c d : Context) (call : Call) (b : Bundle),
      History (KeepsKind isolation pretends) log c → c.installation? call = some (d, b) →
        ((c.isolation? call).isSome ↔ c.store = none ∧ c.config.compile.lazy = true ∧
          c.target.isolationAvailable = true ∧
          c.config.installer.allowsIsolation call.source.length = true ∧ b.isLinked = false ∧
          ∀ ev ∈ log, ¬ ev.FailsIsolated) := by
  intro always
  let call : Call :=
    ⟨fun _ _ => ⟨[], some ⟨⟨"main", [1]⟩, ∅, []⟩⟩, [], .empty, .empty, .ofString "a" "x"⟩
  let target : Target := ⟨.new false, true, [.defineIsolated]⟩
  have checks : (Context.new {} "1" target none .empty).toOption.any fun x =>
      (x.1.isolation? call).isNone && x.1.store.isNone && x.1.config.compile.lazy &&
        x.1.target.isolationAvailable && x.1.config.installer.allowsIsolation call.source.length &&
        (x.1.installation? call).any fun y => !y.2.isLinked := by decide +kernel
  obtain ⟨⟨c, files⟩, made, checks⟩ := (Option.any_eq_true _ _).mp checks
  simp only [Bool.and_eq_true, Option.isNone_iff_eq_none] at checks
  obtain ⟨⟨⟨⟨⟨nothing, store⟩, isLazy⟩, available⟩, allowed⟩, installs⟩ := checks
  obtain ⟨⟨d, b⟩, installs, single⟩ := (Option.any_eq_true _ _).mp installs
  have h : History (KeepsKind false true) [] c := .new ⟨rfl, rfl, rfl⟩ (eq_ok_of_toOption made)
  have isolates := (always false true [] c d call b h installs).mpr ⟨store, isLazy, available,
    allowed, by rwa [Bool.not_eq_true'] at single, fun _ mem => absurd mem List.not_mem_nil⟩
  rw [nothing] at isolates
  cases isolates

end Context
end Scriptorium
