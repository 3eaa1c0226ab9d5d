import Scriptorium.Proofs.Context.Numbering
import Scriptorium.Proofs.Context.Rotation

/-! Compiles that fail. Wherever the error comes from, memory keeps what was alive in it, in its
order, no file is touched, no number is taken, and of the counts only that of failures and those of
found records and of rotations can change (`Context.Unharmed`). What a failed installation has
defined by then stays in its loader. That loader is given up, so that it gains no artifact any more:
an artifact in it that is returned later was returned before (`Context.History.fails_cleanly`). -/

namespace Scriptorium

/-- A unit of the artifact is defined in the loader. -/
def Artifact.HasUnitIn (a : Artifact) (loader : LoaderId) : Prop :=
  a.entry.owner = .loader loader ∨ ∃ e ∈ a.subs.entries, e.2.handle.owner = .loader loader

/-- All units that were isolated belong to the anchor. -/
theorem Installer.install_isolated {a : Anchor} {t : Target} {script : Nat}
    {verifier : Option Verifier} {b : Bundle} {installed : Installed}
    (h : (Installer.install (.isolated a) t script verifier b).result = .ok installed) :
    installed.entry.owner = .anchor a ∧ installed.subs = .empty := by
  simp only [install] at h
  split at h
  · cases h
  · split at h
    · cases h
    · next single =>
      cases h
      rw [Anchor.install] at single
      split at single
      · cases single
      · split at single
        · cases single
        · cases single
          exact ⟨rfl, rfl⟩

namespace Attempt

variable {as : List Attempt} {loader : LoaderId}

theorem Retired.append (h : Retired loader as) (newer : List Attempt) :
    Retired loader (newer ++ as) := by
  induction newer with
  | nil => exact h
  | cons a newer ih => exact .before ih

end Attempt

namespace Context

open Attempt

variable {allowed : List Event → Target → Target → Prop} {log recent earlier : List Event}
  {c c' c₀ d : Context} {call call₀ : Call} {held : List Artifact} {files : FileTree}
  {source : Source} {f : Fingerprint} {b : Bundle} {place : Option (RecordStore × RecordKey)}
  {record : Record} {e : CompileError} {cause : Setback} {a : Artifact} {i : NamedInstaller}
  {as : List Attempt} {attempt : Attempt} {loader : LoaderId}

/-! ### What is left as it was -/

/-- The artifacts in memory that are held, the one that was used last at the end. -/
def liveEntries (c : Context) (held : List Artifact) : List (SourceKey × Artifact) :=
  c.remembered.filter fun e => held.any e.2.isSame

/-- What a failing compile leaves as it was. Of the counts, a record is entered when it is found,
and a rotation when the loader is taken. -/
structure Unharmed (c : Context) (held : List Artifact) (files : FileTree) (r : Compiled) :
    Prop where
  memory : r.context.liveEntries held = c.liveEntries held
  files : r.files = files
  nextCompilation : r.context.nextCompilation = c.nextCompilation
  registry : r.context.registry = c.registry
  guards : r.context.guards = c.guards
  folding : r.context.folding = c.folding
  stats : ∃ persistentHits rotations, r.context.stats =
    { c.stats with failedCompiles := c.stats.failedCompiles + 1, persistentHits, rotations }

theorem liveEntries_eq (h : c'.memory = c.memory) : c'.liveEntries held = c.liveEntries held := by
  rw [liveEntries, liveEntries, remembered_eq h]

/-- A search in vain forgets dead artifacts only. -/
theorem liveEntries_fromMemory (miss : (c.fromMemory held f).1 = none) :
    (c.fromMemory held f).2.liveEntries held = c.liveEntries held := by
  rw [fromMemory] at miss ⊢
  split at miss
  · rfl
  · next m memory =>
    simp only [memory, liveEntries, remembered, MemoryCache.get?] at miss ⊢
    split at miss
    · rw [MemoryCache.entries_purge, List.filter_filter]
      simp only [Bool.and_self]
    · cases miss

theorem takeNamed_stats (c : Context) :
    ∃ rotations, c.takeNamed.2.stats = { c.stats with rotations } := by
  rw [takeNamed]
  split
  · exact ⟨_, rfl⟩
  · dsimp only
    split <;> exact ⟨_, rfl⟩

theorem selectInstaller_stats (c : Context) (held : List Artifact) (source : Source)
    (b : Bundle) : ∃ rotations,
      (c.selectInstaller held source b).2.stats = { c.stats with rotations } := by
  rw [selectInstaller]
  split
  · split
    · exact ⟨_, rfl⟩
    · next anchors _ => exact takeNamed_stats { c with anchors, isolationFailed := true }
  · exact takeNamed_stats c

theorem settle_stats_of_error {p : Installer.Progress} (failed : p.result = .error cause) :
    (c.settle p b).stats = c.stats := by
  obtain ⟨result, installer, target⟩ := p
  cases failed
  cases installer with
  | named => rw [settle_named_error]
  | isolated => rfl

/-- An installation that fails is not counted. -/
theorem install_stats_of_error (failed : c.install held source b = (.error cause, d)) :
    ∃ rotations, d.stats = { c.stats with rotations } := by
  obtain ⟨rotations, selected⟩ :=
    selectInstaller_stats { c with nextScript := c.nextScript + 1 } held source b
  rw [install] at failed
  dsimp only at failed
  split at failed
  · next chosen =>
    cases failed
    rw [chosen] at selected
    exact ⟨rotations, selected⟩
  · next chosen =>
    rw [chosen] at selected
    obtain ⟨result, rfl⟩ := Prod.mk.inj failed
    exact ⟨rotations, (settle_stats_of_error result).trans selected⟩

/-- A compile that is given up with an error counts a failure. -/
theorem giveUp_eq_failed (failed : (c.giveUp cause).1 = .failed e) :
    (c.giveUp cause).2 = c.countFailure := by
  cases cause with
  | refused => rfl
  | broken => cases failed

theorem restore_eq_failed (failed : (c.restore held source f record).1 = .failed e) :
    ∃ cause d, c.countPersistentHit.install held source record.bundle = (.error cause, d) ∧
      (c.restore held source f record).2 = d.countFailure := by
  rw [restore] at failed ⊢
  split at failed
  · next cause d installs =>
    rw [installs]
    exact ⟨cause, d, rfl, giveUp_eq_failed failed⟩
  · split at failed <;> cases failed

theorem establish_eq_failed (failed : (c.establish held files source f place b).1 = .failed e) :
    ∃ cause d, c.install held source b = (.error cause, d) ∧
      (c.establish held files source f place b).2 = (d.countFailure, files) := by
  simp only [establish] at failed ⊢
  split at failed
  · next cause d installs =>
    rw [installs]
    exact ⟨cause, d, rfl, congrArg (·, files) (giveUp_eq_failed failed)⟩
  · cases failed

/-- The counts and the files after a compile that failed. -/
theorem Compiles.stats_of_failed {generator : Generator} {sink : Sink} {r : Compiled}
    (h : c.Compiles generator held files sink source f r) (failed : r.outcome = .failed e) :
    r.files = files ∧ ∃ persistentHits rotations, r.context.stats =
      { c.stats with failedCompiles := c.stats.failedCompiles + 1, persistentHits, rotations } := by
  have looked := c.fromMemory_stats held f
  cases h with
  | remembered | broken => cases failed
  | @restored d _ miss =>
    rw [miss] at looked
    obtain ⟨cause, d', installs, after⟩ := restore_eq_failed failed
    obtain ⟨rotations, stats⟩ := install_stats_of_error installs
    refine ⟨rfl, c.stats.persistentHits + 1, rotations, ?_⟩
    rw [after, countFailure, stats, countPersistentHit, looked]
  | refused miss =>
    rw [miss] at looked
    refine ⟨rfl, c.stats.persistentHits, c.stats.rotations, ?_⟩
    rw [countFailure, looked]
  | @established d b _ miss =>
    rw [miss] at looked
    obtain ⟨cause, d', installs, after⟩ := establish_eq_failed failed
    obtain ⟨rotations, stats⟩ := install_stats_of_error installs
    refine ⟨congrArg Prod.snd after, c.stats.persistentHits, rotations, ?_⟩
    rw [after, countFailure, stats, looked]

theorem answer_unharmed (failed : (c.answer call).outcome = .failed e) :
    c.Unharmed call.held call.files (c.answer call) := by
  have compiles := c.answer_compiles call
  obtain ⟨wrote, stats⟩ := compiles.stats_of_failed failed
  have none_ : ∀ a, (c.answer call).outcome ≠ .done a := by
    intro a done
    cases failed.symm.trans done
  have scoping : (c.answer call).context.registry = c.registry ∧
      (c.answer call).context.guards = c.guards ∧
        (c.answer call).context.folding = c.folding := by
    obtain ⟨_, _, _, _, _, _, _, _, _, same⟩ :=
      c.compile_changes call.generator call.held call.files call.sink call.source
    rw [answer, same]
    exact ⟨rfl, rfl, rfl⟩
  refine ⟨?_, wrote, ?_, scoping.1, scoping.2.1, scoping.2.2, stats⟩
  · rcases compiles.memory with ⟨a, -, done, -⟩ | ⟨miss, remembers⟩
    · exact absurd done (none_ a)
    · exact (liveEntries_eq (remembers.otherwise none_)).trans (liveEntries_fromMemory miss)
  · cases c.answer_numbers call with
    | nothing _ next => exact next
    | recalled _ done | restored done | fresh done => exact absurd done (none_ _)

/-! ### The loader of a failed installation -/

/-- A failed attempt that has defined something gives its loader up, and no other one has more units
than before. -/
theorem Makes.discards (makes : c.Makes attempt d)
    (failed : attempt.progress.result = .error cause)
    (left : c.target.host.unitsIn loader < attempt.progress.target.host.unitsIn loader) :
    attempt.loader = loader ∧ attempt.keeps = false := by
  obtain ⟨i', defined, defines⟩ := makes.defines
  have names := defines.fills.names loader
  rw [← makes.takes.unitsIn, ← makes.start, Host.unitsIn, Host.unitsIn, names] at left
  by_cases own : loader = attempt.installer.loader
  · refine ⟨own.symm, ?_⟩
    rw [Attempt.keeps, failed]
    refine Bool.eq_false_iff.mpr fun unverified => ?_
    rw [defines.unverified cause failed unverified] at left
    simp [NamedInstaller.namesOf] at left
  · rw [if_neg own] at left
    exact absurd left (Nat.lt_irrefl _)

/-- A unit that a failed compile left in a loader was left there by its attempt, and the loader is
retired with that. -/
theorem Rotating.retired_of_failed (h : c.Rotating (attempts log))
    (failed : (c.answer call).outcome = .failed e)
    (left : c.target.host.unitsIn loader <
      (c.answer call).context.target.host.unitsIn loader) :
    Retired loader (attempts (.compiled c call :: log)) := by
  rcases answer_cases h.local_ call with ⟨-, same⟩ | ⟨attempt, d, made, makes, after, concludes⟩
  · rw [same.target.unitsIn] at left
    exact absurd left (Nat.lt_irrefl _)
  · obtain ⟨i', _, defines⟩ := makes.defines
    obtain ⟨-, target, -⟩ := settle_named (c := d) defines.installer attempt.bundle
    rw [after.target.unitsIn, target] at left
    rw [failed] at concludes
    generalize result : attempt.progress.result = x at concludes
    cases concludes
    obtain ⟨own, gone⟩ := makes.discards result left
    rw [attempts_compiled, made]
    exact .discarded own gone

/-- The artifact of a compile that makes no attempt has its units isolated. -/
theorem not_hasUnitIn_of_isolated (local_ : c.target.Local) (none_ : c.attempt? call = none)
    (bundle : c.installation? call = some (d, b)) (same : c.SameLoaders d)
    (concludes : Concludes (d.install call.held call.source b).1 (.done a)) :
    ¬ a.HasUnitIn loader := by
  have unnamed : d.attemptFor? call.held call.source b = none := by
    rwa [attempt?, bundle] at none_
  generalize result : (d.install call.held call.source b).1 = x at concludes
  cases concludes with | @done _ installed same' => ?_
  rw [attemptFor?] at unnamed
  rw [install] at result
  dsimp only at result
  rcases selectInstaller_cases (c := { d with nextScript := d.nextScript + 1 })
    (same.local_ local_) call.held call.source b with ⟨anchor, d', chosen, -⟩ | ⟨i, d', chosen, -⟩
  · rw [chosen] at result
    obtain ⟨owner, subs⟩ := Installer.install_isolated result
    rw [Artifact.HasUnitIn, Artifact.entry, Artifact.subs, same', owner, subs]
    rintro (found | ⟨e, mem, -⟩)
    · cases found
    · cases mem
  · rw [chosen] at unnamed
    cases unnamed

/-- A compile returns what is in memory, or it installs a bundle. -/
theorem installation?_of_done (done : (c.answer call).outcome = .done a)
    (nothing : c.installation? call = none) :
    ∃ key, (key, a) ∈ c.remembered := by
  have compiles := c.answer_compiles call
  simp only [installation?] at nothing
  generalize c.answer call = r at compiles done
  cases compiles with
  | remembered hit =>
    cases done
    exact ⟨_, (fromMemory_eq_some (congrArg Prod.fst hit)).1⟩
  | broken | refused => cases done
  | restored miss loaded =>
    rw [miss, loaded] at nothing
    cases nothing
  | established miss loaded generated =>
    rw [miss, loaded, generated] at nothing
    cases nothing

/-- Whatever a compile returns was in memory, or lives in no loader that is retired. -/
theorem Rotating.unretired_of_done (h : c.Rotating as) (done : (c.answer call).outcome = .done a)
    (lives : a.HasUnitIn loader) (retired : Retired loader as) :
    ∃ key, (key, a) ∈ c.remembered := by
  rcases answer_cases h.local_ call with ⟨none_, -⟩ | ⟨attempt, d, made, makes, -, concludes⟩
  · rcases c.answer_installs call with ⟨nothing, -⟩ | ⟨d, b, bundle, same, -, concludes⟩
    · exact installation?_of_done done nothing
    · rw [done] at concludes
      exact absurd lives (not_hasUnitIn_of_isolated h.local_ none_ bundle same concludes)
  · rw [done] at concludes
    generalize result : attempt.progress.result = x at concludes
    cases concludes with | @done _ installed same => ?_
    obtain ⟨i', _, defines⟩ := makes.defines
    obtain ⟨entry, subs⟩ := defines.handles installed result
    obtain ⟨-, -, unretired⟩ := h.takes makes.takes
    have own : attempt.installer.loader = loader := by
      rw [Artifact.HasUnitIn, Artifact.entry, Artifact.subs, same] at lives
      rcases lives with owner | ⟨e, mem, owner⟩
      · exact Owner.loader.inj (entry.symm.trans owner)
      · exact Owner.loader.inj ((subs e mem).symm.trans owner)
    rw [own] at unretired
    exact absurd retired unretired

/-! ### Histories -/

theorem attempts_append (recent log : List Event) :
    attempts (recent ++ log) = attempts recent ++ attempts log := List.filterMap_append

/-- Once a loader is retired, an artifact in memory that lives there was returned before. -/
theorem History.returned_before (h : History Spares (recent ++ earlier) c)
    (retired : Retired loader (attempts earlier)) {x : SourceKey × Artifact}
    (mem : x ∈ c.remembered) (lives : x.2.HasUnitIn loader) : x.2 ∈ returned earlier := by
  generalize split : recent ++ earlier = log at h
  induction h generalizing recent x with
  | new spares made =>
    rw [(new_eq_ok made).1.remembered] at mem
    cases mem
  | @compiled log c call h ih =>
    cases recent with
    | nil =>
      cases split
      exact (h.compiled call).returned_of_remembered mem
    | cons e recent =>
      obtain ⟨-, rest⟩ := List.cons.inj split
      rcases mem_remembered_answer mem with before | done
      · exact ih before lives rest
      · subst rest
        have still := attempts_append recent earlier ▸ retired.append (attempts recent)
        obtain ⟨key, before⟩ := h.rotating.unretired_of_done done lives still
        exact ih (x := (key, x.2)) before lives rfl
  | @cleared log c h ih =>
    rw [remembered_clearMemory] at mem
    cases mem
  | aside _ ih => exact ih mem lives split
  | shared _ _ ih => exact ih mem lives split

/-- In any history, a compile that fails leaves what is alive in memory, the files, the counter, the
guards and the folding as they were, and counts the failure. Whatever is returned afterwards and has
a unit in a loader in which the failed installation left one was returned before that as well. -/
theorem History.fails_cleanly (h : History Spares earlier c₀)
    (failed : (c₀.answer call₀).outcome = .failed e) :
    c₀.Unharmed call₀.held call₀.files (c₀.answer call₀) ∧
      ∀ recent c call a loader, History Spares (recent ++ .compiled c₀ call₀ :: earlier) c →
        (c.answer call).outcome = .done a → a.HasUnitIn loader →
        c₀.target.host.unitsIn loader <
          (c₀.answer call₀).context.target.host.unitsIn loader → a ∈ returned earlier := by
  refine ⟨answer_unharmed failed, fun recent c call a loader later done lives left => ?_⟩
  have retired := h.rotating.retired_of_failed failed left
  have still := attempts_append recent _ ▸ retired.append (attempts recent)
  obtain ⟨key, mem⟩ := later.rotating.unretired_of_done done lives still
  have before := later.returned_before retired mem lives
  refine (mem_returned_compiled.mp before).resolve_left fun done' => ?_
  cases failed.symm.trans done'

/-- The second compile defines one unit beside the artifact of the first one and then fails. The
third compile finds that artifact in memory. -/
private theorem found_beside_failure :
    ∃ (c₀ : Context) (earlier : List Event) (call₀ call : Call) (e : CompileError) (a : Artifact)
      (loader : LoaderId), History Spares earlier c₀ ∧ (c₀.answer call₀).outcome = .failed e ∧
        ((c₀.answer call₀).context.answer call).outcome = .done a ∧ a.HasUnitIn loader ∧
        c₀.target.host.unitsIn loader <
          (c₀.answer call₀).context.target.host.unitsIn loader := by
  let single : Generator := fun _ _ => ⟨[], some ⟨⟨"main", [1]⟩, ∅, []⟩⟩
  let cut : Generator := fun _ _ =>
    ⟨[], some ⟨⟨"main", [1]⟩, .ofList [(1, ⟨⟨"f", []⟩, ⟨"f", 0, 0⟩⟩)], []⟩⟩
  let first : Call := ⟨single, [], .empty, .empty, .ofString "a" "x"⟩
  let second := fun a : Artifact => (⟨cut, [a], .empty, .empty, .ofString "b" "y"⟩ : Call)
  let third := fun a : Artifact => (⟨single, [a], .empty, .empty, .ofString "a" "x"⟩ : Call)
  let run := (Context.new {} "1" (.ofHost (.new false)) none .empty).toOption.bind fun x =>
    (x.1.answer first).outcome.artifact?.map fun a => (x, a)
  let failing := fun c : Context × FileTree => (c.1.answer first).context
  have checks : run.any fun (x, held) =>
      let failed := (failing x).answer (second held)
      (match failed.outcome with | .failed _ => true | _ => false) &&
        (failed.context.answer (third held)).outcome.artifact?.any
          (·.entry.owner == .loader ⟨1⟩) &&
        decide ((failing x).target.host.unitsIn ⟨1⟩ < failed.context.target.host.unitsIn ⟨1⟩) := by
    decide +kernel
  obtain ⟨⟨x, held⟩, ran, checks⟩ := (Option.any_eq_true _ _).mp checks
  obtain ⟨y, new, ran⟩ := Option.bind_eq_some_iff.mp ran
  obtain ⟨_, -, same⟩ := Option.map_eq_some_iff.mp ran
  cases same
  simp only [Bool.and_eq_true, decide_eq_true_eq] at checks
  obtain ⟨⟨failed, lives⟩, left⟩ := checks
  obtain ⟨a, found, lives⟩ := (Option.any_eq_true _ _).mp lives
  have spares : Spares [] (.ofHost (.new false)) (.ofHost (.new false)) :=
    ⟨Target.local_ofHost_new false, fun _ mem => absurd mem List.not_mem_nil⟩
  have history : History Spares [.compiled x.1 first] (failing x) :=
    .compiled first (.new spares (eq_ok_of_toOption new))
  split at failed
  · next e fails =>
    exact ⟨failing x, _, second held, third held, e, a, ⟨1⟩, history, fails,
      Outcome.artifact?_eq_some.mp found, .inl (beq_iff_eq.mp lives), left⟩
  · cases failed

/-- An artifact that is returned after a failure may have a unit beside those which were left. -/
theorem History.not_apart_from_failure :
    ¬ ∀ earlier recent c₀ c call₀ call e a loader, History Spares earlier c₀ →
      (c₀.answer call₀).outcome = .failed e →
      History Spares (recent ++ .compiled c₀ call₀ :: earlier) c →
      (c.answer call).outcome = .done a → a.HasUnitIn loader →
      ¬ c₀.target.host.unitsIn loader <
        (c₀.answer call₀).context.target.host.unitsIn loader := by
  intro apart
  obtain ⟨c₀, earlier, call₀, call, e, a, loader, h, failed, done, lives, left⟩ :=
    found_beside_failure
  exact apart earlier [] c₀ _ call₀ call e a loader h failed (h.compiled call₀) done lives left

/-- An artifact that was found beside the units of a failed installation had been returned before
the failure. -/
theorem History.fails_cleanly_beside :
    ∃ (c₀ : Context) (earlier : List Event) (call₀ call : Call) (e : CompileError) (a : Artifact)
      (loader : LoaderId), History Spares earlier c₀ ∧ (c₀.answer call₀).outcome = .failed e ∧
        ((c₀.answer call₀).context.answer call).outcome = .done a ∧ a.HasUnitIn loader ∧
        c₀.target.host.unitsIn loader <
          (c₀.answer call₀).context.target.host.unitsIn loader ∧
        c₀.Unharmed call₀.held call₀.files (c₀.answer call₀) ∧ a ∈ returned earlier := by
  obtain ⟨c₀, earlier, call₀, call, e, a, loader, h, failed, done, lives, left⟩ :=
    found_beside_failure
  obtain ⟨unharmed, before⟩ := h.fails_cleanly failed
  exact ⟨c₀, earlier, call₀, call, e, a, loader, h, failed, done, lives, left, unharmed,
    before [] _ call a loader (h.compiled call₀) done lives left⟩

end Context
end Scriptorium
