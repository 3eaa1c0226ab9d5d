import Scriptorium.Proofs.Context.Frame
import Scriptorium.Proofs.Context.History

/-! The account of compiles. Four counts say what compiles came to: artifacts found in memory,
records found on disk, fresh compiles and failures. A compile that returns raises one of them by
one, except that a record which cannot be installed is counted as found and then as a failure
(`Context.answer_entered`). So the counts of a history come to the compiles that returned and the
records that were found in vain (`Context.History.accounted`). -/

namespace Scriptorium

/-- Whether a compile came to an end, be it with an artifact or with an error. -/
def Outcome.returns : Outcome → Bool
  | .done _ | .failed _ => true
  | .broken _ => false

namespace Stats

/-- All that was counted of compiles. -/
def compiles (s : Stats) : Nat :=
  s.memoryHits + s.persistentHits + s.freshCompiles + s.failedCompiles

/-- What was added to the counts of compiles. -/
structure Gains (memory persistent fresh failed : Nat) (s s' : Stats) : Prop where
  memoryHits : s'.memoryHits = s.memoryHits + memory
  persistentHits : s'.persistentHits = s.persistentHits + persistent
  freshCompiles : s'.freshCompiles = s.freshCompiles + fresh
  failedCompiles : s'.failedCompiles = s.failedCompiles + failed

/-- One count of compiles is raised by one, and the others stay. -/
inductive GainsOne (s s' : Stats) : Prop
  | memory : Gains 1 0 0 0 s s' → GainsOne s s'
  | persistent : Gains 0 1 0 0 s s' → GainsOne s s'
  | fresh : Gains 0 0 1 0 s s' → GainsOne s s'
  | failed : Gains 0 0 0 1 s s' → GainsOne s s'

variable {s s' s'' : Stats} {memory persistent fresh failed : Nat}

theorem Gains.compiles (h : Gains memory persistent fresh failed s s') :
    s'.compiles = s.compiles + (memory + persistent + fresh + failed) := by
  obtain ⟨memoryHits, persistentHits, freshCompiles, failedCompiles⟩ := h
  simp only [Stats.compiles]
  omega

theorem GainsOne.compiles (h : GainsOne s s') : s'.compiles = s.compiles + 1 := by
  cases h with
  | memory gains | persistent gains | fresh gains | failed gains => exact gains.compiles

/-- How a compile is entered in the counts, by whether a record was found for it and what it came
to. -/
inductive Entered (s s' : Stats) : (recorded : Bool) → Outcome → Prop
  | memory {a} : Gains 1 0 0 0 s s' → Entered s s' false (.done a)
  | restored {a} : Gains 0 1 0 0 s s' → Entered s s' true (.done a)
  | fresh {a} : Gains 0 0 1 0 s s' → Entered s s' false (.done a)
  | failed {e} : Gains 0 0 0 1 s s' → Entered s s' false (.failed e)
  /-- The record was counted before it was installed, and the failure after that. -/
  | forfeited {e} : Gains 0 1 0 1 s s' → Entered s s' true (.failed e)
  | uncounted {fault} : Gains 0 0 0 0 s s' → Entered s s' false (.broken fault)
  /-- The record was counted before the compile was broken off. -/
  | overflowed {fault} : Gains 0 1 0 0 s s' → Entered s s' true (.broken fault)

variable {recorded : Bool} {o : Outcome}

/-- The counts grow by one for a compile that returns, and by one for a record that comes to no
artifact. -/
theorem Entered.compiles (h : Entered s s' recorded o) : s'.compiles = s.compiles +
    ((if o.returns then 1 else 0) + if recorded && o.artifact?.isNone then 1 else 0) := by
  cases h with
  | memory gains | restored gains | fresh gains | failed gains | forfeited gains
  | uncounted gains | overflowed gains => exact gains.compiles

/-- If a compile returns, one count is raised unless a record was found in vain. -/
theorem Entered.gainsOne_iff (h : Entered s s' recorded o) (returns : o.returns) :
    GainsOne s s' ↔ (recorded && o.artifact?.isNone) = false := by
  constructor
  · intro one
    have all := h.compiles
    rw [one.compiles, if_pos returns] at all
    refine Bool.eq_false_iff.mpr fun forfeited => ?_
    rw [if_pos forfeited] at all
    omega
  · intro kept
    cases h with
    | memory gains => exact .memory gains
    | restored gains => exact .persistent gains
    | fresh gains => exact .fresh gains
    | failed gains => exact .failed gains
    | forfeited => cases kept
    | uncounted | overflowed => cases returns

end Stats

namespace Context

open Stats (Gains GainsOne Entered)

variable {allowed : List Event → Target → Target → Prop} {log : List Event} {c c' : Context}
  {held : List Artifact} {files : FileTree} {source : Source} {f : Fingerprint} {b : Bundle}
  {place : Option (RecordStore × RecordKey)}

/-- The record that a compile finds on disk after it has found nothing in memory. -/
def recordFor? (c : Context) (call : Call) : Option Record :=
  let f := c.fingerprintOf call.source
  match (c.fromMemory call.held f).1, fromDisk (c.record? f) call.files f with
  | none, .ok record => record
  | _, _ => none

/-- A record was found for the compile, but no artifact came of it. -/
def forfeits (c : Context) (call : Call) : Bool :=
  (c.recordFor? call).isSome && (c.answer call).outcome.artifact?.isNone

def Event.returned : Event → Bool
  | .compiled c call => (c.answer call).outcome.returns
  | .cleared => false

def Event.forfeited : Event → Bool
  | .compiled c call => c.forfeits call
  | .cleared => false

/-! ### One compile -/

theorem InstallChanges.gains (h : c.InstallChanges c') : Gains 0 0 0 0 c.stats c'.stats := by
  obtain ⟨_, _, _, _, _, _, _, _, rfl⟩ := h
  exact ⟨rfl, rfl, rfl, rfl⟩

theorem persist_gains (c : Context) (files : FileTree) (place : Option (RecordStore × RecordKey))
    (f : Fingerprint) (b : Bundle) (id : UInt64) :
    Gains 0 0 0 0 c.stats (c.persist files place f b id).1.stats := by
  rcases c.persist_cases files place f b id with same | same <;> rw [same] <;>
    exact ⟨rfl, rfl, rfl, rfl⟩

theorem restore_entered (c : Context) (held : List Artifact) (source : Source) (f : Fingerprint)
    (record : Record) : Entered c.stats (c.restore held source f record).2.stats true
      (c.restore held source f record).1 := by
  have installed := (c.countPersistentHit.install_changes held source record.bundle).gains
  have found : Gains 0 1 0 0 c.stats
      (c.countPersistentHit.install held source record.bundle).2.stats :=
    ⟨installed.memoryHits, installed.persistentHits, installed.freshCompiles,
      installed.failedCompiles⟩
  rw [restore]
  split
  · next s d installs =>
    rw [installs] at found
    cases s with
    | refused e =>
      exact .forfeited ⟨found.memoryHits, found.persistentHits, found.freshCompiles,
        congrArg (· + 1) found.failedCompiles⟩
    | broken fault => exact .overflowed found
  · next d installs =>
    rw [installs] at found
    split
    · exact .overflowed found
    · next reserved =>
      rw [reserve] at reserved
      split at reserved
      · cases reserved
        exact .restored ⟨found.memoryHits, found.persistentHits, found.freshCompiles,
          found.failedCompiles⟩
      · cases reserved

theorem establish_entered (c : Context) (held : List Artifact) (files : FileTree)
    (source : Source) (f : Fingerprint) (place : Option (RecordStore × RecordKey)) (b : Bundle) :
    Entered c.stats (c.establish held files source f place b).2.1.stats false
      (c.establish held files source f place b).1 := by
  have installed := (c.install_changes held source b).gains
  rw [establish]
  split
  · next s d installs =>
    rw [installs] at installed
    cases s with
    | refused e =>
      exact .failed ⟨installed.memoryHits, installed.persistentHits, installed.freshCompiles,
        congrArg (· + 1) installed.failedCompiles⟩
    | broken fault => exact .uncounted installed
  · next d installs =>
    rw [installs] at installed
    have persisted := persist_gains (countFresh { d with nextCompilation := d.nextCompilation + 1 })
      files place f b d.nextCompilation
    exact .fresh ⟨persisted.memoryHits.trans installed.memoryHits,
      persisted.persistentHits.trans installed.persistentHits,
      persisted.freshCompiles.trans (congrArg (· + 1) installed.freshCompiles),
      persisted.failedCompiles.trans installed.failedCompiles⟩

theorem answer_entered (c : Context) (call : Call) :
    Entered c.stats (c.answer call).context.stats (c.recordFor? call).isSome
      (c.answer call).outcome := by
  have same := c.fromMemory_stats call.held (c.fingerprintOf call.source)
  have compiles := c.answer_compiles call
  rw [recordFor?]
  generalize c.answer call = r at compiles ⊢
  cases compiles with
  | remembered hit =>
    rw [hit] at same ⊢
    rw [← same]
    exact .memory ⟨rfl, rfl, rfl, rfl⟩
  | broken miss loaded =>
    rw [miss] at same ⊢
    rw [loaded, ← same]
    exact .uncounted ⟨rfl, rfl, rfl, rfl⟩
  | restored miss loaded =>
    rw [miss] at same ⊢
    rw [loaded, ← same]
    exact restore_entered ..
  | refused miss loaded =>
    rw [miss] at same ⊢
    rw [loaded, ← same]
    exact .failed ⟨rfl, rfl, rfl, rfl⟩
  | established miss loaded =>
    rw [miss] at same ⊢
    rw [loaded, ← same]
    exact establish_entered ..

/-! ### Histories -/

theorem History.compiles_eq (h : History allowed log c) :
    c.stats.compiles = log.countP Event.returned + log.countP Event.forfeited := by
  induction h with
  | new _ made =>
    rw [(new_eq_ok made).1.stats]
    rfl
  | @compiled log c call _ ih =>
    rw [(c.answer_entered call).compiles, ih, List.countP_cons, List.countP_cons]
    exact Nat.add_add_add_comm ..
  | cleared _ ih => exact ih
  | aside _ ih => exact ih
  | shared _ _ ih => exact ih

/-- In any history, the counts come to the compiles that returned, and once more to each record that
was found but brought no artifact. A compile that returns raises exactly one of the counts by one,
unless the record it found cannot be installed, which raises two. -/
theorem History.accounted (h : History allowed log c) (call : Call) :
    c.stats.compiles = log.countP Event.returned + log.countP Event.forfeited ∧
      ((c.answer call).outcome.returns →
        (GainsOne c.stats (c.answer call).context.stats ↔ c.forfeits call = false) ∧
        (c.forfeits call → Gains 0 1 0 1 c.stats (c.answer call).context.stats)) := by
  have entered := c.answer_entered call
  refine ⟨h.compiles_eq, fun returns => ⟨entered.gainsOne_iff returns, fun forfeits => ?_⟩⟩
  rw [Context.forfeits] at forfeits
  generalize (c.recordFor? call).isSome = recorded at entered forfeits
  generalize (c.answer call).outcome = o at entered forfeits returns
  cases entered with
  | forfeited gains => exact gains
  | memory | restored | fresh | failed | uncounted => cases forfeits
  | overflowed => cases returns

/-- A verifier objects to what a record holds, each time that its source is compiled: after one
compile there are two entries in the counts. -/
theorem History.accounted_rejected :
    ∃ (c : Context) (log : List Event) (call : Call), History (fun _ _ _ => True) log c ∧
      c.stats.compiles = 2 ∧ log.countP Event.returned = 1 ∧ log.countP Event.forfeited = 1 ∧
      (c.answer call).outcome.returns ∧
      Gains 0 1 0 1 c.stats (c.answer call).context.stats := by
  let generator : Generator := fun _ _ => ⟨[], some ⟨⟨"main", [1]⟩, ∅, []⟩⟩
  let config : Config :=
    { cache := { persistent := true, directory := "/k", minPersistSize := 0 } }
  let checking : Config := { config with compile := { verifyCode := true } }
  let start := fun config files =>
    (Context.new config "1" (.ofHost (.new false)) (some fun _ => some "no") files).toOption
  let call := fun files => (⟨generator, [], files, .empty, .ofString "a" "x"⟩ : Call)
  let run := (start config .empty).bind fun x => start checking (x.1.answer (call x.2)).files
  have checks : run.any fun x =>
      ((x.1.answer (call x.2)).context.answer (call x.2)).outcome.returns &&
      (x.1.answer (call x.2)).outcome.returns && x.1.forfeits (call x.2) &&
      (x.1.answer (call x.2)).context.forfeits (call x.2) := by
    decide +kernel
  obtain ⟨⟨c, files⟩, ran, checks⟩ := (Option.any_eq_true _ _).mp checks
  obtain ⟨x, -, new⟩ := Option.bind_eq_some_iff.mp ran
  simp only [Bool.and_eq_true] at checks
  obtain ⟨⟨⟨returns, returned⟩, forfeited⟩, forfeits⟩ := checks
  have history : History (fun _ _ _ => True) [.compiled c (call files)]
      (c.answer (call files)).context := .compiled _ (.new trivial (eq_ok_of_toOption new))
  have one : [Event.compiled c (call files)].countP Event.returned = 1 :=
    List.countP_eq_length.mpr (List.forall_mem_singleton.mpr returned)
  have vain : [Event.compiled c (call files)].countP Event.forfeited = 1 :=
    List.countP_eq_length.mpr (List.forall_mem_singleton.mpr forfeited)
  obtain ⟨compiles, next⟩ := history.accounted (call files)
  rw [one, vain] at compiles
  exact ⟨_, _, call files, history, compiles, one, vain, returns, (next returns).2 forfeits⟩

end Context
end Scriptorium
