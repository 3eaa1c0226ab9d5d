import Scriptorium.Proofs.Context.Accounting
import Scriptorium.Proofs.Context.Lineage

/-! What a compile does to the disk. Whether a source has a record is settled by the configuration,
the store and the length of the text (`Context.Storable`), before anything is read. A source without
one is compiled as if there were no disk; for any other, a fresh artifact replaces the one file that
its key names, whatever was in it, or else the failure is counted and no file is touched
(`Context.History.persists`). -/

namespace Scriptorium

namespace RecordStore

variable {root : Path} {s : RecordStore} {source : SourceKey} {b : Bundle} {id : UInt64}
  {t t' : FileTree}

/-- The record of a source is stored, with no other file touched, and will be read back. -/
structure Replaces (s : RecordStore) (source : SourceKey) (b : Bundle) (id : UInt64)
    (t t' : FileTree) : Prop where
  stored : s.store t (s.scriptKey source) source b id = .ok t'
  elsewhere : ∀ l, l ≠ (s.recordPath (s.scriptKey source)).location → t'.get? l = t.get? l
  loads : b.Holdable → s.load t' source (s.scriptKey source) =
    .ok (some ⟨(s.scriptKey source).text, b, id⟩)

theorem Opened.replaces (opened : Opened root s)
    (stored : s.store t (s.scriptKey source) source b id = .ok t') :
    s.Replaces source b id t t' := by
  have written := store_eq_ok stored
  obtain ⟨-, -, changed⟩ := FileTree.write_eq_ok written
  refine ⟨stored, fun l other => by rw [changed, if_neg other], fun holdable => ?_⟩
  exact load_eq_some.mpr ⟨_, FileTree.read_of_write written,
    recordIn_contentOf opened (s.holdable_scriptKey source) holdable⟩

end RecordStore

namespace Context

variable {allowed : List Event → Target → Target → Prop} {log : List Event} {c : Context}
  {call : Call} {a : Artifact} {held : List Artifact} {files : FileTree} {source : Source}
  {f : Fingerprint} {b : Bundle} {place : Option (RecordStore × RecordKey)}

/-- Compiles of the source may read and write a record: the store is open, the code is not eager
while it rests on assumptions about types, and the text is long enough. -/
def Storable (c : Context) (source : Source) : Prop :=
  c.store.isSome ∧ (c.config.compile.lazy ∨ ¬ c.config.compile.optimisticTypes) ∧
    c.config.cache.minPersistSize ≤ source.length

instance (c : Context) (source : Source) : Decidable (c.Storable source) :=
  inferInstanceAs (Decidable (_ ∧ _))

theorem StoreFits.isEligible_iff {store : RecordStore} (fits : c.StoreFits store) :
    store.isEligible (c.fingerprintOf source) ↔
      c.config.cache.minPersistSize ≤ source.length := by
  rw [RecordStore.isEligible, fits.minSize]
  exact decide_eq_true_iff

/-- The sources with a record are the storable ones. -/
theorem History.record?_isSome_iff (h : History allowed log c) :
    (c.record? (c.fingerprintOf source)).isSome ↔ c.Storable source := by
  constructor
  · intro placed
    obtain ⟨⟨store, key⟩, placed⟩ := Option.isSome_iff_exists.mp placed
    obtain ⟨opened, -, eligible, lasting⟩ := record?_eq_some.mp placed
    exact ⟨opened ▸ rfl, lasting, (h.storeFits opened).isEligible_iff.mp eligible⟩
  · rintro ⟨opened, lasting, long⟩
    obtain ⟨store, opened⟩ := Option.isSome_iff_exists.mp opened
    have eligible := (h.storeFits opened).isEligible_iff.mpr long
    rw [record?_eq_some.mpr ⟨opened, rfl, eligible, lasting⟩]
    rfl

/-! ### Writing -/

/-- What becomes of the record of a fresh artifact: it has no place, or it is stored, or the failure
to store it is counted. -/
inductive Writes (place : Option (RecordStore × RecordKey)) (f : Fingerprint) (b : Bundle)
    (id : UInt64) (files files' : FileTree) (failures failures' : Nat) : Prop
  | nowhere : place = none → files' = files → failures' = failures →
      Writes place f b id files files' failures failures'
  | stored {store key} : place = some (store, key) →
      store.store files key f.key b id = .ok files' → failures' = failures →
      Writes place f b id files files' failures failures'
  | lost {store key e} : place = some (store, key) →
      store.store files key f.key b id = .error e → files' = files →
      failures' = failures + 1 → Writes place f b id files files' failures failures'

theorem persist_writes (c : Context) (files : FileTree) (place : Option (RecordStore × RecordKey))
    (f : Fingerprint) (b : Bundle) (id : UInt64) :
    Writes place f b id files (c.persist files place f b id).2 c.stats.persistFailures
      (c.persist files place f b id).1.stats.persistFailures := by
  simp only [persist]
  split
  · exact .nowhere rfl rfl rfl
  · split
    · next stored => exact .stored rfl stored rfl
    · next failed => exact .lost rfl failed rfl rfl

theorem establish_writes (done : (c.establish held files source f place b).1 = .done a) :
    Writes place f b a.compilationId files (c.establish held files source f place b).2.2
      c.stats.persistFailures
      (c.establish held files source f place b).2.1.stats.persistFailures := by
  have keeps := install_keeps c held source b
  rw [establish] at done ⊢
  split at done
  · exact absurd done (giveUp_ne_done _)
  · next installed d installs =>
    rw [installs] at keeps
    cases done
    rw [← keeps.persistFailures]
    exact persist_writes (countFresh { d with nextCompilation := d.nextCompilation + 1 }) ..

/-- A fresh artifact stands for what the generator made, and so does its record. -/
theorem Fresh.writes (h : c.Fresh call a) :
    ∃ b, (call.generator call.source (c.fingerprintOf call.source).strict).bundle = some b ∧
      Writes (c.record? (c.fingerprintOf call.source)) (c.fingerprintOf call.source) b
        a.compilationId call.files (c.answer call).files c.stats.persistFailures
        (c.answer call).context.stats.persistFailures := by
  have compiles := c.answer_compiles call
  have counted := c.fromMemory_stats call.held (c.fingerprintOf call.source)
  obtain ⟨done, asked⟩ := h
  generalize c.answer call = r at compiles done asked ⊢
  cases compiles with
  | remembered | broken | restored => cases asked
  | refused => cases done
  | established miss loaded generated =>
    rw [miss] at counted
    rw [← counted]
    exact ⟨_, generate_eq_ok generated, establish_writes done⟩

/-! ### Sources without a record -/

theorem establish_nowhere (c : Context) (held : List Artifact) (files files' : FileTree)
    (source : Source) (f : Fingerprint) (b : Bundle) :
    c.establish held files' source f none b =
      ((c.establish held files source f none b).1, (c.establish held files source f none b).2.1,
        files') := by
  simp only [establish, persist]
  split <;> rfl

/-- A compile of a source that has no record is not reached by any file, and reaches none. -/
theorem answer_of_unplaced (unplaced : c.record? (c.fingerprintOf call.source) = none)
    (files : FileTree) : c.answer { call with files } = { c.answer call with files } := by
  have setup := (fromMemory_means c call.held (c.fingerprintOf call.source)).toSameSetup
  simp only [answer, compile]
  rcases looked : c.fromMemory call.held (c.fingerprintOf call.source) with ⟨_ | a, d⟩
  · rw [looked] at setup
    simp only [setup.record?_eq, unplaced, fromDisk]
    split
    · rfl
    · simp only [d.establish_nowhere call.held call.files files]
  · rfl

/-- A source that is not storable has no record, and what lies on disk makes no difference to it. -/
theorem History.answer_of_unstorable (h : History allowed log c)
    (unstorable : ¬ c.Storable call.source) : c.recordFor? call = none ∧
      ∀ files, c.answer { call with files } = { c.answer call with files } := by
  have unplaced : c.record? (c.fingerprintOf call.source) = none :=
    Option.not_isSome_iff_eq_none.mp fun placed => unstorable (h.record?_isSome_iff.mp placed)
  refine ⟨?_, answer_of_unplaced unplaced⟩
  simp only [recordFor?, unplaced, fromDisk]
  cases (c.fromMemory call.held (c.fingerprintOf call.source)).1 <;> rfl

/-- What a fresh artifact of the bundle does to the disk. -/
inductive Deposits (c : Context) (call : Call) (a : Artifact) (b : Bundle) : Prop
  | nowhere : ¬ c.Storable call.source → (c.answer call).files = call.files →
      (c.answer call).context.stats.persistFailures = c.stats.persistFailures →
      Deposits c call a b
  | stored {store : RecordStore} : c.Storable call.source → c.store = some store →
      store.Replaces (c.fingerprintOf call.source).key b a.compilationId call.files
        (c.answer call).files →
      (c.answer call).context.stats.persistFailures = c.stats.persistFailures →
      Deposits c call a b
  | lost {store : RecordStore} {e} : c.Storable call.source → c.store = some store →
      store.store call.files (store.scriptKey (c.fingerprintOf call.source).key)
        (c.fingerprintOf call.source).key b a.compilationId = .error e →
      (c.answer call).files = call.files →
      (c.answer call).context.stats.persistFailures = c.stats.persistFailures + 1 →
      Deposits c call a b

theorem Fresh.deposits (fresh : c.Fresh call a) (h : History allowed log c) :
    ∃ b, (call.generator call.source (c.fingerprintOf call.source).strict).bundle = some b ∧
      c.Deposits call a b := by
  obtain ⟨b, made, writes⟩ := fresh.writes
  refine ⟨b, made, ?_⟩
  cases writes with
  | nowhere unplaced files failures =>
    refine .nowhere (fun storable => ?_) files failures
    rw [← h.record?_isSome_iff, unplaced] at storable
    cases storable
  | stored place stored failures =>
    have storable := h.record?_isSome_iff.mp (Option.isSome_of_eq_some place)
    obtain ⟨opened, rfl, -⟩ := record?_eq_some.mp place
    have replaces := (h.storeFits opened).opened.replaces stored
    exact .stored storable opened replaces failures
  | lost place failed files failures =>
    have storable := h.record?_isSome_iff.mp (Option.isSome_of_eq_some place)
    obtain ⟨opened, rfl, -⟩ := record?_eq_some.mp place
    exact .lost storable opened failed files failures

/-- In any history and with any files, a compile touches no file unless it returns a fresh artifact
of a storable source, and then none but the record of that source; if this cannot be written, no
file is touched and the failure is counted. What was written is what a reader finds from then on,
whatever was there before. For a source that is not storable no record is looked at. -/
theorem History.persists (h : History allowed log c) (call : Call) :
    ((∀ a, ¬ c.Fresh call a) → (c.answer call).files = call.files) ∧
    (∀ a, c.Fresh call a →
      ∃ b, (call.generator call.source (c.fingerprintOf call.source).strict).bundle = some b ∧
        c.Deposits call a b) ∧
    (¬ c.Storable call.source → c.recordFor? call = none ∧
      ∀ files, c.answer { call with files } = { c.answer call with files }) := by
  refine ⟨fun stale => ?_, fun a fresh => fresh.deposits h, h.answer_of_unstorable⟩
  rcases c.answer_files call with same | ⟨_, _, a, _, fresh, _⟩
  · exact same
  · exact absurd fresh (stale a)

/-- A compile replaces what was damaged in the place of its record, and the record is read back. -/
theorem History.persists_damaged :
    ∃ (c : Context) (call : Call) (a : Artifact) (store : RecordStore) (b : Bundle),
      History (fun _ _ _ => True) [] c ∧ c.Fresh call a ∧ c.store = some store ∧
        let source := (c.fingerprintOf call.source).key
        let key := store.scriptKey source
        call.files.read (store.recordPath key) = .ok [1, 2] ∧
          store.load call.files source key = .ok none ∧
          store.load (c.answer call).files source key =
            .ok (some ⟨key.text, b, a.compilationId⟩) := by
  let b : Bundle := ⟨⟨"main", [1]⟩, ∅, []⟩
  let config : Config :=
    { cache := { persistent := true, directory := "/k", minPersistSize := 0 } }
  let source : Source := .ofString "a" "x"
  let call := fun files => (⟨fun _ _ => ⟨[], some b⟩, [], files, .empty, source⟩ : Call)
  let path := fun (c : Context) (store : RecordStore) =>
    store.recordPath (store.scriptKey (c.fingerprintOf source).key)
  let run := do
    let x ← (Context.new config "1" (.ofHost (.new false)) none .empty).toOption
    let store ← x.1.store
    let files ← (x.2.write (path x.1 store) [1, 2]).toOption
    let a ← (x.1.answer (call files)).outcome.artifact?
    some (x, store, files, a)
  have checks : run.any fun (x, store, files, a) =>
      (x.1.answer (call files)).asked && decide (x.1.Storable source) &&
      (x.1.answer (call files)).context.stats.persistFailures == x.1.stats.persistFailures &&
      (store.load files (x.1.fingerprintOf source).key
        (store.scriptKey (x.1.fingerprintOf source).key)).toOption == some none := by
    decide +kernel
  obtain ⟨⟨x, store, files, a⟩, ran, checks⟩ := (Option.any_eq_true _ _).mp checks
  obtain ⟨x, made, ran⟩ := Option.bind_eq_some_iff.mp ran
  obtain ⟨store, opened, ran⟩ := Option.bind_eq_some_iff.mp ran
  obtain ⟨files, written, ran⟩ := Option.bind_eq_some_iff.mp ran
  obtain ⟨a, done, ran⟩ := Option.bind_eq_some_iff.mp ran
  cases ran
  simp only [Bool.and_eq_true, beq_iff_eq, decide_eq_true_eq] at checks
  obtain ⟨⟨⟨asked, storable⟩, unfailed⟩, damaged⟩ := checks
  have history : History (fun _ _ _ => True) [] x.1 := .new trivial (eq_ok_of_toOption made)
  have fresh : x.1.Fresh (call files) a := ⟨Outcome.artifact?_eq_some.mp done, asked⟩
  refine ⟨x.1, call files, a, store, b, history, fresh, opened,
    FileTree.read_of_write (eq_ok_of_toOption written), eq_ok_of_toOption damaged, ?_⟩
  obtain ⟨-, persists, -⟩ := history.persists (call files)
  obtain ⟨_, same, deposits⟩ := persists a fresh
  cases same
  cases deposits with
  | nowhere unstorable => exact absurd storable unstorable
  | stored _ opened' replaces =>
    cases opened.symm.trans opened'
    exact replaces.loads (by decide)
  | lost _ _ _ _ counted =>
    have before := unfailed.symm.trans counted
    omega

end Context
end Scriptorium
