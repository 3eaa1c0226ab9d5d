import Scriptorium.Proofs.Context.Compile
import Scriptorium.Proofs.Record.Tampering

/-! What is on disk matters to a compile only if it is the record of its source. With any two trees
of files that have no record for it, a compile does the same, up to the count of records that could
not be written and the files themselves (`Context.compile_unrecorded`). The exception are files that
break off whoever reads them, since they have a text that is said to be longer than memory can hold
(`RecordStore.BreaksReaders`). -/

namespace Scriptorium

namespace RecordStore

variable {s : RecordStore} {t : FileTree} {path : Path} {source : SourceKey} {key : RecordKey}
  {content : Bytes} {f : Fault}

/-- All that is in front of the payload fits the reader, and the payload has a text in it that is
said to be longer than memory can hold. -/
def PayloadOversized (s : RecordStore) (path : Path) (source : SourceKey) (content : Bytes) :
    Prop :=
  ∃ header, splitContent path content = .ok (header, payloadPart content) ∧
    s.mismatch? path source header = none ∧
    Digest.ofBytes (payloadPart content) = header.checksum ∧
    Record.codec.read (payloadPart content) = .error .oversized

/-- The file in the place of a key cannot be read to its end. -/
def BreaksReaders (s : RecordStore) (t : FileTree) (source : SourceKey) (key : RecordKey) : Prop :=
  ∃ content, t.read (s.recordPath key) = .ok content ∧
    (AnnouncesOversized content ∨ s.PayloadOversized (s.recordPath key) source content)

theorem recordIn_eq_fault : s.recordIn path source key content = .error (.fault f) ↔
    (AnnouncesOversized content ∨ s.PayloadOversized path source content) ∧
      f = .capacityOverflow := by
  have header_fault : ∀ f, splitContent path content = .error (.fault f) ↔
      AnnouncesOversized content ∧ f = .capacityOverflow := splitContent_eq_fault path
  cases parts : splitContent path content with
  | error failure =>
    have ended : s.recordIn path source key content = .error failure := by
      simp only [recordIn, parts, bind, Except.bind]
    have modest : ¬ s.PayloadOversized path source content := by
      rintro ⟨header, split_, -⟩
      cases parts.symm.trans split_
    simp only [parts, Except.error.injEq] at header_fault
    simp only [ended, Except.error.injEq, header_fault, modest, or_false]
  | ok x =>
    obtain ⟨header, payload⟩ := x
    obtain ⟨-, -, rfl⟩ := splitContent_eq_ok.mp parts
    have modest : ¬ AnnouncesOversized content := by
      intro oversized
      cases parts.symm.trans ((header_fault .capacityOverflow).mpr ⟨oversized, rfl⟩)
    have payload_oversized : s.PayloadOversized path source content ↔
        s.mismatch? path source header = none ∧
          Digest.ofBytes (payloadPart content) = header.checksum ∧
          Record.codec.read (payloadPart content) = .error .oversized := by
      constructor
      · rintro ⟨_, split_, rest⟩
        cases parts.symm.trans split_
        exact rest
      · exact fun rest => ⟨header, parts, rest⟩
    simp only [modest, false_or, payload_oversized, recordIn, parts, bind, Except.bind]
    cases s.mismatch? path source header with
    | some e => simp
    | none =>
      by_cases sum : Digest.ofBytes (payloadPart content) = header.checksum
      · simp only [sum, ne_eq, not_true_eq_false, if_false, true_and]
        cases Record.codec.read (payloadPart content) with
        | error e => simp [decodingFailure_eq_fault]
        | ok x =>
          obtain ⟨r, rest⟩ := x
          by_cases named : r.key = key.text <;> simp [named]
      · simp [sum]

/-- Loading a record is broken off exactly by a file that breaks its readers off. -/
theorem load_eq_error : s.load t source key = .error f ↔
    s.BreaksReaders t source key ∧ f = .capacityOverflow := by
  rw [load]
  cases file : t.read (s.recordPath key) with
  | error e => cases e <;> simp [tryLoad, BreaksReaders, file]
  | ok content =>
    have breaks : s.BreaksReaders t source key ↔
        AnnouncesOversized content ∨ s.PayloadOversized (s.recordPath key) source content := by
      simp [BreaksReaders, file]
    have fault := @recordIn_eq_fault s (s.recordPath key) source key content f
    rw [tryLoad_of_read file, breaks, ← fault]
    cases s.recordIn (s.recordPath key) source key content with
    | ok r => simp [Except.map]
    | error failure => cases failure <;> simp [Except.map, eq_comm]

end RecordStore

/-- The context as if every record could have been written. -/
def Context.withoutPersistFailures (c : Context) : Context :=
  { c with stats := { c.stats with persistFailures := 0 } }

/-- The compiles agree in everything but the files and the count of records that could not be
written. -/
structure Compiled.Alike (r r' : Compiled) : Prop where
  outcome : r'.outcome = r.outcome
  asked : r'.asked = r.asked
  sink : r'.sink = r.sink
  context : r'.context.withoutPersistFailures = r.context.withoutPersistFailures

namespace Context

variable {c c' d : Context} {generator : Generator} {held : List Artifact}
  {files files' : FileTree} {sink : Sink} {source : Source} {f : Fingerprint}

/-! ### Nothing on disk -/

/-- Whatever is in the place of the record, it is not taken for one. -/
def Unrecorded (c : Context) (files : FileTree) (f : Fingerprint) : Prop :=
  ∀ store key record, c.record? f = some (store, key) →
    store.load files f.key key ≠ .ok (some record)

/-- What is in the place of the record breaks off whoever reads it. -/
def BreaksReaders (c : Context) (files : FileTree) (f : Fingerprint) : Prop :=
  ∃ store key, c.record? f = some (store, key) ∧ store.BreaksReaders files f.key key

theorem fromDisk_eq_error {fault : Fault} : fromDisk (c.record? f) files f = .error fault ↔
    c.BreaksReaders files f ∧ fault = .capacityOverflow := by
  constructor
  · intro broken
    cases place : c.record? f with
    | none =>
      rw [place] at broken
      cases broken
    | some x =>
      obtain ⟨store, key⟩ := x
      rw [place] at broken
      obtain ⟨breaks, rfl⟩ := RecordStore.load_eq_error.mp broken
      exact ⟨⟨store, key, place, breaks⟩, rfl⟩
  · rintro ⟨⟨store, key, place, breaks⟩, rfl⟩
    rw [place]
    exact RecordStore.load_eq_error.mpr ⟨breaks, rfl⟩

theorem fromDisk_eq_none : fromDisk (c.record? f) files f = .ok none ↔
    c.Unrecorded files f ∧ ¬ c.BreaksReaders files f := by
  constructor
  · intro nothing
    refine ⟨fun store key record place loaded => ?_, fun breaks => ?_⟩
    · rw [place, fromDisk, loaded] at nothing
      cases nothing
    · cases nothing.symm.trans (fromDisk_eq_error.mpr ⟨breaks, rfl⟩)
  · rintro ⟨unrecorded, readable⟩
    cases found : fromDisk (c.record? f) files f with
    | error fault => exact absurd (fromDisk_eq_error.mp found).1 readable
    | ok loaded =>
      cases loaded with
      | none => rfl
      | some record =>
        obtain ⟨store, key, place, loaded⟩ := fromDisk_eq_some found
        exact absurd loaded (unrecorded store key record place)

/-! ### What a failure to persist reaches -/

/-- Nothing that is delivered depends on the count of failures. -/
theorem deliver_alike (same : c'.withoutPersistFailures = c.withoutPersistFailures)
    (held : List Artifact) (f : Fingerprint) (installed : Installed) (constants : List Constant)
    (id : UInt64) :
    (c'.deliver held f installed constants id).1 = (c.deliver held f installed constants id).1 ∧
      (c'.deliver held f installed constants id).2.withoutPersistFailures =
        (c.deliver held f installed constants id).2.withoutPersistFailures := by
  have delivered := congrArg (fun c => c.deliver held f installed constants id) same
  have artifact := congrArg Prod.fst delivered
  have context := congrArg Prod.snd delivered
  exact ⟨artifact, context⟩

theorem persist_alike (c : Context) (files : FileTree) (place : Option (RecordStore × RecordKey))
    (f : Fingerprint) (b : Bundle) (id : UInt64) :
    (c.persist files place f b id).1.withoutPersistFailures = c.withoutPersistFailures := by
  rcases c.persist_cases files place f b id with same | same <;> rw [same]
  rfl

/-- A compile that is given up is broken off if its installation was. -/
theorem giveUp_eq_broken {s : Setback} {fault : Fault} :
    (c.giveUp s).1 = .broken fault ↔ s = .broken fault := by
  cases s <;> simp [giveUp]

/-- What was generated is established alike whether its record can be written or not. It breaks the
compile off only if the counts have no room for it. -/
theorem establish_alike (c : Context) (held : List Artifact) (files files' : FileTree)
    (source : Source) (f : Fingerprint) (place : Option (RecordStore × RecordKey)) (b : Bundle) :
    let established := c.establish held files source f place b
    let established' := c.establish held files' source f place b
    established'.1 = established.1 ∧
      established'.2.1.withoutPersistFailures = established.2.1.withoutPersistFailures ∧
      ∀ fault, established.1 = .broken fault → fault = .addOverflow ∧ ¬ c.RoomFor b.units := by
  simp only [establish]
  split
  · next s d installs =>
    refine ⟨rfl, rfl, fun fault broken => ?_⟩
    have ended : (c.install held source b).1 = .error (.broken fault) := by
      rw [installs, giveUp_eq_broken.mp broken]
    exact install_eq_broken ended
  · next installed d _ =>
    have uncounted := fun files => persist_alike
      (countFresh { d with nextCompilation := d.nextCompilation + 1 }) files place f b
      d.nextCompilation
    have same := (uncounted files').trans (uncounted files).symm
    obtain ⟨artifact, context⟩ := deliver_alike same held f installed b.constants d.nextCompilation
    exact ⟨congrArg Outcome.done artifact, context, by simp⟩

/-! ### Compiles without a record -/

/-- If nothing is found in memory or on disk, the generator is asked. -/
theorem Compiles.eq_of_unrecorded {r : Compiled}
    (h : c.Compiles generator held files sink source f r) (miss : c.fromMemory held f = (none, d))
    (nothing : fromDisk (c.record? f) files f = .ok none) :
    r = match generate generator source f.strict sink.reset with
      | (.error e, sink') => ⟨.failed e, d.countFailure, sink', files, true⟩
      | (.ok b, sink') =>
        let established := d.establish held files source f (c.record? f) b
        ⟨established.1, established.2.1, sink', established.2.2, true⟩ := by
  cases h with
  | remembered hit => cases miss.symm.trans hit
  | broken _ loaded | restored _ loaded => cases nothing.symm.trans loaded
  | refused miss' _ generated | established miss' _ generated =>
    cases miss.symm.trans miss'
    rw [generated]

theorem Compiles.alike {r r' : Compiled} (h : c.Compiles generator held files sink source f r)
    (h' : c.Compiles generator held files' sink source f r')
    (miss : c.fromMemory held f = (none, d))
    (nothing : fromDisk (c.record? f) files f = .ok none)
    (nothing' : fromDisk (c.record? f) files' f = .ok none) :
    r.Alike r' ∧ (∀ fault, r.outcome = .broken fault → fault = .addOverflow ∧
      ∃ b, (generator source f.strict).bundle = some b ∧ ¬ c.RoomFor b.units) ∧
        r.asked = true := by
  have looked := fromMemory_means c held f
  rw [miss] at looked
  rw [h.eq_of_unrecorded miss nothing, h'.eq_of_unrecorded miss nothing']
  split
  · exact ⟨⟨rfl, rfl, rfl, rfl⟩, nofun, rfl⟩
  · next b _ generated =>
    obtain ⟨outcome, context, overflows⟩ :=
      d.establish_alike held files files' source f (c.record? f) b
    refine ⟨⟨outcome, rfl, rfl, context⟩, fun fault broken => ?_, rfl⟩
    obtain ⟨overflow, full⟩ := overflows fault broken
    exact ⟨overflow, b, generate_eq_ok generated, mt (looked.roomFor b.units).mpr full⟩

theorem Compiles.broken_of_breaksReaders {r : Compiled}
    (h : c.Compiles generator held files sink source f r) (miss : c.fromMemory held f = (none, d))
    (breaks : c.BreaksReaders files f) : r.outcome = .broken .capacityOverflow := by
  have broken := fromDisk_eq_error.mpr ⟨breaks, rfl⟩
  cases h with
  | remembered hit => cases miss.symm.trans hit
  | broken _ loaded =>
    cases broken.symm.trans loaded
    rfl
  | restored _ loaded | refused _ loaded | established _ loaded => cases broken.symm.trans loaded

/-- With two trees of files neither of which has a record of the source, a compile does the same: it
comes to the same end, with the same artifact or the same error, it asks the generator if nothing
was in memory, and it leaves the same context behind, up to the count of records that could not be
written. Only a file that breaks its readers off breaks the compile off as well, or else, whatever
the files are, a bundle that was generated and for which the counts have no room. -/
theorem compile_unrecorded (c : Context) (generator : Generator) (held : List Artifact)
    (files files' : FileTree) (sink : Sink) (source : Source)
    (unrecorded : c.Unrecorded files (c.fingerprintOf source))
    (unrecorded' : c.Unrecorded files' (c.fingerprintOf source)) :
    let f := c.fingerprintOf source
    let found := (c.fromMemory held f).1
    let r := c.compile generator held files sink source
    let r' := c.compile generator held files' sink source
    (found.isSome ∨ (¬ c.BreaksReaders files f ∧ ¬ c.BreaksReaders files' f) →
      r.Alike r' ∧ (∀ fault, r.outcome = .broken fault → fault = .addOverflow ∧ found = none ∧
        ∃ b, (generator source f.strict).bundle = some b ∧ ¬ c.RoomFor b.units) ∧
        r.asked = found.isNone) ∧
    (found = none → c.BreaksReaders files f → r.outcome = .broken .capacityOverflow) := by
  intro f found r r'
  have compiles : c.Compiles generator held files sink source f r := c.compiles_compile ..
  have compiles' : c.Compiles generator held files' sink source f r' := c.compiles_compile ..
  simp only [found]
  rcases looked : c.fromMemory held f with ⟨_ | a, d⟩
  · refine ⟨fun readable => ?_, fun _ breaks => compiles.broken_of_breaksReaders looked breaks⟩
    obtain ⟨readable, readable'⟩ := readable.resolve_left (by simp)
    obtain ⟨alike, overflows, asked⟩ := compiles.alike compiles' looked
      (fromDisk_eq_none.mpr ⟨unrecorded, readable⟩) (fromDisk_eq_none.mpr ⟨unrecorded', readable'⟩)
    refine ⟨alike, fun fault broken => ?_, asked⟩
    obtain ⟨overflow, full⟩ := overflows fault broken
    exact ⟨overflow, rfl, full⟩
  · have hit : r = ⟨.done a, d.countMemoryHit, .empty, files, false⟩ := compile_of_hit looked
    have hit' : r' = ⟨.done a, d.countMemoryHit, .empty, files', false⟩ := compile_of_hit looked
    rw [hit, hit']
    exact ⟨fun _ => ⟨⟨rfl, rfl, rfl, rfl⟩, nofun, rfl⟩, nofun⟩

/-- The directory of the store is gone, so that no record can be written, or the record is cut off
after two octets, or its header announces a version of 2 ^ 63 octets. -/
theorem compile_unrecorded_small :
    let generator : Generator := fun _ _ => ⟨[], some ⟨⟨"main", [1]⟩, ∅, []⟩⟩
    let source := Source.ofString "a" "x"
    ∃ (c : Context) (gone short oversized : FileTree),
      let compiled := fun files => c.compile generator [] files .empty source
      (compiled gone).Alike (compiled short) ∧
        (compiled gone).context.stats.persistFailures = 1 ∧
        (compiled short).context.stats.persistFailures = 0 ∧
        (compiled oversized).outcome = .broken .capacityOverflow := by
  intro generator source
  let config : Config :=
    { cache := { persistent := true, directory := "/k", minPersistSize := 0 } }
  let announcing : Bytes :=
    Bytes.word 4 14 ++ RecordHeader.fileMagic ++ [1, 253] ++ Bytes.word 8 (2 ^ 63)
  let found := fun (c : Context) files =>
    (fromDisk (c.record? (c.fingerprintOf source)) files (c.fingerprintOf source)).toOption
  let holding := fun (x : Context × FileTree) content =>
    (x.1.record? (x.1.fingerprintOf source)).bind fun (store, key) =>
      (x.2.write (store.recordPath key) content).toOption
  let run := (Context.new config "1" (.ofHost (.new false)) none .empty).toOption.bind fun x =>
    (holding x [1, 2]).bind fun short => (holding x announcing).map fun oversized =>
      (x.1, short, oversized)
  have checks : run.any fun (c, short, oversized) =>
      (found c .empty).any (·.isNone) && (found c short).any (·.isNone) &&
      (found c oversized).isNone && (c.fromMemory [] (c.fingerprintOf source)).1.isNone &&
      (c.compile generator [] .empty .empty source).context.stats.persistFailures == 1 &&
      (c.compile generator [] short .empty source).context.stats.persistFailures == 0 := by
    decide +kernel
  obtain ⟨⟨c, short, oversized⟩, -, checks⟩ := (Option.any_eq_true _ _).mp checks
  simp only [Bool.and_eq_true, beq_iff_eq, Option.isNone_iff_eq_none] at checks
  obtain ⟨⟨⟨⟨⟨gone, cut⟩, broken⟩, miss⟩, one⟩, zero⟩ := checks
  have nothing : ∀ {files}, (found c files).any (·.isNone) →
      c.Unrecorded files (c.fingerprintOf source) ∧
        ¬ c.BreaksReaders files (c.fingerprintOf source) := by
    intro files none_
    obtain ⟨record, loaded, same⟩ := (Option.any_eq_true _ _).mp none_
    cases Option.isNone_iff_eq_none.mp same
    exact fromDisk_eq_none.mp (eq_ok_of_toOption loaded)
  obtain ⟨unrecorded, readable⟩ := nothing gone
  obtain ⟨unrecorded', readable'⟩ := nothing cut
  have breaks : c.BreaksReaders oversized (c.fingerprintOf source) ∧
      c.Unrecorded oversized (c.fingerprintOf source) := by
    cases loaded : fromDisk (c.record? (c.fingerprintOf source)) oversized
        (c.fingerprintOf source) with
    | ok record => simp [found, loaded, Except.toOption] at broken
    | error fault =>
      refine ⟨(fromDisk_eq_error.mp loaded).1, fun store key record place same => ?_⟩
      rw [place, fromDisk, same] at loaded
      cases loaded
  refine ⟨c, .empty, short, oversized, ?_, one, zero, ?_⟩
  · exact ((compile_unrecorded c generator [] .empty short .empty source unrecorded unrecorded').1
      (.inr ⟨readable, readable'⟩)).1
  · exact (compile_unrecorded c generator [] oversized .empty .empty source breaks.2
      unrecorded).2 miss breaks.1

end Context
end Scriptorium
