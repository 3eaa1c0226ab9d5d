import Scriptorium.Proofs.Context.Accounting
import Scriptorium.Proofs.Context.Attempt
import Scriptorium.Proofs.Context.Misses
import Scriptorium.Proofs.Context.Numbering

/-! Records at the end of the range of numbers. There are three ways in which a compile is broken
off: by a file that breaks its readers off, by an installer whose counts have no room for a bundle,
and by a record with the last number, after its units were installed (`Context.answer_broken_iff`).
A store writes no file of the first kind. So what it wrote breaks a compile off exactly if it has
the last number or its units are too many for the counts; if it is restored, the counter is raised
above its number and stays above it until the next fresh compile (`Context.answer_written`). -/

namespace Scriptorium

namespace RecordStore

variable {s writer : RecordStore} {t : FileTree} {root : Path} {source source' : SourceKey}
  {key : RecordKey} {b : Bundle} {id : UInt64}

/-- What a store wrote can be read to its end, by whatever store. -/
theorem Opened.not_breaksReaders (opened : Opened root writer) (holdable : b.Holdable)
    (written : t.read (s.recordPath key) =
      .ok (writer.contentOf (writer.scriptKey source) source b id)) :
    ¬ s.BreaksReaders t source' key := by
  rintro ⟨content, file, breaks⟩
  cases written.symm.trans file
  have parts := opened.splitContent_contentOf (s.recordPath key) (writer.scriptKey source) source b
    id
  rcases breaks with announces | ⟨header, -, -, -, oversized⟩
  · cases parts.symm.trans ((splitContent_eq_fault _ .capacityOverflow).mpr ⟨announces, rfl⟩)
  · have restored := Record.codec_restores (a := ⟨(writer.scriptKey source).text, b, id⟩)
      ⟨holdable_scriptKey writer source, holdable⟩ []
    obtain ⟨-, -, payload⟩ := opened.parts_contentOf (writer.scriptKey source) source b id
    rw [payload, payloadOf, ← List.append_nil (Record.codec.write _)] at oversized
    cases oversized.symm.trans restored

end RecordStore

namespace Context

variable {allowed : List Event → Target → Target → Prop} {log recent : List Event}
  {c c₀ : Context} {call call₀ : Call} {held : List Artifact} {source : Source} {f : Fingerprint}
  {record : Record} {fault : Fault} {a : Artifact} {files : FileTree}

/-! ### Compiles that are broken off -/

theorem recordFor?_eq_some : c.recordFor? call = some record ↔
    ∃ d, c.fromMemory call.held (c.fingerprintOf call.source) = (none, d) ∧
      fromDisk (c.record? (c.fingerprintOf call.source)) call.files
        (c.fingerprintOf call.source) = .ok (some record) := by
  rw [recordFor?]
  rcases c.fromMemory call.held (c.fingerprintOf call.source) with ⟨_ | a, d⟩
  · cases fromDisk (c.record? (c.fingerprintOf call.source)) call.files
      (c.fingerprintOf call.source) with
    | error fault => simp
    | ok found => simp
  · simp

/-- An installation is broken off in one way only. -/
theorem giveUp_install_eq_broken {d : Context} {s : Setback} {b : Bundle}
    (installs : (c.install held source b).1 = .error s) : (d.giveUp s).1 = .broken fault ↔
      (c.install held source b).1 = .error (.broken .addOverflow) ∧ fault = .addOverflow := by
  rw [giveUp_eq_broken, installs]
  constructor
  · rintro rfl
    obtain ⟨rfl, -⟩ := install_eq_broken installs
    exact ⟨rfl, rfl⟩
  · rintro ⟨same, rfl⟩
    exact Except.error.inj same

/-- A restoration is broken off with its installation, or by the last number once everything is
installed. -/
theorem restore_eq_broken : (c.restore held source f record).1 = .broken fault ↔
    (record.compilationId.toNat + 1 = UInt64.size ∧ (∃ installed,
        (c.countPersistentHit.install held source record.bundle).1 = .ok installed) ∨
      (c.countPersistentHit.install held source record.bundle).1 =
        .error (.broken .addOverflow)) ∧
      fault = .addOverflow := by
  have bound := record.compilationId.toNat_lt
  rw [restore]
  split
  · next s d installs =>
    rw [giveUp_install_eq_broken (congrArg Prod.fst installs)]
    simp [installs]
  · next installed d installs =>
    rw [installs, reserve]
    by_cases room : record.compilationId.toNat + 1 < UInt64.size
    · simp [room, Nat.ne_of_lt room]
    · have last : record.compilationId.toNat + 1 = UInt64.size := by
        rw [UInt64.size] at room ⊢
        omega
      simp [last, eq_comm]

/-- What was generated is broken off with its installation. -/
theorem establish_eq_broken {place : Option (RecordStore × RecordKey)} {b : Bundle} :
    (c.establish held files source f place b).1 = .broken fault ↔
      (c.install held source b).1 = .error (.broken .addOverflow) ∧ fault = .addOverflow := by
  simp only [establish]
  split
  · next s d installs => exact giveUp_install_eq_broken (congrArg Prod.fst installs)
  · next installs => simp [installs]

/-- The record that is found for the compile has the last number, and its bundle can be
installed. -/
structure Overflows (c : Context) (call : Call) (record : Record) : Prop where
  found : c.recordFor? call = some record
  last : record.compilationId.toNat + 1 = UInt64.size
  installs : ∃ d installed, c.installation? call = some (d, record.bundle) ∧
    (d.install call.held call.source record.bundle).1 = .ok installed

/-- A count of the installer has no room for a unit of the bundle that the compile installs, so that
the installation is broken off. -/
def Overfills (c : Context) (call : Call) (b : Bundle) : Prop :=
  ∃ d, c.installation? call = some (d, b) ∧
    (d.install call.held call.source b).1 = .error (.broken .addOverflow)

/-- It takes units for which the installer by name has no room. -/
theorem Overfills.full {b : Bundle} (h : c.Overfills call b) : ¬ c.RoomFor b.units := by
  obtain ⟨d, installs, broken⟩ := h
  rcases c.answer_alike call with ⟨nothing, -⟩ | ⟨d', _, installs', alike, -⟩
  · cases nothing.symm.trans installs
  · cases installs.symm.trans installs'
    have same := roomFor_congr alike.config alike.target alike.named b.units
    exact mt same.mpr (install_eq_broken broken).2

/-- A compile that finds a record restores it. -/
theorem answer_of_found (found : c.recordFor? call = some record) : ∃ d : Context,
    c.installation? call = some (d.countPersistentHit, record.bundle) ∧
      c.answer call =
        ⟨(d.restore call.held call.source (c.fingerprintOf call.source) record).1,
          (d.restore call.held call.source (c.fingerprintOf call.source) record).2,
          call.sink.reset, call.files, false⟩ := by
  obtain ⟨d, miss, loaded⟩ := recordFor?_eq_some.mp found
  have compiles := c.answer_compiles call
  refine ⟨d, by simp only [installation?, miss, loaded], ?_⟩
  generalize c.answer call = r at compiles ⊢
  cases compiles with
  | remembered hit => cases miss.symm.trans hit
  | broken _ loaded' | refused _ loaded' | established _ loaded' =>
    cases loaded.symm.trans loaded'
  | restored miss' loaded' =>
    cases miss.symm.trans miss'
    cases loaded.symm.trans loaded'
    rfl

/-- A compile whose installation is broken off is so as well. -/
theorem Overfills.answer_eq_broken {b : Bundle} (h : c.Overfills call b) :
    (c.answer call).outcome = .broken .addOverflow := by
  obtain ⟨d, installs, broken⟩ := h
  rcases c.answer_alike call with ⟨nothing, -⟩ | ⟨d', _, installs', -, -, concludes⟩
  · cases nothing.symm.trans installs
  · cases installs.symm.trans installs'
    rw [broken] at concludes
    generalize (c.answer call).outcome = outcome at concludes ⊢
    cases concludes
    rfl

/-- A compile that asks the generator is broken off by the counts of the installer alone. -/
theorem answer_broken_iff_of_asked (asked : (c.answer call).asked = true) :
    (c.answer call).outcome = .broken fault ↔
      (∃ b, c.Overfills call b) ∧ fault = .addOverflow := by
  have compiles := c.answer_compiles call
  constructor
  · intro broken
    generalize c.answer call = r at compiles asked broken
    cases compiles with
    | remembered | broken | restored => cases asked
    | refused => cases broken
    | @established d b _ miss loaded generated =>
      obtain ⟨overfilled, rfl⟩ := establish_eq_broken.mp broken
      have installation : c.installation? call = some (d, b) := by
        simp only [installation?, miss, loaded, generated]
      exact ⟨⟨b, d, installation, overfilled⟩, rfl⟩
  · rintro ⟨⟨b, overfills⟩, rfl⟩
    exact overfills.answer_eq_broken

/-- Compiles are broken off by files that cannot be read to their end, by records with the last
number and by installers whose counts have no room, and by nothing else. -/
theorem answer_broken_iff : (c.answer call).outcome = .broken fault ↔
    ((c.fromMemory call.held (c.fingerprintOf call.source)).1 = none ∧
      c.BreaksReaders call.files (c.fingerprintOf call.source) ∧ fault = .capacityOverflow) ∨
    (((∃ record, c.Overflows call record) ∨ ∃ b, c.Overfills call b) ∧ fault = .addOverflow) := by
  have compiles := c.answer_compiles call
  constructor
  · intro broken
    have fresh : (c.answer call).asked = true →
        (∃ b, c.Overfills call b) ∧ fault = .addOverflow := fun asked =>
      (answer_broken_iff_of_asked asked).mp broken
    generalize answered : c.answer call = r at compiles broken fresh
    cases compiles with
    | remembered => cases broken
    | broken miss loaded =>
      cases broken
      exact .inl ⟨congrArg Prod.fst miss, fromDisk_eq_error.mp loaded⟩
    | @restored d record miss loaded =>
      have installation : c.installation? call = some (d.countPersistentHit, record.bundle) := by
        simp only [installation?, miss, loaded]
      obtain ⟨⟨last, installed, ok⟩ | overfilled, rfl⟩ := restore_eq_broken.mp broken
      · exact .inr ⟨.inl ⟨record, recordFor?_eq_some.mpr ⟨d, miss, loaded⟩, last, _, installed,
          installation, ok⟩, rfl⟩
      · exact .inr ⟨.inr ⟨_, _, installation, overfilled⟩, rfl⟩
    | refused | established => exact .inr ((fresh rfl).imp_left .inr)
  · rintro (⟨miss, breaks, rfl⟩ |
      ⟨⟨record, found, last, d, installed, installation, ok⟩ | ⟨b, overfills⟩, rfl⟩)
    · exact compiles.broken_of_breaksReaders (Prod.ext miss rfl) breaks
    · obtain ⟨d', installation', restored⟩ := answer_of_found found
      cases installation.symm.trans installation'
      rw [restored]
      exact restore_eq_broken.mpr ⟨.inl ⟨last, installed, ok⟩, rfl⟩
    · exact overfills.answer_eq_broken

/-! ### The counter until the next fresh compile -/

/-- What is restored keeps its number, and the counter is above that. -/
theorem restore_number (done : (c.restore held source f record).1 = .done a) :
    a.compilationId = record.compilationId ∧
      record.compilationId < (c.restore held source f record).2.nextCompilation := by
  rw [restore] at done ⊢
  split at done
  · exact absurd done (giveUp_ne_done _)
  · next installed d _ =>
    split at done
    · cases done
    · next reserved =>
      cases done
      rw [reserve] at reserved
      split at reserved
      · next room =>
        cases reserved
        refine ⟨rfl, UInt64.lt_of_lt_of_le (lt_next room) ?_⟩
        exact (le_max d.nextCompilation (record.compilationId + 1)).2
      · cases reserved

theorem answer_number_of_found (found : c.recordFor? call = some record)
    (done : (c.answer call).outcome = .done a) : a.compilationId = record.compilationId ∧
      record.compilationId < (c.answer call).context.nextCompilation := by
  obtain ⟨d, -, restored⟩ := answer_of_found found
  rw [restored] at done ⊢
  exact restore_number done

/-- Only a fresh compile may bring the counter down, from the last number to the first one. -/
theorem nextCompilation_le_answer (stale : ∀ a, ¬ c.Fresh call a) :
    c.nextCompilation ≤ (c.answer call).context.nextCompilation := by
  cases c.answer_numbers call with
  | recalled _ _ _ next | nothing _ next =>
    rw [next]
    exact UInt64.le_refl _
  | @restored a _ _ _ next =>
    rw [next]
    exact (le_max c.nextCompilation (a.compilationId + 1)).1
  | @fresh a done asked => exact absurd ⟨done, asked⟩ (stale a)

theorem History.nextCompilation_le (h : History allowed (recent ++ .compiled c₀ call₀ :: log) c)
    (stale : ∀ before call a, .compiled before call ∈ recent → ¬ before.Fresh call a) :
    (c₀.answer call₀).context.nextCompilation ≤ c.nextCompilation := by
  generalize split : recent ++ .compiled c₀ call₀ :: log = whole at h
  induction h generalizing recent with
  | new => exact absurd split (by simp)
  | @compiled whole c call _ ih =>
    cases recent with
    | nil =>
      cases split
      exact UInt64.le_refl _
    | cons e recent =>
      obtain ⟨rfl, rest⟩ := List.cons.inj split
      have before := ih (fun before call a mem => stale before call a (List.mem_cons_of_mem _ mem))
        rest
      exact UInt64.le_trans before
        (nextCompilation_le_answer fun a => stale c call a List.mem_cons_self)
  | cleared _ ih =>
    cases recent with
    | nil => cases split
    | cons e recent =>
      obtain ⟨rfl, rest⟩ := List.cons.inj split
      exact ih (fun before call a mem => stale before call a (List.mem_cons_of_mem _ mem)) rest
  | aside _ ih => exact ih stale split
  | shared _ _ ih => exact ih stale split

/-- Whatever number a store wrote into a record, and whichever number the counter stands at, a
compile that comes upon the record is broken off exactly if the number is the last one and the
bundle can be installed, or if the installation itself is broken off; that takes a bundle for which
the counts of the installer by name have no room. If the record is restored, the counter is above
its number then, and the next fresh compile of the context gets a greater number, unless its own
installation is broken off. -/
theorem answer_written (c : Context) (call : Call) {root : Path} {writer store : RecordStore}
    {key : RecordKey} {written : SourceKey} {b : Bundle} {id : UInt64}
    (opened : RecordStore.Opened root writer) (holdable : b.Holdable)
    (placed : c.record? (c.fingerprintOf call.source) = some (store, key))
    (file : call.files.read (store.recordPath key) =
      .ok (writer.contentOf (writer.scriptKey written) written b id)) :
    (∀ fault, (c.answer call).outcome = .broken fault ↔
      (c.Overflows call ⟨(writer.scriptKey written).text, b, id⟩ ∨ ∃ b', c.Overfills call b') ∧
        fault = .addOverflow) ∧
    (∀ (c : Context) (call : Call) (b : Bundle), c.Overfills call b → ¬ c.RoomFor b.units) ∧
    ∀ a, (c.recordFor? call).isSome → (c.answer call).outcome = .done a →
      a.compilationId = id ∧ id < (c.answer call).context.nextCompilation ∧
        ∀ {allowed log recent c' call'},
          History allowed (recent ++ .compiled c call :: log) c' →
          (∀ before call a, .compiled before call ∈ recent → ¬ before.Fresh call a) →
          (c'.answer call').asked = true →
          (∀ fault, (c'.answer call').outcome = .broken fault ↔
            (∃ b', c'.Overfills call' b') ∧ fault = .addOverflow) ∧
            ∀ a', (c'.answer call').outcome = .done a' → id < a'.compilationId := by
  have readable : ¬ c.BreaksReaders call.files (c.fingerprintOf call.source) := by
    rintro ⟨store', key', placed', breaks⟩
    cases placed.symm.trans placed'
    exact opened.not_breaksReaders holdable file breaks
  have only : ∀ record, c.recordFor? call = some record →
      record = ⟨(writer.scriptKey written).text, b, id⟩ := by
    intro record found
    obtain ⟨d, -, loaded⟩ := recordFor?_eq_some.mp found
    obtain ⟨store', key', placed', loaded⟩ := fromDisk_eq_some loaded
    cases placed.symm.trans placed'
    obtain ⟨content, file', taken⟩ := RecordStore.load_eq_some.mp loaded
    cases file.symm.trans file'
    exact ((RecordStore.recordIn_contentOf_eq_ok opened
      (RecordStore.holdable_scriptKey writer written) holdable).mp taken).2
  refine ⟨fun fault => ?_, fun _ _ _ => Overfills.full, fun a found done => ?_⟩
  · rw [answer_broken_iff]
    constructor
    · rintro (⟨-, breaks, -⟩ | ⟨⟨record, overflows⟩ | overfills, rfl⟩)
      · exact absurd breaks readable
      · exact ⟨.inl (only record overflows.found ▸ overflows), rfl⟩
      · exact ⟨.inr overfills, rfl⟩
    · rintro ⟨overflows | overfills, rfl⟩
      · exact .inr ⟨.inl ⟨_, overflows⟩, rfl⟩
      · exact .inr ⟨.inr overfills, rfl⟩
  · obtain ⟨record, found⟩ := Option.isSome_iff_exists.mp found
    obtain ⟨number, below⟩ := answer_number_of_found found done
    cases only record found
    refine ⟨number, below, fun later stale asked =>
      ⟨fun fault => answer_broken_iff_of_asked asked, fun a' done' => ?_⟩⟩
    rw [Fresh.number ⟨done', asked⟩]
    exact UInt64.lt_of_lt_of_le below (later.nextCompilation_le stale)

/-- A record with the last number breaks a compile off. After one with the number 7 was restored,
the next fresh compile gets a greater number. -/
theorem answer_written_last :
    let generator : Generator := fun _ _ => ⟨[], some ⟨⟨"main", [1]⟩, ∅, []⟩⟩
    let call := fun files : FileTree =>
      (⟨generator, [], files, .empty, .ofString "a" "x"⟩ : Call)
    let next : Call := ⟨generator, [], .empty, .empty, .ofString "b" "y"⟩
    ∃ (c : Context) (files files' : FileTree) (a a' : Artifact) (record : Record),
      (c.answer (call files)).outcome = .done a ∧ a.compilationId = 7 ∧
        ((c.answer (call files)).context.answer next).outcome = .done a' ∧
        7 < a'.compilationId ∧ record.compilationId = 18446744073709551615 ∧
        c.Overflows (call files') record := by
  intro generator call next
  let config : Config :=
    { cache := { persistent := true, directory := "/k", minPersistSize := 0 } }
  let source := Source.ofString "a" "x"
  let b : Bundle := ⟨⟨"main", [1]⟩, ∅, []⟩
  let recorded := fun (x : Context × FileTree) (id : UInt64) => do
    let (store, key) ← x.1.record? (x.1.fingerprintOf source)
    (store.store x.2 key (x.1.fingerprintOf source).key b id).toOption
  let run := (Context.new config "1" (.ofHost (.new false)) none .empty).toOption.bind fun x =>
    (recorded x 7).bind fun files =>
      (recorded x 18446744073709551615).map fun files' => (x, files, files')
  have checks : run.any fun (x, files, files') =>
      (match (x.1.answer (call files')).outcome with
        | .broken .addOverflow => true
        | _ => false) &&
      (x.1.installation? (call files')).any
        (fun y => (y.1.install [] source y.2).1.toOption.isSome) &&
      (x.1.recordFor? (call files)).isSome &&
      (x.1.answer (call files)).outcome.artifact?.isSome &&
      ((x.1.answer (call files)).context.answer next).asked &&
      ((x.1.answer (call files)).context.answer next).outcome.artifact?.isSome := by
    decide +kernel
  obtain ⟨⟨x, files, files'⟩, ran, checks⟩ := (Option.any_eq_true _ _).mp checks
  obtain ⟨x, made, ran⟩ := Option.bind_eq_some_iff.mp ran
  obtain ⟨files, stored, ran⟩ := Option.bind_eq_some_iff.mp ran
  obtain ⟨files', stored', same⟩ := Option.map_eq_some_iff.mp ran
  cases same
  simp only [Bool.and_eq_true] at checks
  obtain ⟨⟨⟨⟨⟨broken, installs⟩, found⟩, returned⟩, asked⟩, returned'⟩ := checks
  obtain ⟨a, returned⟩ := Option.isSome_iff_exists.mp returned
  obtain ⟨a', returned'⟩ := Option.isSome_iff_exists.mp returned'
  have new := eq_ok_of_toOption made
  have holdable : b.Holdable := by decide
  obtain ⟨⟨store, key⟩, placed, written⟩ := Option.bind_eq_some_iff.mp stored
  obtain ⟨_, placed', written'⟩ := Option.bind_eq_some_iff.mp stored'
  cases placed.symm.trans placed'
  obtain ⟨opens, rfl, -⟩ := record?_eq_some.mp placed
  have opened := ((new_eq_ok new).1.store store opens).2.opened
  have file := FileTree.read_of_write (RecordStore.store_eq_ok (eq_ok_of_toOption written))
  have file' := FileTree.read_of_write (RecordStore.store_eq_ok (eq_ok_of_toOption written'))
  have done := Outcome.artifact?_eq_some.mp returned
  have history : History (fun _ _ _ => True) ([] ++ .compiled x.1 (call files) :: [])
      (x.1.answer (call files)).context := .compiled _ (.new trivial new)
  have restored := (answer_written x.1 (call files) opened holdable placed file).2.2 a found done
  have above := restored.2.2 history (fun _ _ _ mem => absurd mem List.not_mem_nil) asked
  have overflow : (x.1.answer (call files')).outcome = .broken .addOverflow := by
    split at broken
    · assumption
    · cases broken
  have spec := answer_written x.1 (call files') opened holdable placed file'
  have fits : ¬ ∃ b', x.1.Overfills (call files') b' := by
    rintro ⟨b', d, asks, full⟩
    rw [asks, Option.any_some, full] at installs
    cases installs
  have overflows := ((spec.1 .addOverflow).mp overflow).1.resolve_right fits
  have done' := Outcome.artifact?_eq_some.mp returned'
  exact ⟨x.1, files, files', a, a', _, done, restored.1, done', above.2 a' done', rfl, overflows⟩

end Context
end Scriptorium
