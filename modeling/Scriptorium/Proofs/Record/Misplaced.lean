import Scriptorium.Proofs.Record.Store

/-! What a store makes of the files of other stores. A file that some store wrote is complete and
undamaged wherever it is put, so that only what its header and its record say can count against it:
the version of the writer, then its profile, then the source and the name
(`RecordStore.tryLoad_misplaced`). -/

namespace Scriptorium

open Wire (Holdable)

/-- The version in a header takes a part of its room. -/
theorem RecordHeader.length_version_le_write (h : RecordHeader) :
    (Bytes.utf8 h.version).length ≤ (codec.write h).length := by
  simp only [codec, Wire.Codec.view, Wire.Codec.pair, Wire.text, Wire.blob, List.length_append]
  omega

namespace RecordStore

variable {s : RecordStore} {t t₁ t₂ : FileTree} {source : SourceKey} {key : RecordKey}
  {bundle : Bundle} {id : UInt64}

/-- A header whose length four octets can say has a version that memory can hold. -/
theorem holdable_version_of_small
    (small : (RecordHeader.codec.write (s.headerOf key source bundle id)).length < Bytes.bound 4) :
    Holdable (Bytes.utf8 s.version) := by
  have version := (s.headerOf key source bundle id).length_version_le_write
  exact Nat.le_trans version (Nat.le_trans (Nat.le_of_lt small) (by decide))

/-- The first thing in the header of one store that another one objects to. -/
theorem mismatch?_headerOf (s s' : RecordStore) (path : Path) (source source' : SourceKey)
    (key : RecordKey) (bundle : Bundle) (id : UInt64) :
    s'.mismatch? path source' (s.headerOf key source bundle id) =
      if s.version ≠ s'.version then some (.versionMismatch path s'.version s.version)
      else if s.profile ≠ s'.profile then
        some (.profileMismatch path s'.profile.tag s.profile.tag)
      else if source ≠ source' then some (.sourceMismatch path)
      else none := by
  rw [mismatch?, if_neg fun differs => differs rfl, if_neg fun differs => differs rfl]
  rfl

/-- What a store finds in the file of another one. -/
theorem recordIn_misplaced (s' : RecordStore) (path : Path) (source' : SourceKey)
    (key' : RecordKey)
    (small : (RecordHeader.codec.write (s.headerOf key source bundle id)).length < Bytes.bound 4)
    (named : Holdable (Bytes.utf8 key.text)) (holdable : bundle.Holdable) :
    s'.recordIn path source' key' (s.contentOf key source bundle id) =
      if s.version ≠ s'.version then
        .error (.error (.versionMismatch path s'.version s.version))
      else if s.profile ≠ s'.profile then
        .error (.error (.profileMismatch path s'.profile.tag s.profile.tag))
      else if source ≠ source' ∨ key ≠ key' then .error (.error (.sourceMismatch path))
      else .ok ⟨key.text, bundle, id⟩ := by
  have parts := splitContent_contentOf (holdable_version_of_small small) small path
  have restored := read_payloadOf id named holdable
  have sum : Digest.ofBytes (payloadOf key bundle id) =
      (s.headerOf key source bundle id).checksum := rfl
  have texts : key.text = key'.text ↔ key = key' := by
    cases key
    cases key'
    simp
  simp only [recordIn, parts, bind, Except.bind, mismatch?_headerOf, sum, ne_eq, not_true_eq_false,
    if_false, restored, texts]
  by_cases version : s.version = s'.version
  · by_cases profile : s.profile = s'.profile
    · by_cases same : source = source'
      · simp [version, profile, same]
      · simp [version, profile, same]
    · simp [version, profile]
  · simp [version]

/-- A file that one store wrote, wherever another one comes upon it unchanged, is of another version
if the versions of the two differ, else of another profile if their profiles do, else of another
source if the sources or the keys do, and else it is the record that was written. The first two
cases, and no others, make it an outdated one. -/
theorem tryLoad_misplaced (s' : RecordStore) (source' : SourceKey) (key' : RecordKey)
    (stored : s.store t key source bundle id = .ok t₁)
    (placed : t₂.read (s'.recordPath key') = t₁.read (s.recordPath key))
    (small : (RecordHeader.codec.write (s.headerOf key source bundle id)).length < Bytes.bound 4)
    (named : Holdable (Bytes.utf8 key.text)) (holdable : bundle.Holdable) :
    (s'.tryLoad t₂ source' key' =
      if s.version ≠ s'.version then
        .error (.error (.versionMismatch (s'.recordPath key') s'.version s.version))
      else if s.profile ≠ s'.profile then
        .error (.error
          (.profileMismatch (s'.recordPath key') s'.profile.tag s.profile.tag))
      else if source ≠ source' ∨ key ≠ key' then
        .error (.error (.sourceMismatch (s'.recordPath key')))
      else .ok (some ⟨key.text, bundle, id⟩)) ∧
    ((∃ e, s'.tryLoad t₂ source' key' = .error (.error e) ∧ e.isStale = true) ↔
      s.version ≠ s'.version ∨ s.profile ≠ s'.profile) := by
  have file := placed.trans (FileTree.read_of_write (store_eq_ok stored))
  rw [tryLoad_of_read file, recordIn_misplaced s' _ source' key' small named holdable]
  by_cases version : s.version = s'.version
  · by_cases profile : s.profile = s'.profile
    · by_cases other : source ≠ source' ∨ key ≠ key'
      · simp [version, profile, if_pos other, Except.map, StoreError.isStale]
      · simp [version, profile, if_neg other, Except.map]
    · simp [version, profile, Except.map, StoreError.isStale]
  · simp [version, Except.map, StoreError.isStale]

/-- A record with a NaN among its constants, in the directory that two stores share: the one that
wrote it reads it back bit for bit, and to the other one it is of another version. -/
theorem tryLoad_misplaced_shared :
    let standard : RecordStore := ⟨"/1_opt", "1_opt", .standard, 0⟩
    let optimistic : RecordStore := ⟨"/1_opt", "1", .optimistic, 0⟩
    let source : SourceKey := ⟨⟨1, 2⟩, false⟩
    let key : RecordKey := ⟨"k"⟩
    let bundle : Bundle := ⟨⟨"main", [1]⟩, ∅, [.number ⟨0x7ff8000000000001⟩]⟩
    ∃ t, standard.store ⟨[(["1_opt"], .directory)]⟩ key source bundle 3 = .ok t ∧
      standard.tryLoad t source key = .ok (some ⟨"k", bundle, 3⟩) ∧
      optimistic.tryLoad t source key =
        .error (.error (.versionMismatch "/1_opt/k.rec" "1" "1_opt")) := by
  intro standard optimistic source key bundle
  obtain ⟨t, stored⟩ := exists_of_isOk (show
    (standard.store ⟨[(["1_opt"], .directory)]⟩ key source bundle 3).isOk by decide +kernel)
  have small : (RecordHeader.codec.write (standard.headerOf key source bundle 3)).length <
      Bytes.bound 4 := by decide +kernel
  have named : Holdable (Bytes.utf8 key.text) := by decide +kernel
  have holdable : bundle.Holdable := by decide
  have place : optimistic.recordPath key = "/1_opt/k.rec" := by decide +kernel
  refine ⟨t, stored, ?_, ?_⟩
  · rw [(tryLoad_misplaced standard source key stored rfl small named holdable).1]
    rfl
  · rw [(tryLoad_misplaced optimistic source key stored rfl small named holdable).1,
      if_pos (show "1_opt" ≠ "1" by decide), place]

end RecordStore
end Scriptorium
