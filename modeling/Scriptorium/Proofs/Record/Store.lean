import Scriptorium.Proofs.FileTree
import Scriptorium.Proofs.Identity
import Scriptorium.Proofs.Record.Codec
import Scriptorium.Record.Store

/-! What a store makes of the files that stores write. A store reads its own files back
(`RecordStore.recordIn_contentOf`), and a file that any store wrote is a record for those readers
only that agree with the writer on version, profile and source
(`RecordStore.recordIn_contentOf_eq_ok`). The version of a store that could be opened is part of a
path, which bounds its length and that of its headers. -/

namespace Scriptorium

open Wire (Holdable)

/-! ### Lengths of texts -/

theorem Bytes.utf8_eq_flatMap (s : String) : utf8 s = s.toList.flatMap String.utf8EncodeChar := by
  rw [utf8, ← String.utf8Encode_toList, List.utf8Encode]
  simp

/-- A character takes one to four octets. -/
theorem Bytes.length_utf8 (s : String) :
    s.toList.length ≤ (utf8 s).length ∧ (utf8 s).length ≤ 4 * s.toList.length := by
  rw [utf8_eq_flatMap]
  induction s.toList with
  | nil => exact ⟨Nat.le_refl _, Nat.le_refl _⟩
  | cons c cs ih =>
    have pos := c.utf8Size_pos
    have four := c.utf8Size_le_four
    rw [List.flatMap_cons, List.length_append, String.length_utf8EncodeChar, List.length_cons]
    omega

theorem Path.length_le_join (base name : Path) :
    name.toList.length ≤ (base.join name).toList.length := by
  rw [join]
  split
  · exact Nat.le_refl _
  · split
    all_goals
      simp only [String.toList_append, List.length_append]
      omega

namespace RecordStore

variable {s s' : RecordStore} {t t' : FileTree} {root path : Path} {source source' : SourceKey}
  {key key' : RecordKey} {bundle : Bundle} {id : UInt64} {content : Bytes} {r : Record}

/-! ### Opened stores -/

/-- A store as it is had from opening one below `root`. -/
def Opened (root : Path) (s : RecordStore) : Prop :=
  ∃ t version profile minSize t', openAt t root version profile minSize = (t', .ok s)

theorem openAt_eq_ok {version : String} {profile : Profile} {minSize : Nat}
    (h : openAt t root version profile minSize = (t', .ok s)) :
    s = ⟨directoryPath root version profile, version, profile, minSize⟩ ∧ t.Grows t' ∧
      (Bytes.utf8 (directoryPath root version profile)).length ≤ 4095 := by
  have grows := FileTree.makeDirectories_grows t (directoryPath root version profile)
  rw [openAt] at h
  split at h
  · next made =>
    cases h
    rw [made] at grows
    exact ⟨rfl, grows, FileTree.length_of_makeDirectories made⟩
  · cases h

theorem openAt_grows (t : FileTree) (root : Path) (version : String) (profile : Profile)
    (minSize : Nat) : t.Grows (openAt t root version profile minSize).1 := by
  have grows := FileTree.makeDirectories_grows t (directoryPath root version profile)
  rw [openAt]
  split
  · next made => rw [made] at grows; exact grows
  · next failed => rw [failed] at grows; exact grows

theorem Opened.directory (h : Opened root s) :
    s.directory = directoryPath root s.version s.profile := by
  obtain ⟨t, version, profile, minSize, t', h⟩ := h
  obtain ⟨rfl, -, -⟩ := openAt_eq_ok h
  rfl

/-- The version of an opened store has room in a path. -/
theorem Opened.length_version (h : Opened root s) : (Bytes.utf8 s.version).length ≤ 16380 := by
  obtain ⟨t, version, profile, minSize, t', h⟩ := h
  obtain ⟨rfl, -, short⟩ := openAt_eq_ok h
  have name := Path.length_le_join root (directoryName version ++ profile.dirSuffix)
  have same : (directoryName version).toList.length = version.toList.length := by
    simp [directoryName]
  have chars := (Bytes.length_utf8 (directoryPath root version profile)).1
  have octets := (Bytes.length_utf8 version).2
  rw [String.toList_append, List.length_append, same] at name
  rw [directoryPath] at chars short
  dsimp only
  omega

theorem Opened.holdable_version (h : Opened root s) : Holdable (Bytes.utf8 s.version) :=
  Nat.le_trans h.length_version (by decide)

/-! ### Where records are -/

/-- The name of a record has a slash only from its kind. -/
theorem slash_mem_recordName (kind : String) (source : SourceKey) (version : String)
    (profile : Profile) :
    '/' ∈ ((RecordKey.derive kind source version profile).text ++ ".rec").toList ↔
      '/' ∈ kind.toList := by
  have digits : '/' ∉ (Digest.ofFields (RecordKey.fields source version profile)).display.toList :=
    fun h => absurd (Bytes.mem_hex h) (by decide)
  have around : '/' ∉ "-".toList ∧ '/' ∉ ".rec".toList := by decide
  simp only [RecordKey.derive, String.toList_append, List.mem_append, digits, around, or_false]

theorem length_recordName (kind : String) (source : SourceKey) (version : String)
    (profile : Profile) :
    ((RecordKey.derive kind source version profile).text ++ ".rec").toList.length =
      kind.toList.length + 37 := by
  have digits := Digest.length_display (Digest.ofFields (RecordKey.fields source version profile))
  have around : "-".toList.length = 1 ∧ ".rec".toList.length = 4 := by decide
  simp only [RecordKey.derive, String.toList_append, List.length_append]
  omega

/-- A record is a thing of its own in a directory unless its kind has a slash. -/
theorem isProperName_recordName (kind : String) (source : SourceKey) (version : String)
    (profile : Profile) :
    Path.IsProperName ((RecordKey.derive kind source version profile).text ++ ".rec") ↔
      '/' ∉ kind.toList := by
  rw [← not_congr (slash_mem_recordName kind source version profile)]
  constructor
  · exact fun proper => proper.noSlash
  · intro noSlash
    refine Path.isProperName_of_long noSlash ?_
    rw [length_recordName]
    omega

/-- The record of a script is a file in the directory of its store. -/
theorem location_recordPath (s : RecordStore) (source : SourceKey) :
    (s.recordPath (s.scriptKey source)).location =
      s.directory.location ++ [(s.scriptKey source).text ++ ".rec"] := by
  have proper := (isProperName_recordName scriptKind source s.version s.profile).mpr (by decide)
  exact Path.location_join_proper s.directory proper

/-- Two scripts have their records in one place only if the names of the records agree. -/
theorem scriptKey_eq_of_location
    (h : (s.recordPath (s.scriptKey source)).location =
      (s'.recordPath (s'.scriptKey source')).location) :
    s.scriptKey source = s'.scriptKey source' := by
  rw [location_recordPath, location_recordPath] at h
  generalize s.scriptKey source = key at *
  generalize s'.scriptKey source' = key' at *
  obtain ⟨-, names⟩ := List.append_inj' h (by simp only [List.length_singleton])
  have files := congrArg String.toList (List.singleton_inj.mp names)
  rw [String.toList_append, String.toList_append] at files
  have texts := String.toList_inj.mp (List.append_cancel_right files)
  cases key
  cases key'
  cases texts
  rfl

theorem holdable_scriptKey (s : RecordStore) (source : SourceKey) :
    Holdable (Bytes.utf8 (s.scriptKey source).text) := by
  have length := length_recordName scriptKind source s.version s.profile
  have kind : scriptKind.toList.length = 6 := by decide
  rw [String.toList_append, List.length_append, kind] at length
  rw [scriptKey]
  generalize (RecordKey.derive scriptKind source s.version s.profile).text = text at *
  have octets := (Bytes.length_utf8 text).2
  have small : (Bytes.utf8 text).length ≤ 172 := by omega
  exact Nat.le_trans small (by decide)

/-! ### What is in a record file -/

/-- The octets of a file that its first four say are the header. -/
def headerPart (content : Bytes) : Bytes :=
  (content.drop 4).take (Bytes.value (content.take 4))

/-- The octets of a file behind its header. -/
def payloadPart (content : Bytes) : Bytes :=
  (content.drop 4).drop (Bytes.value (content.take 4))

/-- There are four octets that give the length of the header, and a header of that length. -/
def HasHeaderPart (content : Bytes) : Prop :=
  4 ≤ content.length ∧ Bytes.value (content.take 4) ≤ (content.drop 4).length

instance (content : Bytes) : Decidable (HasHeaderPart content) :=
  inferInstanceAs (Decidable (_ ∧ _))

theorem splitContent_eq (path : Path) (content : Bytes) : splitContent path content =
    if content.length < 4 then .error (.error (.invalidHeader path .shortPrefix))
    else if (content.drop 4).length < Bytes.value (content.take 4) then
      .error (.error (.invalidHeader path .truncated))
    else match RecordHeader.codec.read (headerPart content) with
      | .error e =>
        .error (decodingFailure (fun reason => .invalidHeader path (.undecodable reason)) e)
      | .ok (header, _) => .ok (header, payloadPart content) := rfl

theorem splitContent_eq_ok {header : RecordHeader} {payload : Bytes} :
    splitContent path content = .ok (header, payload) ↔ HasHeaderPart content ∧
      (∃ rest, RecordHeader.codec.read (headerPart content) = .ok (header, rest)) ∧
        payload = payloadPart content := by
  constructor
  · intro h
    rw [splitContent_eq] at h
    split at h
    · cases h
    · next long =>
      split at h
      · cases h
      · next room =>
        split at h
        · cases h
        · next header' rest read =>
          cases h
          exact ⟨⟨Nat.not_lt.mp long, Nat.not_lt.mp room⟩, ⟨rest, read⟩, rfl⟩
  · rintro ⟨⟨long, room⟩, ⟨rest, read⟩, rfl⟩
    rw [splitContent_eq, if_neg (Nat.not_lt.mpr long), if_neg (Nat.not_lt.mpr room), read]

theorem mismatch?_eq_none {header : RecordHeader} :
    s.mismatch? path source header = none ↔ header.magic = RecordHeader.fileMagic ∧
      header.format = RecordHeader.fileFormat ∧ header.version = s.version ∧
        header.profile = s.profile ∧ header.source = source := by
  rw [mismatch?]
  grind

/-- A record is taken from a file only if all that its header says fits the reader. -/
theorem recordIn_eq_ok :
    s.recordIn path source key content = .ok r ↔ ∃ header,
      splitContent path content = .ok (header, payloadPart content) ∧
      s.mismatch? path source header = none ∧
      Digest.ofBytes (payloadPart content) = header.checksum ∧
      (∃ rest, Record.codec.read (payloadPart content) = .ok (r, rest)) ∧ r.key = key.text := by
  constructor
  · intro h
    obtain ⟨⟨header, payload⟩, parts, h⟩ := bind_eq_ok.mp h
    obtain ⟨-, -, rfl⟩ := splitContent_eq_ok.mp parts
    refine ⟨header, parts, ?_⟩
    dsimp only at h
    split at h
    · cases h
    · next fits =>
      split at h
      · cases h
      · next same =>
        split at h
        · cases h
        · next r' rest read =>
          split at h
          · next named =>
            cases h
            exact ⟨fits, Decidable.not_not.mp same, ⟨rest, read⟩, named⟩
          · cases h
  · rintro ⟨header, parts, fits, same, ⟨rest, read⟩, named⟩
    simp only [recordIn, parts, bind, Except.bind, fits, same, ne_eq, not_true_eq_false, if_false,
      read, if_pos named]

/-! ### Reading what was written -/

/-- A header of a length that four octets can say is found again in the file, as is the payload. -/
theorem parts_fileContent {header : RecordHeader} {payload : Bytes}
    (small : (RecordHeader.codec.write header).length < Bytes.bound 4) :
    HasHeaderPart (Record.fileContent header payload) ∧
      headerPart (Record.fileContent header payload) = RecordHeader.codec.write header ∧
      payloadPart (Record.fileContent header payload) = payload := by
  have word := Bytes.length_word 4 (RecordHeader.codec.write header).length
  have front : (Record.fileContent header payload).take 4 =
      Bytes.word 4 (RecordHeader.codec.write header).length := by
    rw [Record.fileContent, List.append_assoc, List.take_left' word]
  have behind : (Record.fileContent header payload).drop 4 =
      RecordHeader.codec.write header ++ payload := by
    rw [Record.fileContent, List.append_assoc, List.drop_left' word]
  have size := Bytes.value_word small
  refine ⟨⟨?_, ?_⟩, ?_, ?_⟩
  · simp only [Record.fileContent, List.length_append, word]
    omega
  · rw [front, behind, size, List.length_append]
    omega
  · rw [headerPart, front, behind, size, List.take_left]
  · rw [payloadPart, front, behind, size, List.drop_left]

/-- The header that `contentOf` puts in front of a record. -/
def headerOf (s : RecordStore) (key : RecordKey) (source : SourceKey) (bundle : Bundle)
    (id : UInt64) : RecordHeader :=
  (⟨key.text, bundle, id⟩ : Record).header s.version s.profile source

/-- The payload that `contentOf` puts behind the header. -/
def payloadOf (key : RecordKey) (bundle : Bundle) (id : UInt64) : Bytes :=
  Record.codec.write ⟨key.text, bundle, id⟩

theorem Opened.length_headerOf (opened : Opened root s) (key : RecordKey) (source : SourceKey)
    (bundle : Bundle) (id : UInt64) :
    (RecordHeader.codec.write (s.headerOf key source bundle id)).length < Bytes.bound 4 := by
  have length := (s.headerOf key source bundle id).length_write_le RecordHeader.length_fileMagic
  have version := opened.length_version
  have same : (s.headerOf key source bundle id).version = s.version := rfl
  rw [same] at length
  exact Nat.lt_of_le_of_lt (m := 60 + 16380) (by omega) (by decide)

theorem Opened.parts_contentOf (opened : Opened root s) (key : RecordKey) (source : SourceKey)
    (bundle : Bundle) (id : UInt64) :
    HasHeaderPart (s.contentOf key source bundle id) ∧
      headerPart (s.contentOf key source bundle id) =
        RecordHeader.codec.write (s.headerOf key source bundle id) ∧
      payloadPart (s.contentOf key source bundle id) = payloadOf key bundle id :=
  parts_fileContent (opened.length_headerOf key source bundle id)

/-- A file is split into what it was made of. -/
theorem splitContent_contentOf (version : Holdable (Bytes.utf8 s.version))
    (small : (RecordHeader.codec.write (s.headerOf key source bundle id)).length < Bytes.bound 4)
    (path : Path) : splitContent path (s.contentOf key source bundle id) =
      .ok (s.headerOf key source bundle id, payloadOf key bundle id) := by
  obtain ⟨has, header, payload⟩ :
      HasHeaderPart (s.contentOf key source bundle id) ∧
        headerPart (s.contentOf key source bundle id) =
          RecordHeader.codec.write (s.headerOf key source bundle id) ∧
        payloadPart (s.contentOf key source bundle id) = payloadOf key bundle id :=
    parts_fileContent small
  refine splitContent_eq_ok.mpr ⟨has, ⟨[], ?_⟩, payload.symm⟩
  rw [header, ← List.append_nil (RecordHeader.codec.write _)]
  exact RecordHeader.codec_restores ⟨RecordHeader.length_fileMagic, version⟩ []

theorem Opened.splitContent_contentOf (opened : Opened root s) (path : Path) (key : RecordKey)
    (source : SourceKey) (bundle : Bundle) (id : UInt64) :
    splitContent path (s.contentOf key source bundle id) =
      .ok (s.headerOf key source bundle id, payloadOf key bundle id) :=
  RecordStore.splitContent_contentOf opened.holdable_version
    (opened.length_headerOf key source bundle id) path

/-- A payload is the record that it was made of. -/
theorem read_payloadOf (id : UInt64) (named : Holdable (Bytes.utf8 key.text))
    (holdable : bundle.Holdable) :
    Record.codec.read (payloadOf key bundle id) = .ok (⟨key.text, bundle, id⟩, []) := by
  rw [← List.append_nil (payloadOf key bundle id)]
  exact Record.codec_restores (a := ⟨key.text, bundle, id⟩) ⟨named, holdable⟩ []

/-- What a store writes is a record for those readers that agree with it on version, profile,
source and name, and it is the record that was written. -/
theorem recordIn_contentOf_eq_ok (opened : Opened root s) (named : Holdable (Bytes.utf8 key.text))
    (holdable : bundle.Holdable) :
    s'.recordIn path source' key' (s.contentOf key source bundle id) = .ok r ↔
      (s.version = s'.version ∧ s.profile = s'.profile ∧ source = source' ∧ key.text = key'.text) ∧
        r = ⟨key.text, bundle, id⟩ := by
  have parts := opened.splitContent_contentOf path key source bundle id
  obtain ⟨-, -, payload⟩ := opened.parts_contentOf key source bundle id
  have restored := read_payloadOf id named holdable
  rw [recordIn_eq_ok, parts, payload, restored]
  constructor
  · rintro ⟨header, split_, fits, -, ⟨rest, read⟩, named'⟩
    cases split_
    cases read
    obtain ⟨-, -, version, profile, same⟩ := mismatch?_eq_none.mp fits
    exact ⟨⟨version, profile, same, named'⟩, rfl⟩
  · rintro ⟨⟨version, profile, rfl, named'⟩, rfl⟩
    refine ⟨_, rfl, mismatch?_eq_none.mpr ⟨rfl, rfl, version, profile, rfl⟩, rfl, ⟨[], rfl⟩, named'⟩

/-- A store reads back what it wrote. -/
theorem recordIn_contentOf (opened : Opened root s) (named : Holdable (Bytes.utf8 key.text))
    (holdable : bundle.Holdable) :
    s.recordIn path source key (s.contentOf key source bundle id) = .ok ⟨key.text, bundle, id⟩ :=
  (recordIn_contentOf_eq_ok opened named holdable).mpr ⟨⟨rfl, rfl, rfl, rfl⟩, rfl⟩

/-! ### Loading and storing -/

theorem tryLoad_of_read (file : t.read (s.recordPath key) = .ok content) :
    s.tryLoad t source key = (s.recordIn (s.recordPath key) source key content).map some := by
  rw [tryLoad, file]

/-- A record is loaded exactly from a file that can be read and has the record in it. -/
theorem load_eq_some : s.load t source key = .ok (some r) ↔
    ∃ content, t.read (s.recordPath key) = .ok content ∧
      s.recordIn (s.recordPath key) source key content = .ok r := by
  rw [load]
  cases file : t.read (s.recordPath key) with
  | error e => cases e <;> simp [tryLoad, file]
  | ok content =>
    rw [tryLoad_of_read file]
    cases found : s.recordIn (s.recordPath key) source key content with
    | ok r' => simp [Except.map, found]
    | error e => cases e <;> simp [Except.map, found]

/-- Where nothing can be read there is no record. -/
theorem load_of_not_read (nothing : ∀ content, t.read (s.recordPath key) ≠ .ok content) :
    s.load t source key = .ok none := by
  rw [load, tryLoad]
  cases file : t.read (s.recordPath key) with
  | error e => cases e <;> rfl
  | ok content => exact absurd file (nothing content)

theorem store_eq_ok (h : s.store t key source bundle id = .ok t') :
    t.write (s.recordPath key) (s.contentOf key source bundle id) = .ok t' := by
  rw [store] at h
  split at h
  · next replaced =>
    cases h
    exact FileTree.replace_eq_ok replaced
  · cases h

/-! ### Records in their places -/

/-- Wherever a store below the root may look for the record of a script, there is no file. -/
def NoRecords (root : Path) (t : FileTree) : Prop :=
  ∀ (s : RecordStore) (source : SourceKey) (content : Bytes),
    s.directory = directoryPath root s.version s.profile →
      t.get? (s.recordPath (s.scriptKey source)).location ≠ some (.file content)

theorem noRecords_empty (root : Path) : NoRecords root .empty := by
  intro s source content _ file
  rw [FileTree.get?] at file
  split at file
  · cases file
  · cases file

/-- A store below the root would take the record from the place of a script, if the way to that
place can be followed. -/
structure Offers (root : Path) (t : FileTree) (s : RecordStore) (source : SourceKey) (r : Record) :
    Prop where
  directory : s.directory = directoryPath root s.version s.profile
  content : ∃ content, t.get? (s.recordPath (s.scriptKey source)).location = some (.file content) ∧
    s.recordIn (s.recordPath (s.scriptKey source)) source (s.scriptKey source) content = .ok r

theorem NoRecords.not_offers (h : NoRecords root t) : ¬ Offers root t s source r := by
  rintro ⟨directory, content, file, -⟩
  exact h s source content directory file

theorem Offers.of_grows (h : Offers root t' s source r) (grows : t.Grows t') :
    Offers root t s source r := by
  obtain ⟨directory, content, file, found⟩ := h
  exact ⟨directory, content, grows.file_iff.mp file, found⟩

theorem offers_of_load (opened : Opened root s)
    (h : s.load t source (s.scriptKey source) = .ok (some r)) : Offers root t s source r := by
  obtain ⟨content, file, found⟩ := load_eq_some.mp h
  exact ⟨opened.directory, content, (FileTree.read_eq_ok.mp file).2, found⟩

/-- Storing a record brings no other record than that for the stores of its version and profile. -/
theorem Offers.of_store (opened : Opened root s) (holdable : bundle.Holdable)
    (h : s.store t (s.scriptKey source) source bundle id = .ok t')
    (offers : Offers root t' s' source' r) : Offers root t s' source' r ∨
      s.version = s'.version ∧ s.profile = s'.profile ∧ source = source' ∧
        r = ⟨(s.scriptKey source).text, bundle, id⟩ := by
  obtain ⟨directory, content, file, found⟩ := offers
  obtain ⟨-, -, changed⟩ := FileTree.write_eq_ok (store_eq_ok h)
  rw [changed] at file
  split at file
  · cases file
    obtain ⟨⟨version, profile, same, -⟩, rfl⟩ :=
      (recordIn_contentOf_eq_ok opened (holdable_scriptKey s source) holdable).mp found
    exact .inr ⟨version, profile, same, rfl⟩
  · exact .inl ⟨directory, content, file, found⟩

end RecordStore
end Scriptorium
