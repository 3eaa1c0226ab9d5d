import Scriptorium.Proofs.Record.Store

/-! What a store makes of its own files after they were changed. The header carries no digest of
its own, but it has only one form of its length (`RecordHeader.codec_frugal`), and it holds the
digest of the payload, so that no changed file is taken for a record (`RecordStore.intact_of_fits`).
Reading one comes to an error, with one exception: a header that announces a version of more octets
than memory can have makes room for them first, and that is a fault
(`RecordStore.tryLoad_tampered`). -/

namespace Scriptorium

open Wire (Holdable)

namespace RecordStore

variable {root : Path} {s : RecordStore} {t : FileTree} {path : Path} {source : SourceKey}
  {key : RecordKey} {bundle : Bundle} {id : UInt64} {content : Bytes}

/-! ### Changed files -/

/-- The octets of a record file with this header and payload. -/
def assemble (header payload : Bytes) : Bytes :=
  Bytes.word 4 header.length ++ (header ++ payload)

theorem contentOf_eq_assemble (s : RecordStore) (key : RecordKey) (source : SourceKey)
    (bundle : Bundle) (id : UInt64) : s.contentOf key source bundle id =
      assemble (RecordHeader.codec.write (s.headerOf key source bundle id))
        (payloadOf key bundle id) := by
  rw [assemble, ← List.append_assoc]
  rfl

/-- What can become of a record file: octets of one of its three parts were replaced, its end was
cut off, or octets were added. -/
inductive Tampered (header payload : Bytes) : Bytes → Prop
  | sizeEdited {front} : front.length = 4 → Tampered header payload (front ++ (header ++ payload))
  | headerEdited {edited} : edited.length = header.length →
      Tampered header payload (Bytes.word 4 header.length ++ (edited ++ payload))
  | payloadEdited {edited} : edited.length = payload.length →
      Tampered header payload (Bytes.word 4 header.length ++ (header ++ edited))
  | truncated {n} : n < (assemble header payload).length →
      Tampered header payload ((assemble header payload).take n)
  | extended {added} : Tampered header payload (assemble header payload ++ added)

private theorem parts_append {front : Bytes} (body : Bytes) (four : front.length = 4) :
    headerPart (front ++ body) = body.take (Bytes.value front) ∧
      payloadPart (front ++ body) = body.drop (Bytes.value front) ∧
      (HasHeaderPart (front ++ body) → Bytes.value front ≤ body.length) := by
  have taken : (front ++ body).take 4 = front := List.take_left' four
  have dropped : (front ++ body).drop 4 = body := List.drop_left' four
  refine ⟨?_, ?_, fun has => ?_⟩
  · rw [headerPart, taken, dropped]
  · rw [payloadPart, taken, dropped]
  · have room := has.2
    rwa [taken, dropped] at room

/-- A changed file that has a header has either the old header in it, with the old size in front or
the old payload behind, or a new header between the old size and the old payload. -/
theorem Tampered.shape {header payload : Bytes} (small : header.length < Bytes.bound 4)
    (h : Tampered header payload content) (has : HasHeaderPart content) :
    (∃ front behind, content = front ++ (header ++ behind) ∧ front.length = 4 ∧
        (front = Bytes.word 4 header.length ∨ behind = payload)) ∨
      ∃ edited, content = Bytes.word 4 header.length ++ (edited ++ payload) ∧
        edited.length = header.length := by
  have four : (Bytes.word 4 header.length).length = 4 := Bytes.length_word ..
  cases h with
  | @sizeEdited front length => exact .inl ⟨front, payload, rfl, length, .inr rfl⟩
  | @headerEdited edited length => exact .inr ⟨edited, rfl, length⟩
  | @payloadEdited edited length => exact .inl ⟨_, edited, rfl, four, .inl rfl⟩
  | @extended added =>
    refine .inl ⟨_, payload ++ added, ?_, four, .inl rfl⟩
    rw [assemble, List.append_assoc, List.append_assoc]
  | @truncated n shorter =>
    have long := has.1
    rw [List.length_take] at long
    have split_ : (assemble header payload).take n =
        Bytes.word 4 header.length ++ (header ++ payload).take (n - 4) := by
      rw [assemble, List.take_append, four, List.take_of_length_le (by omega)]
    have room := (parts_append _ four).2.2 (split_ ▸ has)
    rw [Bytes.value_word small, List.length_take] at room
    refine .inl ⟨_, payload.take (n - 4 - header.length), ?_, four, .inl rfl⟩
    rw [split_, List.take_append, List.take_of_length_le (by omega)]

/-! ### No changed file is a record -/

/-- A header that fits the reader is the one that it writes itself, up to the digest. -/
private theorem header_of_fits {header : RecordHeader} (key : RecordKey) (bundle : Bundle)
    (id : UInt64) (fits : s.mismatch? path source header = none) :
    header = { s.headerOf key source bundle id with checksum := header.checksum } := by
  obtain ⟨magic, format, version, profile, same⟩ := mismatch?_eq_none.mp fits
  cases header
  cases magic
  cases format
  cases version
  cases profile
  cases same
  rfl

/-- A file that keeps the old header is the old file if the header read from it differs from the old
one in no more than the digest, and the payload has that digest. -/
private theorem intact_of_header {original header : RecordHeader}
    {payload front behind rest : Bytes}
    (readable : original.magic.length = 4 ∧ Holdable (Bytes.utf8 original.version))
    (small : (RecordHeader.codec.write original).length < Bytes.bound 4)
    (checksum : original.checksum = Digest.ofBytes payload) (four : front.length = 4)
    (kept : front = Bytes.word 4 (RecordHeader.codec.write original).length ∨ behind = payload)
    (content_eq : content = front ++ (RecordHeader.codec.write original ++ behind))
    (has : HasHeaderPart content)
    (read : RecordHeader.codec.read (headerPart content) = .ok (header, rest))
    (fits : header = { original with checksum := header.checksum })
    (sum : Digest.ofBytes (payloadPart content) = header.checksum)
    (free : Digest.CollisionFree [payload, payloadPart content]) :
    content = assemble (RecordHeader.codec.write original) payload := by
  have enough := RecordHeader.codec_frugal.length_le read
  rw [fits, RecordHeader.length_write_checksum] at enough
  obtain ⟨header_eq, payload_eq, room⟩ :=
    parts_append (RecordHeader.codec.write original ++ behind) four
  rw [← content_eq] at header_eq payload_eq room
  have room := room has
  rw [header_eq] at read enough
  rw [payload_eq] at sum free
  rw [List.length_append] at room
  -- No fewer octets than the old header has can stand for it, so all of it is read.
  have all : (RecordHeader.codec.write original).length ≤ Bytes.value front := by
    rw [List.length_take] at enough
    omega
  rw [List.take_append, List.take_of_length_le all,
    RecordHeader.codec_restores readable] at read
  cases read
  rw [List.drop_append, List.drop_of_length_le all, List.nil_append] at sum free
  have same := free _ (List.mem_cons_of_mem _ List.mem_cons_self) _ List.mem_cons_self
    (sum.trans checksum)
  have size : Bytes.value front = (RecordHeader.codec.write original).length := by
    rcases kept with rfl | rfl
    · exact Bytes.value_word small
    · have dropped := congrArg List.length same
      rw [List.length_drop] at dropped
      omega
  have front_eq := Bytes.word_value front
  rw [four, size] at front_eq
  rw [size, Nat.sub_self, List.drop_zero] at same
  rw [content_eq, same, assemble, front_eq]

/-- A file with a new header of the old length is the old file on the same conditions. -/
private theorem intact_of_payload {original header : RecordHeader} {payload edited rest : Bytes}
    (small : (RecordHeader.codec.write original).length < Bytes.bound 4)
    (checksum : original.checksum = Digest.ofBytes payload)
    (length : edited.length = (RecordHeader.codec.write original).length)
    (content_eq : content =
      Bytes.word 4 (RecordHeader.codec.write original).length ++ (edited ++ payload))
    (read : RecordHeader.codec.read (headerPart content) = .ok (header, rest))
    (fits : header = { original with checksum := header.checksum })
    (sum : Digest.ofBytes (payloadPart content) = header.checksum) :
    content = assemble (RecordHeader.codec.write original) payload := by
  obtain ⟨header_eq, payload_eq, -⟩ := parts_append (edited ++ payload)
    (Bytes.length_word 4 (RecordHeader.codec.write original).length)
  rw [← content_eq, Bytes.value_word small, ← length, List.take_left] at header_eq
  rw [← content_eq, Bytes.value_word small, ← length, List.drop_left] at payload_eq
  rw [header_eq] at read
  -- The digest in the new header is that of the old payload, so that the header is the old one.
  rw [fits, ← sum, payload_eq, ← checksum] at read
  have edited_eq := RecordHeader.codec_frugal.eq_write read (Nat.le_of_eq length)
  rw [content_eq, assemble, edited_eq]

/-- A changed file in which all fits is the old one. -/
theorem intact_of_fits {header : RecordHeader} (opened : Opened root s)
    (tampered : Tampered (RecordHeader.codec.write (s.headerOf key source bundle id))
      (payloadOf key bundle id) content)
    (free : Digest.CollisionFree [payloadOf key bundle id, payloadPart content])
    (parts : splitContent path content = .ok (header, payloadPart content))
    (fits : s.mismatch? path source header = none)
    (sum : Digest.ofBytes (payloadPart content) = header.checksum) :
    content = s.contentOf key source bundle id := by
  obtain ⟨has, ⟨rest, read⟩, -⟩ := splitContent_eq_ok.mp parts
  have small := opened.length_headerOf key source bundle id
  have same := header_of_fits key bundle id fits
  rw [contentOf_eq_assemble]
  rcases tampered.shape small has with
    ⟨front, behind, content_eq, four, kept⟩ | ⟨edited, content_eq, length⟩
  · exact intact_of_header ⟨RecordHeader.length_fileMagic, opened.holdable_version⟩ small rfl four
      kept content_eq has read same sum free
  · exact intact_of_payload small rfl length content_eq read same sum

/-! ### What comes of reading a changed file -/

/-- The header of a file says that the version in it has more octets than memory can hold. -/
def AnnouncesOversized (content : Bytes) : Prop :=
  HasHeaderPart content ∧ ∃ magic behind format behind' length rest,
    Wire.takeOctets 4 (headerPart content) = .ok (magic, behind) ∧
    Wire.word32.read behind = .ok (format, behind') ∧
    Wire.readNumber 8 behind' = .ok (length, rest) ∧ Wire.memoryLimit < length

theorem decodingFailure_eq_fault {part : String → StoreError} {e : Wire.Error} {f : Fault} :
    decodingFailure part e = .fault f ↔ e = .oversized ∧ f = .capacityOverflow := by
  cases e <;> simp [decodingFailure, eq_comm]

theorem splitContent_eq_fault (path : Path) (f : Fault) :
    splitContent path content = .error (.fault f) ↔
      AnnouncesOversized content ∧ f = .capacityOverflow := by
  rw [splitContent_eq, AnnouncesOversized, ← RecordHeader.codec_read_eq_oversized, HasHeaderPart]
  split
  · next short => simp [Nat.not_le.mpr short]
  · next long =>
    split
    · next short => simp only [Nat.not_le.mpr short, and_false, false_and, Except.error.injEq,
        reduceCtorEq]
    · next room =>
      split
      · next e read =>
        rw [read, Except.error.injEq, decodingFailure_eq_fault, Except.error.injEq]
        simp only [Nat.not_lt.mp long, Nat.not_lt.mp room, true_and]
      · next header _ read => simp [read]

/-- Reading a changed file ends before any of its payload is decoded. -/
theorem recordIn_tampered (path : Path) (opened : Opened root s)
    (tampered : Tampered (RecordHeader.codec.write (s.headerOf key source bundle id))
      (payloadOf key bundle id) content)
    (changed : content ≠ s.contentOf key source bundle id)
    (free : Digest.CollisionFree [payloadOf key bundle id, payloadPart content]) :
    (∃ e, s.recordIn path source key content = .error (.error e)) ∨
      ∃ f, splitContent path content = .error (.fault f) ∧
        s.recordIn path source key content = .error (.fault f) := by
  cases parts : splitContent path content with
  | error failure =>
    have same : s.recordIn path source key content = .error failure := by
      simp only [recordIn, parts, bind, Except.bind]
    cases failure with
    | error e => exact .inl ⟨e, same⟩
    | fault f => exact .inr ⟨f, rfl, same⟩
  | ok x =>
    obtain ⟨header, payload⟩ := x
    obtain ⟨-, -, rfl⟩ := splitContent_eq_ok.mp parts
    left
    simp only [recordIn, parts, bind, Except.bind]
    cases fits : s.mismatch? path source header with
    | some e => exact ⟨e, rfl⟩
    | none =>
      by_cases sum : Digest.ofBytes (payloadPart content) = header.checksum
      · exact absurd (intact_of_fits opened tampered free parts fits sum) changed
      · simp only [ne_eq, sum, not_false_eq_true, if_true]
        exact ⟨_, rfl⟩

/-- A store never takes a changed file for a record, unless the payload in it is another one with
the digest of the old payload. It gives an error, except that it is broken off by a header that
announces a version longer than memory can hold. -/
theorem tryLoad_tampered (opened : Opened root s)
    (file : t.read (s.recordPath key) = .ok content)
    (tampered : Tampered (RecordHeader.codec.write (s.headerOf key source bundle id))
      (payloadOf key bundle id) content)
    (changed : content ≠ s.contentOf key source bundle id)
    (free : Digest.CollisionFree [payloadOf key bundle id, payloadPart content]) :
    (AnnouncesOversized content →
      s.tryLoad t source key = .error (.fault .capacityOverflow)) ∧
    (¬ AnnouncesOversized content → ∃ e, s.tryLoad t source key = .error (.error e)) := by
  rw [tryLoad_of_read file]
  rcases recordIn_tampered (s.recordPath key) opened tampered changed free with
    ⟨e, failed⟩ | ⟨f, parts, failed⟩
  · refine ⟨fun oversized => ?_, fun _ => ⟨e, by rw [failed]; rfl⟩⟩
    have parts := (splitContent_eq_fault (s.recordPath key) _).mpr ⟨oversized, rfl⟩
    simp only [recordIn, parts, bind, Except.bind] at failed
    cases failed
  · obtain ⟨oversized, rfl⟩ := (splitContent_eq_fault _ _).mp parts
    exact ⟨fun _ => by rw [failed]; rfl, fun modest => absurd oversized modest⟩

/-- A file of a small record with the length of its version set to the widest form, which takes the
seven octets behind it for digits, and the same file without its last octet. -/
theorem tryLoad_tampered_small :
    let s : RecordStore := ⟨"/1", "1", .standard, 0⟩
    let source : SourceKey := ⟨⟨0xff0000000000, 0⟩, false⟩
    let bundle : Bundle := ⟨⟨"main", [1]⟩, ∅, []⟩
    let key := s.scriptKey source
    let header := RecordHeader.codec.write (s.headerOf key source bundle 7)
    let payload := payloadOf key bundle 7
    let edited := Bytes.word 4 header.length ++ (header.set 5 253 ++ payload)
    let shortened := (assemble header payload).take 94
    let holding := fun content : Bytes =>
      FileTree.mk [(["1", key.text ++ ".rec"], .file content), (["1"], .directory)]
    s.tryLoad (holding edited) source key = .error (.fault .capacityOverflow) ∧
      ∃ e, s.tryLoad (holding shortened) source key = .error (.error e) := by
  intro s source bundle key header payload edited shortened holding
  have opened : Opened "/" s :=
    ⟨.empty, "1", .standard, 0, ⟨[(["1"], .directory)]⟩, by decide +kernel⟩
  have oversized : AnnouncesOversized edited :=
    ⟨by decide +kernel, RecordHeader.codec_read_eq_oversized.mp (by decide +kernel)⟩
  have modest : ¬ AnnouncesOversized shortened := by
    intro h
    have failed := RecordHeader.codec_read_eq_oversized.mpr h.2
    revert failed
    decide +kernel
  exact ⟨(tryLoad_tampered opened (by decide +kernel) (.headerEdited (by decide +kernel))
      (by decide +kernel) (by decide +kernel)).1 oversized,
    (tryLoad_tampered opened (by decide +kernel) (.truncated (by decide +kernel))
      (by decide +kernel) (by decide +kernel)).2 modest⟩

end RecordStore
end Scriptorium
