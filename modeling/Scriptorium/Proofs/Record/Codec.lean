import Scriptorium.Proofs.Wire
import Scriptorium.Record.Codec

/-! The binary form of records and of their headers. A record of what memory can hold is read back
(`Record.codec_restores`), and so is a header; a header has no second form of the same length
(`RecordHeader.codec_frugal`). -/

namespace Scriptorium

open Wire (Codec Holdable)

/-! ### What memory can hold -/

def CodeUnit.Holdable (u : CodeUnit) : Prop :=
  Wire.Holdable (Bytes.utf8 u.name) ∧ Wire.Holdable u.code

def Callable.Holdable (c : Callable) : Prop := Wire.Holdable (Bytes.utf8 c.functionName)

def SubUnit.Holdable (s : SubUnit) : Prop := s.unit.Holdable ∧ s.callable.Holdable

def Constant.Holdable : Constant → Prop
  | .str s => Wire.Holdable (Bytes.utf8 s)
  | _ => True

/-- Every text, every string of octets and the table of constants has a length that memory can
hold. -/
structure Bundle.Holdable (b : Bundle) : Prop where
  main : b.main.Holdable
  subs : ∀ e ∈ b.subs.entries, e.2.Holdable
  constants : ∀ c ∈ b.constants, c.Holdable
  constantCount : b.constants.length ≤ Wire.memoryLimit

instance (u : CodeUnit) : Decidable u.Holdable := inferInstanceAs (Decidable (_ ∧ _))

instance (c : Callable) : Decidable c.Holdable := inferInstanceAs (Decidable (Wire.Holdable _))

instance (s : SubUnit) : Decidable s.Holdable := inferInstanceAs (Decidable (_ ∧ _))

instance : (c : Constant) → Decidable c.Holdable
  | .str s => inferInstanceAs (Decidable (Wire.Holdable (Bytes.utf8 s)))
  | .undefined | .null | .bool _ | .number _ => .isTrue trivial

instance (b : Bundle) : Decidable b.Holdable :=
  decidable_of_iff (b.main.Holdable ∧ (∀ e ∈ b.subs.entries, e.2.Holdable) ∧
    (∀ c ∈ b.constants, c.Holdable) ∧ b.constants.length ≤ Wire.memoryLimit)
    ⟨fun ⟨main, subs, constants, count⟩ => ⟨main, subs, constants, count⟩,
      fun h => ⟨h.main, h.subs, h.constants, h.constantCount⟩⟩

structure Record.Holdable (r : Record) : Prop where
  key : Wire.Holdable (Bytes.utf8 r.key)
  bundle : r.bundle.Holdable

/-- Ids that ascend leave no more room than there is above the first of them. -/
private theorem ascending_length_le {α : Type} {es : List (UInt32 × α)} (low : Nat)
    (ascending : es.Pairwise (·.1 < ·.1)) (above : ∀ e ∈ es, low ≤ e.1.toNat) :
    es.length + low ≤ UInt32.size ∨ es = [] := by
  induction es generalizing low with
  | nil => exact .inr rfl
  | cons e es ih =>
    obtain ⟨below, ascending⟩ := List.pairwise_cons.mp ascending
    have he := above e List.mem_cons_self
    have lt : e.1.toNat < UInt32.size := e.1.toNat_lt
    have higher : ∀ x ∈ es, low + 1 ≤ x.1.toNat := by
      intro x hx
      have above : e.1.toNat < x.1.toNat := UInt32.lt_iff_toNat_lt.mp (below x hx)
      omega
    left
    rcases ih (low + 1) ascending higher with room | rfl
    · rw [List.length_cons]
      omega
    · rw [List.length_cons, List.length_nil]
      omega

theorem IdMap.length_entries_le {α : Type} (m : IdMap α) : m.entries.length ≤ Wire.memoryLimit := by
  rcases ascending_length_le 0 m.ascending fun _ _ => Nat.zero_le _ with room | empty
  · exact Nat.le_trans room (by decide)
  · rw [empty]
    exact Nat.zero_le _

/-! ### Records -/

theorem CodeUnit.codec_restores : CodeUnit.codec.Restores CodeUnit.Holdable :=
  (Wire.text_restores.pair Wire.blob_restores).view fun _ => rfl

theorem Callable.codec_restores : Callable.codec.Restores Callable.Holdable :=
  ((Wire.text_restores.pair (Wire.word32_restores.pair Wire.word32_restores)).view
    fun _ => rfl).imp fun _ h => ⟨h, trivial, trivial⟩

theorem SubUnit.codec_restores : SubUnit.codec.Restores SubUnit.Holdable :=
  (CodeUnit.codec_restores.pair Callable.codec_restores).view fun _ => rfl

/-- An alternative with a value is read as the value behind its number. -/
private theorem read_bool {bs rest : Bytes} {b : Bool} (h : Wire.flag.read bs = .ok (b, rest)) :
    Constant.codec.read (2 :: bs) = .ok (.bool b, rest) := by
  change (Wire.flag.read bs >>= _) = _
  rw [h]
  rfl

private theorem read_number {bs rest : Bytes} {x : Double}
    (h : Wire.double.read bs = .ok (x, rest)) :
    Constant.codec.read (3 :: bs) = .ok (.number x, rest) := by
  change (Wire.double.read bs >>= _) = _
  rw [h]
  rfl

private theorem read_str {bs rest : Bytes} {s : String} (h : Wire.text.read bs = .ok (s, rest)) :
    Constant.codec.read (4 :: bs) = .ok (.str s, rest) := by
  change (Wire.text.read bs >>= _) = _
  rw [h]
  rfl

theorem Constant.codec_restores : Constant.codec.Restores Constant.Holdable := by
  intro c h rest
  cases c with
  | undefined | null => rfl
  | bool b => exact read_bool (Wire.flag_restores trivial rest)
  | number x => exact read_number (Wire.double_restores trivial rest)
  | str s => exact read_str (Wire.text_restores h rest)

theorem Bundle.codec_restores : Bundle.codec.Restores Bundle.Holdable := by
  have subs := Wire.list_restores (Wire.word32_restores.pair SubUnit.codec_restores)
  have constants := Wire.list_restores Constant.codec_restores
  have parts := CodeUnit.codec_restores.pair (subs.pair constants)
  refine (parts.view fun b => ?_).imp fun b h => ?_
  · exact congrArg (Bundle.mk b.main · b.constants) (IdMap.ofList_entries b.subs)
  · exact ⟨h.main, ⟨b.subs.length_entries_le, fun e he => ⟨trivial, h.subs e he⟩⟩,
      h.constantCount, h.constants⟩

theorem Record.codec_restores : Record.codec.Restores Record.Holdable :=
  ((Wire.text_restores.pair (Bundle.codec_restores.pair Wire.word64_restores)).view
    fun _ => rfl).imp fun _ h => ⟨h.key, h.bundle, trivial⟩

/-! ### Headers -/

theorem Profile.codec_restores : Profile.codec.Restores fun _ => True := by
  intro p _ rest
  cases p <;> rfl

theorem Profile.codec_frugal : Profile.codec.Frugal := by
  intro bs p rest h
  obtain ⟨⟨tag, rest'⟩, read, chosen⟩ := bind_eq_ok.mp h
  obtain ⟨used, rfl, atLeast, tight⟩ := Wire.readNumber_frugal (by decide) read
  dsimp only at chosen
  split at chosen
  · cases chosen
    exact ⟨used, rfl, atLeast, tight⟩
  · cases chosen
    exact ⟨used, rfl, atLeast, tight⟩
  · cases chosen

theorem Profile.codec_moderate : Profile.codec.Moderate := by
  intro bs h
  rcases bind_eq_error.mp h with h | ⟨_, -, h⟩
  · exact Wire.readNumber_ne_oversized 4 bs h
  · dsimp only at h
    split at h <;> cases h

namespace RecordHeader

theorem codec_restores :
    codec.Restores fun h => h.magic.length = 4 ∧ Holdable (Bytes.utf8 h.version) :=
  (((Wire.fixed_restores 4).pair (Wire.word32_restores.pair (Wire.text_restores.pair
    (Profile.codec_restores.pair (Wire.digest_restores.pair
      (Wire.flag_restores.pair Wire.digest_restores)))))).view fun _ => rfl).imp fun _ h =>
        ⟨h.1, trivial, h.2, trivial, trivial, trivial, trivial⟩

theorem codec_frugal : codec.Frugal :=
  ((Wire.fixed_frugal 4).pair (Wire.word32_frugal.pair (Wire.text_frugal.pair
    (Profile.codec_frugal.pair (Wire.digest_frugal.pair
      (Wire.flag_frugal.pair Wire.digest_frugal)))))).view fun _ => rfl

theorem length_fileMagic : fileMagic.length = 4 := by decide

/-- A header asks for too much memory exactly if the version in it is said to be longer than memory
can hold. -/
theorem codec_read_eq_oversized {bs : Bytes} : codec.read bs = .error .oversized ↔
    ∃ magic behind format behind' length rest, Wire.takeOctets 4 bs = .ok (magic, behind) ∧
      Wire.word32.read behind = .ok (format, behind') ∧
      Wire.readNumber 8 behind' = .ok (length, rest) ∧ Wire.memoryLimit < length := by
  have version_last := Profile.codec_moderate.pair
    (Wire.digest_moderate.pair (Wire.flag_moderate.pair Wire.digest_moderate))
  constructor
  · intro h
    rcases Codec.pair_read_eq_error.mp (Codec.view_read_eq_error.mp h) with
      h | ⟨magic, behind, taken, h⟩
    · exact absurd h (Wire.fixed_moderate 4 bs)
    rcases Codec.pair_read_eq_error.mp h with h | ⟨format, behind', read, h⟩
    · exact absurd h (Wire.word32_moderate behind)
    rcases Codec.pair_read_eq_error.mp h with h | ⟨_, rest, -, h⟩
    · obtain ⟨length, rest, number, large⟩ := Wire.text_read_eq_oversized.mp h
      exact ⟨magic, behind, format, behind', length, rest, taken, read, number, large⟩
    · exact absurd h (version_last rest)
  · rintro ⟨magic, behind, format, behind', length, rest, taken, read, number, large⟩
    refine Codec.view_read_eq_error.mpr (Codec.pair_read_eq_error.mpr (.inr
      ⟨magic, behind, taken, Codec.pair_read_eq_error.mpr (.inr ⟨format, behind', read, ?_⟩)⟩))
    exact Codec.pair_read_eq_error.mpr (.inl
      (Wire.text_read_eq_oversized.mpr ⟨length, rest, number, large⟩))

/-- A header is little longer than the version in it. -/
theorem length_write_le (h : RecordHeader) (magic : h.magic.length = 4) :
    (codec.write h).length ≤ 60 + (Bytes.utf8 h.version).length := by
  have format := Wire.length_writeNumber_le h.format.toNat
  have version := Wire.length_writeNumber_le (Bytes.utf8 h.version).length
  have profile : (Profile.codec.write h.profile).length = 1 := by cases h.profile <;> rfl
  have written : codec.write h = h.magic ++ (Wire.writeNumber h.format.toNat ++
      ((Wire.writeNumber (Bytes.utf8 h.version).length ++ Bytes.utf8 h.version) ++
        (Profile.codec.write h.profile ++ (h.source.identity.toBytes ++
          ([if h.source.strict then 1 else 0] ++ h.checksum.toBytes))))) := rfl
  rw [written]
  simp only [List.length_append, Digest.length_toBytes, List.length_singleton]
  omega

/-- The room that a header takes does not depend on the digest in it. -/
theorem length_write_checksum (h : RecordHeader) (d : Digest) :
    (codec.write { h with checksum := d }).length = (codec.write h).length := by
  have tail : (Wire.digest.write d).length = (Wire.digest.write h.checksum).length := by
    simp only [Wire.digest, Digest.length_toBytes]
  simp only [codec, Codec.view, Codec.pair, List.length_append, tail]

end RecordHeader
end Scriptorium
