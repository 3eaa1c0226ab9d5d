import Scriptorium.Proofs.Identity

/-! What the name of a record identifies. A name is derived in two stages: the digest of text and
origin becomes a field of the stream whose digest, after the kind, is the name. Going back through
the stages, two derivations of one name are the same unless the streams of one stage collide. -/

namespace Scriptorium

/-- Different strings of octets with one digest. -/
def Digest.Collide (x y : Bytes) : Prop := x ≠ y ∧ Digest.ofBytes x = Digest.ofBytes y

theorem Digest.eq_or_collide {x y : Bytes} (h : Digest.ofBytes x = Digest.ofBytes y) :
    x = y ∨ Digest.Collide x y := by
  by_cases same : x = y
  · exact .inl same
  · exact .inr ⟨same, h⟩

/-- All that the name of a record is derived from. -/
structure RecordKey.Derivation where
  kind : String
  text : String
  origin : String
  strict : Bool
  version : String
  profile : Profile
deriving DecidableEq

namespace RecordKey.Derivation

def source (d : Derivation) : SourceKey := (Fingerprint.compute d.text d.origin d.strict).key

def key (d : Derivation) : RecordKey := derive d.kind d.source d.version d.profile

/-- What is digested to identify the source. -/
def identityStream (d : Derivation) : Bytes :=
  Digest.framing (Fingerprint.identityFields d.text d.origin)

/-- What is digested to name the record. -/
def nameStream (d : Derivation) : Bytes := RecordKey.stream d.version d.profile d.source

/-- Text, origin and version have lengths that eight octets can say. -/
def Short (d : Derivation) : Prop :=
  (Bytes.utf8 d.text).length < Bytes.bound 8 ∧ (Bytes.utf8 d.origin).length < Bytes.bound 8 ∧
    (Bytes.utf8 d.version).length < Bytes.bound 8

instance (d : Derivation) : Decidable d.Short := inferInstanceAs (Decidable (_ ∧ _))

theorem source_eq (d : Derivation) : d.source = ⟨Digest.ofBytes d.identityStream, d.strict⟩ := rfl

/-- The stream of a source tells its text and its origin. -/
theorem identityStream_injective {d d' : Derivation} (short : d.Short) (short' : d'.Short)
    (h : d.identityStream = d'.identityStream) : d.text = d'.text ∧ d.origin = d'.origin :=
  Source.stream_injective (s := ⟨"", d.origin, d.text, d.strict⟩)
    (t := ⟨"", d'.origin, d'.text, d'.strict⟩) ⟨short.1, short.2.1⟩ ⟨short'.1, short'.2.1⟩ h

/-- One name for two derivations means that they are the same, or that one of the two stages met
a collision of the checksum. The kind may be any string: the digest after it has a fixed length, so
nothing in the kind can be taken for a part of it. -/
theorem eq_or_collide_of_key {d d' : Derivation} (short : d.Short) (short' : d'.Short)
    (same : d.key = d'.key) :
    d = d' ∨ Digest.Collide d.identityStream d'.identityStream ∨
      Digest.Collide d.nameStream d'.nameStream := by
  obtain ⟨kinds, digests⟩ := derive_injective same
  rcases Digest.eq_or_collide digests with names | collide
  · obtain ⟨versions, profiles, sources⟩ := stream_injective short.2.2 short'.2.2 names
    rw [source_eq, source_eq] at sources
    obtain ⟨identities, stricts⟩ := SourceKey.mk.inj sources
    rcases Digest.eq_or_collide identities with streams | collide
    · obtain ⟨texts, origins⟩ := identityStream_injective short short' streams
      obtain ⟨kind, text, origin, strict, version, profile⟩ := d
      cases kinds; cases texts; cases origins; cases stricts; cases versions; cases profiles
      exact .inl rfl
    · exact .inr (.inl collide)
  · exact .inr (.inr collide)

/-- A text with four octets of the checksum's secret in two places, where each cancels one half of
a word that the checksum multiplies by the other half. The two words then count by their sum alone:
what the character `a` adds to the one and `b` takes from the other cannot be seen. -/
def balanced (a b : Char) : String :=
  String.ofList (List.replicate 8 '.' ++ [a, '.', '.', Char.ofNat 0x43417, '\u06c0'] ++
    List.replicate 55 '.' ++ [b, '.', '.', '\u1df3', 'g', '\x1f'] ++ List.replicate 136 '.')

/-- A kind that looks like the name of another record. -/
def balancedAt (a b : Char) : Derivation :=
  ⟨"script-c0ffee", balanced a b, "file:a.js", true, "0.1.0", .optimistic⟩

/-- The stream of a balanced text, octet by octet. -/
private def balancedStream (a b : UInt8) : Bytes :=
  Bytes.word 8 216 ++ (List.replicate 8 0x2e ++
    [a, 0x2e, 0x2e, 0xf1, 0x83, 0x90, 0x97, 0xdb, 0x80] ++ List.replicate 55 0x2e ++
    [b, 0x2e, 0x2e, 0xe1, 0xb7, 0xb3, 0x67, 0x1f] ++ List.replicate 136 0x2e) ++
    Bytes.word 8 9 ++ [0x66, 0x69, 0x6c, 0x65, 0x3a, 0x61, 0x2e, 0x6a, 0x73]

/-- Two scripts that differ in two characters and share their name, because their streams
collide. -/
theorem eq_or_collide_balanced :
    (balancedAt '0' '2').Short ∧ (balancedAt '1' '1').Short ∧
      (balancedAt '0' '2').key = (balancedAt '1' '1').key ∧
      Digest.Collide (balancedAt '0' '2').identityStream (balancedAt '1' '1').identityStream := by
  have short : (balancedAt '0' '2').Short := by decide +kernel
  have short' : (balancedAt '1' '1').Short := by decide +kernel
  have stream : (balancedAt '0' '2').identityStream = balancedStream 0x30 0x32 := by
    decide +kernel
  have stream' : (balancedAt '1' '1').identityStream = balancedStream 0x31 0x31 := by
    decide +kernel
  have checksum : Digest.ofBytes (balancedStream 0x30 0x32) =
      Digest.ofBytes (balancedStream 0x31 0x31) := by decide +kernel
  have sources : (balancedAt '0' '2').source = (balancedAt '1' '1').source := by
    rw [source_eq, source_eq, stream, stream', checksum]
    rfl
  have keys : (balancedAt '0' '2').key = (balancedAt '1' '1').key := by
    rw [key, key, sources]
    rfl
  refine ⟨short, short', keys, ?_⟩
  rcases eq_or_collide_of_key short short' keys with same | collide | collide
  · exact absurd (congrArg text same) (by decide +kernel)
  · exact collide
  · refine absurd ?_ collide.1
    rw [nameStream, nameStream, sources]
    rfl

end RecordKey.Derivation
end Scriptorium
