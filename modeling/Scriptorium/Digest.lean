import Scriptorium.Bytes
import Scriptorium.Digest.Xxh3

/-! Digests: the 128-bit checksums by which sources, records and installed code are told apart.
Several fields are digested as one stream in which each field follows its own length, so that
moving an octet from one field to the next changes the stream (`Digest.framing`). -/

namespace Scriptorium

/-- A 128-bit digest, written as sixteen octets, the low half first. -/
structure Digest where
  low : UInt64
  high : UInt64
deriving DecidableEq, Inhabited

namespace Digest

def ofBytes (data : Bytes) : Digest :=
  let sum := Xxh3.hash ⟨data.toArray⟩
  ⟨sum.low, sum.high⟩

/-- The stream that stands for a list of fields: each one after its length in eight octets. -/
def framing (fields : List Bytes) : Bytes :=
  fields.flatMap fun field => Bytes.word 8 field.length ++ field

def ofFields (fields : List Bytes) : Digest := ofBytes (framing fields)

def toBytes (d : Digest) : Bytes := Bytes.word 8 d.low.toNat ++ Bytes.word 8 d.high.toNat

/-- Reads sixteen octets; any other number of them is no digest. -/
def fromBytes? (bs : Bytes) : Option Digest :=
  if bs.length = 16 then
    some ⟨UInt64.ofNat (Bytes.value (bs.take 8)), UInt64.ofNat (Bytes.value (bs.drop 8))⟩
  else none

@[simp] theorem length_toBytes (d : Digest) : d.toBytes.length = 16 := by simp [toBytes]

@[simp] theorem fromBytes?_toBytes (d : Digest) : fromBytes? d.toBytes = some d := by
  have low : d.low.toNat < Bytes.bound 8 := d.low.toNat_lt
  have high : d.high.toNat < Bytes.bound 8 := d.high.toNat_lt
  rw [fromBytes?, if_pos d.length_toBytes]
  simp [toBytes, Bytes.value_word low, Bytes.value_word high]

/-- All sixteen octets in hexadecimal. -/
def display (d : Digest) : String := Bytes.hex d.toBytes

instance : ToString Digest := ⟨display⟩

/-- The first two octets, for messages that only have to tell a few digests apart. -/
def debug (d : Digest) : String := s!"ContentHash({Bytes.hex (d.toBytes.take 2)}..)"

end Digest
end Scriptorium
