import Scriptorium.Digest

/-! Script sources and their fingerprints. A fingerprint tells sources apart by the digest of text
and origin and by the strict flag; it carries the length of the text for decisions that depend on
size, and the length never takes part in a comparison (`Fingerprint.key`). -/

namespace Scriptorium

/-- What identifies a source in the caches: its digest and whether it is compiled strictly. -/
structure SourceKey where
  identity : Digest
  strict : Bool
deriving DecidableEq, Inhabited

structure Fingerprint where
  key : SourceKey
  /-- Octets of the text. -/
  length : Nat
deriving Inhabited

namespace Fingerprint

/-- The stream whose digest identifies a text from an origin. -/
def identityFields (text origin : String) : List Bytes := [Bytes.utf8 text, Bytes.utf8 origin]

def compute (text origin : String) (strict : Bool) : Fingerprint :=
  ⟨⟨Digest.ofFields (identityFields text origin), strict⟩, (Bytes.utf8 text).length⟩

def identity (f : Fingerprint) : Digest := f.key.identity

def strict (f : Fingerprint) : Bool := f.key.strict

/-- The same text from the same origin, compiled with another strict flag. -/
def withStrict (f : Fingerprint) (strict : Bool) : Fingerprint :=
  { f with key := { f.key with strict } }

instance : BEq Fingerprint := ⟨fun a b => a.key == b.key⟩

def display (f : Fingerprint) : String :=
  f.identity.display ++ if f.strict then "+strict" else ""

instance : ToString Fingerprint := ⟨display⟩

end Fingerprint

/-- A text to be compiled. The origin is where it was loaded from: an address, a path or a label. -/
structure Source where
  name : String
  origin : String
  text : String
  strict : Bool
deriving DecidableEq, Inhabited

namespace Source

/-- A source that was made from a string has its name for an origin. -/
def ofString (name text : String) : Source := ⟨name, name, text, false⟩

def fingerprint (s : Source) : Fingerprint := .compute s.text s.origin s.strict

def length (s : Source) : Nat := (Bytes.utf8 s.text).length

def isEmpty (s : Source) : Bool := s.length == 0

def display (s : Source) : String := s.name

end Source
end Scriptorium
