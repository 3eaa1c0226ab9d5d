import Scriptorium.Record
import Scriptorium.Wire

/-! The binary form of records, of their headers and of whole record files. A file is the length of
the header in four octets, the header, and the record. -/

namespace Scriptorium

open Wire (Codec)

def CodeUnit.codec : Codec CodeUnit :=
  (Wire.text.pair Wire.blob).view (fun (name, code) => ⟨name, code⟩) fun u => (u.name, u.code)

def Callable.codec : Codec Callable :=
  (Wire.text.pair (Wire.word32.pair Wire.word32)).view
    (fun (name, arity, flags) => ⟨name, arity, flags⟩) fun c => (c.functionName, c.arity, c.flags)

def SubUnit.codec : Codec SubUnit :=
  (CodeUnit.codec.pair Callable.codec).view (fun (u, c) => ⟨u, c⟩) fun s => (s.unit, s.callable)

namespace Constant

private def write : Constant → Bytes
  | .undefined => [0]
  | .null => [1]
  | .bool b => 2 :: Wire.flag.write b
  | .number x => 3 :: Wire.double.write x
  | .str s => 4 :: Wire.text.write s

private def read (bs : Bytes) : Except Wire.Error (Constant × Bytes) := do
  let (tag, rest) ← Wire.readNumber 4 bs
  match tag with
  | 0 => .ok (.undefined, rest)
  | 1 => .ok (.null, rest)
  | 2 => do
    let (b, rest) ← Wire.flag.read rest
    .ok (.bool b, rest)
  | 3 => do
    let (x, rest) ← Wire.double.read rest
    .ok (.number x, rest)
  | 4 => do
    let (s, rest) ← Wire.text.read rest
    .ok (.str s, rest)
  | _ => .error .unknownAlternative

def codec : Codec Constant := ⟨write, read⟩

end Constant

/-- A nested unit that comes twice is the one that came last. -/
def Bundle.codec : Codec Bundle :=
  (CodeUnit.codec.pair
    ((Wire.list (Wire.word32.pair SubUnit.codec)).pair (Wire.list Constant.codec))).view
    (fun (main, subs, constants) => ⟨main, .ofList subs, constants⟩)
    fun b => (b.main, b.subs.entries, b.constants)

def Record.codec : Codec Record :=
  (Wire.text.pair (Bundle.codec.pair Wire.word64)).view
    (fun (key, bundle, id) => ⟨key, bundle, id⟩) fun r => (r.key, r.bundle, r.compilationId)

def Profile.codec : Codec Profile where
  write
    | .standard => [0]
    | .optimistic => [1]
  read bs := do
    let (tag, rest) ← Wire.readNumber 4 bs
    match tag with
    | 0 => .ok (.standard, rest)
    | 1 => .ok (.optimistic, rest)
    | _ => .error .unknownAlternative

namespace RecordHeader

def codec : Codec RecordHeader :=
  ((Wire.fixed 4).pair (Wire.word32.pair (Wire.text.pair (Profile.codec.pair
    (Wire.digest.pair (Wire.flag.pair Wire.digest)))))).view
    (fun (magic, format, version, profile, identity, strict, checksum) =>
      ⟨magic, format, version, profile, ⟨identity, strict⟩, checksum⟩)
    fun h => (h.magic, h.format, h.version, h.profile, h.source.identity, h.source.strict,
      h.checksum)

def fileMagic : Bytes := Bytes.utf8 "KILN"

/-- The layout of headers and records; it changes whenever one of them does. -/
def fileFormat : UInt32 := 1

end RecordHeader

namespace Record

/-- The header for a record that was made by this version and profile from this source. -/
def header (r : Record) (version : String) (profile : Profile) (source : SourceKey) :
    RecordHeader :=
  ⟨RecordHeader.fileMagic, RecordHeader.fileFormat, version, profile, source,
    Digest.ofBytes (codec.write r)⟩

/-- The content of a record file. -/
def fileContent (header : RecordHeader) (payload : Bytes) : Bytes :=
  let h := RecordHeader.codec.write header
  Bytes.word 4 h.length ++ h ++ payload

end Record
end Scriptorium
