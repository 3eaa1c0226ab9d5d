import Scriptorium.FileTree
import Scriptorium.Record.Codec
import Scriptorium.Record.Error

/-! Record files on disk. Each version of the runtime and each profile has a directory of its own
below a common root. A file is taken for a record only if everything its header says fits the
reader; what does not fit is a miss. Old records are left where they are. -/

namespace Scriptorium

structure RecordStore where
  directory : Path
  version : String
  profile : Profile
  /-- Sources with fewer octets are not worth a record. -/
  minSize : Nat
deriving DecidableEq, Inhabited

namespace RecordStore

/-- The kind of the records that hold whole scripts. -/
def scriptKind : String := "script"

private def isSafe (c : Char) : Bool := c.isAlphanum || c = '.' || c = '-' || c = '_'

/-- A version as the name of a directory. -/
def directoryName (version : String) : String :=
  String.ofList (version.toList.map fun c => if isSafe c then c else '_')

def directoryPath (root : Path) (version : String) (profile : Profile) : Path :=
  root.join (directoryName version ++ profile.dirSuffix)

/-- Opens the store for a version and a profile below `root`, making its directory if needed. -/
def openAt (t : FileTree) (root : Path) (version : String) (profile : Profile) (minSize : Nat) :
    FileTree × Except StoreError RecordStore :=
  let directory := directoryPath root version profile
  match t.makeDirectories directory with
  | (t, .ok ()) => (t, .ok ⟨directory, version, profile, minSize⟩)
  | (t, .error e) => (t, .error (.io directory e.message))

def isEligible (s : RecordStore) (f : Fingerprint) : Bool := s.minSize ≤ f.length

/-- The name of the record that holds a whole script. -/
def scriptKey (s : RecordStore) (source : SourceKey) : RecordKey :=
  .derive scriptKind source s.version s.profile

def recordPath (s : RecordStore) (key : RecordKey) : Path := s.directory.join (key.text ++ ".rec")

/-- The content of the file that `store` writes. -/
def contentOf (s : RecordStore) (key : RecordKey) (source : SourceKey) (bundle : Bundle)
    (id : UInt64) : Bytes :=
  let r : Record := ⟨key.text, bundle, id⟩
  Record.fileContent (r.header s.version s.profile source) (Record.codec.write r)

/-- Writes a record. The file has its old content or the whole new one, never a part of it. -/
def store (s : RecordStore) (t : FileTree) (key : RecordKey) (source : SourceKey)
    (bundle : Bundle) (id : UInt64) : Except StoreError FileTree :=
  match t.replace s.directory (s.recordPath key) (s.contentOf key source bundle id) with
  | .ok t => .ok t
  | .error e => .error (.io (s.recordPath key) e.message)

/-- What a failure to decode a part of a record file comes to. Lack of memory is a fault; all else
is an error of that part. -/
def decodingFailure (part : String → StoreError) : Wire.Error → ReadFailure
  | .oversized => .fault .capacityOverflow
  | e => .error (part e.message)

/-- Splits a file's content into header and payload. -/
def splitContent (path : Path) (content : Bytes) : Except ReadFailure (RecordHeader × Bytes) := do
  if content.length < 4 then .error (.error (.invalidHeader path .shortPrefix))
  let size := Bytes.value (content.take 4)
  let body := content.drop 4
  if body.length < size then .error (.error (.invalidHeader path .truncated))
  match RecordHeader.codec.read (body.take size) with
  | .error e => .error (decodingFailure (fun reason => .invalidHeader path (.undecodable reason)) e)
  | .ok (header, _) => .ok (header, body.drop size)

/-- The first thing in a header that does not fit the reader, the checksum excepted. -/
def mismatch? (s : RecordStore) (path : Path) (source : SourceKey) (h : RecordHeader) :
    Option StoreError :=
  if h.magic ≠ RecordHeader.fileMagic then some (.invalidHeader path .badMagic)
  else if h.format ≠ RecordHeader.fileFormat then
    some (.formatMismatch path RecordHeader.fileFormat.toNat h.format.toNat)
  else if h.version ≠ s.version then some (.versionMismatch path s.version h.version)
  else if h.profile ≠ s.profile then some (.profileMismatch path s.profile.tag h.profile.tag)
  else if h.source ≠ source then some (.sourceMismatch path)
  else none

/-- The record in a file's content, if all of it fits. -/
def recordIn (s : RecordStore) (path : Path) (source : SourceKey) (key : RecordKey)
    (content : Bytes) : Except ReadFailure Record := do
  let (header, payload) ← splitContent path content
  match s.mismatch? path source header with
  | some e => .error (.error e)
  | none =>
    let actual := Digest.ofBytes payload
    if actual ≠ header.checksum then
      .error (.error (.checksumMismatch path header.checksum.display actual.display))
    match Record.codec.read payload with
    | .error e => .error (decodingFailure .serialization e)
    | .ok (r, _) => if r.key = key.text then .ok r else .error (.error (.sourceMismatch path))

/-- Reads and checks the record of a key; there is none if there is no file. -/
def tryLoad (s : RecordStore) (t : FileTree) (source : SourceKey) (key : RecordKey) :
    Except ReadFailure (Option Record) :=
  let path := s.recordPath key
  match t.read path with
  | .error .notFound => .ok none
  | .error e => .error (.error (.io path e.message))
  | .ok content => (s.recordIn path source key content).map some

/-- The record of a key; whatever is wrong with it makes it a miss. -/
def load (s : RecordStore) (t : FileTree) (source : SourceKey) (key : RecordKey) :
    Except Fault (Option Record) :=
  match s.tryLoad t source key with
  | .ok r => .ok r
  | .error (.error _) => .ok none
  | .error (.fault f) => .error f

end RecordStore
end Scriptorium
