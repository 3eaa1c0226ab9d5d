import Scriptorium.Code
import Scriptorium.Record.Key

/-! A persisted compilation: what was generated, under which name it was stored, and the id that the
compilation had. -/

namespace Scriptorium

structure Record where
  key : String
  bundle : Bundle
  compilationId : UInt64
deriving DecidableEq, Inhabited

/-- What stands in front of a record in its file, and has to fit the reader before anything of the
record is looked at. -/
structure RecordHeader where
  /-- Four octets that mark a record file. -/
  magic : Bytes
  format : UInt32
  version : String
  profile : Profile
  source : SourceKey
  /-- The digest of the record's written form. -/
  checksum : Digest
deriving DecidableEq, Inhabited

end Scriptorium
