import Scriptorium.Fault

/-! What can go wrong with a persisted record. Reading treats every error as a miss; writing hands
them to the caller, which goes on without the record. A fault is no error: it breaks reading off,
and whatever asked for the record with it. -/

namespace Scriptorium

/-- What is wrong with the header of a record file. -/
inductive HeaderProblem where
  | shortPrefix
  | truncated
  | undecodable (reason : String)
  | badMagic
deriving DecidableEq

def HeaderProblem.message : HeaderProblem → String
  | .shortPrefix => "file shorter than header length prefix"
  | .truncated => "truncated header"
  | .undecodable reason => reason
  | .badMagic => "bad magic bytes"

/-- Every error but the last names the record file. -/
inductive StoreError where
  | io (path reason : String)
  | invalidHeader (path : String) (problem : HeaderProblem)
  | checksumMismatch (path expected actual : String)
  | formatMismatch (path : String) (expected actual : Nat)
  | versionMismatch (path expected actual : String)
  | profileMismatch (path expected actual : String)
  | sourceMismatch (path : String)
  | serialization (reason : String)
deriving DecidableEq

namespace StoreError

def message : StoreError → String
  | .io path reason => s!"cache I/O error at {path}: {reason}"
  | .invalidHeader path problem => s!"invalid record header in {path}: {problem.message}"
  | .checksumMismatch path expected actual =>
    s!"checksum mismatch in {path}: expected {expected}, got {actual}"
  | .formatMismatch path expected actual =>
    s!"record format mismatch in {path}: expected {expected}, got {actual}"
  | .versionMismatch path expected actual =>
    s!"runtime version mismatch in {path}: expected {expected}, got {actual}"
  | .profileMismatch path expected actual =>
    s!"optimization profile mismatch in {path}: expected {expected}, got {actual}"
  | .sourceMismatch path => s!"record in {path} belongs to a different source"
  | .serialization reason => s!"serialization error: {reason}"

/-- Whether the record is outdated rather than damaged. -/
def isStale : StoreError → Bool
  | .versionMismatch .. | .profileMismatch .. | .formatMismatch .. => true
  | _ => false

end StoreError

/-- How reading a record comes to an end without an answer. -/
inductive ReadFailure where
  | error (e : StoreError)
  | fault (f : Fault)
deriving DecidableEq

end Scriptorium
