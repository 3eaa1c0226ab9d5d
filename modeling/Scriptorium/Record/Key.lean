import Scriptorium.Source

/-! The names of persisted records. A name is a kind followed by the digest of all that decides
whether a record may be used: the source, its strict flag, the version of the runtime and the
optimization profile. -/

namespace Scriptorium

/-- The family of generated code that a record belongs to. Code that rests on assumptions about
types needs feedback at run time, so the two families are kept side by side and never mixed. -/
inductive Profile where
  | standard
  | optimistic
deriving DecidableEq, Inhabited

namespace Profile

def ofFlag (optimisticTypes : Bool) : Profile := if optimisticTypes then .optimistic else .standard

def tag : Profile → String
  | .standard => "std"
  | .optimistic => "opt"

/-- What the directory of a family adds to the version. -/
def dirSuffix : Profile → String
  | .standard => ""
  | .optimistic => "_opt"

theorem tag_injective {p q : Profile} (h : p.tag = q.tag) : p = q := by
  cases p <;> cases q <;> simp_all [tag]

end Profile

/-- The name of a record, which is also the stem of its file. -/
structure RecordKey where
  text : String
deriving DecidableEq, Inhabited

namespace RecordKey

/-- The fields behind the digest in a record's name. -/
def fields (source : SourceKey) (version : String) (profile : Profile) : List Bytes :=
  [source.identity.toBytes, [if source.strict then 1 else 0], Bytes.utf8 version,
    Bytes.utf8 profile.tag]

def derive (kind : String) (source : SourceKey) (version : String) (profile : Profile) :
    RecordKey :=
  ⟨kind ++ "-" ++ (Digest.ofFields (fields source version profile)).display⟩

end RecordKey
end Scriptorium
