import Scriptorium.Install.Installed
import Scriptorium.Source

/-! Artifacts: what a compile hands out. An artifact is alive as long as someone holds it. -/

namespace Scriptorium

structure Artifact where
  /-- Tells the artifacts of one context apart, equal ones included. -/
  serial : Nat
  fingerprint : Fingerprint
  installed : Installed
  constants : List Constant
  /-- The id of the compilation that generated the code; a restored artifact keeps the one that was
  persisted. -/
  compilationId : UInt64
deriving Inhabited

namespace Artifact

def entry (a : Artifact) : Handle := a.installed.entry

def subs (a : Artifact) : IdMap InstalledSub := a.installed.subs

def sub? (a : Artifact) (id : UInt32) : Option InstalledSub := a.subs.get? id

def isIsolated (a : Artifact) : Bool := a.entry.isIsolated

/-- Whether two artifacts of one context are the same one. -/
def isSame (a b : Artifact) : Bool := a.serial == b.serial

end Artifact
end Scriptorium
