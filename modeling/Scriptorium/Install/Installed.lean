import Scriptorium.Code
import Scriptorium.Install.Target

/-! Code that was installed: handles on single units, and all handles that belong to one bundle. -/

namespace Scriptorium

/-- What the isolated units from one origin are defined against. -/
structure Anchor where
  id : AnchorId
  origin : String
deriving DecidableEq, Inhabited

/-- Where an installed unit lives. -/
inductive Owner where
  | loader (id : LoaderId)
  | anchor (anchor : Anchor)
deriving DecidableEq, Inhabited

namespace Owner

def loader? : Owner → Option LoaderId
  | .loader id => some id
  | .anchor _ => none

def anchor? : Owner → Option Anchor
  | .loader _ => none
  | .anchor a => some a

end Owner

/-- A callable reference to one installed unit. -/
structure Handle where
  /-- The name under which the unit was defined; empty if it is isolated. -/
  name : String
  entry : EntryPoint
  digest : Digest
  owner : Owner
deriving DecidableEq, Inhabited

def Handle.isIsolated (h : Handle) : Bool := h.owner.anchor?.isSome

structure InstalledSub where
  handle : Handle
  callable : Callable
deriving DecidableEq, Inhabited

/-- The handles on all units of a bundle. -/
structure Installed where
  entry : Handle
  subs : IdMap InstalledSub
deriving DecidableEq, Inhabited

/-- The anchors that stay alive because of installed units. -/
def Installed.anchors (i : Installed) : List Anchor :=
  (i.entry :: i.subs.entries.map (·.2.handle)).filterMap (·.owner.anchor?)

end Scriptorium
