import Scriptorium.Install.Installed

/-! The anchors in use, one for each origin. They are held weakly: an anchor is alive only as long
as something is defined against it, which the caller knows and hands in as `live`. A dead anchor is
forgotten at the next request, and its origin gets a new one when it asks. -/

namespace Scriptorium

structure AnchorCache where
  anchors : List Anchor
deriving DecidableEq, Inhabited

namespace AnchorCache

def empty : AnchorCache := ⟨[]⟩

def purge (c : AnchorCache) (live : Anchor → Bool) : AnchorCache := ⟨c.anchors.filter live⟩

def liveCount (c : AnchorCache) (live : Anchor → Bool) : Nat := c.anchors.countP live

/-- The live anchor for an origin. -/
def find? (c : AnchorCache) (live : Anchor → Bool) (origin : String) : Option Anchor :=
  (c.purge live).anchors.find? fun a => a.origin = origin

/-- The live anchor for an origin, or else a new one from the target. Dead anchors are forgotten
even if the target refuses to make one. -/
def getOrCreate (c : AnchorCache) (live : Anchor → Bool) (t : Target) (origin : String) :
    Except InstallError (Anchor × Target) × AnchorCache :=
  let kept := c.purge live
  match c.find? live origin with
  | some a => (.ok (a, t), kept)
  | none =>
    match t.createAnchor origin with
    | .error e => (.error e, kept)
    | .ok (id, t) => (.ok (⟨id, origin⟩, t), ⟨kept.anchors ++ [⟨id, origin⟩]⟩)

end AnchorCache
end Scriptorium
