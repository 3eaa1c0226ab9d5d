import Scriptorium.Install.Anchors
import Scriptorium.Install.Installer
import Scriptorium.Slots

/-! One target with installers in named slots and values that are held on to. An anchor is alive as
long as an isolated installer, a held anchor or held units refer to it. -/

namespace Scriptorium

namespace Bench

/-- A value that is held on to. -/
inductive Held where
  | anchor (anchor : Anchor)
  | units (units : Installed)

def Held.anchors : Held → List Anchor
  | .anchor a => [a]
  | .units i => i.anchors

end Bench

structure Bench where
  target : Target
  anchors : AnchorCache
  installers : Slots Installer
  held : Slots Bench.Held

namespace Bench

def new (target : Target) : Bench := ⟨target, .empty, .empty, .empty⟩

def isLive (w : Bench) (a : Anchor) : Bool :=
  w.installers.values.any (fun i => i = .isolated a) || w.held.values.any fun h => a ∈ h.anchors

/-- Holds on to a value if a slot for it is given. -/
def hold (w : Bench) (slot : Option String) (h : Held) : Bench :=
  match slot with
  | some slot => { w with held := w.held.put slot h }
  | none => w

/-- The anchor for an origin, held on to if a slot for it is given. -/
def anchor (w : Bench) (origin : String) (slot : Option String) :
    Except InstallError Anchor × Bench :=
  match w.anchors.getOrCreate w.isLive w.target origin with
  | (.error e, anchors) => (.error e, { w with anchors })
  | (.ok (a, target), anchors) => (.ok a, hold { w with target, anchors } slot (.anchor a))

/-- Puts an installer with a loader of its own into a slot. -/
def addNamed (w : Bench) (slot : String) (limits : ReuseLimits) :
    Except InstallError NamedInstaller × Bench :=
  match NamedInstaller.new w.target limits with
  | .error e => (.error e, w)
  | .ok (i, target) => (.ok i, { w with target, installers := w.installers.put slot (.named i) })

def addIsolated (w : Bench) (slot : String) (a : Anchor) : Bench :=
  { w with installers := w.installers.put slot (.isolated a) }

/-- Installs a bundle with the installer in a slot; the units are held on to if a slot for them is
given. -/
def install (w : Bench) (slot : String) (i : Installer) (script : Nat) (verifier : Option Verifier)
    (b : Bundle) (keep : Option String) : Except Setback Installed × Bench :=
  let p := i.install w.target script verifier b
  let w := { w with target := p.target, installers := w.installers.put slot p.installer }
  match p.result with
  | .error e => (.error e, w)
  | .ok units => (.ok units, w.hold keep (.units units))

end Bench
end Scriptorium
