import Scriptorium.Config
import Scriptorium.Install.Installed
import Scriptorium.Install.Verifier

/-! Installers. One kind defines all units of a bundle by name in a loader, where they can refer to
each other, and is worn out after a number of units or octets. It counts both in numbers of a fixed
width, and is broken off by a unit that a count has no room for. The other kind defines a single
unit against an anchor. If units are verified at all, they are all verified before the first is
defined. -/

namespace Scriptorium

/-- What wears a loader out: units or octets of code. -/
structure ReuseLimits where
  maxUses : Nat
  maxBytes : Nat
deriving DecidableEq, Inhabited

def InstallSettings.limits (s : InstallSettings) : ReuseLimits := ⟨s.maxUses, s.maxBytes⟩

/-- Defines units by name in one loader. -/
structure NamedInstaller where
  loader : LoaderId
  /-- Units defined so far. -/
  uses : UInt32
  /-- Octets of code defined so far. -/
  bytes : UInt64
  limits : ReuseLimits
deriving DecidableEq, Inhabited

namespace NamedInstaller

/-- An installer with a loader of its own. -/
def new (t : Target) (limits : ReuseLimits) : Except InstallError (NamedInstaller × Target) :=
  t.createLoader.map fun (loader, t) => (⟨loader, 0, 0, limits⟩, t)

/-- Whether the next bundle needs a new loader. A bundle that was begun may still be completed. -/
def isExhausted (i : NamedInstaller) : Bool :=
  i.limits.maxUses ≤ i.uses.toNat || i.limits.maxBytes ≤ i.bytes.toNat

/-- The name of a unit in its loader. The number of the script keeps the units of one script apart
from those of the next. -/
def qualified (name : String) (script : Nat) : String := s!"{name}${script}"

/-- Counts a unit that was defined, first the unit and then its code. -/
def count (i : NamedInstaller) (u : CodeUnit) : Except Fault Unit × NamedInstaller :=
  if i.uses.toNat + 1 < UInt32.size then
    let i := { i with uses := i.uses + 1 }
    if i.bytes.toNat + u.code.length < UInt64.size then
      (.ok (), { i with bytes := i.bytes + .ofNat u.code.length })
    else (.error .addOverflow, i)
  else (.error .addOverflow, i)

/-- How far an installation came: its result, and what it left behind. -/
structure Progress (α : Type) where
  result : Except Setback α
  installer : NamedInstaller
  target : Target

/-- Defines a unit and counts it. A unit that cannot be counted stays defined. -/
def define (i : NamedInstaller) (t : Target) (script : Nat) (u : CodeUnit) : Progress Handle :=
  let name := qualified u.name script
  match t.defineNamed i.loader name u.code with
  | .error e => ⟨.error (.refused e), i, t⟩
  | .ok (entry, t) =>
    match i.count u with
    | (.error fault, i) => ⟨.error (.broken fault), i, t⟩
    | (.ok (), i) => ⟨.ok ⟨name, entry, u.digest, .loader i.loader⟩, i, t⟩

/-- Defines nested units one after another, until one meets with a setback. -/
def defineSubs (i : NamedInstaller) (t : Target) (script : Nat) :
    List (UInt32 × SubUnit) → Progress (List (UInt32 × InstalledSub))
  | [] => ⟨.ok [], i, t⟩
  | (id, sub) :: rest =>
    match i.define t script sub.unit with
    | ⟨.error e, i, t⟩ => ⟨.error e, i, t⟩
    | ⟨.ok handle, i, t⟩ =>
      let p := defineSubs i t script rest
      { p with result := p.result.map ((id, ⟨handle, sub.callable⟩) :: ·) }

/-- Defines the main unit and then the nested ones. What was defined before a setback stays. -/
def install (i : NamedInstaller) (t : Target) (script : Nat) (b : Bundle) : Progress Installed :=
  match i.define t script b.main with
  | ⟨.error e, i, t⟩ => ⟨.error e, i, t⟩
  | ⟨.ok entry, i, t⟩ =>
    let p := i.defineSubs t script b.subs.entries
    { p with result := p.result.map fun subs => ⟨entry, .ofList subs⟩ }

end NamedInstaller

namespace Anchor

/-- Defines a single unit against an anchor. -/
def install (a : Anchor) (t : Target) (b : Bundle) : Except InstallError (Installed × Target) :=
  if b.isLinked then .error (.requiresLinking b.main.name)
  else
    match t.defineIsolated a.id b.main.code with
    | .error e => .error e
    | .ok (entry, t) => .ok (⟨⟨"", entry, b.main.digest, .anchor a⟩, .empty⟩, t)

end Anchor

inductive Installer where
  | named (installer : NamedInstaller)
  | isolated (anchor : Anchor)
deriving DecidableEq, Inhabited

namespace Installer

/-- How far an installation with either kind came. -/
structure Progress where
  result : Except Setback Installed
  installer : Installer
  target : Target

/-- Installs a bundle after all its units were verified. -/
def install (i : Installer) (t : Target) (script : Nat) (verifier : Option Verifier) (b : Bundle) :
    Progress :=
  match verifier.bind b.malformed? with
  | some e => ⟨.error (.refused e), i, t⟩
  | none =>
    match i with
    | .named n =>
      let p := n.install t script b
      ⟨p.result, .named p.installer, p.target⟩
    | .isolated a =>
      match a.install t b with
      | .error e => ⟨.error (.refused e), i, t⟩
      | .ok (installed, t) => ⟨.ok installed, i, t⟩

def canLink : Installer → Bool
  | .named _ => true
  | .isolated _ => false

def isExhausted : Installer → Bool
  | .named n => n.isExhausted
  | .isolated _ => false

end Installer
end Scriptorium
