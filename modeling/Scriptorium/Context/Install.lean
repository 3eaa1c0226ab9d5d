import Scriptorium.Context

/-! The choice of an installer, and what an installation leaves behind in its context. A single unit
is isolated if all conditions for it hold. Everything else is defined by name in a loader that is
kept from one compile to the next: it is given up when it is worn out, or when an installation met
with a setback after it may have defined something. -/

namespace Scriptorium.Context

/-- Whether an artifact that is held keeps an anchor alive. -/
def isAnchored (held : List Artifact) (a : Anchor) : Bool :=
  held.any fun h => a ∈ h.installed.anchors

/-- The conditions for isolation that do not depend on the code. -/
def mayIsolate (c : Context) (source : Source) : Bool :=
  c.store.isNone && c.config.compile.lazy && !c.isolationFailed && c.target.isolationAvailable &&
    c.config.installer.allowsIsolation source.length

/-- The kept installer, if it can take another bundle. -/
def reusable? (c : Context) : Option NamedInstaller :=
  c.named.filter fun i => !i.isExhausted && !c.config.compile.loaderPerCompile

/-- Takes the kept installer out of the context, or else gets a new one. -/
def takeNamed (c : Context) : Except InstallError NamedInstaller × Context :=
  match c.reusable? with
  | some i => (.ok i, { c with named := none })
  | none =>
    let worn := c.named.any (·.isExhausted)
    let rotations := c.stats.rotations + if worn then 1 else 0
    let c := { c with named := none, stats := { c.stats with rotations } }
    match NamedInstaller.new c.target c.config.installer.limits with
    | .error e => (.error e, c)
    | .ok (i, target) => (.ok i, { c with target })

def takeInstaller (c : Context) : Except InstallError Installer × Context :=
  let (i, c) := c.takeNamed
  (i.map .named, c)

/-- The installer for a bundle. A target that makes no anchor ends isolation. -/
def selectInstaller (c : Context) (held : List Artifact) (source : Source) (b : Bundle) :
    Except InstallError Installer × Context :=
  if c.mayIsolate source && !b.isLinked then
    match c.anchors.getOrCreate (isAnchored held) c.target source.origin with
    | (.ok (a, target), anchors) => (.ok (.isolated a), { c with anchors, target })
    | (.error _, anchors) => takeInstaller { c with anchors, isolationFailed := true }
  else c.takeInstaller

/-- The verifier, if the configuration wants code to be verified. -/
def activeVerifier (c : Context) : Option Verifier :=
  if c.config.compile.verifyCode then c.verifier else none

/-- Enters the end of an installation. An installer by name is kept unless it may have defined a
part of the bundle only. -/
def settle (c : Context) (p : Installer.Progress) (b : Bundle) : Context :=
  let c := { c with target := p.target }
  match p.installer, p.result with
  | .named i, .ok _ =>
    { c with
      named := some i, stats := { c.stats with namedUnits := c.stats.namedUnits + b.unitCount } }
  | .named i, .error (.refused (.verification _ _)) => { c with named := some i }
  | .named _, .error _ => c
  | .isolated _, .ok _ =>
    { c with stats := { c.stats with isolatedUnits := c.stats.isolatedUnits + 1 } }
  | .isolated _, .error _ => { c with isolationFailed := true }

/-- Installs the bundle that belongs to a source. -/
def install (c : Context) (held : List Artifact) (source : Source) (b : Bundle) :
    Except Setback Installed × Context :=
  let script := c.nextScript
  match selectInstaller { c with nextScript := script + 1 } held source b with
  | (.error e, c) => (.error (.refused e), c)
  | (.ok i, c) =>
    let p := i.install c.target script c.activeVerifier b
    (p.result, c.settle p b)

end Scriptorium.Context
