import Scriptorium.Diagnostic
import Scriptorium.Fault

/-! Why a unit could not be made callable, how an installation ends before its time, and why a
compile failed. -/

namespace Scriptorium

/-- A loader of the target; its name space holds the units defined in it. -/
structure LoaderId where
  number : Nat
deriving DecidableEq, Inhabited

def LoaderId.display (id : LoaderId) : String := s!"#{id.number}"

inductive InstallError where
  | isolationUnavailable
  | requiresLinking (unit : String)
  | duplicateUnit (loader : LoaderId) (unit : String)
  | verification (unit reason : String)
  | rejected (unit reason : String)
deriving DecidableEq

namespace InstallError

def message : InstallError → String
  | .isolationUnavailable => "isolated installation is not available in this host"
  | .requiresLinking unit =>
    s!"unit `{unit}` links other units and cannot be installed in isolation"
  | .duplicateUnit loader unit => s!"unit `{unit}` is already defined in loader {loader.display}"
  | .verification unit reason => s!"verification of unit `{unit}` failed: {reason}"
  | .rejected unit reason => s!"host rejected unit `{unit}`: {reason}"

end InstallError

/-- How an installation ends before its time: a unit is refused, or the installer is broken off. -/
inductive Setback where
  | refused (error : InstallError)
  | broken (fault : Fault)
deriving DecidableEq

inductive CompileError where
  /-- The generator failed; all it had to say. -/
  | diagnostics (all : List Diagnostic)
  | installation (cause : InstallError)
deriving DecidableEq

namespace CompileError

def attached : CompileError → List Diagnostic
  | .diagnostics all => all
  | .installation _ => []

def message : CompileError → String
  | .diagnostics all => s!"compilation failed with {all.countP (·.isError)} error(s)"
  | .installation cause => s!"installation failed: {cause.message}"

end CompileError
end Scriptorium
