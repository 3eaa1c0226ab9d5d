import Scriptorium.Code
import Scriptorium.Install.Error

/-! Verification of generated code before it is installed. -/

namespace Scriptorium

/-- Looks at a unit and gives the reason why it is malformed, if it is. -/
abbrev Verifier := CodeUnit → Option String

/-- Rejects units by name, each with a reason, and code longer than a bound. -/
def Verifier.ofRules (rejected : List (String × String)) (maxLength : Option Nat) : Verifier :=
  fun u =>
    match rejected.lookup u.name with
    | some reason => some reason
    | none =>
      if maxLength.any (· < u.code.length) then some s!"code of {u.code.length} bytes is too long"
      else none

/-- The complaint about the first malformed unit. -/
def Bundle.malformed? (b : Bundle) (v : Verifier) : Option InstallError :=
  b.units.findSome? fun u => (v u).map (.verification u.name)

end Scriptorium
