import Scriptorium.Code
import Scriptorium.Fault
import Scriptorium.Guard

/-! Folding of global bindings. Generated code may take a folded binding for a constant as long as
its guard is valid. Folded values belong to one global scope: they are dropped when another one may
be in use, and folding ends for good when there is more than one. Each change of phase can be
checked for not leaving the last phase (`Folding.transition`); the operations that check it
(`foldChecked`, `dropAllChecked`) are those that do not (`foldChecked_eq`, `dropAllChecked_eq`). -/

namespace Scriptorium

namespace Folding

inductive Phase where
  | active
  /-- All folded bindings were dropped; folding may begin anew. -/
  | invalidated
  | disabled
deriving DecidableEq, Inhabited

def Phase.name : Phase → String
  | .active => "Active"
  | .invalidated => "Invalidated"
  | .disabled => "PermanentlyDisabled"

structure Binding where
  name : String
  value : Constant
  guard : GuardRef
deriving DecidableEq, Inhabited

end Folding

structure Folding where
  phase : Folding.Phase
  bindings : List Folding.Binding
deriving DecidableEq, Inhabited

namespace Folding

def new : Folding := ⟨.active, []⟩

def isDisabled (f : Folding) : Bool := f.phase = .disabled

def size (f : Folding) : Nat := f.bindings.length

def binding? (f : Folding) (name : String) : Option Binding :=
  f.bindings.find? fun b => b.name = name

/-- Drops the binding of a name, and its guard becomes invalid. -/
def unbind (f : Folding) (t : GuardTable) (name : String) : Folding × GuardTable :=
  match f.binding? name with
  | none => (f, t)
  | some b =>
    ({ f with bindings := f.bindings.filter fun b => b.name ≠ name }, t.invalidate b.guard)

/-- Folds a name to a value and gives the guard that code has to check, unless folding is disabled.
The guard of the value that the name had before becomes invalid. -/
def fold (f : Folding) (t : GuardTable) (name : String) (value : Constant) :
    Option GuardRef × Folding × GuardTable :=
  if f.isDisabled then (none, f, t)
  else
    let (f, t) := f.unbind t name
    let (guard, t) := t.create name
    (some guard, ⟨.active, f.bindings ++ [⟨name, value, guard⟩]⟩, t)

/-- The value of a folded name whose guard is valid. -/
def lookup (f : Folding) (t : GuardTable) (name : String) : Option Constant :=
  match f.binding? name with
  | some b => if t.isValid b.guard then some b.value else none
  | none => none

/-- Drops the value of a name that was assigned to, and tells whether there was one. -/
def invalidateBinding (f : Folding) (t : GuardTable) (name : String) :
    Bool × Folding × GuardTable :=
  ((f.binding? name).isSome, f.unbind t name)

/-- Drops all folded values. Where folding has ended, it stays so. -/
def dropAll (f : Folding) (t : GuardTable) (phase : Phase) : Folding × GuardTable :=
  (⟨if f.isDisabled then .disabled else phase, []⟩, t.invalidateAll (f.bindings.map (·.guard)))

/-- Drops all folded values; folding may begin anew. -/
def invalidateAll (f : Folding) (t : GuardTable) : Folding × GuardTable := f.dropAll t .invalidated

/-- Drops all folded values and ends folding. -/
def invalidateForever (f : Folding) (t : GuardTable) : Folding × GuardTable := f.dropAll t .disabled

/-! Checked changes of phase. -/

/-- Goes over to a phase. It is a fault to leave the last one. -/
def transition (f : Folding) (phase : Phase) : Except Fault Folding :=
  if f.isDisabled && phase ≠ .disabled then .error (.foldingEnded phase.name)
  else .ok { f with phase }

def foldChecked (f : Folding) (t : GuardTable) (name : String) (value : Constant) :
    Except Fault (Option GuardRef × Folding × GuardTable) :=
  if f.isDisabled then .ok (none, f, t)
  else
    (f.transition .active).map fun f =>
      let (f, t) := f.unbind t name
      let (guard, t) := t.create name
      (some guard, { f with bindings := f.bindings ++ [⟨name, value, guard⟩] }, t)

def dropAllChecked (f : Folding) (t : GuardTable) (phase : Phase) :
    Except Fault (Folding × GuardTable) :=
  let dropped := { f with bindings := [] }
  let t := t.invalidateAll (f.bindings.map (·.guard))
  if f.isDisabled then .ok (dropped, t) else (dropped.transition phase).map fun f => (f, t)

/-- Folding that has not ended may go over to any phase. -/
theorem transition_eq_ok {f : Folding} (enabled : ¬ f.isDisabled) (phase : Phase) :
    f.transition phase = .ok { f with phase } := by
  rw [transition, Bool.eq_false_iff.mpr enabled, Bool.false_and]
  rfl

theorem foldChecked_eq (f : Folding) (t : GuardTable) (name : String) (value : Constant) :
    f.foldChecked t name value = .ok (f.fold t name value) := by
  rw [foldChecked, fold]
  split
  · rfl
  · next enabled =>
    rw [transition_eq_ok enabled]
    simp only [Except.map, unbind, binding?]
    cases f.bindings.find? fun b => b.name = name <;> rfl

theorem dropAllChecked_eq (f : Folding) (t : GuardTable) (phase : Phase) :
    f.dropAllChecked t phase = .ok (f.dropAll t phase) := by
  rw [dropAllChecked, dropAll]
  split
  · next ended => rw [← of_decide_eq_true ended]
  · next enabled =>
    have begun : ¬ ({ f with bindings := [] } : Folding).isDisabled := enabled
    rw [transition_eq_ok begun]
    rfl

end Folding
end Scriptorium
