import Scriptorium.Diagnostic

/-! The place where diagnostics are collected during a compile. The number of errors is kept beside
the list: taking the list leaves the number as it is, and only a reset clears both. -/

namespace Scriptorium

structure Sink where
  pending : List Diagnostic
  errorCount : Nat
deriving DecidableEq, Inhabited

namespace Sink

def empty : Sink := ⟨[], 0⟩

def emit (s : Sink) (d : Diagnostic) : Sink :=
  ⟨s.pending ++ [d], if d.isError then s.errorCount + 1 else s.errorCount⟩

def emitAll (s : Sink) (ds : List Diagnostic) : Sink := ds.foldl emit s

def hasErrors (s : Sink) : Bool := 0 < s.errorCount

def reset (_ : Sink) : Sink := empty

/-- Hands out the collected diagnostics; the number of errors stays. -/
def takeAll (s : Sink) : List Diagnostic × Sink := (s.pending, { s with pending := [] })

theorem emitAll_pending (s : Sink) (ds : List Diagnostic) :
    (s.emitAll ds).pending = s.pending ++ ds := by
  induction ds generalizing s with
  | nil => simp [emitAll]
  | cons d ds ih => simpa [emitAll, emit] using ih (s.emit d)

theorem emitAll_errorCount (s : Sink) (ds : List Diagnostic) :
    (s.emitAll ds).errorCount = s.errorCount + ds.countP (·.isError) := by
  induction ds generalizing s with
  | nil => simp [emitAll]
  | cons d ds ih =>
    have h := ih (s.emit d)
    simp only [emitAll, List.foldl_cons] at h ⊢
    rw [h, List.countP_cons]
    simp only [emit]
    split <;> omega

end Sink
end Scriptorium
