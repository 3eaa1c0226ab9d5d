/-! Faults: the ways in which an operation is broken off without an answer. They are no errors that
a caller is expected to handle; what the operation changed before stays changed. -/

namespace Scriptorium

inductive Fault where
  | subtractOverflow
  | addOverflow
  | zeroCapacity
  /-- More memory was asked for than there can be. -/
  | capacityOverflow
  /-- A table was asked for with more places than there can be. -/
  | tableOverflow
  /-- Folding that has ended for good was to go over to another phase. -/
  | foldingEnded (phase : String)
deriving DecidableEq, Repr

def Fault.message : Fault → String
  | .subtractOverflow => "attempt to subtract with overflow"
  | .addOverflow => "attempt to add with overflow"
  | .zeroCapacity => "memory cache capacity must be positive"
  | .capacityOverflow => "capacity overflow"
  | .tableOverflow => "Hash table capacity overflow"
  | .foldingEnded phase =>
    s!"global constants optimizer cannot leave the permanently disabled state (to {phase})"

end Scriptorium
