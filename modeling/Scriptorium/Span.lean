import Scriptorium.Fault

/-! Ranges of octet offsets in a source, the start inside and the end outside. -/

namespace Scriptorium

structure Span where
  start : UInt32
  stop : UInt32
deriving DecidableEq, Inhabited

namespace Span

/-- Stands for "no place in a source". -/
def dummy : Span := ⟨0xFFFFFFFF, 0xFFFFFFFF⟩

def isDummy (s : Span) : Bool := s == dummy

/-- The least range that covers both. -/
def merge (s t : Span) : Span := ⟨min s.start t.start, max s.stop t.stop⟩

/-- A range that ends before it starts has no length. -/
def length (s : Span) : Except Fault Nat :=
  if s.start ≤ s.stop then .ok (s.stop.toNat - s.start.toNat) else .error .subtractOverflow

def isEmpty (s : Span) : Bool := s.start == s.stop

end Span
end Scriptorium
