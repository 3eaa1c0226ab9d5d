import Scriptorium.Digest
import Scriptorium.Double
import Scriptorium.IdMap

/-! What a compilation produces before any of it is installed: units of code with their names, the
nested units with the data that a callable is made from, and the table of constants. -/

namespace Scriptorium

/-- One installable piece of generated code. Its name is chosen by the generator. -/
structure CodeUnit where
  name : String
  code : Bytes
deriving DecidableEq, Inhabited

/-- The digest of the code. Units with equal digests behave alike. -/
def CodeUnit.digest (u : CodeUnit) : Digest := Digest.ofBytes u.code

/-- What a callable is made from, besides its code. The name of an anonymous function is empty. -/
structure Callable where
  functionName : String
  arity : UInt32
  flags : UInt32
deriving DecidableEq, Inhabited

structure SubUnit where
  unit : CodeUnit
  callable : Callable
deriving DecidableEq, Inhabited

/-- An entry of the table of constants. -/
inductive Constant where
  | undefined
  | null
  | bool (value : Bool)
  | number (value : Double)
  | str (value : String)
deriving DecidableEq, Inhabited

namespace Constant

/-- Equality of the values that constants stand for: numbers are compared as numbers. -/
def sameValue : Constant → Constant → Bool
  | .number x, .number y => x.sameNumber y
  | a, b => a == b

end Constant

/-- All that the generator produced for one source: the unit run first, the nested units by the
index of their function, and the constants that all of them share. -/
structure Bundle where
  main : CodeUnit
  subs : IdMap SubUnit
  constants : List Constant
deriving DecidableEq, Inhabited

namespace Bundle

/-- Units of one bundle refer to each other by name as soon as there are several. -/
def isLinked (b : Bundle) : Bool := !b.subs.isEmpty

/-- All units, the main one first, then the nested ones in ascending order. -/
def units (b : Bundle) : List CodeUnit := b.main :: b.subs.entries.map (·.2.unit)

def unitCount (b : Bundle) : Nat := b.units.length

def totalSize (b : Bundle) : Nat := b.units.foldl (fun n u => n + u.code.length) 0

def sameValue (a b : Bundle) : Bool :=
  a.main == b.main && a.subs == b.subs &&
    a.constants.length == b.constants.length &&
    (a.constants.zip b.constants).all fun (x, y) => x.sameValue y

end Bundle
end Scriptorium
