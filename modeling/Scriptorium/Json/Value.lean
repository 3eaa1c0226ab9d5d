import Scriptorium.Double

/-! JSON texts as values. Numbers and strings are kept as they were written: what a number is read
as depends on the type wanted, and a string that nobody looks at may hold escapes that stand for no
character. -/

namespace Scriptorium.Json

/-- A number as it is written. -/
structure Number where
  negative : Bool
  whole : List Char
  fraction : Option (List Char) := none
  /-- The sign of the exponent, if one is written, and its digits. -/
  exponent : Option (Option Char × List Char) := none
deriving DecidableEq, Inhabited

inductive Value where
  | null
  | bool (b : Bool)
  | number (n : Number)
  /-- What stands between the quotes, escapes and all. -/
  | string (raw : List Char)
  | array (items : List Value)
  | object (members : List (List Char × Value))
deriving Inhabited

namespace Number

def ofNat (n : Nat) : Number := ⟨false, (toString n).toList, none, none⟩

/-- The number that digits stand for, exact as long as it fits in 64 bits. Beyond that it only
stays too large. -/
def digitsValue (digits : List Char) : Nat :=
  digits.foldl (fun n c => if n < UInt64.size then 10 * n + (c.toNat - '0'.toNat) else n) 0

/-- The natural number that is written, if it is written as one; one of more than 64 bits is only
known to be so large. -/
def natural? (n : Number) : Option Nat :=
  if n.negative || n.fraction.isSome || n.exponent.isSome then none else some (digitsValue n.whole)

/-- The leading digits of a number as far as they fit in 64 bits, and how many were left out. -/
private def leading (start : Nat) : List Char → Nat × Nat
  | [] => (start, 0)
  | c :: cs =>
    let next := 10 * start + (c.toNat - '0'.toNat)
    if next < UInt64.size then leading next cs else (start, cs.length + 1)

/-- A double times a power of ten, in steps that are rounded one by one: a product or quotient with
one power, and before it, for exponents below those of doubles, quotients with the least power. A
number that is too large has no value. -/
private def scaled (x : Double) (exponent : Int) : (fuel : Nat) → Option Double
  | 0 => some x
  | fuel + 1 =>
    if exponent.natAbs ≤ 308 then
      let power := Double.ofNat (Nat.pow 10 exponent.natAbs)
      if 0 ≤ exponent then
        let y := x.mul power
        if y.isInfinite then none else some y
      else some (x.div power)
    else if x.isZero then some x
    else if 0 ≤ exponent then none
    else scaled (x.div (Double.ofNat (Nat.pow 10 308))) (exponent + 308) fuel

/-- The double that a number is read as: its leading digits, scaled by the exponent. -/
def double? (n : Number) : Option Double := do
  let (start, dropped) := leading 0 n.whole
  let (significand, places) := match n.fraction with
    | none => (start, 0)
    | some fraction =>
      let (all, dropped) := leading start fraction
      (all, fraction.length - dropped)
  let exponent : Int := match n.exponent with
    | none => 0
    | some (sign, digits) =>
      if sign = some '-' then -(digitsValue digits : Int) else digitsValue digits
  let x ← scaled (Double.ofNat significand) (dropped - places + exponent) 8
  some (if n.negative then x.neg else x)

/-- A finite double as a number: the shortest digits that read back, positional from five places
behind the point to sixteen before it, and always with a fraction or an exponent. Of two equally
near decimals it has the even one. -/
def ofDouble (x : Double) : Number :=
  let (negative, digits, place) := x.layout .toEven
  let cs := digits.toList
  let n := cs.length
  if -5 < place ∧ place ≤ 16 then
    if place ≤ 0 then ⟨negative, ['0'], some (List.replicate place.natAbs '0' ++ cs), none⟩
    else
      let rest := cs.drop place.toNat
      ⟨negative, cs.take place.toNat ++ List.replicate (place.toNat - n) '0',
        some (if rest.isEmpty then ['0'] else rest), none⟩
  else
    let e := place - 1
    ⟨negative, cs.take 1, if n = 1 then none else some (cs.drop 1),
      some (some (if e < 0 then '-' else '+'), (toString e.natAbs).toList)⟩

end Number
end Scriptorium.Json
