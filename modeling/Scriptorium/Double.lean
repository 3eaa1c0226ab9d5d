/-! Double-precision numbers as their 64 bits, so that two of them are equal exactly when they are
the same bit for bit. Rounding to the nearest double, ties to even, is done on exact ratios of
natural numbers, and so is the search for the shortest decimal that reads back as a given one. -/

namespace Scriptorium

structure Double where
  bits : UInt64
deriving DecidableEq, Inhabited

namespace Double

private def twoTo (n : Nat) : Nat := Nat.pow 2 n

private def tenTo (n : Nat) : Nat := Nat.pow 10 n

def negative (x : Double) : Bool := x.bits >>> 63 != 0

private def exponentField (x : Double) : Nat := (x.bits >>> 52 &&& (0x7FF : UInt64)).toNat

private def fractionField (x : Double) : Nat := (x.bits &&& (0xFFFFFFFFFFFFF : UInt64)).toNat

def isNaN (x : Double) : Bool := x.exponentField == 2047 && x.fractionField != 0

def isInfinite (x : Double) : Bool := x.exponentField == 2047 && x.fractionField == 0

def isZero (x : Double) : Bool := x.exponentField == 0 && x.fractionField == 0

/-- Numeric equality: no NaN equals anything, and the two zeros are equal. -/
def sameNumber (x y : Double) : Bool :=
  !x.isNaN && !y.isNaN && (x == y || (x.isZero && y.isZero))

/-- The magnitude of a finite number is `significand * 2 ^ (scale - 1074)`. -/
private def significand (x : Double) : Nat :=
  if x.exponentField = 0 then x.fractionField else twoTo 52 + x.fractionField

private def scale (x : Double) : Nat := x.exponentField - 1

private def withSign (negative : Bool) (magnitude : Nat) : Double :=
  ⟨UInt64.ofNat (if negative then twoTo 63 + magnitude else magnitude)⟩

def zero (negative : Bool) : Double := withSign negative 0

def infinity (negative : Bool) : Double := withSign negative (2047 * twoTo 52)

def nan : Double := withSign false (2047 * twoTo 52 + twoTo 51)

def neg (x : Double) : Double := ⟨x.bits ^^^ (0x8000000000000000 : UInt64)⟩

/-- The double nearest to `num / den`, the even one of two equally near. A magnitude beyond the
largest finite number gives infinity. -/
def ofRatio (negative : Bool) (num den : Nat) : Double :=
  if num = 0 then zero negative
  else
    -- quotient by `2 ^ (k - 1074)`, with `k` the least for which it stays below `2 ^ 53`
    let quotient (k : Nat) : Nat × Nat :=
      if k ≤ 1074 then (num * twoTo (1074 - k), den) else (num, den * twoTo (k - 1074))
    let guess := num.log2 + 1074 - den.log2 - 53
    let k := if (quotient guess).1 / (quotient guess).2 < twoTo 53 then guess else guess + 1
    let n := (quotient k).1 / (quotient k).2
    let rest := (quotient k).1 % (quotient k).2
    let divisor := (quotient k).2
    let up := 2 * rest > divisor || (2 * rest == divisor && n % 2 == 1)
    withSign negative (min (k * twoTo 52 + (if up then n + 1 else n)) (2047 * twoTo 52))

def ofNat (n : Nat) : Double := ofRatio false n 1

/-- The double nearest to a decimal magnitude. Magnitudes far outside the range of doubles are
settled by the place of their first digit alone. -/
def ofDecimal (negative : Bool) (digits : Nat) (exponent : Int) : Double :=
  let place := exponent + (toString digits).length
  if digits = 0 ∨ place < -330 then zero negative
  else if 310 < place then infinity negative
  else if 0 ≤ exponent then ofRatio negative (digits * tenTo exponent.toNat) 1
  else ofRatio negative digits (tenTo exponent.natAbs)

/-- The double nearest to a decimal magnitude written in any number of digits. The point half-way
between two doubles has fewer than `kept` digits, so what comes after that many tells no more than
whether the magnitude lies above the decimal before it. -/
def ofDigits (negative : Bool) (digits : List Char) (exponent : Int) : Double :=
  let value (cs : List Char) := cs.foldl (fun n c => 10 * n + (c.toNat - '0'.toNat)) 0
  let significant := digits.dropWhile (· = '0')
  let rest := significant.drop kept
  if rest.isEmpty then ofDecimal negative (value significant) exponent
  else
    let sticky := if rest.all (· = '0') then 0 else 1
    ofDecimal negative (10 * value (significant.take kept) + sticky) (exponent + rest.length - 1)
where
  kept : Nat := 800

/-- Product and quotient of finite numbers, rounded once; the divisor is not zero. -/
def mul (x y : Double) : Double :=
  ofRatio (x.negative != y.negative)
    (x.significand * y.significand * twoTo (x.scale + y.scale)) (twoTo 2148)

@[inherit_doc mul]
def div (x y : Double) : Double :=
  ofRatio (x.negative != y.negative) (x.significand * twoTo x.scale) (y.significand * twoTo y.scale)

/-- A decimal magnitude: `digits * 10 ^ exponent`. -/
structure Decimal where
  digits : Nat
  exponent : Int

private def Decimal.strip (d : Decimal) : Nat → Decimal
  | 0 => d
  | fuel + 1 =>
    if d.digits % 10 = 0 && d.digits ≠ 0 then
      Decimal.strip ⟨d.digits / 10, d.exponent + 1⟩ fuel
    else d

/-- Which of two decimals is taken that are equally near to a number. -/
inductive Tie where
  | toEven
  /-- The one of greater magnitude. -/
  | toGreater
deriving DecidableEq

/-- The decimal with the fewest digits among those that round to a positive finite number, and of
these the nearest to it. The reals that round to it form an interval whose ends belong to it if the
significand is even; on each decimal grid, from coarse to fine, only the two neighbours of the
number have to be tested. -/
def shortest (tie : Tie) (x : Double) : Decimal :=
  let m := x.significand
  let unit := twoTo x.scale
  let below := if m = twoTo 52 ∧ x.scale ≠ 0 then 1 else 2
  let den := twoTo 1076
  let low := (4 * m - below) * unit
  let mid := 4 * m * unit
  let high := (4 * m + 2) * unit
  let inside (lo v hi : Nat) : Bool := if m % 2 = 0 then lo ≤ v && v ≤ hi else lo < v && v < hi
  let magnitude : Int :=
    if den ≤ mid then ((toString (mid / den)).length : Int)
    else 1 - ((toString (den / mid)).length : Int)
  let rec search (p : Int) : Nat → Decimal
    | 0 => ⟨0, 0⟩
    | fuel + 1 =>
      let up := if p < 0 then tenTo p.natAbs else 1
      let grid := if p < 0 then den else den * tenTo p.natAbs
      let d := mid * up / grid
      let hit (d : Nat) := inside (low * up) (d * grid) (high * up)
      let toLower := mid * up - d * grid
      let toUpper := (d + 1) * grid - mid * up
      if hit d && hit (d + 1) then
        if toLower < toUpper || (toLower == toUpper && tie == .toEven && d % 2 == 0) then ⟨d, p⟩
        else ⟨d + 1, p⟩
      else if hit d then ⟨d, p⟩
      else if hit (d + 1) then ⟨d + 1, p⟩
      else search (p - 1) fuel
  (search magnitude 24).strip 24

/-- The sign, the shortest digits and the place of the point in them: a number `0.d₁d₂… * 10 ^ n`
has the digits `d₁d₂…` and the place `n`. Zero is the digit 0 at place 1. -/
def layout (tie : Tie) (x : Double) : Bool × String × Int :=
  if x.isZero then (x.negative, "0", 1)
  else
    let d := x.shortest tie
    let digits := toString d.digits
    (x.negative, digits, d.exponent + digits.length)

/-- Digits around a decimal point that stands at `place`; there is a digit on either side. -/
def pointed (digits : String) (place : Int) : String :=
  let zeros (n : Nat) := String.ofList (List.replicate n '0')
  let cs := digits.toList
  if place ≤ 0 then "0." ++ zeros place.natAbs ++ digits
  else
    let whole := String.ofList (cs.take place.toNat) ++ zeros (place.toNat - cs.length)
    let rest := String.ofList (cs.drop place.toNat)
    whole ++ "." ++ (if rest.isEmpty then "0" else rest)

/-- A number in full, without an exponent, however large or small it is. Of two equally near
decimals it has the greater one. -/
def inFull (x : Double) : String :=
  if x.isNaN then "NaN"
  else
    let sign := if x.negative then "-" else ""
    if x.isInfinite then sign ++ "inf"
    else
      let (_, digits, place) := x.layout .toGreater
      sign ++ pointed digits place

end Double
end Scriptorium
