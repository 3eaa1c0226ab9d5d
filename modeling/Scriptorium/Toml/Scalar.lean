import Scriptorium.Double
import Scriptorium.Toml.Text
import Scriptorium.Toml.Value

/-! Reading the TOML values that hold no other values: strings, truth values, numbers, dates. -/

namespace Scriptorium.Toml

/-- Digits, with single underscores allowed between two of them. -/
private def digitsOf (isDigit : Char → Bool) : Reader (List Char) := fun cs =>
  match cs with
  | c :: rest => if isDigit c then some (go [c] rest) else none
  | [] => none
where
  go (read : List Char) : List Char → List Char × List Char
    | '_' :: c :: rest =>
      if isDigit c then go (c :: read) rest else (read.reverse, '_' :: c :: rest)
    | c :: rest => if isDigit c then go (c :: read) rest else (read.reverse, c :: rest)
    | [] => (read.reverse, [])

/-- The number that digits stand for, exact as long as it fits in 64 bits. Beyond that it only
stays too large. -/
private def numeral (base : Nat) (digits : List Char) : Nat :=
  digits.foldl (fun n c => if n < UInt64.size then base * n + (hexValue c).getD 0 else n) 0

private def sign : List Char → Option Bool × List Char
  | '+' :: rest => (some false, rest)
  | '-' :: rest => (some true, rest)
  | cs => (none, cs)

/-- Decimal digits without a leading zero. -/
private def wholeDigits : Reader (List Char)
  | '0' :: rest => some (['0'], rest)
  | cs => digitsOf Char.isDigit cs

/-- Integers have 64 bits. -/
private def inRange (n : Int) : Bool := -9223372036854775808 ≤ n && n ≤ 9223372036854775807

private def integer : Reader Value := fun cs => do
  let based (base : Nat) (isDigit : Char → Bool) (rest : List Char) : Option (Value × List Char) :=
    do
      let (digits, rest) ← digitsOf isDigit rest
      let n : Int := numeral base digits
      guard (inRange n)
      some (.int n, rest)
  match cs with
  | '0' :: 'x' :: rest => based 16 (fun c => (hexValue c).isSome) rest
  | '0' :: 'o' :: rest => based 8 (fun c => '0' ≤ c && c ≤ '7') rest
  | '0' :: 'b' :: rest => based 2 (fun c => c = '0' || c = '1') rest
  | _ =>
    let (negative, rest) := sign cs
    let (digits, rest) ← wholeDigits rest
    let n : Int := numeral 10 digits
    let n := if negative.getD false then -n else n
    guard (inRange n)
    some (.int n, rest)

/-- The power of ten that the digits of an exponent stand for. No digit counts after those that
make it 65536 or more. -/
private def power (digits : List Char) : Nat :=
  digits.foldl (fun n c => if n < 65536 then 10 * n + (hexValue c).getD 0 else n) 0

private def exponent : Reader Int
  | c :: rest =>
    if c = 'e' || c = 'E' then do
      let (negative, rest) := sign rest
      let (digits, rest) ← digitsOf Char.isDigit rest
      let n : Int := power digits
      some (if negative.getD false then -n else n, rest)
    else none
  | [] => none

/-- A number with a fraction, an exponent or both. One that is too large is refused, unless it is
negative. -/
private def decimal : Reader Value := fun cs => do
  let (negative, rest) := sign cs
  let negative := negative.getD false
  let (whole, rest) ← wholeDigits rest
  let (fraction, e, rest) ← (match rest with
    | '.' :: rest => do
      let (fraction, rest) ← digitsOf Char.isDigit rest
      match rest with
      | 'e' :: _ | 'E' :: _ => do
        let (e, rest) ← exponent rest
        some (fraction, e, rest)
      | _ => some (fraction, 0, rest)
    | _ => do
      let (e, rest) ← exponent rest
      some ([], e, rest))
  let x := Double.ofDigits negative (whole ++ fraction) (e - fraction.length)
  guard (x != Double.infinity false)
  some (.float x, rest)

private def special : Reader Value := fun cs =>
  let (negative, rest) := sign cs
  let negative := negative.getD false
  match rest with
  | 'i' :: 'n' :: 'f' :: rest => some (.float (Double.infinity negative), rest)
  | 'n' :: 'a' :: 'n' :: rest =>
    some (.float (if negative then Double.nan.neg else Double.nan), rest)
  | _ => none

/-- A number of exactly `width` digits within bounds. -/
private def fixedDigits (width low high : Nat) : Reader Nat := fun cs => do
  let digits := cs.take width
  guard (digits.length = width && digits.all Char.isDigit)
  let n := numeral 10 digits
  guard (low ≤ n && n ≤ high)
  some (n, cs.drop width)

private def daysIn (year month : Nat) : Nat :=
  if month = 2 then
    if year % 4 = 0 && (year % 100 ≠ 0 || year % 400 = 0) then 29 else 28
  else if month ∈ [4, 6, 9, 11] then 30
  else 31

private def date : Reader Unit := fun cs => do
  let (year, rest) ← fixedDigits 4 0 9999 cs
  let (_, rest) ← Reader.literal "-" rest
  let (month, rest) ← fixedDigits 2 1 12 rest
  let (_, rest) ← Reader.literal "-" rest
  let (_, rest) ← fixedDigits 2 1 (daysIn year month) rest
  some ((), rest)

private def clock : Reader Unit := fun cs => do
  let (_, rest) ← fixedDigits 2 0 23 cs
  let (_, rest) ← Reader.literal ":" rest
  let (_, rest) ← fixedDigits 2 0 59 rest
  let (_, rest) ← Reader.literal ":" rest
  let (_, rest) ← fixedDigits 2 0 60 rest
  match rest with
  | '.' :: fraction =>
    let digits := fraction.takeWhile Char.isDigit
    guard (!digits.isEmpty)
    some ((), fraction.dropWhile Char.isDigit)
  | _ => some ((), rest)

private def zone : Reader Unit
  | 'Z' :: rest | 'z' :: rest => some ((), rest)
  | cs =>
    match sign cs with
    | (none, _) => none
    | (some _, rest) => do
      let (_, rest) ← fixedDigits 2 0 23 rest
      let (_, rest) ← Reader.literal ":" rest
      let (_, rest) ← fixedDigits 2 0 59 rest
      some ((), rest)

/-- A date, a date with a time and perhaps a zone, or a time. -/
private def datetime : Reader Value := fun cs =>
  match date cs with
  | some (_, rest) =>
    match rest with
    | c :: time =>
      if c = 'T' || c = 't' || c = ' ' then
        match clock time with
        | some (_, rest) => some (.datetime, (Reader.maybe zone rest).2)
        | none => some (.datetime, c :: time)
      else some (.datetime, rest)
    | [] => some (.datetime, [])
  | none => (clock cs).map fun (_, rest) => (.datetime, rest)

/-- A value that holds no other values. -/
def scalar : Reader Value := fun cs =>
  match cs with
  | '"' :: _ | '\'' :: _ => (string.map .str) cs
  | 't' :: 'r' :: 'u' :: 'e' :: rest => some (.bool true, rest)
  | 'f' :: 'a' :: 'l' :: 's' :: 'e' :: rest => some (.bool false, rest)
  | _ => datetime.orElse (special.orElse (decimal.orElse integer)) cs

end Scriptorium.Toml
