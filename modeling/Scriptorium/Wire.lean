import Scriptorium.Digest
import Scriptorium.Double

/-! A compact binary form of data. Numbers up to 250 take one octet; larger ones take a marker and
two, four or eight octets, little-endian. Texts and lists start with their length, choices with the
number of the alternative. A reader takes its value off the front and leaves the rest, and it
accepts a number in a wider form than needed as long as the form is not wider than the number's
type. -/

namespace Scriptorium.Wire

inductive Error where
  | shortData
  | wideNumber
  | badFlag
  | badText
  | unknownAlternative
  /-- A text is said to be longer than memory can be. -/
  | oversized
deriving DecidableEq

def Error.message : Error → String
  | .shortData => "unexpected end of data"
  | .wideNumber => "number too wide"
  | .badFlag => "flag is neither 0 nor 1"
  | .badText => "text is not UTF-8"
  | .unknownAlternative => "unknown alternative"
  | .oversized => "text too long"

/-- How values of a type are written and read. -/
structure Codec (α : Type) where
  write : α → Bytes
  read : Bytes → Except Error (α × Bytes)

namespace Codec

/-- A codec for `β` from one for `α`, when `β` is another view of `α`. -/
def view (c : Codec α) (into : α → β) (from_ : β → α) : Codec β where
  write b := c.write (from_ b)
  read bs := do
    let (a, rest) ← c.read bs
    .ok (into a, rest)

/-- Two values one after the other. -/
def pair (c : Codec α) (d : Codec β) : Codec (α × β) where
  write x := c.write x.1 ++ d.write x.2
  read bs := do
    let (a, rest) ← c.read bs
    let (b, rest) ← d.read rest
    .ok ((a, b), rest)

end Codec

/-- Takes a given number of octets off the front. -/
def takeOctets (n : Nat) (bs : Bytes) : Except Error (Bytes × Bytes) :=
  let taken := bs.take n
  if taken.length < n then .error .shortData else .ok (taken, bs.drop n)

def writeNumber (n : Nat) : Bytes :=
  if n ≤ 250 then [UInt8.ofNat n]
  else if n < Bytes.bound 2 then 251 :: Bytes.word 2 n
  else if n < Bytes.bound 4 then 252 :: Bytes.word 4 n
  else 253 :: Bytes.word 8 n

/-- Reads a number whose type has `widest` octets. -/
def readNumber (widest : Nat) : Bytes → Except Error (Nat × Bytes)
  | [] => .error .shortData
  | b :: rest =>
    if b ≤ 250 then .ok (b.toNat, rest)
    else
      let width := if b = 251 then 2 else if b = 252 then 4 else if b = 253 then 8 else 16
      if widest < width then .error .wideNumber
      else do
        let (digits, rest) ← takeOctets width rest
        .ok (Bytes.value digits, rest)

def word32 : Codec UInt32 where
  write n := writeNumber n.toNat
  read bs := do
    let (n, rest) ← readNumber 4 bs
    .ok (UInt32.ofNat n, rest)

def word64 : Codec UInt64 where
  write n := writeNumber n.toNat
  read bs := do
    let (n, rest) ← readNumber 8 bs
    .ok (UInt64.ofNat n, rest)

def flag : Codec Bool where
  write b := [if b then 1 else 0]
  read
    | [] => .error .shortData
    | b :: rest =>
      if b = 0 then .ok (false, rest) else if b = 1 then .ok (true, rest) else .error .badFlag

/-- Octets with their number in front. -/
def blob : Codec Bytes where
  write bs := writeNumber bs.length ++ bs
  read bs := do
    let (n, rest) ← readNumber 8 bs
    takeOctets n rest

/-- How many octets of memory can be asked for at once. -/
def memoryLimit : Nat := 9223372036854775807

/-- The octets of a text are made room for before any of them is read. -/
def text : Codec String where
  write s := blob.write (Bytes.utf8 s)
  read bs := do
    let (n, rest) ← readNumber 8 bs
    if memoryLimit < n then .error .oversized
    else do
      let (octets, rest) ← takeOctets n rest
      match Bytes.text? octets with
      | some s => .ok (s, rest)
      | none => .error .badText

/-- Octets whose number is known. -/
def fixed (n : Nat) : Codec Bytes where
  write bs := bs
  read := takeOctets n

def digest : Codec Digest where
  write d := d.toBytes
  read bs := do
    let (octets, rest) ← takeOctets 16 bs
    match Digest.fromBytes? octets with
    | some d => .ok (d, rest)
    | none => .error .shortData

def double : Codec Double where
  write x := Bytes.word 8 x.bits.toNat
  read bs := do
    let (octets, rest) ← takeOctets 8 bs
    .ok (⟨UInt64.ofNat (Bytes.value octets)⟩, rest)

/-- Reads a given number of values after those that were read already, in reverse. -/
def readMany (c : Codec α) (read : List α) : Nat → Bytes → Except Error (List α × Bytes)
  | 0, bs => .ok (read.reverse, bs)
  | n + 1, bs =>
    match c.read bs with
    | .ok (a, rest) => readMany c (a :: read) n rest
    | .error e => .error e

def list (c : Codec α) : Codec (List α) where
  write as := writeNumber as.length ++ as.flatMap c.write
  read bs := do
    let (n, rest) ← readNumber 8 bs
    readMany c [] n rest

end Scriptorium.Wire
