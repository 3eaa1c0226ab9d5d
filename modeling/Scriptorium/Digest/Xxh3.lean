/-! The 128-bit XXH3 checksum with seed zero and the default secret. Inputs fall into six length
classes: empty, up to 3, 8, 16, 128 and 240 octets, each with its own mixing of the input with a
slice of the secret; longer inputs run through eight accumulators, one stripe of 64 octets at a
time. All arithmetic is modulo 2⁶⁴. -/

namespace Scriptorium.Xxh3

/-- The two halves of a 128-bit word. -/
structure Wide where
  low : UInt64
  high : UInt64

private def prime32_1 : UInt64 := 0x9E3779B1
private def prime32_2 : UInt64 := 0x85EBCA77
private def prime32_3 : UInt64 := 0xC2B2AE3D
private def prime64_1 : UInt64 := 0x9E3779B185EBCA87
private def prime64_2 : UInt64 := 0xC2B2AE3D27D4EB4F
private def prime64_3 : UInt64 := 0x165667B19E3779F9
private def prime64_4 : UInt64 := 0x85EBCA77C2B2AE63
private def prime64_5 : UInt64 := 0x27D4EB2F165667C5
private def primeMix1 : UInt64 := 0x165667919E3779F9
private def primeMix2 : UInt64 := 0x9FB21C651E98DF25

private def secret : ByteArray := ⟨#[
  0xb8, 0xfe, 0x6c, 0x39, 0x23, 0xa4, 0x4b, 0xbe, 0x7c, 0x01, 0x81, 0x2c, 0xf7, 0x21, 0xad, 0x1c,
  0xde, 0xd4, 0x6d, 0xe9, 0x83, 0x90, 0x97, 0xdb, 0x72, 0x40, 0xa4, 0xa4, 0xb7, 0xb3, 0x67, 0x1f,
  0xcb, 0x79, 0xe6, 0x4e, 0xcc, 0xc0, 0xe5, 0x78, 0x82, 0x5a, 0xd0, 0x7d, 0xcc, 0xff, 0x72, 0x21,
  0xb8, 0x08, 0x46, 0x74, 0xf7, 0x43, 0x24, 0x8e, 0xe0, 0x35, 0x90, 0xe6, 0x81, 0x3a, 0x26, 0x4c,
  0x3c, 0x28, 0x52, 0xbb, 0x91, 0xc3, 0x00, 0xcb, 0x88, 0xd0, 0x65, 0x8b, 0x1b, 0x53, 0x2e, 0xa3,
  0x71, 0x64, 0x48, 0x97, 0xa2, 0x0d, 0xf9, 0x4e, 0x38, 0x19, 0xef, 0x46, 0xa9, 0xde, 0xac, 0xd8,
  0xa8, 0xfa, 0x76, 0x3f, 0xe3, 0x9c, 0x34, 0x3f, 0xf9, 0xdc, 0xbb, 0xc7, 0xc7, 0x0b, 0x4f, 0x1d,
  0x8a, 0x51, 0xe0, 0x4b, 0xcd, 0xb4, 0x59, 0x31, 0xc8, 0x9f, 0x7e, 0xc9, 0xd9, 0x78, 0x73, 0x64,
  0xea, 0xc5, 0xac, 0x83, 0x34, 0xd3, 0xeb, 0xc3, 0xc5, 0x81, 0xa0, 0xff, 0xfa, 0x13, 0x63, 0xeb,
  0x17, 0x0d, 0xdd, 0x51, 0xb7, 0xf0, 0xda, 0x49, 0xd3, 0x16, 0x55, 0x26, 0x29, 0xd4, 0x68, 0x9e,
  0x2b, 0x16, 0xbe, 0x58, 0x7d, 0x47, 0xa1, 0xfc, 0x8f, 0xf8, 0xb8, 0xd1, 0x7a, 0xd0, 0x31, 0xce,
  0x45, 0xcb, 0x3a, 0x8f, 0x95, 0x16, 0x04, 0x28, 0xaf, 0xd7, 0xfb, 0xca, 0xbb, 0x4b, 0x40, 0x7e]⟩

private def octet (data : ByteArray) (i : Nat) : UInt64 :=
  if h : i < data.size then data[i].toUInt64 else 0

/-- The little-endian word of four octets at `i`. -/
private def word32 (data : ByteArray) (i : Nat) : UInt64 :=
  octet data i ||| octet data (i + 1) <<< 8 ||| octet data (i + 2) <<< 16 |||
    octet data (i + 3) <<< 24

/-- The little-endian word of eight octets at `i`. -/
private def word64 (data : ByteArray) (i : Nat) : UInt64 :=
  word32 data i ||| word32 data (i + 4) <<< 32

private def low32 (x : UInt64) : UInt64 := x &&& 0xFFFFFFFF

private def swap32 (x : UInt64) : UInt64 :=
  let part (k : UInt64) := (x >>> (8 * k)) &&& 0xFF
  part 0 <<< 24 ||| part 1 <<< 16 ||| part 2 <<< 8 ||| part 3

private def swap64 (x : UInt64) : UInt64 :=
  swap32 (low32 x) <<< 32 ||| swap32 (x >>> 32)

/-- The full product of two words. -/
private def wideMul (a b : UInt64) : Wide :=
  let al := low32 a
  let ah := a >>> 32
  let bl := low32 b
  let bh := b >>> 32
  let ll := al * bl
  let hl := ah * bl
  let lh := al * bh
  let cross := (ll >>> 32) + low32 hl + lh
  ⟨(cross <<< 32) ||| low32 ll, (hl >>> 32) + (cross >>> 32) + ah * bh⟩

private def foldedMul (a b : UInt64) : UInt64 :=
  let p := wideMul a b
  p.low ^^^ p.high

private def avalanche (h : UInt64) : UInt64 :=
  let h := (h ^^^ (h >>> 37)) * primeMix1
  h ^^^ (h >>> 32)

private def strongAvalanche (h : UInt64) : UInt64 :=
  let h := (h ^^^ (h >>> 33)) * prime64_2
  let h := (h ^^^ (h >>> 29)) * prime64_3
  h ^^^ (h >>> 32)

private def ofEmpty : Wide :=
  ⟨strongAvalanche (word64 secret 64 ^^^ word64 secret 72),
   strongAvalanche (word64 secret 80 ^^^ word64 secret 88)⟩

private def upTo3 (data : ByteArray) : Wide :=
  let n := data.size
  let lo := octet data 0 <<< 16 ||| octet data (n / 2) <<< 24 ||| octet data (n - 1) |||
    n.toUInt64 <<< 8
  let swapped := swap32 lo
  let hi := low32 (swapped <<< 13) ||| swapped >>> 19
  ⟨strongAvalanche (lo ^^^ (word32 secret 0 ^^^ word32 secret 4)),
   strongAvalanche (hi ^^^ (word32 secret 8 ^^^ word32 secret 12))⟩

private def upTo8 (data : ByteArray) : Wide :=
  let n := data.size
  let both := word32 data 0 + word32 data (n - 4) <<< 32
  let keyed := both ^^^ (word64 secret 16 ^^^ word64 secret 24)
  let p := wideMul keyed (prime64_1 + n.toUInt64 <<< 2)
  let high := p.high + p.low <<< 1
  let low := p.low ^^^ (high >>> 3)
  let low := (low ^^^ (low >>> 35)) * primeMix2
  ⟨low ^^^ (low >>> 28), avalanche high⟩

private def upTo16 (data : ByteArray) : Wide :=
  let n := data.size
  let flipLow := word64 secret 32 ^^^ word64 secret 40
  let flipHigh := word64 secret 48 ^^^ word64 secret 56
  let lo := word64 data 0
  let hi := word64 data (n - 8)
  let p := wideMul (lo ^^^ hi ^^^ flipLow) prime64_1
  let low := p.low + (n - 1).toUInt64 <<< 54
  let hi := hi ^^^ flipHigh
  let high := p.high + (hi + low32 hi * (prime32_2 - 1))
  let low := low ^^^ swap64 high
  let q := wideMul low prime64_2
  ⟨avalanche q.low, avalanche (q.high + high * prime64_2)⟩

private def mix16 (data : ByteArray) (i key : Nat) : UInt64 :=
  foldedMul (word64 data i ^^^ word64 secret key) (word64 data (i + 8) ^^^ word64 secret (key + 8))

private def mix32 (data : ByteArray) (acc : Wide) (i j key : Nat) : Wide :=
  ⟨(acc.low + mix16 data i key) ^^^ (word64 data j + word64 data (j + 8)),
   (acc.high + mix16 data j (key + 16)) ^^^ (word64 data i + word64 data (i + 8))⟩

private def finish (n : Nat) (acc : Wide) : Wide :=
  ⟨avalanche (acc.low + acc.high),
   0 - avalanche (acc.low * prime64_1 + acc.high * prime64_4 + n.toUInt64 * prime64_2)⟩

private def upTo128 (data : ByteArray) : Wide :=
  let n := data.size
  finish n <| (List.range ((n - 1) / 32 + 1)).reverse.foldl
    (fun acc k => mix32 data acc (16 * k) (n - 16 * (k + 1)) (32 * k))
    ⟨n.toUInt64 * prime64_1, 0⟩

private def upTo240 (data : ByteArray) : Wide :=
  let n := data.size
  let acc := (List.range 4).foldl
    (fun acc k => mix32 data acc (32 * k) (32 * k + 16) (32 * k))
    ⟨n.toUInt64 * prime64_1, 0⟩
  let acc := (List.range (n / 32 - 4)).foldl
    (fun acc k => mix32 data acc (32 * k + 128) (32 * k + 144) (32 * k + 3))
    ⟨avalanche acc.low, avalanche acc.high⟩
  finish n (mix32 data acc (n - 16) (n - 32) 103)

/-- The eight running sums of a long input. -/
private structure Lanes where
  (a b c d e f g h : UInt64)

private def Lanes.start : Lanes :=
  ⟨prime32_3, prime64_1, prime64_2, prime64_3, prime64_4, prime32_2, prime64_5, prime32_1⟩

/-- Takes in the stripe of 64 octets at `i`, keyed by the secret at `key`. -/
private def Lanes.absorb (data : ByteArray) (s : Lanes) (i key : Nat) : Lanes :=
  let value (k : Nat) := word64 data (i + 8 * k)
  let product (k : Nat) :=
    let keyed := value k ^^^ word64 secret (key + 8 * k)
    low32 keyed * (keyed >>> 32)
  ⟨s.a + value 1 + product 0, s.b + value 0 + product 1, s.c + value 3 + product 2,
   s.d + value 2 + product 3, s.e + value 5 + product 4, s.f + value 4 + product 5,
   s.g + value 7 + product 6, s.h + value 6 + product 7⟩

private def Lanes.scramble (s : Lanes) : Lanes :=
  let one (x : UInt64) (k : Nat) := (x ^^^ (x >>> 47) ^^^ word64 secret (128 + 8 * k)) * prime32_1
  ⟨one s.a 0, one s.b 1, one s.c 2, one s.d 3, one s.e 4, one s.f 5, one s.g 6, one s.h 7⟩

private def Lanes.merge (s : Lanes) (key : Nat) (start : UInt64) : UInt64 :=
  let pair (x y : UInt64) (k : Nat) :=
    foldedMul (x ^^^ word64 secret (key + 16 * k)) (y ^^^ word64 secret (key + 16 * k + 8))
  avalanche (start + pair s.a s.b 0 + pair s.c s.d 1 + pair s.e s.f 2 + pair s.g s.h 3)

/-- Sixteen stripes make a block, after which the lanes are scrambled; the stripes of the last,
incomplete block follow without scrambling, and the last 64 octets close the sum. -/
private def long (data : ByteArray) : Wide :=
  let n := data.size
  let blocks := (n - 1) / 1024
  let stripes (s : Lanes) (start count : Nat) : Lanes :=
    (List.range count).foldl (fun s k => s.absorb data (start + 64 * k) (8 * k)) s
  let s := (List.range blocks).foldl (fun s b => (stripes s (1024 * b) 16).scramble) Lanes.start
  let s := stripes s (1024 * blocks) ((n - 1 - 1024 * blocks) / 64)
  let s := s.absorb data (n - 64) 121
  ⟨s.merge 11 (n.toUInt64 * prime64_1), s.merge 117 (0 - 1 - n.toUInt64 * prime64_2)⟩

/-- The checksum of an octet array. -/
def hash (data : ByteArray) : Wide :=
  if data.size = 0 then ofEmpty
  else if data.size ≤ 3 then upTo3 data
  else if data.size ≤ 8 then upTo8 data
  else if data.size ≤ 16 then upTo16 data
  else if data.size ≤ 128 then upTo128 data
  else if data.size ≤ 240 then upTo240 data
  else long data

end Scriptorium.Xxh3
