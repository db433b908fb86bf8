namespace TestTwins.Digest

def keyBytes : Array UInt8 := #[
  0xb8, 0xfe, 0x6c, 0x39, 0x23, 0xa4, 0x4b, 0xbe, 0x7c, 0x01, 0x81, 0x2c, 0xf7, 0x21, 0xad, 0x1c,
  0xde, 0xd4, 0x6d, 0xe9, 0x83, 0x90, 0x97, 0xdb, 0x72, 0x40, 0xa4, 0xa4, 0xb7, 0xb3, 0x67, 0x1f,
  0xcb, 0x79, 0xe6, 0x4e, 0xcc, 0xc0, 0xe5, 0x78, 0x82, 0x5a, 0xd0, 0x7d, 0xcc, 0xff, 0x72, 0x21,
  0xb8, 0x08, 0x46, 0x74, 0xf7, 0x43, 0x24, 0x8e, 0xe0, 0x35, 0x90, 0xe6, 0x81, 0x3a, 0x26, 0x4c,
  0x3c, 0x28, 0x52, 0xbb, 0x91, 0xc3, 0x00, 0xcb, 0x88, 0xd0, 0x65, 0x8b, 0x1b, 0x53, 0x2e, 0xa3,
  0x71, 0x64, 0x48, 0x97, 0xa2, 0x0d, 0xf9, 0x4e, 0x38, 0x19, 0xef, 0x46, 0xa9, 0xde, 0xac, 0xd8,
  0xa8, 0xfa, 0x76, 0x3f, 0xe3, 0x9c, 0x34, 0x3f, 0xf9, 0xdc, 0xbb, 0xc7, 0xc7, 0x0b, 0x4f, 0x1d,
  0x8a, 0x51, 0xe0, 0x4b, 0xcd, 0xb4, 0x59, 0x31, 0xc8, 0x9f, 0x7e, 0xc9, 0xd9, 0x78, 0x73, 0x64,
  0xea, 0xc5, 0xac, 0x83, 0x34, 0xd3, 0xeb, 0xc3, 0xc5, 0x81, 0xa0, 0xff, 0xfa, 0x13, 0x63, 0xeb,
  0x17, 0x0d, 0xdd, 0x51, 0xb7, 0xf0, 0xda, 0x49, 0xd3, 0x16, 0x55, 0x26, 0x29, 0xd4, 0x68, 0x9e,
  0x2b, 0x16, 0xbe, 0x58, 0x7d, 0x47, 0xa1, 0xfc, 0x8f, 0xf8, 0xb8, 0xd1, 0x7a, 0xd0, 0x31, 0xce,
  0x45, 0xcb, 0x3a, 0x8f, 0x95, 0x16, 0x04, 0x28, 0xaf, 0xd7, 0xfb, 0xca, 0xbb, 0x4b, 0x40, 0x7e]

def keyTable : ByteArray := ⟨keyBytes⟩

def p32a : UInt64 := 0x9E3779B1
def p32b : UInt64 := 0x85EBCA77
def p32c : UInt64 := 0xC2B2AE3D
def p64a : UInt64 := 0x9E3779B185EBCA87
def p64b : UInt64 := 0xC2B2AE3D27D4EB4F
def p64c : UInt64 := 0x165667B19E3779F9
def p64d : UInt64 := 0x85EBCA77C2B2AE63
def p64e : UInt64 := 0x27D4EB2F165667C5
def mixA : UInt64 := 0x165667919E3779F9
def mixB : UInt64 := 0x9FB21C651E98DF25

def byteAt (b : ByteArray) (i : Nat) : UInt64 := if h : i < b.size then (b[i]).toUInt64 else 0

def word (b : ByteArray) (i : Nat) : Nat → UInt64
  | 0 => 0
  | n + 1 => byteAt b i ||| (word b (i + 1) n <<< 8)

def word32 (b : ByteArray) (i : Nat) : UInt64 := word b i 4

def word64 (b : ByteArray) (i : Nat) : UInt64 := word b i 8

def key32 (i : Nat) : UInt64 := word32 keyTable i

def key64 (i : Nat) : UInt64 := word64 keyTable i

def rotate (x : UInt64) (n : UInt64) : UInt64 := (x <<< n) ||| (x >>> (64 - n))

def shiftMix (x : UInt64) (n : UInt64) : UInt64 := x ^^^ (x >>> n)

def swap32 (x : UInt64) : UInt64 :=
  let byte (n : UInt64) : UInt64 := (x >>> n) &&& (0xff : UInt64)
  (byte 0 <<< 24) ||| (byte 8 <<< 16) ||| (byte 16 <<< 8) ||| byte 24

def lowHalf (x : UInt64) : UInt64 := x &&& (0xffffffff : UInt64)

def swap64 (x : UInt64) : UInt64 := (swap32 (lowHalf x) <<< 32) ||| swap32 (x >>> 32)

def product (a b : UInt64) : UInt64 × UInt64 :=
  let p := a.toNat * b.toNat
  (p.toUInt64, (p >>> 64).toUInt64)

def fold (a b : UInt64) : UInt64 :=
  let (low, high) := product a b
  low ^^^ high

def finish (h : UInt64) : UInt64 := shiftMix (shiftMix h 37 * mixA) 32

def finishShort (h : UInt64) : UInt64 := shiftMix (shiftMix (shiftMix h 33 * p64b) 29 * p64c) 32

def finishWord (h len : UInt64) : UInt64 :=
  let h := h ^^^ rotate h 49 ^^^ rotate h 24
  let h := h * mixB
  let h := h ^^^ ((h >>> 35) + len)
  shiftMix (h * mixB) 28

def mix16 (b : ByteArray) (i k : Nat) : UInt64 :=
  fold (word64 b i ^^^ key64 k) (word64 b (i + 8) ^^^ key64 (k + 8))

def pairSum (b : ByteArray) (i : Nat) : UInt64 := word64 b i + word64 b (i + 8)

abbrev Lanes := Array UInt64

def lane (a : Lanes) (i : Nat) : UInt64 := a.getD i 0

def lanesStart : Lanes := #[p32c, p64a, p64b, p64c, p64d, p32b, p64e, p32a]

/-- Eight words at `i` enter the lanes: each word is added to its neighbour's lane, and the product of
the halves of the keyed word to its own. -/
def accumulate (b : ByteArray) (acc : Lanes) (i k : Nat) : Lanes :=
  (Array.range 8).map fun j =>
    let own := word64 b (i + 8 * j) ^^^ key64 (k + 8 * j)
    lane acc j + word64 b (i + 8 * (j ^^^ 1)) + lowHalf own * (own >>> 32)

def scramble (acc : Lanes) : Lanes :=
  (Array.range 8).map fun j => (shiftMix (lane acc j) 47 ^^^ key64 (128 + 8 * j)) * p32a

def accumulateMany (b : ByteArray) (start count : Nat) (acc : Lanes) : Lanes :=
  (List.range count).foldl (fun a n => accumulate b a (start + 64 * n) (8 * n)) acc

/-- The lanes after an input of more than 240 bytes: blocks of sixteen stripes, then the stripes left
over, then the last 64 bytes. -/
def longLanes (b : ByteArray) : Lanes :=
  let blocks := (b.size - 1) / 1024
  let acc := (List.range blocks).foldl
    (fun a n => scramble (accumulateMany b (1024 * n) 16 a)) lanesStart
  let acc := accumulateMany b (1024 * blocks) ((b.size - 1 - 1024 * blocks) / 64) acc
  accumulate b acc (b.size - 64) 121

def mergeLanes (acc : Lanes) (k : Nat) (start : UInt64) : UInt64 :=
  finish ((List.range 4).foldl
    (fun r i => r + fold (lane acc (2 * i) ^^^ key64 (k + 16 * i)) (lane acc (2 * i + 1) ^^^ key64 (k + 16 * i + 8)))
    start)

def packed (b : ByteArray) : UInt64 :=
  (byteAt b 0 <<< 16) ||| (byteAt b (b.size / 2) <<< 24) ||| byteAt b (b.size - 1) |||
    (b.size.toUInt64 <<< 8)

def ends (size : Nat) : List (Nat × Nat × Nat) :=
  (List.range ((size - 1) / 32 + 1)).reverse.map fun i => (16 * i, size - 16 * (i + 1), 32 * i)

def digest64 (b : ByteArray) : UInt64 :=
  let n := b.size
  let len := n.toUInt64
  if n == 0 then finishShort (key64 56 ^^^ key64 64)
  else if n ≤ 3 then finishShort (packed b ^^^ (key32 0 ^^^ key32 4))
  else if n ≤ 8 then
    let input := word32 b (n - 4) + (word32 b 0 <<< 32)
    finishWord (input ^^^ (key64 8 ^^^ key64 16)) len
  else if n ≤ 16 then
    let low := word64 b 0 ^^^ (key64 24 ^^^ key64 32)
    let high := word64 b (n - 8) ^^^ (key64 40 ^^^ key64 48)
    finish (len + swap64 low + high + fold low high)
  else if n ≤ 128 then
    finish ((ends n).foldl
      (fun acc (i, j, k) => acc + mix16 b i k + mix16 b j (k + 16)) (len * p64a))
  else if n ≤ 240 then
    let acc := (List.range 8).foldl (fun acc i => acc + mix16 b (16 * i) (16 * i)) (len * p64a)
    let acc := (List.range (n / 16 - 8)).foldl
      (fun acc i => acc + mix16 b (16 * (i + 8)) (16 * i + 3)) (finish acc)
    finish (acc + mix16 b (n - 16) 119)
  else mergeLanes (longLanes b) 11 (len * p64a)

def mix32 (b : ByteArray) (acc : UInt64 × UInt64) (i j k : Nat) : UInt64 × UInt64 :=
  ((acc.1 + mix16 b i k) ^^^ pairSum b j, (acc.2 + mix16 b j (k + 16)) ^^^ pairSum b i)

def finishPair (acc : UInt64 × UInt64) (len : UInt64) : UInt64 × UInt64 :=
  (finish (acc.1 + acc.2), 0 - finish (acc.1 * p64a + acc.2 * p64d + len * p64b))

def digest128 (b : ByteArray) : UInt64 × UInt64 :=
  let n := b.size
  let len := n.toUInt64
  if n == 0 then
    (finishShort (key64 64 ^^^ key64 72), finishShort (key64 80 ^^^ key64 88))
  else if n ≤ 3 then
    let low := packed b
    let swapped := swap32 low
    let high := lowHalf ((swapped <<< 13) ||| (swapped >>> 19))
    (finishShort (low ^^^ (key32 0 ^^^ key32 4)), finishShort (high ^^^ (key32 8 ^^^ key32 12)))
  else if n ≤ 8 then
    let input := word32 b 0 + (word32 b (n - 4) <<< 32)
    let (low, high) := product (input ^^^ (key64 16 ^^^ key64 24)) (p64a + (len <<< 2))
    let high := high + (low <<< 1)
    let low := low ^^^ (high >>> 3)
    let low := shiftMix (shiftMix low 35 * mixB) 28
    (low, finish high)
  else if n ≤ 16 then
    let low := word64 b 0
    let high := word64 b (n - 8)
    let (ml, mh) := product (low ^^^ high ^^^ (key64 32 ^^^ key64 40)) p64a
    let ml := ml + ((len - 1) <<< 54)
    let high := high ^^^ (key64 48 ^^^ key64 56)
    let mh := mh + high + lowHalf high * (p32b - 1)
    let ml := ml ^^^ swap64 mh
    let (hl, hh) := product ml p64b
    (finish hl, finish (hh + mh * p64b))
  else if n ≤ 128 then
    finishPair ((ends n).foldl (fun acc (i, j, k) => mix32 b acc i j k) (len * p64a, 0)) len
  else if n ≤ 240 then
    let acc := (List.range 4).foldl
      (fun acc i => mix32 b acc (32 * i) (32 * i + 16) (32 * i)) (len * p64a, 0)
    let acc := (List.range (n / 32 - 4)).foldl
      (fun acc i => mix32 b acc (32 * (i + 4)) (32 * (i + 4) + 16) (32 * i + 3))
      (finish acc.1, finish acc.2)
    finishPair (mix32 b acc (n - 16) (n - 32) 103) len
  else
    let acc := longLanes b
    (mergeLanes acc 11 (len * p64a), mergeLanes acc 117 (0 - len * p64b - 1))

def hexDigits (width n : Nat) : String :=
  let ds := Nat.toDigits 16 n
  String.ofList (List.replicate (width - ds.length) '0' ++ ds)

def hex64 (s : String) : String := hexDigits 16 (digest64 s.toUTF8).toNat

def hex128 (s : String) : String :=
  let (low, high) := digest128 s.toUTF8
  hexDigits 16 high.toNat ++ hexDigits 16 low.toNat

def short (s : String) : String := String.ofList ((hex64 s).toList.take 8)

end TestTwins.Digest
