/-!
# The 64-bit XXH3 hash

The hash with seed zero and the default secret.  Short inputs are mixed at once, inputs of more than
240 bytes in stripes of 64 bytes.
-/

namespace Sections.Xxh3

def secret : ByteArray := ⟨#[
  0xb8, 0xfe, 0x6c, 0x39, 0x23, 0xa4, 0x4b, 0xbe, 0x7c, 0x01, 0x81, 0x2c, 0xf7, 0x21, 0xad, 0x1c,
  0xde, 0xd4, 0x6d, 0xe9, 0x83, 0x90, 0x97, 0xdb, 0x72, 0x40, 0xa4, 0xa4, 0xb7, 0xb3, 0x67, 0x1f,
  0xcb, 0x79, 0xe6, 0x4e, 0xcc, 0xc0, 0xe5, 0x78, 0x82, 0x5a, 0xd0, 0x7d, 0xcc, 0xff, 0x72, 0x21,
  0xb8, 0x08, 0x46, 0x74, 0xf7, 0x43, 0x24, 0x8e, 0xe0, 0x35, 0x90, 0xe6, 0x81, 0x3a, 0x26, 0x4c,
  0x3c, 0x28, 0x52, 0xbb, 0x91, 0xc3, 0x00, 0xcb, 0x88, 0xd0, 0x65, 0x8b, 0x1b, 0x53, 0x2e, 0xa3,
  0x71, 0x64, 0x48, 0x97, 0xa2, 0x0d, 0xf9, 0x4e, 0x38, 0x19, 0xef, 0x46, 0xa9, 0xde, 0xac, 0xd8,
  0xa8, 0xfa, 0x76, 0x3f, 0xe3, 0x9c, 0x34, 0x3f, 0xf9, 0xdc, 0xbb, 0xc7, 0xc7, 0x0b, 0x4f, 0x1d,
  0x8a, 0x51, 0xe0, 0x4b, 0xcd, 0xb4, 0x59, 0x31, 0xc8, 0x9f, 0x7e, 0xc9, 0xd9, 0x78, 0x73, 0x64,
  0xea, 0xc5, 0xac, 0x83, 0x34, 0xd3, 0xeb, 0xc3, 0xc5, 0x81, 0xa0, 0xff, 0xfa, 0x13, 0x63, 0xeb,
  0x17, 0x0d, 0xdd, 0x51, 0xb7, 0xf0, 0xda, 0x49, 0xd3, 0x16, 0x55, 0x26, 0x29, 0xd4, 0x68, 0x9e,
  0x2b, 0x16, 0xbe, 0x58, 0x7d, 0x47, 0xa1, 0xfc, 0x8f, 0xf8, 0xb8, 0xd1, 0x7a, 0xd0, 0x31, 0xce,
  0x45, 0xcb, 0x3a, 0x8f, 0x95, 0x16, 0x04, 0x28, 0xaf, 0xd7, 0xfb, 0xca, 0xbb, 0x4b, 0x40, 0x7e]⟩

def prime32a : UInt64 := 0x9e3779b1
def prime32b : UInt64 := 0x85ebca77
def prime32c : UInt64 := 0xc2b2ae3d
def prime64a : UInt64 := 0x9e3779b185ebca87
def prime64b : UInt64 := 0xc2b2ae3d27d4eb4f
def prime64c : UInt64 := 0x165667b19e3779f9
def prime64d : UInt64 := 0x85ebca77c2b2ae63
def prime64e : UInt64 := 0x27d4eb2f165667c5
def mixPrimeA : UInt64 := 0x165667919e3779f9
def mixPrimeB : UInt64 := 0x9fb21c651e98df25

def byte (bytes : ByteArray) (offset : Nat) : UInt64 := (bytes.data.getD offset 0).toUInt64

def word (count : Nat) (bytes : ByteArray) (offset : Nat) : UInt64 :=
  (List.range count).foldr (fun index value => value <<< 8 ||| byte bytes (offset + index)) 0

def word32 (bytes : ByteArray) (offset : Nat) : UInt64 := word 4 bytes offset

def word64 (bytes : ByteArray) (offset : Nat) : UInt64 := word 8 bytes offset

def rotate (value count : UInt64) : UInt64 := value <<< count ||| value >>> (64 - count)

def swapBytes (value : UInt64) : UInt64 :=
  (List.range 8).foldl
    (fun swapped index => swapped <<< 8 ||| (value >>> (8 * UInt64.ofNat index) &&& 0xff)) 0

def foldedProduct (a b : UInt64) : UInt64 :=
  let product := a.toNat * b.toNat
  UInt64.ofNat product ^^^ UInt64.ofNat (product >>> 64)

def avalanche (value : UInt64) : UInt64 :=
  let value := (value ^^^ value >>> 37) * mixPrimeA
  value ^^^ value >>> 32

def shortAvalanche (value : UInt64) : UInt64 :=
  let value := (value ^^^ value >>> 33) * prime64b
  let value := (value ^^^ value >>> 29) * prime64c
  value ^^^ value >>> 32

def mix (input : ByteArray) (offset key : Nat) : UInt64 :=
  foldedProduct (word64 input offset ^^^ word64 secret key)
    (word64 input (offset + 8) ^^^ word64 secret (key + 8))

def hashTiny (input : ByteArray) : UInt64 :=
  let size := input.size
  if size = 0 then shortAvalanche (word64 secret 56 ^^^ word64 secret 64)
  else if size ≤ 3 then
    let combined := byte input 0 <<< 16 ||| byte input (size / 2) <<< 24 ||| byte input (size - 1)
      ||| UInt64.ofNat size <<< 8
    shortAvalanche (combined ^^^ (word32 secret 0 ^^^ word32 secret 4))
  else if size ≤ 8 then
    let keyed := (word32 input (size - 4) + word32 input 0 <<< 32)
      ^^^ (word64 secret 8 ^^^ word64 secret 16)
    let mixed := (keyed ^^^ rotate keyed 49 ^^^ rotate keyed 24) * mixPrimeB
    let mixed := (mixed ^^^ (mixed >>> 35 + UInt64.ofNat size)) * mixPrimeB
    mixed ^^^ mixed >>> 28
  else
    let low := word64 input 0 ^^^ (word64 secret 24 ^^^ word64 secret 32)
    let high := word64 input (size - 8) ^^^ (word64 secret 40 ^^^ word64 secret 48)
    avalanche (UInt64.ofNat size + swapBytes low + high + foldedProduct low high)

def hashSmall (input : ByteArray) : UInt64 :=
  let size := input.size
  avalanche ((List.range ((size - 1) / 32 + 1)).foldl
    (fun sum pair => sum + mix input (16 * pair) (32 * pair)
      + mix input (size - 16 * (pair + 1)) (32 * pair + 16))
    (UInt64.ofNat size * prime64a))

def hashMiddle (input : ByteArray) : UInt64 :=
  let size := input.size
  let first := (List.range 8).foldl (fun sum round => sum + mix input (16 * round) (16 * round))
    (UInt64.ofNat size * prime64a)
  let rest := (List.range (size / 16 - 8)).foldl
    (fun sum round => sum + mix input (16 * (round + 8)) (16 * round + 3)) (avalanche first)
  avalanche (rest + mix input (size - 16) 119)

def accumulate (input : ByteArray) (offset key : Nat) (sums : Array UInt64) : Array UInt64 :=
  (List.range 8).foldl
    (fun sums lane =>
      let value := word64 input (offset + 8 * lane)
      let keyed := value ^^^ word64 secret (key + 8 * lane)
      let sums := sums.modify (lane ^^^ 1) (· + value)
      sums.modify lane fun (sum : UInt64) =>
        sum + (keyed &&& (0xffffffff : UInt64)) * (keyed >>> 32))
    sums

def scramble (sums : Array UInt64) : Array UInt64 :=
  (List.range 8).foldl
    (fun sums lane =>
      sums.modify lane fun sum =>
        (sum ^^^ sum >>> 47 ^^^ word64 secret (128 + 8 * lane)) * prime32a)
    sums

def hashLarge (input : ByteArray) : UInt64 :=
  let size := input.size
  let stripes (block count : Nat) (sums : Array UInt64) : Array UInt64 :=
    (List.range count).foldl
      (fun sums stripe => accumulate input (1024 * block + 64 * stripe) (8 * stripe) sums) sums
  let start : Array UInt64 :=
    #[prime32c, prime64a, prime64b, prime64c, prime64d, prime32b, prime64e, prime32a]
  let blocks := (size - 1) / 1024
  let sums := (List.range blocks).foldl (fun sums block => scramble (stripes block 16 sums)) start
  let sums := stripes blocks ((size - 1 - 1024 * blocks) / 64) sums
  let sums := accumulate input (size - 64) 121 sums
  avalanche ((List.range 4).foldl
    (fun total pair =>
      total + foldedProduct (sums.getD (2 * pair) 0 ^^^ word64 secret (11 + 16 * pair))
      (sums.getD (2 * pair + 1) 0 ^^^ word64 secret (19 + 16 * pair)))
    (UInt64.ofNat size * prime64a))

def hash (input : ByteArray) : UInt64 :=
  if input.size ≤ 16 then hashTiny input
  else if input.size ≤ 128 then hashSmall input
  else if input.size ≤ 240 then hashMiddle input
  else hashLarge input

end Sections.Xxh3

namespace Sections

/-- A hash of texts.  What depends on one takes it as an argument. -/
abbrev TextHash := String → UInt64

def xxh3 : TextHash := fun text => Xxh3.hash text.toUTF8

end Sections
