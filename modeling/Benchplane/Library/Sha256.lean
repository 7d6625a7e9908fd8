import Benchplane.Library.Bytes

/-!
# SHA-256

The hash function as FIPS 180-4 defines it, on byte strings.  A `Digest` carries
its length, so every function into it can stand for the hash where only the
length of the result matters.
-/

namespace Benchplane
namespace Library

/-- The 32 bytes of a SHA-256 digest. -/
structure Digest where
  bytes : Bytes
  length_eq : bytes.length = 32

/-- The lowercase hexadecimal text of a digest. -/
def Digest.hex (digest : Digest) : String := hexText digest.bytes

@[simp] theorem Digest.length_hex (digest : Digest) : (utf8 digest.hex).length = 64 := by
  simp [Digest.hex, digest.length_eq]

theorem Digest.isLowerHex_of_mem_hex {digest : Digest} {b : UInt8}
    (h : b ∈ utf8 digest.hex) : isLowerHex b = true :=
  isLowerHex_of_mem_hexText h

theorem Digest.hex_injective {a b : Digest} (h : a.hex = b.hex) : a = b := by
  cases a
  cases b
  simpa using hexText_injective h

namespace Sha256

/-- The eight working variables. -/
structure Words where
  a : UInt32
  b : UInt32
  c : UInt32
  d : UInt32
  e : UInt32
  f : UInt32
  g : UInt32
  h : UInt32

/-- The initial hash value. -/
def initial : Words :=
  ⟨0x6a09e667, 0xbb67ae85, 0x3c6ef372, 0xa54ff53a, 0x510e527f, 0x9b05688c, 0x1f83d9ab, 0x5be0cd19⟩

/-- The round constants. -/
def constants : List UInt32 :=
  [0x428a2f98, 0x71374491, 0xb5c0fbcf, 0xe9b5dba5, 0x3956c25b, 0x59f111f1, 0x923f82a4, 0xab1c5ed5,
   0xd807aa98, 0x12835b01, 0x243185be, 0x550c7dc3, 0x72be5d74, 0x80deb1fe, 0x9bdc06a7, 0xc19bf174,
   0xe49b69c1, 0xefbe4786, 0x0fc19dc6, 0x240ca1cc, 0x2de92c6f, 0x4a7484aa, 0x5cb0a9dc, 0x76f988da,
   0x983e5152, 0xa831c66d, 0xb00327c8, 0xbf597fc7, 0xc6e00bf3, 0xd5a79147, 0x06ca6351, 0x14292967,
   0x27b70a85, 0x2e1b2138, 0x4d2c6dfc, 0x53380d13, 0x650a7354, 0x766a0abb, 0x81c2c92e, 0x92722c85,
   0xa2bfe8a1, 0xa81a664b, 0xc24b8b70, 0xc76c51a3, 0xd192e819, 0xd6990624, 0xf40e3585, 0x106aa070,
   0x19a4c116, 0x1e376c08, 0x2748774c, 0x34b0bcb5, 0x391c0cb3, 0x4ed8aa4a, 0x5b9cca4f, 0x682e6ff3,
   0x748f82ee, 0x78a5636f, 0x84c87814, 0x8cc70208, 0x90befffa, 0xa4506ceb, 0xbef9a3f7, 0xc67178f2]

/-- Rotation to the right. -/
def rotateRight (x n : UInt32) : UInt32 := (x >>> n) ||| (x <<< (32 - n))

/-- The message followed by a one bit, zeros and its length in bits. -/
def pad (message : Bytes) : Bytes :=
  let zeros := (55 + 64 - message.length % 64) % 64
  let bits := message.length * 8
  let count : Bytes := (List.range 8).map fun i => UInt8.ofNat (bits >>> (8 * (7 - i)))
  message ++ [0x80] ++ List.replicate zeros 0 ++ count

/-- Read big-endian words. -/
def words : Bytes → List UInt32
  | w :: x :: y :: z :: rest =>
      ((w.toUInt32 <<< 24) ||| (x.toUInt32 <<< 16) ||| (y.toUInt32 <<< 8) ||| z.toUInt32) ::
        words rest
  | _ => []

/-- Extend the schedule, which is kept with its newest word first. -/
def extend : Nat → List UInt32 → List UInt32
  | 0, schedule => schedule
  | n + 1, schedule =>
      let w2 := schedule.getD 1 0
      let w7 := schedule.getD 6 0
      let w15 := schedule.getD 14 0
      let w16 := schedule.getD 15 0
      let s0 := rotateRight w15 7 ^^^ rotateRight w15 18 ^^^ (w15 >>> 3)
      let s1 := rotateRight w2 17 ^^^ rotateRight w2 19 ^^^ (w2 >>> 10)
      extend n ((w16 + s0 + w7 + s1) :: schedule)

/-- One round. -/
def round (v : Words) (kw : UInt32 × UInt32) : Words :=
  let s1 := rotateRight v.e 6 ^^^ rotateRight v.e 11 ^^^ rotateRight v.e 25
  let choice := (v.e &&& v.f) ^^^ ((~~~ v.e) &&& v.g)
  let t1 := v.h + s1 + choice + kw.1 + kw.2
  let s0 := rotateRight v.a 2 ^^^ rotateRight v.a 13 ^^^ rotateRight v.a 22
  let majority := (v.a &&& v.b) ^^^ (v.a &&& v.c) ^^^ (v.b &&& v.c)
  ⟨t1 + (s0 + majority), v.a, v.b, v.c, v.d + t1, v.e, v.f, v.g⟩

/-- Absorb one block of 64 bytes. -/
def compress (v : Words) (block : Bytes) : Words :=
  let schedule := (extend 48 (words block).reverse).reverse
  let r := (constants.zip schedule).foldl round v
  ⟨v.a + r.a, v.b + r.b, v.c + r.c, v.d + r.d, v.e + r.e, v.f + r.f, v.g + r.g, v.h + r.h⟩

/-- Absorb the blocks of a padded message. -/
def absorb : Nat → Words → Bytes → Words
  | 0, v, _ => v
  | n + 1, v, message => absorb n (compress v (message.take 64)) (message.drop 64)

/-- The four bytes of a word, the most significant first. -/
def wordBytes (w : UInt32) : Bytes :=
  [(w >>> 24).toUInt8, (w >>> 16).toUInt8, (w >>> 8).toUInt8, w.toUInt8]

end Sha256

/-- The SHA-256 digest of a byte string. -/
def sha256 (message : Bytes) : Digest :=
  let padded := Sha256.pad message
  let v := Sha256.absorb (padded.length / 64) Sha256.initial padded
  ⟨[v.a, v.b, v.c, v.d, v.e, v.f, v.g, v.h].flatMap Sha256.wordBytes,
    by simp [Sha256.wordBytes]⟩

example : (sha256 []).bytes.take 8 = [0xe3, 0xb0, 0xc4, 0x42, 0x98, 0xfc, 0x1c, 0x14] := by
  decide +kernel

end Library
end Benchplane
