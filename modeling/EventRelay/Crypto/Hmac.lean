/-!
# Keyed hash

SHA-256 pads the message to whole blocks of 64 octets and mixes each block into
eight words of 32 bits. HMAC is built over it: a key longer than a block is
hashed first.
-/

set_option autoImplicit false

namespace EventRelay.Sha256

/-! ## SHA-256 -/

structure Digest where
  a : UInt32
  b : UInt32
  c : UInt32
  d : UInt32
  e : UInt32
  f : UInt32
  g : UInt32
  h : UInt32
  deriving DecidableEq

def initial : Digest :=
  ⟨0x6a09e667, 0xbb67ae85, 0x3c6ef372, 0xa54ff53a, 0x510e527f, 0x9b05688c, 0x1f83d9ab, 0x5be0cd19⟩

def roundConstants : List UInt32 :=
  [0x428a2f98, 0x71374491, 0xb5c0fbcf, 0xe9b5dba5, 0x3956c25b, 0x59f111f1, 0x923f82a4, 0xab1c5ed5,
   0xd807aa98, 0x12835b01, 0x243185be, 0x550c7dc3, 0x72be5d74, 0x80deb1fe, 0x9bdc06a7, 0xc19bf174,
   0xe49b69c1, 0xefbe4786, 0x0fc19dc6, 0x240ca1cc, 0x2de92c6f, 0x4a7484aa, 0x5cb0a9dc, 0x76f988da,
   0x983e5152, 0xa831c66d, 0xb00327c8, 0xbf597fc7, 0xc6e00bf3, 0xd5a79147, 0x06ca6351, 0x14292967,
   0x27b70a85, 0x2e1b2138, 0x4d2c6dfc, 0x53380d13, 0x650a7354, 0x766a0abb, 0x81c2c92e, 0x92722c85,
   0xa2bfe8a1, 0xa81a664b, 0xc24b8b70, 0xc76c51a3, 0xd192e819, 0xd6990624, 0xf40e3585, 0x106aa070,
   0x19a4c116, 0x1e376c08, 0x2748774c, 0x34b0bcb5, 0x391c0cb3, 0x4ed8aa4a, 0x5b9cca4f, 0x682e6ff3,
   0x748f82ee, 0x78a5636f, 0x84c87814, 0x8cc70208, 0x90befffa, 0xa4506ceb, 0xbef9a3f7, 0xc67178f2]

def rotate (x : UInt32) (n : UInt32) : UInt32 := (x >>> n) ||| (x <<< (32 - n))

def word (a b c d : UInt8) : UInt32 :=
  (a.toUInt32 <<< 24) ||| (b.toUInt32 <<< 16) ||| (c.toUInt32 <<< 8) ||| d.toUInt32

def words : List UInt8 → List UInt32
  | a :: b :: c :: d :: rest => word a b c d :: words rest
  | _ => []

def nextWord (ws : Array UInt32) : UInt32 :=
  let n := ws.size
  let at' (back : Nat) : UInt32 := ws.getD (n - back) 0
  let x := at' 15
  let y := at' 2
  let s0 := rotate x 7 ^^^ rotate x 18 ^^^ (x >>> 3)
  let s1 := rotate y 17 ^^^ rotate y 19 ^^^ (y >>> 10)
  at' 16 + s0 + at' 7 + s1

def schedule : Nat → Array UInt32 → Array UInt32
  | 0, ws => ws
  | n + 1, ws => schedule n (ws.push (nextWord ws))

def mixRound (s : Digest) (kw : UInt32 × UInt32) : Digest :=
  let s1 := rotate s.e 6 ^^^ rotate s.e 11 ^^^ rotate s.e 25
  let choice := (s.e &&& s.f) ^^^ ((~~~ s.e) &&& s.g)
  let t1 := s.h + s1 + choice + kw.1 + kw.2
  let s0 := rotate s.a 2 ^^^ rotate s.a 13 ^^^ rotate s.a 22
  let majority := (s.a &&& s.b) ^^^ (s.a &&& s.c) ^^^ (s.b &&& s.c)
  ⟨t1 + (s0 + majority), s.a, s.b, s.c, s.d + t1, s.e, s.f, s.g⟩

def mixBlock (s : Digest) (block : List UInt8) : Digest :=
  let ws := (schedule 48 (words block).toArray).toList
  let t := (roundConstants.zip ws).foldl mixRound s
  ⟨s.a + t.a, s.b + t.b, s.c + t.c, s.d + t.d, s.e + t.e, s.f + t.f, s.g + t.g, s.h + t.h⟩

def mixBlocks : Nat → Digest → List UInt8 → Digest
  | 0, s, _ => s
  | n + 1, s, bytes => mixBlocks n (mixBlock s (bytes.take 64)) (bytes.drop 64)

def lengthOctets (n : Nat) : List UInt8 :=
  [56, 48, 40, 32, 24, 16, 8, 0].map fun (shift : Nat) => UInt8.ofNat (n / Nat.pow 2 shift % 256)

def padded (bytes : List UInt8) : List UInt8 :=
  let zeros := (119 - bytes.length % 64) % 64
  bytes ++ 0x80 :: List.replicate zeros 0 ++ lengthOctets (8 * bytes.length)

def wordOctets (w : UInt32) : List UInt8 :=
  [(w >>> 24).toUInt8, (w >>> 16).toUInt8, (w >>> 8).toUInt8, w.toUInt8]

def Digest.octets (s : Digest) : List UInt8 :=
  [s.a, s.b, s.c, s.d, s.e, s.f, s.g, s.h].flatMap wordOctets

/-- The 32 octets of the hash. -/
def hash (bytes : List UInt8) : List UInt8 :=
  let message := padded bytes
  (mixBlocks (message.length / 64) initial message).octets

end EventRelay.Sha256

namespace EventRelay.Hmac

/-! ## HMAC -/

def blockSize : Nat := 64

def keyBlock (key : List UInt8) : List UInt8 :=
  let short := if blockSize < key.length then Sha256.hash key else key
  short ++ List.replicate (blockSize - short.length) 0

/-- The 32 octets that authenticate a message under a key. -/
def mac (key message : List UInt8) : List UInt8 :=
  let block := keyBlock key
  let inner := Sha256.hash (block.map (· ^^^ 0x36) ++ message)
  Sha256.hash (block.map (· ^^^ 0x5c) ++ inner)

end EventRelay.Hmac
