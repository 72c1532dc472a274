/-! SHA-1 (FIPS 180-4) over byte lists. Git names every object by the SHA-1 digest of its
text, so object names can be computed rather than looked up.

The message is padded with a `0x80` byte, zeros up to 56 bytes mod 64, and its bit length as
a big-endian 64-bit number; each 64-byte block then runs 80 rounds on five 32-bit words. -/
namespace RepoSearch.Git

/-- The five chaining words of the digest. -/
structure Sha1State where
  a : UInt32
  b : UInt32
  c : UInt32
  d : UInt32
  e : UInt32

def Sha1State.initial : Sha1State :=
  ⟨0x67452301, 0xEFCDAB89, 0x98BADCFE, 0x10325476, 0xC3D2E1F0⟩

def rotateLeft (x : UInt32) (n : UInt32) : UInt32 := (x <<< n) ||| (x >>> (32 - n))

/-- The big-endian word of four bytes starting at `i`. -/
def wordAt (bytes : Array UInt8) (i : Nat) : UInt32 :=
  ((bytes.getD i 0).toUInt32 <<< 24) ||| ((bytes.getD (i + 1) 0).toUInt32 <<< 16) |||
    ((bytes.getD (i + 2) 0).toUInt32 <<< 8) ||| (bytes.getD (i + 3) 0).toUInt32

/-- The 80 schedule words of the block starting at `base`. -/
def schedule (bytes : Array UInt8) (base : Nat) : Array UInt32 :=
  let first := ((List.range 16).map (fun k => wordAt bytes (base + 4 * k))).toArray
  (List.range 64).foldl (fun w k =>
    let t := k + 16
    w.push (rotateLeft (w.getD (t - 3) 0 ^^^ w.getD (t - 8) 0 ^^^ w.getD (t - 14) 0 ^^^
      w.getD (t - 16) 0) 1)) first

def roundMix (t : Nat) (b c d : UInt32) : UInt32 × UInt32 :=
  if t < 20 then ((b &&& c) ||| ((~~~b) &&& d), 0x5A827999)
  else if t < 40 then (b ^^^ c ^^^ d, 0x6ED9EBA1)
  else if t < 60 then ((b &&& c) ||| (b &&& d) ||| (c &&& d), 0x8F1BBCDC)
  else (b ^^^ c ^^^ d, 0xCA62C1D6)

def round (w : Array UInt32) (s : Sha1State) (t : Nat) : Sha1State :=
  let (f, k) := roundMix t s.b s.c s.d
  let temp := rotateLeft s.a 5 + f + s.e + k + w.getD t 0
  ⟨temp, s.a, rotateLeft s.b 30, s.c, s.d⟩

/-- Fold the block starting at `base` into the chaining words. -/
def compress (bytes : Array UInt8) (s : Sha1State) (base : Nat) : Sha1State :=
  let w := schedule bytes base
  let r := (List.range 80).foldl (round w) s
  ⟨s.a + r.a, s.b + r.b, s.c + r.c, s.d + r.d, s.e + r.e⟩

/-- The eight big-endian bytes of a number below `2^64`. -/
def bigEndian64 (n : Nat) : List UInt8 :=
  (List.range 8).reverse.map (fun k => UInt8.ofNat (n / Nat.pow 2 (8 * k)))

/-- The message with its padding; a whole number of 64-byte blocks. -/
def padMessage (message : List UInt8) : Array UInt8 :=
  let zeros := (119 - message.length % 64) % 64
  (message ++ [0x80] ++ List.replicate zeros 0 ++ bigEndian64 (8 * message.length)).toArray

def wordBytes (x : UInt32) : List UInt8 :=
  [(x >>> 24).toUInt8, (x >>> 16).toUInt8, (x >>> 8).toUInt8, x.toUInt8]

def sha1 (message : List UInt8) : List UInt8 :=
  let padded := padMessage message
  let s := (List.range (padded.size / 64)).foldl (fun s k => compress padded s (64 * k))
    Sha1State.initial
  [s.a, s.b, s.c, s.d, s.e].flatMap wordBytes

/-- The lowercase hexadecimal digit of a number below 16. -/
def hexDigit (n : Nat) : Char :=
  if n < 10 then Char.ofNat (48 + n) else Char.ofNat (87 + n)

def hexText (bytes : List UInt8) : String :=
  String.ofList (bytes.flatMap (fun b => [hexDigit (b.toNat / 16), hexDigit (b.toNat % 16)]))

end RepoSearch.Git
