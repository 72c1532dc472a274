/-! SipHash-1-3: one compression round per 8-byte block and three finalization rounds,
over 64-bit words with wrapping arithmetic. With both keys zero it is the standard hash
of text used for bucketing: the text's UTF-8 bytes followed by one `0xFF` byte. -/
namespace RepoSearch.Embedding

/-- The four words of SipHash state. -/
structure SipState where
  v0 : UInt64
  v1 : UInt64
  v2 : UInt64
  v3 : UInt64

def rotl (x : UInt64) (n : UInt64) : UInt64 := (x <<< n) ||| (x >>> (64 - n))

def SipState.round (s : SipState) : SipState :=
  let v0 := s.v0 + s.v1
  let v1 := rotl s.v1 13 ^^^ v0
  let v0 := rotl v0 32
  let v2 := s.v2 + s.v3
  let v3 := rotl s.v3 16 ^^^ v2
  let v0 := v0 + v3
  let v3 := rotl v3 21 ^^^ v0
  let v2 := v2 + v1
  let v1 := rotl v1 17 ^^^ v2
  let v2 := rotl v2 32
  ⟨v0, v1, v2, v3⟩

/-- Absorb one message word with `c` compression rounds. -/
def SipState.absorb (c : Nat) (s : SipState) (m : UInt64) : SipState :=
  let s := { s with v3 := s.v3 ^^^ m }
  let s := (List.range c).foldl (fun s _ => s.round) s
  { s with v0 := s.v0 ^^^ m }

def wordOf (bytes : List UInt8) : UInt64 :=
  bytes.zipIdx.foldl (fun acc (b, i) => acc ||| (b.toUInt64 <<< (8 * i.toUInt64))) 0

/-- The bytes in blocks of eight; the last block may be shorter or empty. -/
def blocks (bytes : List UInt8) : Nat → List (List UInt8)
  | 0 => [bytes]
  | fuel + 1 => if bytes.length < 8 then [bytes] else bytes.take 8 :: blocks (bytes.drop 8) fuel

/-- SipHash with `c` compression and `d` finalization rounds. -/
def sipHash (c d : Nat) (k0 k1 : UInt64) (bytes : List UInt8) : UInt64 :=
  let s : SipState :=
    ⟨k0 ^^^ 0x736f6d6570736575, k1 ^^^ 0x646f72616e646f6d,
     k0 ^^^ 0x6c7967656e657261, k1 ^^^ 0x7465646279746573⟩
  let bs := blocks bytes (bytes.length / 8 + 1)
  let full := bs.dropLast
  let tail := bs.getLast?.getD []
  let s := full.foldl (fun s b => s.absorb c (wordOf b)) s
  let last := wordOf tail ||| ((bytes.length % 256).toUInt64 <<< 56)
  let s := s.absorb c last
  let s := { s with v2 := s.v2 ^^^ 0xff }
  let s := (List.range d).foldl (fun s _ => s.round) s
  s.v0 ^^^ s.v1 ^^^ s.v2 ^^^ s.v3

/-- The hash of a text: SipHash-1-3 with zero keys over its UTF-8 bytes and a final `0xFF`. -/
def textHash (s : String) : UInt64 :=
  sipHash 1 3 0 0 (s.toUTF8.toList ++ [0xff])

end RepoSearch.Embedding
