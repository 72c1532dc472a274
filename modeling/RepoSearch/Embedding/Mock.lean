import RepoSearch.Embedding.SipHash
import RepoSearch.Embedding.Vector
import RepoSearch.Lexicon.Terms
/-! A feature-hashing embedder: every token of a text adds one to, or takes one from, the
bucket its hash picks (the high bit of the hash picks the sign), and the result is scaled
to unit length. Texts sharing vocabulary get a positive cosine similarity. All arithmetic
is in single precision, in token order. -/
namespace RepoSearch.Embedding

open RepoSearch.Lexicon

def bump (v : Array Float32) (i : Nat) (delta : Float32) : Array Float32 :=
  v.modify i (· + delta)

/-- The sum of squares, added in order from negative zero. -/
def squaredNorm (v : List Float32) : Float32 :=
  v.foldl (fun acc x => acc + x * x) (-0.0)

/-- The hashed bag-of-words vector of a text with `dims` entries. -/
def mockEmbed (dims : Nat) (text : String) : Vector :=
  if dims = 0 then []
  else
    let raw := (tokenize text).foldl (fun v t =>
      let h := textHash t
      let bucket := (h % dims.toUInt64).toNat
      bump v bucket (if h >>> 63 == 0 then 1 else -1)) (Array.replicate dims (0 : Float32))
    let n := squaredNorm raw.toList
    if n > 0 then
      let inv := 1 / n.sqrt
      raw.toList.map (· * inv)
    else raw.toList

end RepoSearch.Embedding
