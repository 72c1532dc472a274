import RepoSearch.Number.Binary
/-! Embedding vectors: lists of singles. A vector is usable when it is non-empty, finite
throughout and not all zero. Vectors are stored as the little-endian bytes of their
entries; reading bytes back drops a trailing partial entry. Storing works on each entry's bit
pattern, as the single's own byte conversions do, so every pattern is kept, a NaN's payload
included. Cosine similarity is computed in double precision and returned as a single. -/
namespace RepoSearch.Embedding

abbrev Vector := List Float32

def isUsable (v : Vector) : Bool :=
  !v.isEmpty && v.all (fun x => x.isFinite) && v.any (fun x => x != 0)

/-- The four bytes of a word, least significant first. -/
def leBytes (w : UInt32) : List UInt8 :=
  [w.toUInt8, (w >>> 8).toUInt8, (w >>> 16).toUInt8, (w >>> 24).toUInt8]

/-- The word whose bytes, least significant first, are the four given. -/
def leWord (b0 b1 b2 b3 : UInt8) : UInt32 :=
  b0.toUInt32 ||| (b1.toUInt32 <<< 8) ||| (b2.toUInt32 <<< 16) ||| (b3.toUInt32 <<< 24)

/-- The little-endian bytes of a vector's entries, each given by its bit pattern. -/
def toBytes (v : List UInt32) : List UInt8 :=
  v.flatMap leBytes

/-- The bit patterns of the entries stored in bytes, four bytes each, a trailing partial entry
dropped. -/
def ofBytes : List UInt8 → List UInt32
  | b0 :: b1 :: b2 :: b3 :: rest => leWord b0 b1 b2 b3 :: ofBytes rest
  | _ => []

/-- Cosine similarity, accumulated in double precision and clamped to `[-1, 1]`; zero when
the lengths differ, a vector is empty, a norm is zero or the result is not finite. -/
def cosineSimilarity (a b : Vector) : Float32 :=
  if a.length != b.length || a.isEmpty then 0
  else
    let (dot, na, nb) := (a.zip b).foldl
      (fun (acc : Float × Float × Float) (x, y) =>
        let x := x.toFloat
        let y := y.toFloat
        (acc.1 + x * y, acc.2.1 + x * x, acc.2.2 + y * y)) (0, 0, 0)
    if na == 0 || nb == 0 then 0
    else
      let cos := dot / (na.sqrt * nb.sqrt)
      if cos.isFinite then (max (-1) (min cos 1)).toFloat32 else 0

end RepoSearch.Embedding
