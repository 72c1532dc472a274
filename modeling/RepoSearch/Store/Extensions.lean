import RepoSearch.Text.IndexChars
/-! The SQLite extensions a store's searches run on, as a parameter of the store: the full-text
index (FTS5), which says whether it matches a row's content for a term read as a phrase, and the
vector index (sqlite-vec), which gives the cosine distance of two vectors.

`SqlExtensions.sqlite` is the pair as the store opens them. FTS5's `unicode61` tokenizer cuts
text into tokens by its character classes and case-folds them, and a phrase matches where its
tokens occur in a row. sqlite-vec accumulates the dot product and both squared norms in single
precision, divides in double precision by the product of the norms' square roots, and rounds
`1 − quotient` to single precision; a zero vector gives NaN. -/
namespace RepoSearch.Store

open RepoSearch.Text

/-- What a store's searches ask of the database's extensions: whether the full-text index
matches a content for a term read as a phrase, and the cosine distance of two vectors. -/
structure SqlExtensions where
  phraseMatch : (content term : String) → Bool
  cosineDistance : List Float32 → List Float32 → Float32

/-- The full-text tokens of some characters, given the token being read so far (reversed):
a token starts at a token character and runs on over token characters and accents. -/
def indexRuns : List Char → Option (List Char) → List (List Char)
  | [], none => []
  | [], some cur => [cur.reverse]
  | c :: rest, none => if isIndexTokenChar c then indexRuns rest (some [c]) else indexRuns rest none
  | c :: rest, some cur =>
    if continuesIndexToken c then indexRuns rest (some (c :: cur))
    else cur.reverse :: indexRuns rest none

def indexTokens (text : String) : List String :=
  (indexRuns text.toList none).map (fun run => String.ofList (run.map foldChar))

/-- Whether `phrase` occurs as a contiguous run of `tokens`. -/
def occursIn (phrase : List String) : List String → Bool
  | [] => phrase.isEmpty
  | t :: rest => phrase.isPrefixOf (t :: rest) || occursIn phrase rest

/-- Whether a term, as a phrase, occurs in a token sequence; a term without tokens never
occurs. -/
def phraseOccurs (tokens : List String) (term : String) : Bool :=
  match indexTokens term with
  | [] => false
  | phrase => occursIn phrase tokens

/-- The cosine distance of two vectors of equal width, as the vector index computes it. -/
def cosineDistance (a b : List Float32) : Float32 :=
  let (dot, aa, bb) := (a.zip b).foldl (fun (acc : Float32 × Float32 × Float32) (x, y) =>
    (acc.1 + x * y, acc.2.1 + x * x, acc.2.2 + y * y)) (0, 0, 0)
  (1 - dot.toFloat / (aa.toFloat.sqrt * bb.toFloat.sqrt)).toFloat32

def SqlExtensions.sqlite : SqlExtensions where
  phraseMatch content term := phraseOccurs (indexTokens content) term
  cosineDistance := Store.cosineDistance

instance : Inhabited SqlExtensions := ⟨.sqlite⟩

end RepoSearch.Store
