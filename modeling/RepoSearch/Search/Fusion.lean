import RepoSearch.Number.Order
/-! Fusing three relevance signals into one score: the lexical score normalized by an
assumed ceiling and clamped into `[0, 1]`, the vector similarity and the structural score
(each at least zero), combined by weights. -/
namespace RepoSearch.Search

open RepoSearch.Number

/-- Weights of the three signals. -/
structure FusionWeights where
  lexical : Float := 0.3
  vector : Float := 0.4
  structural : Float := 0.3
  deriving Inhabited

/-- A raw score divided by its ceiling and clamped into `[0, 1]`; zero when the ceiling is
not positive or the score is not finite. -/
def normalize (score ceiling : Float) : Float :=
  if ceiling ≤ 0 || !score.isFinite then 0 else clampTo 0 1 (score / ceiling)

/-- `w_lex · normalize(lexical) + w_vec · max(vector, 0) + w_struct · max(structural, 0)`. -/
def fuse (w : FusionWeights) (ceiling lexical vector structural : Float) : Float :=
  w.lexical * normalize lexical ceiling + w.vector * maxNum vector 0 +
    w.structural * maxNum structural 0

end RepoSearch.Search
