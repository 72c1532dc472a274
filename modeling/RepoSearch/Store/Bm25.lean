/-! Okapi BM25 for one term of one document, with `k1 = 1.2`, `b = 0.75` and the
non-negative inverse document frequency `ln(1 + (N − df + 0.5)/(df + 0.5))`. -/
namespace RepoSearch.Store

def bm25K1 : Float := 1.2

def bm25B : Float := 0.75

/-- The BM25 contribution of a term occurring `tf` times in a document of length `docLen`,
where `df` of `nDocs` documents hold it and documents average `avgLen`; zero when `tf` or
`df` is not positive, and no length normalization when `avgLen` is not positive. -/
def bm25Term (tf df nDocs docLen avgLen : Float) : Float :=
  if tf ≤ 0 || df ≤ 0 then 0
  else
    let idf := (1 + (nDocs - df + 0.5) / (df + 0.5)).log
    let norm := if avgLen > 0 then 1 - bm25B + bm25B * docLen / avgLen else 1
    idf * (tf * (bm25K1 + 1)) / (tf + bm25K1 * norm)

/-- The full-text expression that matches any of the terms, each quoted as a phrase with
its quotes doubled. -/
def matchExpression (terms : List String) : String :=
  " OR ".intercalate (terms.map fun t => "\"" ++ String.join (t.toList.map fun c =>
    if c == '"' then "\"\"" else String.singleton c) ++ "\"")

end RepoSearch.Store
