import RepoSearch.Chunk.Json
/-! A ranked search result: the chunk with the evidence behind its score, and the grouping
of results by file in order of first appearance. -/
namespace RepoSearch.Search

/-- One ranked chunk. -/
structure SearchResult where
  chunk : Chunk
  /-- Raw BM25 score. -/
  lexicalScore : Float
  vectorScore : Float
  structuralScore : Float
  /-- Sum of the boost contributions. -/
  boostScore : Float
  /-- Fused score plus boosts. -/
  score : Float
  matchedTerms : List String
  reason : String

/-- The JSON form of a result: the chunk's members, then the evidence. -/
def SearchResult.toJson (r : SearchResult) : Json :=
  .obj (r.chunk.jsonMembers ++
    [("lexical_score", .double r.lexicalScore), ("vector_score", .double r.vectorScore),
     ("structural_score", .double r.structuralScore), ("boost_score", .double r.boostScore),
     ("score", .double r.score), ("matched_terms", Json.strs r.matchedTerms),
     ("reason", .str r.reason)])

/-- Results grouped by file path, files in order of first appearance, results in rank order. -/
def groupByFile (results : List SearchResult) : List (String × List SearchResult) :=
  let files := results.foldl (fun acc r =>
    if acc.contains r.chunk.filePath then acc else acc ++ [r.chunk.filePath]) []
  files.map fun f => (f, results.filter (fun r => r.chunk.filePath == f))

end RepoSearch.Search
