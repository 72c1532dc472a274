import RepoSearch.Chunk.Basic
/-! What the store's searches return: lexical hits with their BM25 score and the terms
that matched, vector hits with their similarity, and stored symbols with the row id of
their chunk. -/
namespace RepoSearch.Store

/-- A row found by its terms. -/
structure LexicalHit where
  rowid : Int
  score : Float
  matchedTerms : List String

/-- A row found by its vector. -/
structure VectorHit where
  rowid : Int
  similarity : Float32

/-- A stored symbol and the row id of its chunk. -/
structure SymbolRow where
  chunkRowid : Int
  symbol : Symbol

end RepoSearch.Store
