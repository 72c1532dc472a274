import RepoSearch.Store.Basic
import RepoSearch.Number.Order
import RepoSearch.Text.Lowercase
/-! Vector and symbol lookups over a snapshot.

A stored vector's distance to the query is the one the store's vector index gives; a distance
that is NaN matches nothing. A hit's similarity is `1 − distance`, kept when strictly above the
threshold.

A symbol matches a lookup when its kind is wanted, or when a term, lowercased, occurs in
its name or context with ASCII letters folded. -/
namespace RepoSearch.Store

open RepoSearch.Text RepoSearch.Number

/-- The order of similarity candidates: higher similarity first, then lower row id. -/
def similarityBefore (a b : Int × Float) : Bool :=
  b.2 < a.2 || (a.2 == b.2 && a.1 ≤ b.1)

/-- Whether a symbol matches lowercased terms or wanted kinds. -/
def symbolWanted (patterns : List String) (kinds : List SymbolKind) (sym : Symbol) : Bool :=
  let name := asciiLower sym.name
  let context := asciiLower sym.context
  patterns.any (fun p => containsText name p || containsText context p) || kinds.contains sym.kind

namespace ChunkStore

/-- The `limit` chunks of a snapshot whose vectors are most similar to the query, above
`minSimilarity`. A query of the wrong width or all zeros finds nothing; a stored vector
whose width differs from the query's is an error. -/
def searchVectors (s : ChunkStore) (repository : String) (generation : Int) (query : List Float32)
    (minSimilarity : Float32) (limit : Nat) : Except String (List VectorHit) :=
  if limit == 0 || query.length != s.dimensions || query.all (fun v => v == 0) then .ok []
  else
    let stored := (s.snapshot repository generation).filterMap (fun r =>
      r.embedding.map (fun v => (r.rowid, v)))
    match stored.find? (fun e => e.2.length != query.length) with
    | some (_, v) =>
      .error ("Vector dimension mistmatch. First vector has " ++ toString v.length ++
        " dimensions, while the second has " ++ toString query.length ++ " dimensions.")
    | none =>
      let scored := stored.filterMap (fun (rowid, v) =>
        let d := s.sql.cosineDistance v query
        if d.isNaN then none
        else
          let similarity := 1 - d.toFloat
          if similarity > minSimilarity.toFloat then some (rowid, similarity) else none)
      .ok (((scored.mergeSort similarityBefore).take limit).map (fun (rowid, sim) =>
        { rowid, similarity := (clampTo (-1) 1 sim).toFloat32 }))

/-- The symbols of a snapshot that match the terms or kinds, in insertion order. -/
def findSymbols (s : ChunkStore) (repository : String) (generation : Int) (terms : List String)
    (kinds : List SymbolKind) : List SymbolRow :=
  if terms.isEmpty && kinds.isEmpty then []
  else
    let patterns := terms.map lowerFull
    (s.snapshot repository generation).flatMap (fun r =>
      (r.chunk.symbols.filter (symbolWanted patterns kinds)).map (fun sym => ⟨r.rowid, sym⟩))

end ChunkStore

end RepoSearch.Store
