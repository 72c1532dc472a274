import RepoSearch.Store.Basic
import RepoSearch.Store.Bm25
import RepoSearch.Number.Order
/-! Lexical search over a snapshot. The full-text index finds the candidate rows: those whose
content it matches for one of the terms read as a phrase. A candidate scores
BM25 for each term its stored term counts hold, summed in term order, with corpus figures
from the snapshot alone; candidates holding none of the terms are dropped. -/
namespace RepoSearch.Store

open RepoSearch.Text RepoSearch.Number

/-- The order of lexical hits: higher score first (total order), then lower row id. -/
def lexicalBefore (a b : LexicalHit) : Bool :=
  match totalCompare b.score a.score with
  | .lt => true
  | .gt => false
  | .eq => a.rowid ≤ b.rowid

namespace ChunkStore

/-- The `limit` best BM25 hits of a snapshot for the terms. -/
def searchLexical (s : ChunkStore) (repository : String) (generation : Int) (terms : List String)
    (limit : Nat) : List LexicalHit :=
  let snap := s.snapshot repository generation
  if terms.isEmpty || limit == 0 || snap.isEmpty then []
  else
    let nDocs := Float.ofNat snap.length
    let avgLen := Float.ofNat (snap.foldl (fun n r => n + r.chunk.tokenCount) 0) / nDocs
    let postings := snap.filter (fun r => terms.any (s.sql.phraseMatch r.chunk.content))
    let df (t : String) : Float :=
      Float.ofNat ((postings.filter (fun r => r.chunk.termFreqs.mentions t)).length * terms.count t)
    let hits := postings.filterMap (fun r =>
      let (score, matched) := terms.foldl (fun (acc : Float × List String) t =>
        let tf := r.chunk.termFreqs.count t
        if r.chunk.termFreqs.mentions t then
          (acc.1 + bm25Term (Float.ofNat tf) (df t) nDocs (Float.ofNat r.chunk.tokenCount) avgLen,
           acc.2 ++ [t])
        else acc) (0, [])
      if matched.isEmpty then none else some { rowid := r.rowid, score, matchedTerms := matched })
    (hits.mergeSort lexicalBefore).take limit

end ChunkStore

end RepoSearch.Store
