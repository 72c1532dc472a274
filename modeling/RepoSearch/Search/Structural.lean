import RepoSearch.Config.Basic
import RepoSearch.Number.Order
import RepoSearch.Search.Query
import RepoSearch.Store.Hits
/-! Structural evidence: a symbol matches a query when the query names its kind or one of
the query's terms occurs in its lowercased name or context. Each matching symbol adds a
weight to its chunk: elements weigh more when the query is about navigation, functions
when it mentions functions. -/
namespace RepoSearch.Search

open RepoSearch.Config RepoSearch.Store RepoSearch.Text RepoSearch.Number

/-- The structural evidence gathered for one chunk. -/
structure StructuralMatch where
  score : Float := 0
  /-- Names of the matching symbols, in match order. -/
  symbols : List String := []
  deriving Inhabited

/-- Whether a symbol matches the query by kind, name or context. -/
def symbolMatches (s : Symbol) (q : QueryAnalysis) : Bool :=
  q.kinds.contains s.kind ||
    (let name := lowerFull s.name
     let context := lowerFull s.context
     q.terms.any fun t => containsText name t || containsText context t)

def symbolWeight (w : StructuralWeights) (kind : SymbolKind) (q : QueryAnalysis) : Float :=
  match kind with
  | .element => if q.navigation then w.navigationElement else w.base
  | .function => if q.mentionsFunction then w.function else w.base
  | _ => w.base

/-- Add a matching symbol's weight to its chunk's evidence, chunks kept in first-match order. -/
def addEvidence (w : StructuralWeights) (q : QueryAnalysis)
    (acc : List (Int × StructuralMatch)) (row : SymbolRow) : List (Int × StructuralMatch) :=
  if !symbolMatches row.symbol q then acc
  else
    let weight := symbolWeight w row.symbol.kind q
    if acc.any (fun e => e.1 == row.chunkRowid) then
      acc.map fun (id, m) =>
        if id == row.chunkRowid then (id, { score := m.score + weight, symbols := m.symbols ++ [row.symbol.name] })
        else (id, m)
    else acc ++ [(row.chunkRowid, { score := 0 + weight, symbols := [row.symbol.name] })]

/-- The structural evidence of every chunk with a matching symbol. -/
def structuralScores (w : StructuralWeights) (rows : List SymbolRow) (q : QueryAnalysis) :
    List (Int × StructuralMatch) :=
  rows.foldl (addEvidence w q) []

/-- Order of evidence: higher score first (total order), then lower row id. -/
def evidenceBefore (a b : Int × StructuralMatch) : Bool :=
  match totalCompare b.2.score a.2.score with
  | .lt => true
  | .gt => false
  | .eq => a.1 ≤ b.1

/-- The `limit` chunks with the strongest structural evidence. -/
def structuralTop (w : StructuralWeights) (rows : List SymbolRow) (q : QueryAnalysis)
    (limit : Nat) : List (Int × StructuralMatch) :=
  ((structuralScores w rows q).mergeSort evidenceBefore).take limit

end RepoSearch.Search
