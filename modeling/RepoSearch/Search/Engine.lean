import RepoSearch.Search.Boost
import RepoSearch.Search.Fusion
import RepoSearch.Search.Result
import RepoSearch.Search.Structural
import RepoSearch.Store.Lexical
import RepoSearch.Store.Nearest
/-! The read path. A search runs over a repository's current snapshot: the lexical hits,
the vector hits, the chunks with the strongest structural evidence, the chunks holding a
quoted phrase and the chunks of pinned files are the candidates. Each candidate's signals
are fused, the boosts added, and candidates scoring at or below the minimum dropped; the
rest are ranked by score, ties by chunk id, and cut to the limit. The reason names each
signal that is significant, then the boosts. -/
namespace RepoSearch.Search

open RepoSearch.Config RepoSearch.Store RepoSearch.Number

/-- The signals gathered for one candidate chunk. -/
structure Candidate where
  lexical : Float := 0
  matchedTerms : List String := []
  vector : Float := 0
  structural : StructuralMatch := {}

abbrev Candidates := List (Int × Candidate)

/-- Change the candidate of a row, starting from empty signals if it has none yet. -/
def Candidates.touch (cs : Candidates) (rowid : Int) (f : Candidate → Candidate) : Candidates :=
  if cs.any (fun e => e.1 == rowid) then cs.map (fun e => if e.1 == rowid then (e.1, f e.2) else e)
  else cs ++ [(rowid, f {})]

/-- A search configuration together with its boost rules. -/
structure QueryEngine where
  config : SearchConfig
  rules : List BoostRule

/-- The engine of a configuration, pinning the given manifests. -/
def QueryEngine.new (config : SearchConfig) (manifests : List String) : QueryEngine :=
  ⟨config, boostRules config.boosts manifests⟩

/-- The order of results: higher score first (total order), then lower chunk id. -/
def resultBefore (a b : SearchResult) : Bool :=
  match totalCompare b.score a.score with
  | .lt => true
  | .gt => false
  | .eq => !(b.chunk.id < a.chunk.id)

namespace QueryEngine

/-- Why a candidate ranks: its significant signals, then its boosts. -/
def explain (e : QueryEngine) (c : Candidate) (boosts : List Boost) : String :=
  let cfg := e.config
  let parts :=
    (if normalize c.lexical cfg.lexicalCeiling ≥ cfg.lexicalSignificance && !c.matchedTerms.isEmpty
     then ["text match (" ++ ", ".intercalate c.matchedTerms ++ ")"] else []) ++
    (if c.vector ≥ cfg.vectorSignificance then ["semantic similarity"] else []) ++
    (if c.structural.score > 0 then ["structural match"] else []) ++
    boosts.map Boost.reason
  if parts.isEmpty then "general relevance" else ", ".intercalate parts

/-- Fuse, boost and explain one candidate; nothing when it scores too low. -/
def rank (e : QueryEngine) (q : QueryAnalysis) (chunk : Chunk) (c : Candidate) : Option SearchResult :=
  let cfg := e.config
  let fused := fuse cfg.weights cfg.lexicalCeiling c.lexical c.vector c.structural.score
  let boosts := applyBoosts e.rules q chunk
  let boostScore := boosts.foldl (fun acc b => acc + b.score) (-0.0)
  let score := fused + boostScore
  if score ≤ cfg.minScore then none
  else some { chunk, lexicalScore := c.lexical, vectorScore := c.vector,
              structuralScore := c.structural.score, boostScore, score,
              matchedTerms := c.matchedTerms, reason := e.explain c boosts }

def gather (e : QueryEngine) (s : ChunkStore) (repository : String) (generation : Int)
    (q : QueryAnalysis) (queryVector : Option (List Float32)) (limit : Nat) :
    Except String Candidates := do
  let cfg := e.config
  let cl := max cfg.candidateLimit limit
  let cs : Candidates := (s.searchLexical repository generation q.terms cl).foldl (fun cs h =>
    cs.touch h.rowid (fun c => { c with lexical := h.score, matchedTerms := h.matchedTerms })) []
  let hits ← match queryVector with
    | some v =>
      if v.length == s.dimensions then s.searchVectors repository generation v cfg.minSimilarity cl
      else pure []
    | none => pure []
  let cs := hits.foldl (fun cs h => cs.touch h.rowid (fun c => { c with vector := h.similarity.toFloat })) cs
  let rows := s.findSymbols repository generation q.terms q.kinds
  let cs := (structuralTop cfg.structural rows q cl).foldl (fun cs (rowid, m) =>
    cs.touch rowid (fun c => { c with structural := m })) cs
  let cs := if q.phrases.isEmpty then cs
    else (s.chunksContaining repository generation q.phrases).foldl (fun cs r => cs.touch r id) cs
  let pinned := pinnedFiles e.rules
  if pinned.isEmpty then pure cs
  else pure ((s.chunksForFiles repository generation pinned).foldl (fun cs r => cs.touch r id) cs)

/-- The top `limit` chunks of a repository for a query. `queryVector` is the query's
embedding when one could be made. The only failure is the store's. -/
def search (e : QueryEngine) (s : ChunkStore) (repository query : String)
    (queryVector : Option (List Float32)) (limit : Nat) : Except String (List SearchResult) :=
  let q := QueryAnalysis.analyze query e.config.boosts.uiKeywords
  if limit == 0 || Text.isBlankText query then .ok []
  else
    match s.currentGeneration? repository with
    | none => .ok []
    | some generation => do
      let cs ← e.gather s repository generation q queryVector limit
      let ranked := (s.loadChunks (cs.map Prod.fst)).filterMap (fun r =>
        match cs.find? (fun c => c.1 == r.rowid) with
        | some (_, c) => e.rank q r.chunk c
        | none => none)
      pure ((ranked.mergeSort resultBefore).take limit)

end QueryEngine

end RepoSearch.Search
