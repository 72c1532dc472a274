import RepoSearch.Store.Basic
import RepoSearch.Chunk.Json
/-! JSON forms of what the store reports. Commit times are given by a function, since the
store keeps them only as a count of commits. -/
namespace RepoSearch.Store

def RepositoryRecord.jsonMembers (stamp : Nat → Json) (r : RepositoryRecord) : List (String × Json) :=
  [("name", .str r.name), ("last_commit", Json.ofOption Json.str r.lastCommit),
   ("indexed_at", Json.ofOption stamp r.indexedAt), ("total_chunks", .nat r.totalChunks),
   ("current_generation", .int r.currentGeneration), ("state", .str r.state.name),
   ("last_error", Json.ofOption Json.str r.lastError)]

def RepositoryRecord.toJson (stamp : Nat → Json) (r : RepositoryRecord) : Json :=
  .obj (r.jsonMembers stamp)

def countsJson (counts : List (String × Nat)) : Json :=
  .obj (counts.map (fun (k, n) => (k, .nat n)))

def IndexStats.toJson (stamp : Nat → Json) (s : IndexStats) : Json :=
  .obj [("repository", .str s.repository), ("total_chunks", .nat s.totalChunks),
    ("total_symbols", .nat s.totalSymbols), ("chunks_with_embedding", .nat s.chunksWithEmbedding),
    ("last_indexed", Json.ofOption stamp s.lastIndexed),
    ("last_commit", Json.ofOption Json.str s.lastCommit),
    ("by_kind", countsJson s.byKind), ("by_language", countsJson s.byLanguage)]

end RepoSearch.Store
