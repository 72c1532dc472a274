import RepoSearch.Index.Indexer
import RepoSearch.Json.Value
/-! The JSON form of an index pass's report. -/
namespace RepoSearch.Index

/-- The members of a report, in the order they are written. -/
def IndexReport.toJson (r : IndexReport) : Json :=
  .obj [("repository", .str r.repository), ("git_ref", .str r.gitRef), ("commit", .str r.commit),
    ("generation", .int r.generation), ("files_scanned", .nat r.filesScanned),
    ("files_indexed", .nat r.filesIndexed), ("files_skipped", .nat r.filesSkipped),
    ("chunks_created", .nat r.chunksCreated),
    ("chunks_without_embedding", .nat r.chunksWithoutEmbedding), ("errors", Json.strs r.errors)]

end RepoSearch.Index
