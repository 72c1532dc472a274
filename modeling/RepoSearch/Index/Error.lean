import RepoSearch.Embedding.Error
/-! Failures of indexing and search. File-level failures (an oversized or unreadable file, an
embedding that could not be computed) are absorbed within an index pass; every other
failure ends the operation. -/
namespace RepoSearch.Index

open RepoSearch.Embedding

/-- A failure of the indexer or the query engine. -/
inductive IndexError where
  /-- The repository or ref could not be fetched, or the fetch timed out. -/
  | sourceUnavailable (repository gitRef reason : String)
  | embeddingUnavailable (e : EmbedError)
  | fileTooLarge (path : String) (size limit : Nat)
  /-- A file could not be read or is not valid UTF-8. -/
  | fileUnreadable (path reason : String)
  | repositoryNotIndexed (repository : String)
  | storage (message : String)
  | json (message : String)
  | io (message : String)
  /-- An exclude glob does not parse. -/
  | pattern (message : String)
  | task (reason : String)
  deriving Repr, DecidableEq

namespace IndexError

/-- The wording of a failure. Each wording is written as the list of its parts, so that the
equations of `message` stay cheap for the evaluating tactics. -/
def message : IndexError → String
  | .sourceUnavailable repository gitRef reason =>
    String.join ["source unavailable for ", repository, "@", gitRef, ": ", reason]
  | .embeddingUnavailable e => String.join ["embedding unavailable: ", e.message]
  | .fileTooLarge path size limit =>
    String.join ["file too large: ", path, " (", toString size, " bytes, limit ", toString limit, ")"]
  | .fileUnreadable path reason => String.join ["file unreadable: ", path, ": ", reason]
  | .repositoryNotIndexed repository => String.join ["repository not indexed: ", repository]
  | .storage message => String.join ["storage failure: ", message]
  | .json message => String.join ["serialization failure: ", message]
  | .io message => String.join ["io failure: ", message]
  | .pattern message => String.join ["invalid exclude pattern: ", message]
  | .task reason => String.join ["indexing task failed: ", reason]

def kind : IndexError → String
  | .sourceUnavailable .. => "SourceUnavailable"
  | .embeddingUnavailable _ => "EmbeddingUnavailable"
  | .fileTooLarge .. => "FileTooLarge"
  | .fileUnreadable .. => "FileUnreadable"
  | .repositoryNotIndexed _ => "RepositoryNotIndexed"
  | .storage _ => "Storage"
  | .json _ => "Json"
  | .io _ => "Io"
  | .pattern _ => "Pattern"
  | .task _ => "Task"

/-- Whether the failure ends an index pass rather than skipping one file. -/
def isFatal : IndexError → Bool
  | .fileTooLarge .. | .fileUnreadable .. | .embeddingUnavailable _ => false
  | _ => true

end IndexError

end RepoSearch.Index
