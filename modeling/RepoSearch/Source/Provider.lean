import RepoSearch.Source.Error
import RepoSearch.Files.Tree
/-! Where repositories come from. A provider names the commit a ref resolves to and
materializes the tree at a ref. Providers are values that calls may change (a call can be
counted, a checkout can be updated), so each call gives the provider back with its answer. -/
namespace RepoSearch.Source

open RepoSearch.Files

/-- A materialized tree and the commit it was taken from. -/
structure Checkout where
  /-- Where the tree lies. -/
  root : String
  commit : String
  tree : Files.FileTree
  /-- Whether the tree is a git work tree, so that its git ignore files apply. -/
  versioned : Bool

/-- A source of repository trees. -/
class SourceProvider (σ : Type) where
  /-- The commit a ref of a repository resolves to. -/
  currentCommit : σ → (repository gitRef : String) → σ × Except SourceError String
  /-- The tree of a repository at a ref. -/
  fetchTree : σ → (repository gitRef : String) → σ × Except SourceError Checkout
  /-- How long a fetch takes, in milliseconds. -/
  fetchDelay : σ → Nat
  /-- The provider after its caller has waited so many milliseconds on it. A call runs on a
  thread of its own, so a caller that stops waiting leaves the call running. -/
  wait : σ → Nat → σ := fun s _ => s

end RepoSearch.Source
