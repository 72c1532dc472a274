import RepoSearch.Source.Provider
/-! A provider serving fixed trees, for tests and offline use. Each repository has a tree,
the commit it claims, and may be switched offline. Fetches are counted; a fetch counts even
when the repository turns out to be unknown or offline.

Every fetch takes the provider's delay. Time is what callers have waited on the provider: a
caller that gives up on a fetch at its deadline leaves the fetch running until its delay is
over, so a later fetch can run beside it. -/
namespace RepoSearch.Source

open RepoSearch.Files

/-- A repository served by the fixed provider. -/
structure MockRepository where
  name : String
  /-- Where the tree lies. -/
  root : String
  tree : FileTree
  commit : String
  unavailable : Bool := false

/-- The fixed provider. -/
structure MockSource where
  repositories : List MockRepository
  /-- How long every fetch takes, in milliseconds. -/
  delayMs : Nat := 0
  fetches : Nat := 0
  /-- The most fetches that ever ran at once. -/
  maxConcurrent : Nat := 0
  /-- Milliseconds its callers have waited on the provider so far. -/
  clock : Nat := 0
  /-- When each fetch started so far ends, by the clock. -/
  running : List Nat := []

namespace MockSource

/-- The repository behind a name, if it is known and online. -/
def entry (s : MockSource) (repository : String) : Except SourceError MockRepository :=
  match s.repositories.find? (fun r => r.name == repository) with
  | none => .error (.unavailable ("unknown repository " ++ repository))
  | some r => if r.unavailable then .error (.unavailable (repository ++ " is offline")) else .ok r

def update (s : MockSource) (repository : String) (f : MockRepository → MockRepository) : MockSource :=
  { s with repositories := s.repositories.map (fun r => if r.name == repository then f r else r) }

/-- A new commit lands on a repository; unknown repositories are left alone. -/
def setCommit (s : MockSource) (repository commit : String) : MockSource :=
  s.update repository (fun r => { r with commit })

def setUnavailable (s : MockSource) (repository : String) (unavailable : Bool) : MockSource :=
  s.update repository (fun r => { r with unavailable })

/-- The commit a repository claims, whatever the ref. -/
def currentCommit (s : MockSource) (repository _gitRef : String) : MockSource × Except SourceError String :=
  (s, (s.entry repository).map MockRepository.commit)

/-- The tree of a repository, whatever the ref; the fetch is counted first, with the fetches
still running beside it. -/
def fetchTree (s : MockSource) (repository _gitRef : String) : MockSource × Except SourceError Checkout :=
  let running := s.running.filter (s.clock < ·) ++ [s.clock + s.delayMs]
  let s := { s with fetches := s.fetches + 1, running,
                    maxConcurrent := max s.maxConcurrent running.length }
  (s, (s.entry repository).map (fun r => { root := r.root, commit := r.commit, tree := r.tree, versioned := false }))

/-- The provider once its caller has waited `ms` milliseconds more. -/
def wait (s : MockSource) (ms : Nat) : MockSource := { s with clock := s.clock + ms }

end MockSource

instance : SourceProvider MockSource where
  currentCommit := MockSource.currentCommit
  fetchTree := MockSource.fetchTree
  fetchDelay := MockSource.delayMs
  wait := MockSource.wait

end RepoSearch.Source
