import RepoSearch.Source.Provider
import RepoSearch.Source.Remote
import RepoSearch.Git.Host
/-! A provider reading repositories from git remotes. A repository's address is the address
template with the repository's name put in; its working copy lies under the checkout
directory.

The commit of a ref comes from listing the remote's refs (a full commit id is taken as it
stands); the tree of a ref comes from a shallow fetch of the ref into the working copy, which
is then checked out and cleaned. Refs that could read as options are refused before git runs,
and a failing git command reports the command with what git printed.

Git itself is a parameter (`GitClient`): the provider runs two of its commands and reads their
answers. `GitHost`, the modelled remotes, is one git. -/
namespace RepoSearch.Source

open RepoSearch.Git RepoSearch.Files

/-- The git commands the provider runs, as git answers them: the listing of a remote's refs
that answer to a pattern (`git ls-remote`), and the fetch of a ref of a remote, which gives the
commit it lands on with that commit's files (`git fetch` and a checkout of `FETCH_HEAD`). A
failure is the text git prints. -/
class GitClient (γ : Type) where
  listRemote : γ → (url pattern : String) → Except String String
  fetch : γ → (url gitRef : String) → Except String (ObjectId × FileTree)

instance : GitClient GitHost where
  listRemote := GitHost.listRemote
  fetch := GitHost.fetch

/-- What a fetch does on disk: the working copy made, if it was not there (`git init`), or a
commit checked out into it and the directory cleaned (`git checkout --force` and
`git clean -ffdx`). -/
inductive DiskEffect where
  | init (root : String)
  | checkout (root : String) (tree : FileTree)

/-- The files of a disk, by path with `.` and `..` resolved. -/
abbrev DiskFiles := List (List String × List UInt8)

/-- Whether a file lies below a directory, both paths resolved. -/
def below (dir : List String) (file : List String × List UInt8) : Bool :=
  dir.isPrefixOf file.1

/-- A disk after one effect. A checkout and clean leave below the working copy exactly the
files of the commit, whatever lay there before, other working copies included; the working
copy's own `.git` is not among the files. -/
def DiskEffect.apply (disk : DiskFiles) : DiskEffect → DiskFiles
  | .init _ => disk
  | .checkout root tree =>
    let dir := pathKey root
    disk.filter (fun f => !below dir f) ++ tree.files.map (fun f => (dir ++ pathKey f.1, f.2))

/-- The git provider, the git it runs and what its fetches did on disk. -/
structure GitSource (γ : Type) where
  /-- The address of a repository, `{repository}` standing for its name. -/
  urlTemplate : String
  checkoutDir : String
  git : γ
  /-- What the fetches so far did on disk, in order. -/
  effects : List DiskEffect := []

namespace GitSource

variable {γ : Type} [GitClient γ]

/-- Whether git can be run: the remotes here are modelled, so it always can. -/
def available : Bool := true

def url (s : GitSource γ) (repository : String) : String := remoteUrl s.urlTemplate repository

def checkoutRoot (s : GitSource γ) (repository : String) : String :=
  checkoutPath s.checkoutDir repository

def currentCommit (s : GitSource γ) (repository gitRef : String) : Except SourceError String := do
  checkRef repository gitRef
  if isCommitId gitRef then pure gitRef.toLower
  else
    let url := s.url repository
    match GitClient.listRemote s.git url gitRef with
    | .error e =>
      .error (.commandFailed ("git ls-remote --end-of-options " ++ url ++ " " ++ gitRef) e)
    | .ok listing =>
      match parseRefListing listing gitRef with
      | some commit => pure commit
      | none => .error (.refNotFound repository gitRef)

/-- The tree of a repository at a ref, checked out in its working copy. The working copy is
made first if there is none, and keeps its old files when the fetch fails. -/
def fetchTree (s : GitSource γ) (repository gitRef : String) : GitSource γ × Except SourceError Checkout :=
  match checkRef repository gitRef with
  | .error e => (s, .error e)
  | .ok () =>
    let root := s.checkoutRoot repository
    let s := { s with effects := s.effects ++ [.init root] }
    match GitClient.fetch s.git (s.url repository) gitRef with
    | .error e =>
      (s, .error (.commandFailed ("git fetch -q --depth 1 --end-of-options origin " ++ gitRef) e))
    | .ok (commit, tree) =>
      ({ s with effects := s.effects ++ [.checkout root tree] }, .ok { root, commit, tree, versioned := true })

end GitSource

instance {γ : Type} [GitClient γ] : SourceProvider (GitSource γ) where
  currentCommit s repository gitRef := (s, s.currentCommit repository gitRef)
  fetchTree s repository gitRef := s.fetchTree repository gitRef
  fetchDelay _ := 0

end RepoSearch.Source
