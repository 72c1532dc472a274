import RepoSearch.Git.Object
import RepoSearch.Git.Wildmatch
import RepoSearch.Files.Ignore
/-! A git repository with a work tree, as a remote serves it: the files of the work tree, the
files staged for the next commit, every commit made with the files it holds, annotated tags
with the commit each tags, and the refs. `HEAD` is the branch `main`.

A change writes and deletes files in the work tree, stages everything the `.gitignore` files
do not leave out (files already tracked stay tracked), and commits; then it points tags,
annotated tags and branches at the new commit, in that order. -/
namespace RepoSearch.Git

open RepoSearch.Files

/-- A change to commit to a repository. -/
structure Change where
  writes : List (String × List UInt8) := []
  removals : List String := []
  message : String := "update"
  /-- Tags to point at the new commit. -/
  tags : List String := []
  /-- Annotated tags to make of the new commit, each with its name as message. -/
  annotatedTags : List String := []
  /-- Branches to point at the new commit. -/
  branches : List String := []

/-- A repository and its work tree. -/
structure Repository where
  /-- Where the work tree lies; the repository proper is its `.git` directory. -/
  path : String
  work : FileTree := {}
  staged : FileTree := {}
  /-- Full ref names with the object each points at. -/
  refs : List (String × ObjectId) := []
  /-- Every commit with the files it holds. -/
  commits : List (ObjectId × FileTree) := []
  /-- Every annotated tag with the commit it tags. -/
  tagTargets : List (ObjectId × ObjectId) := []

def mainBranch : String := "refs/heads/main"

/-- The rules of the `.gitignore` file of a directory of a work tree. -/
def gitignoreRules (work : FileTree) (dir : String) : List IgnoreRule :=
  match work.read? (childPath dir ".gitignore") with
  | some bytes => parseIgnoreFile bytes
  | none => []

/-- The verdict of a work tree's `.gitignore` files on a path: the nearest file with a
matching rule decides. -/
def gitignoreVerdict (work : FileTree) (path : String) (isDir : Bool) : IgnoreMatch :=
  ((ancestorDirs path).reverse ++ [""]).foldl (fun m dir =>
    m.orElse (matchRules (gitignoreRules work dir) (IgnoreRules.relativeTo dir path) isDir))
    IgnoreMatch.none

/-- Whether staging everything leaves an untracked file out: it or a directory above it is
ignored. -/
def leftUntracked (work : FileTree) (path : String) : Bool :=
  (ancestorDirs path).any (fun d => gitignoreVerdict work d true == .ignore) ||
    gitignoreVerdict work path false == .ignore

namespace Repository

def ref? (r : Repository) (name : String) : Option ObjectId :=
  (r.refs.find? (fun e => e.1 == name)).map Prod.snd

def setRef (r : Repository) (name : String) (id : ObjectId) : Repository :=
  if r.refs.any (fun e => e.1 == name) then
    { r with refs := r.refs.map (fun e => if e.1 == name then (name, id) else e) }
  else { r with refs := r.refs ++ [(name, id)] }

/-- The commit an object comes to when annotated tags are followed. -/
def peel (r : Repository) (id : ObjectId) : ObjectId :=
  match r.tagTargets.find? (fun t => t.1 == id) with
  | some t => t.2
  | none => id

def commitFiles? (r : Repository) (id : ObjectId) : Option FileTree :=
  (r.commits.find? (fun c => c.1 == id)).map Prod.snd

/-- Whether the repository holds a commit or annotated tag of that name. -/
def hasObject (r : Repository) (id : ObjectId) : Bool :=
  r.commits.any (fun c => c.1 == id) || r.tagTargets.any (fun t => t.1 == id)

/-- Stage the whole work tree: tracked files and untracked ones not ignored. -/
def stageAll (r : Repository) : Repository :=
  let keep := fun (f : String × List UInt8) =>
    (r.staged.read? f.1).isSome || !leftUntracked r.work f.1
  { r with staged := { files := r.work.files.filter keep } }

/-- Commit the staged files on `main` at a time; the new commit's name comes back. -/
def commit (r : Repository) (author : Author) (seconds : Nat) (message : String) :
    Repository × ObjectId :=
  let tree := snapshotTreeId r.staged.files
  let id := objectId "commit" (commitText author tree (r.ref? mainBranch) seconds message).toUTF8.toList
  ({ r with commits := r.commits ++ [(id, r.staged)] }.setRef mainBranch id, id)

/-- Make an annotated tag of a commit, named and described by `name`. -/
def annotate (r : Repository) (author : Author) (seconds : Nat) (commitId : ObjectId)
    (name : String) : Repository :=
  let id := objectId "tag" (tagText author commitId name seconds name).toUTF8.toList
  { r with tagTargets := r.tagTargets ++ [(id, commitId)] }.setRef ("refs/tags/" ++ name) id

/-- Make a change at a time: write, delete, stage, commit, then point refs at the commit.
Deleting a missing file, or moving the checked-out branch, fails. -/
def apply (r : Repository) (author : Author) (seconds : Nat) (c : Change) :
    Except String (Repository × ObjectId) := do
  let written := c.writes.foldl (fun (r : Repository) w => { r with work := r.work.write w.1 w.2 }) r
  let removed ← c.removals.foldlM (fun (r : Repository) p =>
    match r.work.remove? p with
    | some work => .ok { r with work }
    | none => .error ("cannot remove " ++ p ++ ": No such file or directory")) written
  let (r, id) := removed.stageAll.commit author seconds c.message
  let r := c.tags.foldl (fun r t => r.setRef ("refs/tags/" ++ t) id) r
  let r := c.annotatedTags.foldl (fun r t => r.annotate author seconds id t) r
  let r ← c.branches.foldlM (fun (r : Repository) b =>
    if b == "main" then .error ("cannot force update the branch 'main' used by worktree at '" ++ r.path ++ "'")
    else .ok (r.setRef ("refs/heads/" ++ b) id)) r
  pure (r, id)

/-- The refs the repository advertises, in order: `HEAD` when `main` exists, then every ref
by name. -/
def advertised (r : Repository) : List (String × ObjectId) :=
  let head := match r.ref? mainBranch with
    | some id => [("HEAD", id)]
    | none => []
  head ++ r.refs.mergeSort (fun x y => !(y.1 < x.1))

/-- The lines of a ref listing: each advertised ref, and after an annotated tag the commit it
tags under the tag's name with `^{}` after it. -/
def listing (r : Repository) : List (ObjectId × String) :=
  r.advertised.flatMap fun (name, id) =>
    let peeled := r.peel id
    if peeled != id then [(id, name), (peeled, name ++ "^\x7b\x7d")] else [(id, name)]

/-- The listing of refs whose name ends in `/`-separated `pattern`, as text: `hash<TAB>name`
lines. -/
def listRefs (r : Repository) (pattern : String) : String :=
  String.join ((r.listing.filter (fun e => wildmatch ("*/" ++ pattern) ("/" ++ e.2))).map
    (fun e => e.1 ++ "\t" ++ e.2 ++ "\n"))

end Repository

end RepoSearch.Git
