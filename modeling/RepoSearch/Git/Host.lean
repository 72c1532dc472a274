import RepoSearch.Git.Repository
import RepoSearch.Git.RefName
/-! Repositories reachable as remotes, addressed by a path or a `file://` address, and the two
things a client asks of a remote: the listing of its refs and the fetch of one object. The
answers and failures are those git gives, failures as the text git prints.

A path names a repository when, with trailing `/` ignored, it or it with `.git` appended is
the repository's work tree, or it is the repository's `.git` directory. Paths are compared
component by component, `.` dropped and `..` going up. -/
namespace RepoSearch.Git

open RepoSearch.Files

/-- One component of a path read after the components before it: an empty one and `.` change
nothing, `..` takes the last one back, and any other is added. -/
def resolveComponent (acc : List String) (c : String) : List String :=
  if c.isEmpty || c == "." then acc
  else if c == ".." then acc.dropLast
  else acc ++ [c]

/-- The components of a path, `.` and empty ones dropped and `..` taking one back. -/
def pathKey (path : String) : List String :=
  ((path.toList.splitOn '/').map String.ofList).foldl resolveComponent []

/-- The path a remote address points at: a `file://` address loses its scheme. -/
def addressPath (url : String) : String :=
  if url.startsWith "file://" then String.ofList (url.toList.drop 7) else url

/-- What git prints when an address names no repository. -/
def notARepository (path : String) : String :=
  "fatal: '" ++ path ++ "' does not appear to be a git repository\n" ++
    "fatal: Could not read from remote repository.\n\n" ++
    "Please make sure you have the correct access rights\nand the repository exists."

/-- The repositories of a host and the clock their commits are dated by. -/
structure GitHost where
  repositories : List Repository := []
  author : Author
  /-- The time of the next commit, in seconds since the epoch; every commit moves it on by
  one second. -/
  clock : Nat

namespace GitHost

def at? (h : GitHost) (path : String) : Option Repository :=
  h.repositories.find? (fun r => pathKey r.path == pathKey path)

/-- The repository a path names: tried as the work tree, as the `.git` directory, and with
`.git` appended as either. -/
def locate? (h : GitHost) (path : String) : Option Repository :=
  let gitDir := fun (p : String) => h.repositories.find? (fun r => pathKey r.path ++ [".git"] == pathKey p)
  let base := match (path.toList.reverse.dropWhile (· == '/')).reverse with
    | [] => path
    | trimmed => String.ofList trimmed
  [base ++ "/.git", base, base ++ ".git/.git", base ++ ".git"].findSome? gitDir

/-- Commit a change to the repository at a path, making the repository first if there is
none; the new commit's name comes back. -/
def push (h : GitHost) (path : String) (c : Change) : Except String (GitHost × ObjectId) := do
  let r := (h.at? path).getD { path }
  let (r', id) ← r.apply h.author h.clock c
  let repositories :=
    if (h.at? path).isSome then h.repositories.map (fun x => if pathKey x.path == pathKey path then r' else x)
    else h.repositories ++ [r']
  pure ({ h with repositories, clock := h.clock + 1 }, id)

/-- The refs of the repository at an address that end in `/`-separated `pattern`, as
`hash<TAB>name` lines, or what git prints when there is no repository there. -/
def listRemote (h : GitHost) (url pattern : String) : Except String String :=
  let path := addressPath url
  match h.locate? path with
  | none => .error (notARepository path)
  | some r => .ok (r.listRefs pattern)

/-- Fetch what a refspec names from the repository at an address: the commit it comes to
with that commit's files, or what git prints when it cannot. -/
def fetch (h : GitHost) (url spec : String) : Except String (ObjectId × FileTree) :=
  if spec == "tag" then .error "fatal: You need to specify a tag name."
  else
    match parseFetchSpec spec with
    | none => .error ("fatal: invalid refspec '" ++ spec ++ "'")
    | some source =>
      let path := addressPath url
      match h.locate? path with
      | none => .error (notARepository path)
      | some r =>
        let wanted : Except String ObjectId :=
          if source.exact then
            let id := source.name.toLower
            if r.hasObject id then .ok id
            else .error ("fatal: git upload-pack: not our ref " ++ id ++
              "\nfatal: remote error: upload-pack: not our ref " ++ id)
          else
            match pickRef source.name r.advertised with
            | some (_, id) => .ok id
            | none => .error ("fatal: couldn't find remote ref " ++ source.name)
        match wanted with
        | .error e => .error e
        | .ok id =>
          let commitId := r.peel id
          match r.commitFiles? commitId with
          | some files => .ok (commitId, files)
          | none => .error ("fatal: reference is not a tree: " ++ id)

end GitHost

end RepoSearch.Git
