import RepoSearch.Store.Basic
import RepoSearch.Files.Tree
/-! A disk as the command line sees it: directories, files with their bytes, and database
files with the store they hold. Paths are absolute lists of components; the root is always a
directory. The failures are those of the operating system, with its wording. -/
namespace RepoSearch.Cli

open RepoSearch.Store RepoSearch.Files

/-- What lies at a path. -/
inductive Node where
  | directory
  | file (bytes : List UInt8)
  | database (store : ChunkStore)

/-- A failed disk operation. -/
inductive IoError where
  | notFound
  | alreadyExists
  | notADirectory
  | isADirectory
  | invalidText
  deriving DecidableEq

def IoError.message : IoError → String
  | .notFound => "No such file or directory (os error 2)"
  | .alreadyExists => "File exists (os error 17)"
  | .notADirectory => "Not a directory (os error 20)"
  | .isADirectory => "Is a directory (os error 21)"
  | .invalidText => "stream did not contain valid UTF-8"

/-- The components of a path, resolved against a working directory: `.` and empty
components dropped, `..` going up. -/
def resolvePath (cwd : List String) (path : String) : List String :=
  let start := if path.startsWith "/" then [] else cwd
  (path.splitOn "/").foldl (fun acc c =>
    if c.isEmpty || c == "." then acc
    else if c == ".." then acc.dropLast
    else acc ++ [c]) start

/-- The disk: every node but the root, by path. -/
structure Disk where
  nodes : List (List String × Node) := []

namespace Disk

def node? (d : Disk) (path : List String) : Option Node :=
  if path.isEmpty then some .directory else (d.nodes.find? (fun n => n.1 == path)).map Prod.snd

def isDirectory (d : Disk) (path : List String) : Bool :=
  match d.node? path with
  | some .directory => true
  | _ => false

def put (d : Disk) (path : List String) (n : Node) : Disk :=
  if d.nodes.any (fun e => e.1 == path) then
    { nodes := d.nodes.map (fun e => if e.1 == path then (path, n) else e) }
  else { nodes := d.nodes ++ [(path, n)] }

/-- Make a directory and those above it that are missing. A file in the way fails: as an
existing entry when it is the directory itself, else as not a directory. -/
def makeDirs (d : Disk) (path : List String) : Except IoError Disk :=
  (List.range path.length).foldlM (fun (d : Disk) k =>
    let upTo := path.take (k + 1)
    match d.node? upTo with
    | some .directory => .ok d
    | some _ => .error (if k + 1 == path.length then .alreadyExists else .notADirectory)
    | none => .ok (d.put upTo .directory)) d

/-- Whether the directory holding a path exists: the failure when it does not. -/
def parentProblem (d : Disk) (path : List String) : Option IoError :=
  let parent := path.dropLast
  match (List.range parent.length).find? (fun k => !(d.isDirectory (parent.take (k + 1)))) with
  | none => none
  | some k =>
    match d.node? (parent.take (k + 1)) with
    | none => some .notFound
    | some _ => some .notADirectory

def writeFile (d : Disk) (path : List String) (bytes : List UInt8) : Except IoError Disk :=
  match d.parentProblem path with
  | some e => .error e
  | none =>
    match d.node? path with
    | some .directory => .error .isADirectory
    | _ => .ok (d.put path (.file bytes))

def readFile (d : Disk) (path : List String) : Except IoError (List UInt8) :=
  match d.parentProblem path with
  | some e => .error e
  | none =>
    match d.node? path with
    | none => .error .notFound
    | some .directory => .error .isADirectory
    | some (.file bytes) => .ok bytes
    | some (.database _) => .ok []

def readText (d : Disk) (path : List String) : Except IoError String := do
  match String.fromUTF8? ⟨(← d.readFile path).toArray⟩ with
  | some s => pure s
  | none => .error .invalidText

def list (d : Disk) (path : List String) : List String :=
  let names := d.nodes.filterMap (fun e =>
    if e.1.length == path.length + 1 && e.1.take path.length == path then e.1.getLast? else none)
  names.mergeSort (fun a b => !(b < a))

/-- Remove everything below a directory except the entries whose first component below it is
one of `keep`. -/
def clearBelow (d : Disk) (path : List String) (keep : List String) : Disk :=
  { nodes := d.nodes.filter (fun e =>
      !(e.1.length > path.length && e.1.take path.length == path) ||
        keep.any (fun k => e.1[path.length]? == some k)) }

def writeTree (d : Disk) (root : List String) (tree : FileTree) : Disk :=
  tree.files.foldl (fun (d : Disk) f =>
    let path := root ++ components f.1
    let d := (d.makeDirs path.dropLast).toOption.getD d
    d.put path (.file f.2)) d

end Disk

end RepoSearch.Cli
