/-! A tree of files held in memory: each file's path relative to the root, `/`-separated,
with its bytes. Directories are the proper prefixes of the file paths. -/
namespace RepoSearch.Files

/-- Files by relative path, each path once. -/
structure FileTree where
  files : List (String × List UInt8) := []
  deriving Inhabited

def components (path : String) : List String := path.splitOn "/"

/-- The directory holding a path: all but its last component, empty for the root. -/
def parentDir (path : String) : String := "/".intercalate (components path).dropLast

/-- A path inside a directory; the root is the empty directory. -/
def childPath (dir name : String) : String := if dir.isEmpty then name else dir ++ "/" ++ name

/-- The directories enclosing a path, outermost first, the root excluded. -/
def ancestorDirs (path : String) : List String :=
  let parts := (components path).dropLast
  (List.range parts.length).map (fun k => "/".intercalate (parts.take (k + 1)))

namespace FileTree

def read? (t : FileTree) (path : String) : Option (List UInt8) :=
  (t.files.find? (fun f => f.1 == path)).map Prod.snd

def write (t : FileTree) (path : String) (bytes : List UInt8) : FileTree :=
  if t.files.any (fun f => f.1 == path) then
    { files := t.files.map (fun f => if f.1 == path then (path, bytes) else f) }
  else { files := t.files ++ [(path, bytes)] }

/-- Remove a file; nothing when there is no such file. -/
def remove? (t : FileTree) (path : String) : Option FileTree :=
  if t.files.any (fun f => f.1 == path) then some { files := t.files.filter (fun f => f.1 != path) }
  else none

/-- Whether an entry (file or directory) exists at a path. -/
def hasEntry (t : FileTree) (path : String) : Bool :=
  t.files.any (fun f => f.1 == path || f.1.startsWith (path ++ "/"))

def paths (t : FileTree) : List String :=
  (t.files.map Prod.fst).mergeSort (fun a b => !(b < a))

end FileTree

end RepoSearch.Files
