import RepoSearch.Files.Filter
/-! Walking a tree for the files an index pass reads. Directories named on the exclusion
list are not entered, nor are directories the ignore files leave out; of the remaining
files, those the ignore files keep and the filter accepts are eligible, unless larger than
the size limit, in which case they are reported as skipped. A file is reported, filtered and
chunked under its path with every backslash turned into a slash. Eligible files come in
ascending order of that path, in walk order among equal ones. -/
namespace RepoSearch.Files

open RepoSearch.Index

/-- A file selected for indexing. -/
structure SourceFile where
  relative : String
  bytes : List UInt8

/-- What a walk found: the eligible files and the oversized ones. -/
structure FileScan where
  files : List SourceFile
  skipped : List IndexError

/-- A path as the walk reports it: every backslash becomes a slash. -/
def slashed (path : String) : String :=
  String.ofList (path.toList.map fun c => if c = '\\' then '/' else c)

namespace FileFilter

/-- Whether the walk reaches a file of a tree: no enclosing directory is excluded by name or
left out by the ignore files, and the file itself is not left out. -/
def reaches (f : FileFilter) (tree : FileTree) (versioned : Bool) (path : String) : Bool :=
  (ancestorDirs path).all (fun d =>
    let name := (components d).getLast?.getD d
    !f.excludedDirs.contains name && !f.ignored tree versioned (parentDir d) d true) &&
  !f.ignored tree versioned (parentDir path) path false

/-- Walk a tree; `versioned` says whether the tree is a git work tree. -/
def scan (f : FileFilter) (tree : FileTree) (versioned : Bool) : FileScan :=
  let found := (tree.paths.filter (fun p => f.reaches tree versioned p && f.accepts (slashed p))).filterMap
    (fun p => (tree.read? p).map (fun bytes => (⟨slashed p, bytes⟩ : SourceFile)))
  { files := (found.filter (fun s => s.bytes.length ≤ f.maxFileBytes)).mergeSort
      (fun a b => !(b.relative < a.relative)),
    skipped := (found.filter (fun s => s.bytes.length > f.maxFileBytes)).map (fun s =>
      .fileTooLarge s.relative s.bytes.length f.maxFileBytes) }

end FileFilter

end RepoSearch.Files
