import RepoSearch.Files.Glob
import RepoSearch.Files.Ignore
import RepoSearch.Config.Basic
import RepoSearch.Index.Error
import RepoSearch.Language
/-! Which files of a tree are indexed. A path is refused when one of its directories is
excluded or an exclude glob matches it; otherwise a project manifest is always taken, and
any other file when its extension, compared without case, is on the allow-list.

The exclude globs and the ignore files are read by libraries, a parameter of the filter
(`WalkLibraries`): one compiles the globs into a single matcher and one judges a path by the
ignore files of its tree. `WalkLibraries.crates` is them as the `globset` and `ignore` crates
behave. -/
namespace RepoSearch.Files

open RepoSearch.Config RepoSearch.Index

/-- What the walk asks of its libraries: the exclude globs compiled into one matcher, or the
message of the first malformed glob; and whether the ignore files of a tree, a git work tree or
not, leave out a path in a directory, the path a directory or not. -/
structure WalkLibraries where
  compileGlobs : List String → Except String (String → Bool)
  ignored : FileTree → (versioned : Bool) → (dir path : String) → (isDir : Bool) → Bool

/-- The libraries as the `globset` and `ignore` crates behave. -/
def WalkLibraries.crates : WalkLibraries where
  compileGlobs globs := (Glob.compileAll globs).map matchesAny
  ignored tree versioned := IgnoreRules.ignores { tree, versioned }

/-- The filters of an index pass. -/
structure FileFilter where
  /-- Allowed extensions, lowercase and without leading dots. -/
  extensions : List String
  manifests : List String
  excludedDirs : List String
  /-- Whether the compiled exclude globs match a path. -/
  excluded : String → Bool := fun _ => false
  maxFileBytes : Nat
  /-- Whether the ignore files leave a path out, as the walk library judges. -/
  ignored : FileTree → Bool → String → String → Bool → Bool := WalkLibraries.crates.ignored

/-- An extension as the allow-list keeps it: leading dots dropped, ASCII lowercase. -/
def normalExtension (e : String) : String :=
  (String.ofList (e.toList.dropWhile (· == '.'))).map Char.toLower

/-- The filters of an indexing configuration read by the walk libraries; a malformed exclude
glob is refused. -/
def FileFilter.ofConfig (walk : WalkLibraries) (cfg : IndexingConfig) : Except IndexError FileFilter :=
  match walk.compileGlobs cfg.excludeGlobs with
  | .error msg => .error (.pattern msg)
  | .ok excluded =>
    .ok { extensions := cfg.extensions.map normalExtension, manifests := cfg.manifestFiles,
          excludedDirs := cfg.excludedDirs, excluded, maxFileBytes := cfg.maxFileBytes,
          ignored := walk.ignored }

/-- What follows the last separator of a relative path. -/
def lastComponent (relative : String) : String :=
  ((relative.splitOn "/").getLast?).getD relative

namespace FileFilter

/-- Whether a relative path names a project manifest. -/
def isManifest (f : FileFilter) (relative : String) : Bool :=
  f.manifests.contains (lastComponent relative)

/-- Whether a relative path passes the name-based filters. -/
def accepts (f : FileFilter) (relative : String) : Bool :=
  let dirs := (relative.splitOn "/").dropLast
  if dirs.any f.excludedDirs.contains then false
  else if f.excluded relative then false
  else if f.isManifest relative then true
  else
    match extension? relative with
    | some e => f.extensions.contains (e.map Char.toLower)
    | none => false

end FileFilter

end RepoSearch.Files
