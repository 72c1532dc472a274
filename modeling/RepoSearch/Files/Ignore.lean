import RepoSearch.Files.Glob
import RepoSearch.Files.Tree
import RepoSearch.Text.Blank
import RepoSearch.Text.Slice
import RepoSearch.Text.Utf8
/-! Ignore files in the gitignore format. Each non-blank line that is not a comment is a
glob; `!` makes it re-include, a trailing `/` limits it to directories, and a leading `/`
or any inner `/` anchors it to the file's directory, while other globs match at any depth.
Wildcards do not cross `/`. The last rule of a file that matches decides.

Walking a tree, a path is judged by the `.ignore` files of its directory and the
directories above, the nearest that has a matching rule deciding; failing that, likewise by
the `.gitignore` files, but only inside a git work tree (a directory holding `.git`) and
not above its top, and then by the work tree's `.git/info/exclude`. -/
namespace RepoSearch.Files

open RepoSearch.Text

/-- One rule of an ignore file. -/
structure IgnoreRule where
  glob : Glob
  /-- A `!` rule re-includes what it matches. -/
  whitelist : Bool
  /-- A rule ending in `/` matches only directories. -/
  onlyDir : Bool

/-- The verdict of ignore rules on a path. -/
inductive IgnoreMatch where
  | none
  | ignore
  | whitelist
  deriving DecidableEq, Repr

def IgnoreMatch.orElse : IgnoreMatch → IgnoreMatch → IgnoreMatch
  | .none, m => m
  | m, _ => m

def dropFirst (s : String) (n : Nat) : String := String.ofList (s.toList.drop n)

def dropFinal (s : String) : String := String.ofList s.toList.dropLast

/-- The rule a line of an ignore file gives; none for blank lines, comments and globs that
do not parse. -/
def parseIgnoreLine (raw : String) : Option IgnoreRule :=
  if raw.startsWith "#" then none
  else
    let line := if raw.endsWith "\\ " then raw else trimBlankEnd raw
    if line.isEmpty then none
    else
      let (whitelist, absolute, rest) :=
        if line.startsWith "\\!" || line.startsWith "\\#" then
          let r := dropFirst line 1
          (false, r.startsWith "/", r)
        else
          let (w, r) := if line.startsWith "!" then (true, dropFirst line 1) else (false, line)
          if r.startsWith "/" then (w, true, dropFirst r 1) else (w, false, r)
      let (onlyDir, body) :=
        if rest.endsWith "/" then
          let r := dropFinal rest
          (true, if r.endsWith "\\" then dropFinal r else r)
        else (false, rest)
      let anchored := absolute || body.any (· == '/')
      let actual :=
        if anchored || body.startsWith "**/" || body == "**" then body else "**/" ++ body
      let actual := if actual.endsWith "/**" then actual ++ "/*" else actual
      match Glob.compileWith true actual with
      | .ok glob => some { glob, whitelist, onlyDir }
      | .error _ => none

/-- The lines of an ignore file, up to the first line that is not UTF-8. -/
def ignoreLines (bytes : List UInt8) : List String :=
  let rec go : List (List UInt8) → List String
    | [] => []
    | l :: rest =>
      match decodeUtf8 l with
      | .ok s => (if s.endsWith "\r" then dropFinal s else s) :: go rest
      | .error _ => []
  let pieces := bytes.splitOn 10
  go (if pieces.getLast? == some [] then pieces.dropLast else pieces)

def parseIgnoreFile (bytes : List UInt8) : List IgnoreRule :=
  (ignoreLines bytes).filterMap parseIgnoreLine

/-- The verdict of one file's rules on a path relative to the file's directory. -/
def matchRules (rules : List IgnoreRule) (path : String) (isDir : Bool) : IgnoreMatch :=
  match rules.reverse.find? (fun r => (!r.onlyDir || isDir) && r.glob.matches path) with
  | some r => if r.whitelist then .whitelist else .ignore
  | none => .none

/-- The ignore rules of the directories of a tree. -/
structure IgnoreRules where
  tree : FileTree
  /-- Whether the tree is itself a git work tree. -/
  versioned : Bool

namespace IgnoreRules

/-- The rules of an ignore file in a directory, if there is one. -/
def rulesAt (r : IgnoreRules) (dir name : String) : List IgnoreRule :=
  match r.tree.read? (childPath dir name) with
  | some bytes => parseIgnoreFile bytes
  | none => []

/-- Whether a directory is the top of a git work tree. -/
def hasGit (r : IgnoreRules) (dir : String) : Bool :=
  r.tree.hasEntry (childPath dir ".git") || (dir.isEmpty && r.versioned)

/-- A path relative to a directory inside which it lies. -/
def relativeTo (dir path : String) : String :=
  if dir.isEmpty then path else dropFirst path (dir.length + 1)

/-- The verdict on a path in directory `dir`: the `.ignore` files from `dir` up, then the
`.gitignore` files and the git exclude file of the work tree. -/
def judge (r : IgnoreRules) (dir path : String) (isDir : Bool) : IgnoreMatch :=
  let levels := (ancestorDirs (childPath dir "x")).reverse ++ [""]
  let anyGit := levels.any r.hasGit
  let fromIgnore := levels.foldl (fun m d =>
    m.orElse (matchRules (r.rulesAt d ".ignore") (relativeTo d path) isDir)) IgnoreMatch.none
  let (fromGit, fromExclude, _) := levels.foldl (fun (acc : IgnoreMatch × IgnoreMatch × Bool) d =>
    let (gi, ex, sawGit) := acc
    if anyGit && !sawGit then
      (gi.orElse (matchRules (r.rulesAt d ".gitignore") (relativeTo d path) isDir),
       ex.orElse (matchRules (r.rulesAt d ".git/info/exclude") (relativeTo d path) isDir),
       r.hasGit d)
    else acc) (IgnoreMatch.none, IgnoreMatch.none, false)
  (fromIgnore.orElse fromGit).orElse fromExclude

/-- Whether the walk leaves out a path in directory `dir`. -/
def ignores (r : IgnoreRules) (dir path : String) (isDir : Bool) : Bool :=
  r.judge dir path isDir == .ignore

end IgnoreRules

end RepoSearch.Files
