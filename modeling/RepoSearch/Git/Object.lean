import RepoSearch.Git.Sha1
/-! Git objects and their names. An object is stored as `kind size NUL content` and named by
the SHA-1 of that text, written as 40 lowercase hexadecimal digits.

A tree lists the entries of one directory, each `mode name NUL` followed by the 20 raw bytes
of the entry's name, sorted by name where a directory's name counts as if it ended in `/`. A
commit names its tree, its parent and its author and committer with a time; an annotated tag
names the object it tags. -/
namespace RepoSearch.Git

/-- The name of a git object: 40 lowercase hexadecimal digits. -/
abbrev ObjectId := String

def hexValue (c : Char) : Option Nat :=
  if '0' ≤ c && c ≤ '9' then some (c.toNat - 48)
  else if 'a' ≤ c && c ≤ 'f' then some (c.toNat - 87)
  else if 'A' ≤ c && c ≤ 'F' then some (c.toNat - 55)
  else none

def idBytes (id : ObjectId) : List UInt8 :=
  let rec go : List Char → List UInt8
    | hi :: lo :: rest => UInt8.ofNat ((hexValue hi).getD 0 * 16 + (hexValue lo).getD 0) :: go rest
    | _ => []
  go id.toList

/-- Whether a text names an object: 40 hexadecimal digits, either case. -/
def isObjectName (s : String) : Bool :=
  s.length == 40 && s.all (fun c => (hexValue c).isSome)

/-- The name of an object of a kind (`blob`, `tree`, `commit`, `tag`) with a content. -/
def objectId (kind : String) (content : List UInt8) : ObjectId :=
  hexText (sha1 ((kind ++ " " ++ toString content.length).toUTF8.toList ++ [0] ++ content))

def blobId (content : List UInt8) : ObjectId := objectId "blob" content

/-- An entry of a tree: a file with its content's name, or a directory with its tree's. -/
structure TreeEntry where
  name : String
  isDir : Bool
  id : ObjectId

/-- The key entries are sorted by: a directory's name with `/` after it. -/
def TreeEntry.sortKey (e : TreeEntry) : String := if e.isDir then e.name ++ "/" else e.name

def TreeEntry.bytes (e : TreeEntry) : List UInt8 :=
  ((if e.isDir then "40000 " else "100644 ") ++ e.name).toUTF8.toList ++ [0] ++ idBytes e.id

def treeId (entries : List TreeEntry) : ObjectId :=
  let sorted := entries.mergeSort (fun x y => !(y.sortKey < x.sortKey))
  objectId "tree" (sorted.flatMap TreeEntry.bytes)

/-- The distinct first components of some paths, in order of first appearance. -/
def firstNames (paths : List (List String)) : List String :=
  paths.foldl (fun acc p => match p with
    | n :: _ => if acc.contains n then acc else acc ++ [n]
    | [] => acc) []

/-- The name of the tree holding files given by their path components below it; `depth`
bounds the nesting, so a tree nested deeper is cut off there. -/
def filesTreeId : Nat → List (List String × ObjectId) → ObjectId
  | 0, _ => treeId []
  | depth + 1, files =>
    let entries := (firstNames (files.map Prod.fst)).map fun n =>
      match files.find? (fun f => f.1 == [n]) with
      | some (_, id) => { name := n, isDir := false, id }
      | none =>
        let inner := files.filterMap (fun f => match f.1 with
          | m :: rest => if m == n && !rest.isEmpty then some (rest, f.2) else none
          | [] => none)
        { name := n, isDir := true, id := filesTreeId depth inner }
    treeId entries

/-- The name of the root tree of files given by `/`-separated path and content. -/
def snapshotTreeId (files : List (String × List UInt8)) : ObjectId :=
  let split := files.map (fun f => (f.1.splitOn "/", blobId f.2))
  filesTreeId (split.foldl (fun m f => max m f.1.length) 0 + 1) split

/-- Whether a character is white space to git's message cleanup. -/
def isGitSpace (c : Char) : Bool :=
  c == ' ' || c == '\t' || c == '\n' || c == '\r'

/-- A commit or tag message as git stores it: trailing white space cut from every line,
blank lines dropped at both ends and runs of them squeezed to one, each line ended by a
newline. With `dropComments`, lines starting with `#` go first. -/
def cleanMessage (dropComments : Bool) (message : String) : String :=
  let lines := (message.splitOn "\n").filter (fun l => !(dropComments && l.startsWith "#"))
  let lines := lines.map (fun l => String.ofList (l.toList.reverse.dropWhile isGitSpace).reverse)
  let (kept, _) := lines.foldl (fun (acc : List String × Bool) l =>
    let (out, pendingBlank) := acc
    if l.isEmpty then (out, !out.isEmpty)
    else ((if pendingBlank then out ++ ["", l] else out ++ [l]), false)) ([], false)
  String.join (kept.map (· ++ "\n"))

/-- Who makes a commit or tag. -/
structure Author where
  name : String
  email : String

/-- An author with a time, given as seconds since the epoch in UTC. -/
def Author.signature (a : Author) (seconds : Nat) : String :=
  a.name ++ " <" ++ a.email ++ "> " ++ toString seconds ++ " +0000"

/-- The text of a commit by one author, who also commits it. -/
def commitText (author : Author) (tree : ObjectId) (parent : Option ObjectId) (seconds : Nat)
    (message : String) : String :=
  "tree " ++ tree ++ "\n" ++ (match parent with | some p => "parent " ++ p ++ "\n" | none => "") ++
    "author " ++ author.signature seconds ++ "\n" ++ "committer " ++ author.signature seconds ++
    "\n\n" ++ cleanMessage false message

/-- The text of an annotated tag of a commit; its message loses its `#` lines. -/
def tagText (author : Author) (target : ObjectId) (name : String) (seconds : Nat)
    (message : String) : String :=
  "object " ++ target ++ "\ntype commit\ntag " ++ name ++ "\ntagger " ++
    author.signature seconds ++ "\n\n" ++ cleanMessage true message

end RepoSearch.Git
