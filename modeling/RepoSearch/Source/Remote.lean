import RepoSearch.Source.Error
import RepoSearch.Text.Slice
/-! Naming a repository's remote and working copy, refusing refs that could be read as
options, and picking a commit out of the listing of a remote's refs. -/
namespace RepoSearch.Source

open RepoSearch.Text

/-- The remote address of a repository: every `{repository}` of the template replaced. -/
def remoteUrl (template repository : String) : String :=
  replaceText template "\x7brepository\x7d" repository

/-- A repository name made safe as a directory name: characters other than ASCII letters,
digits, `-`, `_` and `.` become `_`. -/
def safeName (repository : String) : String :=
  repository.map (fun c => if c.isAlphanum || c == '-' || c == '_' || c == '.' then c else '_')

/-- A path joined to a directory: an absolute path replaces it, and a separator is put
between them unless the directory is empty or already ends with one. -/
def joinPath (dir name : String) : String :=
  if name.startsWith "/" then name
  else if dir.isEmpty || dir.endsWith "/" then dir ++ name
  else dir ++ "/" ++ name

/-- The working copy of a repository under the checkout directory. -/
def checkoutPath (checkoutDir repository : String) : String :=
  joinPath checkoutDir (safeName repository)

def isControl (c : Char) : Bool :=
  c.toNat < 0x20 || (0x7f ≤ c.toNat && c.toNat < 0xa0)

/-- Refuse a ref that is empty, starts with `-` or holds a control character: refs are
passed on as positional arguments, so nothing may read as an option. -/
def checkRef (repository gitRef : String) : Except SourceError Unit :=
  if gitRef.isEmpty || gitRef.startsWith "-" || gitRef.any isControl then
    .error (.refNotFound repository gitRef)
  else .ok ()

/-- Whether a ref is a full commit id: forty hexadecimal digits. -/
def isCommitId (gitRef : String) : Bool :=
  gitRef.length == 40 && gitRef.all (fun c => c.isDigit || ('a' ≤ c && c ≤ 'f') || ('A' ≤ c && c ≤ 'F'))

/-- The commit a ref names in a remote's ref listing (lines `hash<TAB>name`): the peeled
entry of an annotated tag of that name if listed, otherwise the first entry. -/
def parseRefListing (output gitRef : String) : Option String :=
  let entries := (textLines output).filterMap (fun l => splitOnce? l '\t')
  let peeled := "refs/tags/" ++ gitRef ++ "^\x7b\x7d"
  match entries.find? (fun e => e.2 == peeled) with
  | some e => some e.1
  | none => entries.head?.map Prod.fst

end RepoSearch.Source
