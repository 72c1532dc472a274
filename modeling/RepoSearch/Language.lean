/-! Languages of source files, found by file extension. Each language belongs to a family
that decides how its files are cut into chunks; a file of no known language is plain
text. -/
namespace RepoSearch

/-- How files of a language are cut into chunks. -/
inductive LanguageFamily where
  /-- Templates of elements: headings, navigation, scripts. -/
  | markup
  /-- Script sources: declarations, imports, doc comments. -/
  | procedural
  /-- Prose in sections under headings. -/
  | markdown
  /-- Fixed windows of lines only. -/
  | generic
  deriving DecidableEq, Repr, Inhabited

def LanguageFamily.name : LanguageFamily → String
  | markup => "markup"
  | procedural => "procedural"
  | markdown => "markdown"
  | generic => "generic"

/-- A language: its name, family and file extensions (lowercase, without the dot). -/
structure Language where
  name : String
  family : LanguageFamily
  extensions : List String
  deriving Repr, Inhabited

namespace Language

def known : List Language := [
  ⟨"html", .markup, ["html", "htm", "xhtml"]⟩,
  ⟨"vue", .markup, ["vue"]⟩,
  ⟨"svelte", .markup, ["svelte"]⟩,
  ⟨"javascript", .procedural, ["js", "jsx", "mjs", "cjs"]⟩,
  ⟨"typescript", .procedural, ["ts", "tsx", "mts", "cts"]⟩,
  ⟨"markdown", .markdown, ["md", "mdx", "markdown"]⟩,
  ⟨"css", .generic, ["css", "scss", "sass", "less"]⟩,
  ⟨"json", .generic, ["json"]⟩,
  ⟨"yaml", .generic, ["yml", "yaml"]⟩,
  ⟨"toml", .generic, ["toml"]⟩,
  ⟨"python", .generic, ["py"]⟩,
  ⟨"rust", .generic, ["rs"]⟩,
  ⟨"go", .generic, ["go"]⟩,
  ⟨"java", .generic, ["java"]⟩,
  ⟨"ruby", .generic, ["rb"]⟩,
  ⟨"php", .generic, ["php"]⟩]

/-- Plain text, the language of every file no other language claims. -/
def plainText : Language := ⟨"text", .generic, ["txt"]⟩

/-- The language owning an extension, compared after ASCII lowercasing. -/
def byExtension? (ext : String) : Option Language :=
  let ext := ext.toLower
  (known ++ [plainText]).find? (fun l => l.extensions.contains ext)

def byName? (name : String) : Option Language :=
  (known ++ [plainText]).find? (fun l => l.name == name)

end Language

/-- The last component of a slash-separated path, if it names an entry: empty components
and `.` are skipped, and a path ending in `..` has none. -/
def fileName? (path : String) : Option String :=
  match ((path.splitOn "/").filter (fun p => p != "" && p != ".")).getLast? with
  | some ".." => none
  | some name => some name
  | none => none

/-- The extension of a path: what follows the last dot of its file name, provided that dot
is not the name's first character. -/
def extension? (path : String) : Option String :=
  match fileName? path with
  | none => none
  | some name =>
    match (name.splitOn ".").reverse with
    | after :: beforeRev@(_ :: _) =>
      if ".".intercalate beforeRev.reverse == "" then none else some after
    | _ => none

namespace Language

/-- The language of a file path, plain text when its extension is unknown. -/
def detect (path : String) : Language :=
  ((extension? path).bind byExtension?).getD plainText

end Language

end RepoSearch
