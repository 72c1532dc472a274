import RepoSearch.Lexicon.Terms
/-! Chunks and symbols: the addressable spans of a file that the index stores, and the
named structural units found inside them. A chunk's id is `path:start-end:kind`, so two
chunks over the same lines and of the same kind share their id. -/
namespace RepoSearch

open RepoSearch.Lexicon

/-- What a chunk holds; the order of the constructors is the order chunks of one span sort in. -/
inductive ChunkKind where
  | symbol
  | block
  | comment
  | «import»
  deriving DecidableEq, Repr, Inhabited

namespace ChunkKind

def rank : ChunkKind → Nat
  | symbol => 0
  | block => 1
  | comment => 2
  | «import» => 3

def name : ChunkKind → String
  | symbol => "symbol"
  | block => "block"
  | comment => "comment"
  | «import» => "import"

def ofName? (s : String) : Option ChunkKind :=
  [symbol, block, comment, «import»].find? (fun k => k.name == s)

end ChunkKind

/-- What a symbol names. -/
inductive SymbolKind where
  | function
  | «class»
  | «variable»
  | «import»
  | element
  | «attribute»
  deriving DecidableEq, Repr, Inhabited

namespace SymbolKind

def all : List SymbolKind := [function, «class», «variable», «import», element, «attribute»]

def name : SymbolKind → String
  | function => "function"
  | «class» => "class"
  | «variable» => "variable"
  | «import» => "import"
  | element => "element"
  | «attribute» => "attribute"

def ofName? (s : String) : Option SymbolKind :=
  all.find? (fun k => k.name == s)

end SymbolKind

/-- A named structural unit inside a chunk. Lines and columns count from 1, columns in
characters; the end column is one past the last character. -/
structure Symbol where
  name : String
  kind : SymbolKind
  startLine : Nat
  startColumn : Nat
  endLine : Nat
  endColumn : Nat
  /-- A bounded snippet of the surrounding source. -/
  context : String
  deriving DecidableEq, Repr, Inhabited

/-- An addressable span of lines of a file. -/
structure Chunk where
  id : String
  filePath : String
  content : String
  kind : ChunkKind
  language : String
  startLine : Nat
  endLine : Nat
  symbols : List Symbol
  /-- How often each term occurs in the content. -/
  termFreqs : TermCounts
  deriving Repr, Inhabited

namespace Chunk

/-- The id of the chunk of a kind over lines `start..stop` of a file. -/
def makeId (path : String) (start stop : Nat) (kind : ChunkKind) : String :=
  path ++ ":" ++ toString start ++ "-" ++ toString stop ++ ":" ++ kind.name

def tokenCount (c : Chunk) : Nat := c.termFreqs.total

/-- The text given to an embedder: path, language, the first symbol's name if any, and
the content. -/
def embeddingText (c : Chunk) : String :=
  match c.symbols with
  | s :: _ => c.filePath ++ " " ++ c.language ++ " " ++ s.name ++ ": " ++ c.content
  | [] => c.filePath ++ " " ++ c.language ++ ": " ++ c.content

/-- A chunk of the given fields, with its id made from them and its term counts taken
from the content. -/
def build (path content language : String) (kind : ChunkKind) (start stop : Nat)
    (symbols : List Symbol) : Chunk :=
  { id := makeId path start stop kind, filePath := path, content, kind, language,
    startLine := start, endLine := stop, symbols, termFreqs := termFrequencies content }

end Chunk

end RepoSearch
