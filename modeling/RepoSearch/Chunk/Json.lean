import RepoSearch.Chunk.Basic
import RepoSearch.Json.Value
/-! The JSON form of symbols and chunks: every field under its snake-case name, kinds by
name. A chunk's term counts are not part of it. -/
namespace RepoSearch

def Symbol.toJson (s : Symbol) : Json :=
  .obj [("name", .str s.name), ("kind", .str s.kind.name), ("start_line", .nat s.startLine),
    ("start_column", .nat s.startColumn), ("end_line", .nat s.endLine),
    ("end_column", .nat s.endColumn), ("context", .str s.context)]

def Chunk.jsonMembers (c : Chunk) : List (String × Json) :=
  [("id", .str c.id), ("file_path", .str c.filePath), ("content", .str c.content),
    ("kind", .str c.kind.name), ("language", .str c.language), ("start_line", .nat c.startLine),
    ("end_line", .nat c.endLine), ("symbols", .arr (c.symbols.map Symbol.toJson))]

def Chunk.toJson (c : Chunk) : Json := .obj c.jsonMembers

/-- The JSON form of term counts: an object from term to count, in term order. -/
def termCountsJson (counts : Lexicon.TermCounts) : Json :=
  .obj (counts.map fun (t, n) => (t, .nat n))

end RepoSearch
