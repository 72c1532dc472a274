/-! The tunables shared by every way of cutting files into chunks. -/
namespace RepoSearch.Chunking

/-- Tunables of chunking: the window for lines no pattern covers, the lines a declaration
chunk reaches past its first line, and the character limits of symbol names and
contexts. -/
structure Tunables where
  fallbackWindow : Nat := 50
  lookahead : Nat := 10
  displayChars : Nat := 80
  contextChars : Nat := 200
  deriving Repr, Inhabited

end RepoSearch.Chunking
