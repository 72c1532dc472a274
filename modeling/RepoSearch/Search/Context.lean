import RepoSearch.Number.Decimal
import RepoSearch.Search.Result
/-! A prompt-ready context block of search results within a character budget. Results are
grouped by file under a `### path` header; each result is a line of lines, kind, language,
score to two places and reason, then its content fenced with the language. A block goes
in when it fits together with its file's header if that is not yet written; the first
block is cut to the budget when nothing fits; the rest is counted in a closing note. -/
namespace RepoSearch.Search

open RepoSearch.Number

def resultBlock (r : SearchResult) : String :=
  let c := r.chunk
  "-- lines " ++ toString c.startLine ++ "-" ++ toString c.endLine ++ " (" ++ c.kind.name ++
    ", " ++ c.language ++ ") score " ++ fixedText 2 r.score ++ ": " ++ r.reason ++ "\n" ++
    "```" ++ c.language ++ "\n" ++ c.content ++ "\n```\n"

/-- What rendering has produced so far. -/
structure Rendering where
  out : String := ""
  used : Nat := 0
  omitted : Nat := 0

/-- Add one block of a file whose header is `header` (empty once written). -/
def Rendering.add (budget : Nat) (st : Rendering × String) (r : SearchResult) : Rendering × String :=
  let (s, header) := st
  let block := resultBlock r
  let needed := header.length + block.length
  if s.used + needed ≤ budget then
    ({ s with out := s.out ++ header ++ block, used := s.used + needed }, "")
  else if s.out.isEmpty then
    ({ s with out := String.ofList ((header ++ block).toList.take budget), used := budget }, "")
  else
    ({ s with omitted := s.omitted + 1 }, header)

def renderContext (results : List SearchResult) (budget : Nat) : String :=
  let s := (groupByFile results).foldl (fun s (path, rs) =>
    (rs.foldl (Rendering.add budget) (s, "### " ++ path ++ "\n")).1) ({} : Rendering)
  if s.omitted > 0 then s.out ++ "(" ++ toString s.omitted ++ " more chunks omitted)\n" else s.out

end RepoSearch.Search
