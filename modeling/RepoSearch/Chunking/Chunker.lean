import RepoSearch.Chunking.Markdown
import RepoSearch.Chunking.Markup
import RepoSearch.Chunking.Script
import RepoSearch.Chunking.Window
import RepoSearch.Language
/-! Cutting a file into chunks. The language's family picks the patterns; when they find
nothing the whole file is windowed, and otherwise the runs of lines no pattern chunk
covers are windowed where they hold text. Chunks with one id are merged into the first,
which gains the others' new symbols, and the result is ordered by first line, last line
and kind. -/
namespace RepoSearch.Chunking

open RepoSearch.Text

/-- The pattern chunks of a document for a family, before merging and ordering. -/
def patternChunks (family : LanguageFamily) (d : Document) (t : Tunables) : List Chunk :=
  match family with
  | .markup => markupChunks d t
  | .procedural => scriptChunks d t
  | .markdown => markdownChunks d t
  | .generic => []

/-- The maximal runs of lines from `line` to `total` that no chunk covers, as first and
last line; `fuel` bounds the number of steps. -/
def uncoveredRuns (covered : Nat → Bool) (total : Nat) : Nat → Nat → Option Nat → List (Nat × Nat)
  | 0, _, _ => []
  | fuel + 1, line, runStart =>
    if line > total then
      match runStart with
      | some s => [(s, total)]
      | none => []
    else if covered line then
      match runStart with
      | some s => (s, line - 1) :: uncoveredRuns covered total fuel (line + 1) none
      | none => uncoveredRuns covered total fuel (line + 1) none
    else
      uncoveredRuns covered total fuel (line + 1) (runStart.orElse fun _ => some line)

/-- Windows over the runs of lines no chunk covers that hold text. -/
def fillGaps (d : Document) (t : Tunables) (chunks : List Chunk) : List Chunk :=
  let total := d.lineCount
  let covered (line : Nat) : Bool :=
    chunks.any fun c => c.startLine ≤ line && line ≤ min c.endLine total
  (uncoveredRuns covered total (total + 2) 1 none).flatMap fun (s, e) =>
    if d.hasContent s e then d.windows s e t.fallbackWindow else []

/-- Merge chunks sharing an id into the first of them, which gains the symbols it lacks. -/
def mergeById (chunks : List Chunk) : List Chunk :=
  chunks.foldl (fun kept c =>
    if kept.any (fun k => k.id == c.id) then
      kept.map fun k =>
        if k.id == c.id then
          let symbols := c.symbols.foldl
            (fun acc s => if acc.contains s then acc else acc ++ [s]) k.symbols
          { k with symbols }
        else k
    else kept ++ [c]) []

/-- Chunk order: by first line, then last line, then kind. -/
def chunkLE (a b : Chunk) : Bool :=
  a.startLine < b.startLine ||
    (a.startLine == b.startLine &&
      (a.endLine < b.endLine || (a.endLine == b.endLine && a.kind.rank ≤ b.kind.rank)))

/-- Merge chunks by id and order them stably by position. -/
def mergeAndOrder (chunks : List Chunk) : List Chunk :=
  (mergeById chunks).mergeSort chunkLE

/-- The chunks of a file; none when its text is blank. -/
def chunkFile (t : Tunables) (path : String) (language : Language) (text : String) : List Chunk :=
  if isBlankText text then []
  else
    let d := Document.ofText path language.name text
    let found := patternChunks language.family d t
    let chunks :=
      if found.isEmpty then d.windows 1 d.lineCount t.fallbackWindow
      else found ++ fillGaps d t found
    mergeAndOrder chunks

end RepoSearch.Chunking
