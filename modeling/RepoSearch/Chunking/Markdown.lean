import RepoSearch.Chunking.Document
import RepoSearch.Chunking.Tunables
import RepoSearch.Pattern.Basic
import RepoSearch.Text.Slice
/-! Chunks of prose documents: one block per heading section, from the heading to the line
before the next heading, each with an element symbol naming the heading; text before the
first heading is a block of its own. Headings are lines of one to six `#` after at most
three spaces, outside fenced code. -/
namespace RepoSearch.Chunking

open RepoSearch.Pattern RepoSearch.Text

namespace Markdown

/-- A heading line; its text, without closing hashes, is recorded as `text`. -/
def headingPattern : Regex :=
  .all [.textStart, .rep (.single ' ') 0 (some 3) true, .rep (.single '#') 1 (some 6) true,
    .many1 .blank, .group "text" (.fewest .notNewline), .many .blank, .many (.single '#'),
    .many .blank, .textEnd]

/-- A fence line; its marker is recorded as `fence`. -/
def fencePattern : Regex :=
  .all [.textStart, .rep (.single ' ') 0 (some 3) true,
    .group "fence" (.first [.lit "```", .lit "~~~"])]

/-- The fence state after a fence line with the given marker: a marker equal to the open
one closes the fence, another leaves it open, and with none open it opens one. -/
def toggleFence (open_ : Option String) (marker : String) : Option String :=
  match open_ with
  | some o => if o == marker then none else some o
  | none => some marker

/-- Headings (line number and trimmed text) among the lines numbered from `n`. -/
def headingsFrom (fence : Option String) : Nat → List String → List (Nat × String)
  | _, [] => []
  | n, line :: rest =>
    let cs := line.toList.toArray
    match fencePattern.matchAt cs 0 with
    | some m =>
      let marker := match m.spans.get? "fence" with
        | some (a, b) => slice cs a b
        | none => ""
      headingsFrom (toggleFence fence marker) (n + 1) rest
    | none =>
      if fence.isSome then headingsFrom fence (n + 1) rest
      else
        let found := (headingPattern.matchAt cs 0).bind fun m =>
          (m.spans.get? "text").map fun (a, b) => trimBlank (slice cs a b)
        match found with
        | some text =>
          if text.isEmpty then headingsFrom fence (n + 1) rest
          else (n, text) :: headingsFrom fence (n + 1) rest
        | none => headingsFrom fence (n + 1) rest

/-- The heading lines of a document, outside fenced code. -/
def headings (d : Document) : List (Nat × String) :=
  headingsFrom none 1 d.lines.toList

/-- The section chunk of a heading that ends at line `stop`. -/
def sectionChunk (d : Document) (t : Tunables) (lineNo : Nat) (text : String) (stop : Nat) :
    Chunk :=
  let line := d.line lineNo
  let startColumn := ((findText? line text).map (· + 1)).getD 1
  let name := truncateChars text t.displayChars
  let symbol : Symbol :=
    { name, kind := .element, startLine := lineNo, startColumn, endLine := lineNo,
      endColumn := startColumn + name.length,
      context := truncateChars (trimBlank line) t.contextChars }
  d.chunk lineNo stop .block [symbol]

/-- Section chunks for headings, each ending before the next heading or at `total`. -/
def sections (d : Document) (t : Tunables) (total : Nat) : List (Nat × String) → List Chunk
  | [] => []
  | (n, text) :: rest =>
    let stop := match rest with
      | (next, _) :: _ => next - 1
      | [] => total
    sectionChunk d t n text stop :: sections d t total rest

end Markdown

/-- The section chunks of a prose document; none when it has no heading. -/
def markdownChunks (d : Document) (t : Tunables) : List Chunk :=
  match Markdown.headings d with
  | [] => []
  | hs@((first, _) :: _) =>
    let lead :=
      if first > 1 && d.hasContent 1 (first - 1) then [d.chunk 1 (first - 1) .block []] else []
    lead ++ Markdown.sections d t d.lineCount hs

end RepoSearch.Chunking
