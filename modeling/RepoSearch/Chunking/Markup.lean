import RepoSearch.Chunking.Document
import RepoSearch.Chunking.Tunables
import RepoSearch.Pattern.Basic
import RepoSearch.Text.Slice
/-! Chunks of element templates. The head, title, headings, header, navigation and script
elements each become a symbol chunk over the lines they span, named by their text with
tags removed; `id`, `class`, `src` and `href` values inside them become attribute
symbols. Tag names match without regard to case, and an element ends at the first
closing tag of its name. -/
namespace RepoSearch.Chunking

open RepoSearch.Pattern RepoSearch.Text

namespace Markup

/-- An element whose name matches `tag`, from its opening tag to the first closing tag
matching `closing`; its name is recorded as `tag` and its inner text as `inner`. -/
def elementPattern (tag closing : Regex) : Regex :=
  .all [.lit "<", .group "tag" tag, .wordBoundary, .many (.noneOf ['>']), .lit ">",
    .group "inner" (.fewest .any), .lit "</", closing, .many .blank, .lit ">"]

def headingName : Regex := .all [.one (.caseless 'h'), .one (.range '1' '6')]

/-- The element patterns, in the order their chunks are produced. -/
def elementPatterns : List Regex :=
  [elementPattern (.litCaseless "head") (.litCaseless "head"),
   elementPattern (.litCaseless "title") (.litCaseless "title"),
   elementPattern headingName headingName,
   elementPattern (.litCaseless "header") (.litCaseless "header"),
   elementPattern (.litCaseless "nav") (.litCaseless "nav"),
   elementPattern (.litCaseless "script") (.litCaseless "script")]

/-- A tag: from `<` to the next `>`. -/
def tagPattern : Regex := .all [.lit "<", .many (.noneOf ['>']), .lit ">"]

/-- An `id`, `class`, `src` or `href` attribute with a quoted value. -/
def attributePattern : Regex :=
  .all [.wordBoundary,
    .group "attr" (.first [.litCaseless "id", .litCaseless "class", .litCaseless "src",
      .litCaseless "href"]),
    .many .blank, .lit "=", .many .blank,
    .first [.all [.lit "\"", .group "dq" (.many (.noneOf ['"'])), .lit "\""],
      .all [.lit "'", .group "sq" (.many (.noneOf ['\''])), .lit "'"]]]

end Markup

/-- Text with every tag replaced by a space, then blanks collapsed and trimmed. -/
def stripTags (html : String) : String :=
  collapseBlank (Markup.tagPattern.replaceAll html.toList.toArray " ")

namespace Markup

/-- The attribute symbol of one attribute match inside an element that starts at character
`base` of the document; none when the value is blank. -/
def attributeSymbol (d : Document) (t : Tunables) (base : Nat) (element : Array Char) (m : Match) :
    Option Symbol := do
  let (a0, a1) ← m.spans.get? "attr"
  let (v0, v1) ← (m.spans.get? "dq").orElse (fun _ => m.spans.get? "sq")
  let attr := (slice element a0 a1).toLower
  let trimmed := trimBlank (slice element v0 v1)
  if trimmed.isEmpty then none
  else
    let (startLine, startColumn) := d.positionOfChar (base + v0)
    let (endLine, endColumn) := d.positionOfChar (base + v1)
    some { name := truncateChars trimmed t.displayChars, kind := .«attribute»,
           startLine, startColumn, endLine, endColumn,
           context := truncateChars (attr ++ "=\"" ++ trimmed ++ "\"") t.contextChars }

/-- Attribute symbols for the attributes inside an element that starts at character
`base` of the document; attributes with blank values are skipped. -/
def attributeSymbols (d : Document) (t : Tunables) (base : Nat) (element : Array Char) :
    List Symbol :=
  (attributePattern.matches element).filterMap (attributeSymbol d t base element)

def elementChunk (d : Document) (t : Tunables) (m : Match) : Option Chunk := do
  let (t0, t1) ← m.spans.get? "tag"
  let (i0, i1) ← m.spans.get? "inner"
  let tag := (slice d.chars t0 t1).toLower
  let (startLine, startColumn) := d.positionOfChar m.start
  let (endLine, endColumn) := d.positionOfChar (m.stop - 1)
  let text := stripTags (slice d.chars i0 i1)
  let name := if text.isEmpty then tag else truncateChars text t.displayChars
  let context :=
    if text.isEmpty then "<" ++ tag ++ ">"
    else truncateChars ("<" ++ tag ++ "> " ++ text) t.contextChars
  let element : Symbol :=
    { name, kind := .element, startLine, startColumn, endLine, endColumn := endColumn + 1,
      context }
  let whole := (d.chars.extract m.start m.stop)
  some (d.chunk startLine endLine .symbol (element :: attributeSymbols d t m.start whole))

end Markup

/-- The element chunks of a template, pattern by pattern and in text order within each. -/
def markupChunks (d : Document) (t : Tunables) : List Chunk :=
  Markup.elementPatterns.flatMap fun p => (p.matches d.chars).filterMap (Markup.elementChunk d t)

end RepoSearch.Chunking
