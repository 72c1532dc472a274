import RepoSearch.Chunk.Basic
import RepoSearch.Lexicon.Terms
import RepoSearch.Pattern.Basic
/-! What a query asks for: its terms, the phrases it quotes, the symbol kinds it names,
and whether it is about navigation, about functions or about a user-facing page. A quote
opens only at the start or after a character that is not a word character, so an
apostrophe inside a word opens nothing. -/
namespace RepoSearch.Search

open RepoSearch.Pattern RepoSearch.Lexicon RepoSearch.Text

/-- A phrase in single or double quotes, on one line, recorded as `sq` or `dq`. -/
def quotedPattern : Regex :=
  .all [.first [.textStart, .one (.complement .word)],
    .first [.all [.lit "'", .group "sq" (.many1 (.noneOf ['\'', '\n'])), .lit "'"],
      .all [.lit "\"", .group "dq" (.many1 (.noneOf ['"', '\n'])), .lit "\""]]]

/-- The quoted phrases of a query, trimmed, in order, blank ones left out. -/
def quotedPhrases (query : String) : List String :=
  let cs := query.toList.toArray
  (quotedPattern.matches cs).filterMap fun m =>
    ((m.spans.get? "sq").orElse (fun _ => m.spans.get? "dq")).bind fun (a, b) =>
      let p := trimBlank (slice cs a b)
      if p.isEmpty then none else some p

/-- Terms that mark a query as being about page navigation. -/
def navigationTerms : List String :=
  ["header", "headers", "heading", "headings", "nav", "navbar", "navigation", "menu"]

def kindKeyword (term : String) : Option SymbolKind :=
  if ["function", "functions", "method", "methods"].contains term then some .function
  else if ["class", "classes", "component", "components"].contains term then some .«class»
  else if ["variable", "variables", "const", "constant", "constants"].contains term then
    some .«variable»
  else if ["import", "imports", "dependency", "dependencies"].contains term then some .«import»
  else if ["element", "elements", "tag", "tags"].contains term then some .element
  else if ["attribute", "attributes"].contains term then some .«attribute»
  else none

/-- Everything read off a query's text. -/
structure QueryAnalysis where
  raw : String
  /-- The distinct terms that are not stopwords. -/
  terms : List String
  phrases : List String
  /-- The symbol kinds the query names, each once, in order. -/
  kinds : List SymbolKind
  navigation : Bool
  mentionsFunction : Bool
  /-- The query reads as a change to a user-facing page. -/
  uiIntent : Bool

def eqIgnoringAsciiCase (a b : String) : Bool := a.toLower == b.toLower && a.length == b.length

namespace QueryAnalysis

/-- Analyze a query against the keywords of user-facing work. -/
def analyze (query : String) (uiKeywords : List String) : QueryAnalysis :=
  let terms := queryTerms query
  let kinds := (terms.filterMap kindKeyword).foldl
    (fun acc k => if acc.contains k then acc else acc ++ [k]) []
  { raw := query, terms, phrases := quotedPhrases query, kinds,
    navigation := terms.any navigationTerms.contains,
    mentionsFunction := kinds.contains .function,
    uiIntent := terms.any fun t => uiKeywords.any fun k => eqIgnoringAsciiCase k t }

def isEmpty (q : QueryAnalysis) : Bool := q.terms.isEmpty && q.phrases.isEmpty

end QueryAnalysis

end RepoSearch.Search
