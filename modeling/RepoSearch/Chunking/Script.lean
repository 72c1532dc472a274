import RepoSearch.Chunking.Document
import RepoSearch.Chunking.Tunables
import RepoSearch.Pattern.Basic
import RepoSearch.Text.Slice
/-! Chunks of script sources. A function, class or top-level constant declaration becomes
a symbol chunk over its line and the lookahead lines after it; consecutive import
statements, blank lines between them included, become one import chunk naming each
imported module; and a doc comment opened by a slash and two stars becomes a comment
chunk. Comments alone are no match: a file with nothing else gets none of these chunks. -/
namespace RepoSearch.Chunking

open RepoSearch.Pattern RepoSearch.Text

namespace Script

/-- An identifier: a letter, underscore or dollar sign, then word characters or dollar signs. -/
def identifier : Regex :=
  .all [.one (.union (.range 'A' 'Z') (.union (.range 'a' 'z') (.oneOf ['_', '$']))),
    .many (.union .word (.single '$'))]

def modifier (keyword : String) : Regex := .optional (.all [.lit keyword, .many1 .blank])

def quote : CharSet := .oneOf ['\'', '"']

def quotedModule : Regex :=
  .all [.one quote, .group "module" (.many1 (.noneOf ['\'', '"'])), .one quote]

/-- A function declaration; its name is recorded as `name`. -/
def functionPattern : Regex :=
  .all [.textStart, .many .blank, modifier "export", modifier "default", modifier "async",
    .lit "function", .wordBoundary, .many .blank, .rep (.single '*') 0 (some 1) true,
    .many .blank, .group "name" identifier]

/-- A class declaration; its name is recorded as `name`. -/
def classPattern : Regex :=
  .all [.textStart, .many .blank, modifier "export", modifier "default", modifier "abstract",
    .lit "class", .many1 .blank, .group "name" identifier]

/-- A constant declaration at the start of a line; its name is recorded as `name` and the
text after `=` as `value`. -/
def constPattern : Regex :=
  .all [.textStart, modifier "export", .lit "const", .many1 .blank, .group "name" identifier,
    .many .blank, .optional (.all [.lit ":", .many (.noneOf ['='])]), .lit "=", .many .blank,
    .group "value" (.many .notNewline), .textEnd]

/-- A value that is a function: a function expression or an arrow function. -/
def functionValuePattern : Regex :=
  .all [.textStart, modifier "async",
    .first [.all [.lit "function", .wordBoundary],
      .all [.lit "(", .many .notNewline, .lit ")", .many .blank,
        .optional (.all [.lit ":", .many .blank, .many1 (.noneOf ['='])]), .lit "=>"],
      .all [identifier, .many .blank, .lit "=>"]]]

def importStartPattern : Regex :=
  .all [.textStart, .many .blank, .lit "import",
    .first [.many1 .blank, .all [.many .blank, .lit "\x7b"], .all [.many .blank, .lit "*"],
      .all [.many .blank, .one quote]]]

/-- An import statement naming its module on the same line. -/
def importModulePattern : Regex :=
  .all [.textStart, .many .blank, .lit "import", .wordBoundary,
    .optional (.all [.fewest (.noneOf ['\'', '"']), .wordBoundary, .lit "from", .many .blank]),
    .many .blank, quotedModule]

def fromPattern : Regex := .all [.wordBoundary, .lit "from", .many .blank, quotedModule]

def requirePattern : Regex :=
  .all [.textStart, .many .blank, .first [.lit "const", .lit "let", .lit "var"], .many1 .blank,
    .many1 (.noneOf ['=']), .lit "=", .many .blank, .lit "require(", .many .blank,
    quotedModule, .many .blank, .lit ")"]

/-- A symbol at one place of a line: it ends after its name, and its context is the given
line trimmed and cut to the context limit. -/
def pointSymbol (t : Tunables) (name : String) (kind : SymbolKind) (lineNo column : Nat)
    (context : String) : Symbol :=
  { name, kind, startLine := lineNo, startColumn := column, endLine := lineNo,
    endColumn := column + name.length, context := truncateChars (trimBlank context) t.contextChars }

/-- The text and start column of a recorded span of a line. -/
def spanText (cs : Array Char) (m : Match) (name : String) : Option (String × Nat) :=
  (m.spans.get? name).map fun (a, b) => (slice cs a b, a + 1)

/-- An import statement starting at a line: the line it ends on and the module symbol. -/
def importStatement (d : Document) (t : Tunables) (lineNo : Nat) : Option (Nat × Symbol) :=
  let line := d.line lineNo
  let cs := line.toList.toArray
  match requirePattern.matchAt cs 0 with
  | some m => (spanText cs m "module").map fun (module, col) =>
      (lineNo, pointSymbol t module .«import» lineNo col line)
  | none =>
    if !(importStartPattern.matchAt cs 0).isSome then none
    else
      match (importModulePattern.matchAt cs 0).bind (fun m => spanText cs m "module") with
      | some (module, col) => some (lineNo, pointSymbol t module .«import» lineNo col line)
      | none =>
        let last := min (lineNo + t.lookahead) d.lineCount
        (List.range (last - lineNo)).findSome? fun i =>
          let n := lineNo + 1 + i
          let text := (d.line n).toList.toArray
          (fromPattern.find? text).bind (fun m => spanText text m "module") |>.map
            fun (module, col) => (n, pointSymbol t module .«import» n col line)

def declaration (t : Tunables) (line : String) (lineNo : Nat) : Option Symbol :=
  let cs := line.toList.toArray
  let found : Option (Match × SymbolKind) :=
    match functionPattern.matchAt cs 0 with
    | some m => some (m, .function)
    | none =>
      match classPattern.matchAt cs 0 with
      | some m => some (m, .«class»)
      | none =>
        (constPattern.matchAt cs 0).map fun m =>
          let value := match m.spans.get? "value" with
            | some (a, b) => cs.extract a b
            | none => #[]
          (m, if (functionValuePattern.matchAt value 0).isSome then .function else .«variable»)
  found.bind fun (m, kind) =>
    (spanText cs m "name").map fun (name, col) => pointSymbol t name kind lineNo col line

/-- The last line of a doc comment opening on line `lineNo`: the opening must have only
blanks before it, and the comment ends on the first line holding a closing star-slash,
or at the end of the file. -/
def docCommentEnd (d : Document) (lineNo : Nat) : Option Nat := do
  let line := d.line lineNo
  let cs := line.toList
  let opening ← findSublist? cs "/**".toList
  if !(trimBlankList (cs.take opening)).isEmpty then none
  else if (findSublist? (cs.drop (opening + 3)) "*/".toList).isSome then some lineNo
  else
    some (((List.range (d.lineCount - lineNo)).map (· + lineNo + 1)).find?
      (fun n => containsText (d.line n) "*/") |>.getD d.lineCount)

/-- A run of import statements: first and last line and the imported modules. -/
structure ImportRun where
  start : Nat
  stop : Nat
  symbols : List Symbol

/-- What the scan has collected: finished chunks, comment chunks and an open import run. -/
structure Scan where
  chunks : List Chunk := []
  comments : List Chunk := []
  run : Option ImportRun := none

/-- The scan with its open import run, if any, closed into an import chunk. -/
def Scan.closeRun (d : Document) (s : Scan) : Scan :=
  match s.run with
  | some r => { s with chunks := s.chunks ++ [d.chunk r.start r.stop .«import» r.symbols], run := none }
  | none => s

/-- Scan lines from `lineNo` on; `fuel` bounds the number of steps. -/
def scanFrom (d : Document) (t : Tunables) : Nat → Nat → Scan → Scan
  | 0, _, s => s
  | fuel + 1, lineNo, s =>
    if lineNo > d.lineCount then s
    else
      match importStatement d t lineNo with
      | some (stop, symbol) =>
        let run := match s.run with
          | some r => { r with stop, symbols := r.symbols ++ [symbol] }
          | none => ⟨lineNo, stop, [symbol]⟩
        scanFrom d t fuel (stop + 1) { s with run := some run }
      | none =>
        let line := d.line lineNo
        if isBlankText line then scanFrom d t fuel (lineNo + 1) s
        else
          let s := s.closeRun d
          let s := match declaration t line lineNo with
            | some symbol =>
              let stop := min (lineNo + t.lookahead) d.lineCount
              { s with chunks := s.chunks ++ [d.chunk lineNo stop .symbol [symbol]] }
            | none => s
          let s := match docCommentEnd d lineNo with
            | some stop => { s with comments := s.comments ++ [d.chunk lineNo stop .comment []] }
            | none => s
          scanFrom d t fuel (lineNo + 1) s

end Script

/-- The declaration, import and comment chunks of a script source; none when it has no
declaration or import. -/
def scriptChunks (d : Document) (t : Tunables) : List Chunk :=
  let s := (Script.scanFrom d t (d.lineCount + 1) 1 {}).closeRun d
  if s.chunks.isEmpty then [] else s.chunks ++ s.comments

end RepoSearch.Chunking
