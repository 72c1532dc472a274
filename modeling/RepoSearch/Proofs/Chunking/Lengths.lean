import RepoSearch.Proofs.Chunking.ScriptScan
import RepoSearch.Proofs.Chunking.SymbolPlaces
import RepoSearch.Proofs.Text.Truncation
/-! How long the names and contexts of a file's symbols are. A heading, an element with text and
an attribute are named by their text cut to the display length, a declaration and an import by
the name they declare or import, and each of them takes for context its line or its text cut to
the context length. An element with no text is the exception: it is named by its tag and takes
the tag in angle brackets for context, neither cut, so on a page with an empty element the caps
can be exceeded whenever they are shorter than the tag.

Main statement: `chunkFile_symbol_lengths`. -/
namespace RepoSearch

open RepoSearch.Chunking

/-- A symbol within the lengths the tunables set: an element's name has at most `displayChars`
characters, and a context at most `contextChars`. -/
def Symbol.Capped (t : Tunables) (x : Symbol) : Prop :=
  (x.kind = .element → x.name.length ≤ t.displayChars) ∧ x.context.length ≤ t.contextChars

/-- An element named by its tag alone, with the tag in angle brackets for context. -/
def Symbol.BareElement (x : Symbol) : Prop :=
  x.kind = .element ∧ x.context = "<" ++ x.name ++ ">"

namespace Chunking

open RepoSearch.Pattern RepoSearch.Text

variable {d : Document} {t : Tunables}

/-! ### Headings -/

theorem Markdown.sections_capped (total : Nat) :
    ∀ hs, ∀ c ∈ Markdown.sections d t total hs, ∀ x ∈ c.symbols, x.Capped t := by
  intro hs
  induction hs with
  | nil => intro c mem; cases mem
  | cons h rest ih =>
    intro c mem
    rcases List.mem_cons.mp mem with rfl | later
    · -- a heading is named by its text and has its line for context, both cut
      intro x held
      simp only [Markdown.sectionChunk, Document.chunk_symbols, List.mem_singleton] at held
      subst held
      exact ⟨fun _ => length_truncateChars_le _ _, length_truncateChars_le _ _⟩
    · exact ih c later

theorem markdownChunks_capped : ∀ c ∈ markdownChunks d t, ∀ x ∈ c.symbols, x.Capped t := by
  intro c mem
  simp only [markdownChunks] at mem
  split at mem
  · cases mem
  · rcases List.mem_append.mp mem with lead | later
    · split at lead
      · rcases List.mem_singleton.mp lead with rfl
        intro x none
        cases none
      · cases lead
    · exact Markdown.sections_capped _ _ c later

/-! ### Declarations and imports -/

namespace Script

theorem pointSymbol_capped {name : String} {kind : SymbolKind} {lineNo col : Nat}
    {context : String} (notElement : kind ≠ .element) :
    (pointSymbol t name kind lineNo col context).Capped t :=
  ⟨fun element => absurd element notElement, length_truncateChars_le _ _⟩

theorem declaration_kind {line : String} {lineNo : Nat} {sym : Symbol}
    (found : declaration t line lineNo = some sym) : sym.kind ≠ .element := by
  simp only [declaration] at found
  obtain ⟨⟨m, kind⟩, kinded, made⟩ := Option.bind_eq_some_iff.mp found
  obtain ⟨⟨name, col⟩, -, rfl⟩ := Option.map_eq_some_iff.mp made
  show kind ≠ .element
  split at kinded
  · cases kinded
    decide
  · split at kinded
    · cases kinded
      decide
    · -- a constant is a function when its value is one, and a variable otherwise
      obtain ⟨m', -, valued⟩ := Option.map_eq_some_iff.mp kinded
      cases valued
      split <;> split <;> decide

/-- The symbol a visited line contributes: the module a statement imports, or the declaration
made on another line. -/
def Visit.symbol? (d : Document) (t : Tunables) : Visit → Option Symbol
  | .statement _ _ symbol => some symbol
  | .blank _ => none
  | .other lineNo => declaration t (d.line lineNo) lineNo

/-- Every symbol a scan holds, in its chunks, its comment chunks or its open run, is one of the
given visits' symbols. -/
def Scan.SymbolsOf (d : Document) (t : Tunables) (vs : List Visit) (s : Scan) : Prop :=
  (∀ c ∈ s.chunks ++ s.comments, ∀ x ∈ c.symbols, ∃ v ∈ vs, v.symbol? d t = some x) ∧
    ∀ r ∈ s.run, ∀ x ∈ r.symbols, ∃ v ∈ vs, v.symbol? d t = some x

namespace Scan.SymbolsOf

variable {vs : List Visit} {s : Scan}

theorem closeRun (h : s.SymbolsOf d t vs) : (s.closeRun d).SymbolsOf d t vs := by
  refine ⟨fun c mem => ?_, fun r none => by rw [Scan.closeRun_run] at none; cases none⟩
  rw [Scan.closeRun_chunks, Scan.closeRun_comments, List.append_assoc, List.mem_append,
    List.mem_append] at mem
  rcases mem with old | closed | comment
  · exact h.1 c (List.mem_append_left _ old)
  · cases opened : s.run with
    | none => simp [opened] at closed
    | some r =>
      simp only [opened, Option.map_some, Option.toList_some, List.mem_singleton] at closed
      subst closed
      exact h.2 r opened
  · exact h.1 c (List.mem_append_right _ comment)

theorem visit {v : Visit} (h : s.SymbolsOf d t vs) (listed : v ∈ vs) :
    (Scan.visit d t s v).SymbolsOf d t vs := by
  cases v with
  | statement lineNo stop symbol =>
    refine ⟨h.1, fun r opened x held => ?_⟩
    simp only [Scan.visit, Option.mem_def, Option.some.injEq] at opened
    subst opened
    cases was : s.run with
    | none =>
      simp only [extendRun, was, List.mem_singleton] at held
      exact ⟨_, listed, by rw [held]; rfl⟩
    | some r =>
      simp only [extendRun, was, List.mem_append, List.mem_singleton] at held
      rcases held with old | new
      · exact h.2 r was x old
      · exact ⟨_, listed, by rw [new]; rfl⟩
  | blank lineNo => exact h
  | other lineNo =>
    have closed := h.closeRun (d := d)
    refine ⟨fun c mem x held => ?_, fun r opened => ?_⟩
    · simp only [Scan.visit, List.mem_append] at mem
      rcases mem with (old | declared) | (oldComment | comment)
      · exact closed.1 c (List.mem_append_left _ old) x held
      · cases found : declaration t (d.line lineNo) lineNo with
        | none => simp [found] at declared
        | some sym =>
          simp only [found, Option.map_some, Option.toList_some, List.mem_singleton] at declared
          subst declared
          simp only [declarationChunk, Document.chunk_symbols, List.mem_singleton] at held
          exact ⟨_, listed, by rw [held]; exact found⟩
      · exact closed.1 c (List.mem_append_right _ oldComment) x held
      · cases ends : docCommentEnd d lineNo with
        | none => simp [ends] at comment
        | some stop =>
          simp only [ends, Option.map_some, Option.toList_some, List.mem_singleton] at comment
          subst comment
          cases held
    · exact closed.2 r opened

theorem foldl : ∀ (ws : List Visit) {s : Scan}, (∀ w ∈ ws, w ∈ vs) → s.SymbolsOf d t vs →
    (ws.foldl (Scan.visit d t) s).SymbolsOf d t vs := by
  intro ws
  induction ws with
  | nil => intro s _ h; exact h
  | cons w ws ih =>
    intro s listed h
    exact ih (fun w' later => listed w' (List.mem_cons_of_mem _ later))
      (h.visit (listed w List.mem_cons_self))

end Scan.SymbolsOf

theorem scriptChunks_symbols : ∀ c ∈ scriptChunks d t, ∀ x ∈ c.symbols,
    ∃ v ∈ visits d t, v.symbol? d t = some x := by
  have collected := (Scan.SymbolsOf.foldl (d := d) (t := t) (visits d t) (s := {}) (fun _ mem => mem)
    ⟨fun _ none => (by cases none), fun _ none => (by cases none)⟩).closeRun (d := d)
  intro c mem
  rw [scriptChunks_eq] at mem
  split at mem
  · cases mem
  · exact collected.1 c mem

theorem scriptChunks_capped : ∀ c ∈ scriptChunks d t, ∀ x ∈ c.symbols, x.Capped t := by
  intro c mem x held
  obtain ⟨v, reached, named⟩ := scriptChunks_symbols c mem x held
  have found := (visits_found v reached).2
  cases v with
  | statement lineNo stop symbol =>
    -- a module is named at a point of the statement's line
    cases named
    obtain ⟨⟨module, col, -, rfl⟩, -⟩ := importStatement_eq_some found.2.2
    exact pointSymbol_capped (by decide)
  | blank lineNo => cases named
  | other lineNo =>
    obtain ⟨name, kind, col, -, rfl⟩ := declaration_eq_some named
    exact pointSymbol_capped (declaration_kind named)

end Script

/-! ### Elements and attributes -/

namespace Markup

theorem attributeSymbol_capped {base : Nat} {element : Array Char} {m : Match} {sym : Symbol}
    (made : attributeSymbol d t base element m = some sym) : sym.Capped t := by
  simp only [attributeSymbol] at made
  obtain ⟨⟨a0, a1⟩, -, made⟩ := Option.bind_eq_some_iff.mp made
  obtain ⟨⟨v0, v1⟩, -, made⟩ := Option.bind_eq_some_iff.mp made
  split at made
  · cases made
  · generalize d.positionOfChar (base + v0) = start at made
    generalize d.positionOfChar (base + v1) = stop at made
    cases made
    exact ⟨fun _ => length_truncateChars_le _ _, length_truncateChars_le _ _⟩

theorem elementChunk_lengths {m : Match} {c : Chunk} (made : elementChunk d t m = some c) :
    ∀ x ∈ c.symbols, x.Capped t ∨ x.BareElement := by
  obtain ⟨⟨t0, t1⟩, -, made⟩ := Option.bind_eq_some_iff.mp made
  obtain ⟨⟨i0, i1⟩, -, made⟩ := Option.bind_eq_some_iff.mp made
  generalize d.positionOfChar m.start = start at made
  generalize d.positionOfChar (m.stop - 1) = stop at made
  cases made
  intro x mem
  rw [Document.chunk_symbols] at mem
  rcases List.mem_cons.mp mem with rfl | ofAttribute
  · by_cases empty : (stripTags (slice d.chars i0 i1)).isEmpty = true
    · exact .inr ⟨rfl, by simp only [empty, if_true]⟩
    · refine .inl ⟨fun _ => ?_, ?_⟩ <;> simp only [empty, Bool.false_eq_true, if_false] <;>
        exact length_truncateChars_le _ _
  · obtain ⟨a, -, madeA⟩ := List.mem_filterMap.mp ofAttribute
    exact .inl (attributeSymbol_capped madeA)

end Markup

theorem markupChunks_lengths : ∀ c ∈ markupChunks d t, ∀ x ∈ c.symbols, x.Capped t ∨ x.BareElement := by
  intro c mem
  obtain ⟨p, -, found⟩ := List.mem_flatMap.mp mem
  obtain ⟨m, -, made⟩ := List.mem_filterMap.mp found
  exact Markup.elementChunk_lengths made

/-! ### A file's chunks -/

theorem cutChunks_lengths (family : LanguageFamily) :
    ∀ c ∈ cutChunks t family d, ∀ x ∈ c.symbols, x.Capped t ∨ x.BareElement := by
  intro c mem x held
  simp only [cutChunks] at mem
  split at mem
  · rw [Document.windows_symbols _ _ _ c mem] at held
    cases held
  · rcases List.mem_append.mp mem with found | gap
    · cases family with
      | markup => exact markupChunks_lengths c found x held
      | procedural => exact .inl (Script.scriptChunks_capped c found x held)
      | markdown => exact .inl (markdownChunks_capped c found x held)
      | generic => cases found
    · rw [fillGaps_symbols _ c gap] at held
      cases held

theorem chunkFile_symbols_cut (t : Tunables) (path : String) (language : Language) (text : String) :
    ∀ k ∈ chunkFile t path language text, ∀ x ∈ k.symbols,
      ∃ c ∈ cutChunks t language.family (Document.ofText path language.name text), x ∈ c.symbols := by
  intro k mem x held
  cases blank : isBlankText text with
  | true => simp [chunkFile, blank] at mem
  | false =>
    have located := Document.located_ofText path language.name text
    rw [chunkFile_eq_mergeAndOrder blank, mergeAndOrder, List.mem_mergeSort] at mem
    obtain ⟨first, -, shape⟩ := mergeById_spec (cutChunks_symbols_nodup located _) k mem
    rw [shape] at held
    simp only [mergedSymbols, List.mem_eraseDups, List.mem_flatMap, List.mem_filter] at held
    obtain ⟨c, ⟨cut, -⟩, holds⟩ := held
    exact ⟨c, cut, holds⟩

/-- Every symbol of a file's chunks has a context of at most `contextChars` characters and, when
it is an element, a name of at most `displayChars`, unless it is an element with no text: such an
element is named by its tag and has the tag in angle brackets for context, neither cut. -/
theorem chunkFile_symbol_lengths (t : Tunables) (path : String) (language : Language) (text : String) :
    ∀ k ∈ chunkFile t path language text, ∀ x ∈ k.symbols,
      ((x.kind = .element → x.name.length ≤ t.displayChars) ∧ x.context.length ≤ t.contextChars) ∨
        (x.kind = .element ∧ x.context = "<" ++ x.name ++ ">") := by
  intro k mem x held
  obtain ⟨c, cut, holds⟩ := chunkFile_symbols_cut t path language text k mem x held
  exact cutChunks_lengths language.family c cut x holds

/-- A title longer than the display length is named by its first characters. -/
theorem long_title_capped :
    ∃ k ∈ chunkFile { displayChars := 4, contextChars := 10 } "index.html" ⟨"html", .markup, ["html"]⟩
        "<title>Acme Site</title>\n",
      ∃ x ∈ k.symbols, x.name = "Acme" ∧
        (((x.kind = .element → x.name.length ≤ 4) ∧ x.context.length ≤ 10) ∨
          (x.kind = .element ∧ x.context = "<" ++ x.name ++ ">")) := by
  have named : ∃ k ∈ chunkFile { displayChars := 4, contextChars := 10 } "index.html"
      ⟨"html", .markup, ["html"]⟩ "<title>Acme Site</title>\n", ∃ x ∈ k.symbols, x.name = "Acme" := by
    decide +kernel
  obtain ⟨k, listed, x, held, name⟩ := named
  exact ⟨k, listed, x, held, name, chunkFile_symbol_lengths _ "index.html" _ _ k listed x held⟩

/-- An empty head element keeps its tag for name and context whatever the caps: with both at 0,
its name has four characters and its context six. -/
theorem empty_head_exceeds_caps :
    ∃ k ∈ chunkFile { displayChars := 0, contextChars := 0 } "index.html" ⟨"html", .markup, ["html"]⟩
        "<head></head>\n",
      ∃ x ∈ k.symbols, x.kind = .element ∧ x.name = "head" ∧ x.context = "<head>" := by
  decide +kernel

end Chunking

end RepoSearch
