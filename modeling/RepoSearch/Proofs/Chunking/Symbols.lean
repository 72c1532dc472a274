import RepoSearch.Proofs.Chunking.Merge
import RepoSearch.Proofs.Chunking.Positions
import RepoSearch.Proofs.Pattern.Spans
import Mathlib.Data.List.Find
import Mathlib.Data.List.Nodup
/-! The symbols of a file's chunks. No chunk a strategy cuts lists a symbol twice: windows and
gap fillers list none, a section names its heading once, the modules of an import run lie on
successive lines, and the attributes of an element start at distinct places of the text, so at
distinct lines and columns. Merging then gives, for each place and kind, the first chunk cut
there with the symbols of all the chunks cut there, each once:

* `Markup.attributeSymbols_nodup`, `Script.scanFrom_distinct`: the two strategies whose chunks
  list several symbols;
* `cutChunks_symbols_nodup`: every chunk cut from a document made from a text;
* `chunkFile_merges_by_place`: the chunks of a file, merged by place and kind and ordered. -/
namespace RepoSearch.Chunking

open RepoSearch.Pattern RepoSearch.Text Chunk

variable {d : Document} {t : Tunables}

@[simp] theorem Document.chunk_symbols (d : Document) (start stop : Nat) (kind : ChunkKind)
    (symbols : List Symbol) : (d.chunk start stop kind symbols).symbols = symbols := rfl

/-! ### Windows and sections -/

theorem Document.windowsFrom_symbols (stop window : Nat) :
    ∀ fuel line, ∀ c ∈ d.windowsFrom stop window fuel line, c.symbols = []
  | 0, _, c, mem => by simp [Document.windowsFrom] at mem
  | fuel + 1, line, c, mem => by
    simp only [Document.windowsFrom] at mem
    split at mem
    · rcases List.mem_cons.mp mem with rfl | later
      · rfl
      · exact Document.windowsFrom_symbols stop window fuel _ c later
    · cases mem

theorem Document.windows_symbols (start stop window : Nat) :
    ∀ c ∈ d.windows start stop window, c.symbols = [] :=
  Document.windowsFrom_symbols _ _ _ _

theorem fillGaps_symbols (chunks : List Chunk) : ∀ c ∈ fillGaps d t chunks, c.symbols = [] := by
  intro c mem
  obtain ⟨⟨first, last⟩, -, windowed⟩ := List.mem_flatMap.mp mem
  dsimp only at windowed
  split at windowed
  · exact Document.windows_symbols _ _ _ c windowed
  · cases windowed

theorem markdownChunks_symbols_nodup : ∀ c ∈ markdownChunks d t, c.symbols.Nodup := by
  have sections : ∀ total hs, ∀ c ∈ Markdown.sections d t total hs, c.symbols.Nodup := by
    intro total hs
    induction hs with
    | nil => intro c mem; cases mem
    | cons h rest ih =>
      intro c mem
      rcases List.mem_cons.mp mem with rfl | later
      · exact List.nodup_singleton _
      · exact ih c later
  intro c mem
  simp only [markdownChunks] at mem
  split at mem
  · cases mem
  · rcases List.mem_append.mp mem with lead | later
    · split at lead
      · rcases List.mem_singleton.mp lead with rfl
        exact List.nodup_nil
      · cases lead
    · exact sections _ _ c later

/-! ### Import runs -/

namespace Script

theorem spanText_column_pos {cs : Array Char} {m : Match} {name text : String} {col : Nat}
    (found : spanText cs m name = some (text, col)) : 1 ≤ col := by
  obtain ⟨⟨a, b⟩, -, made⟩ := Option.map_eq_some_iff.mp found
  cases made
  exact Nat.le_add_left 1 a

/-- An import statement names its module by a symbol at a column of the line it ends on, at or
after the line it starts on and, when that one is in the document, within the lookahead and the
document. -/
theorem importStatement_eq_some {lineNo stop : Nat} {symbol : Symbol}
    (found : importStatement d t lineNo = some (stop, symbol)) :
    (∃ module col, 1 ≤ col ∧ symbol = pointSymbol t module .import stop col (d.line lineNo)) ∧
      lineNo ≤ stop ∧ (lineNo ≤ d.lineCount → stop ≤ min (lineNo + t.lookahead) d.lineCount) := by
  simp only [importStatement] at found
  split at found
  · obtain ⟨⟨module, col⟩, named, made⟩ := Option.map_eq_some_iff.mp found
    cases made
    exact ⟨⟨module, col, spanText_column_pos named, rfl⟩, Nat.le_refl _, fun _ => by omega⟩
  · split at found
    · cases found
    · split at found
      · next module col named =>
        cases found
        obtain ⟨m, -, spanned⟩ := Option.bind_eq_some_iff.mp named
        exact ⟨⟨module, col, spanText_column_pos spanned, rfl⟩, Nat.le_refl _, fun _ => by omega⟩
      · -- a statement over several lines ends on the line of its `from` clause, within the lookahead
        obtain ⟨i, listed, made⟩ := List.exists_of_findSome?_eq_some found
        obtain ⟨⟨module, col⟩, named, made⟩ := Option.map_eq_some_iff.mp made
        obtain ⟨m, -, spanned⟩ := Option.bind_eq_some_iff.mp named
        cases made
        have := List.mem_range.mp listed
        exact ⟨⟨module, col, spanText_column_pos spanned, rfl⟩, by omega, fun _ => by omega⟩

/-- The symbols of an open import run lie on strictly increasing lines, all before `lineNo`. -/
structure ImportRun.Before (lineNo : Nat) (r : ImportRun) : Prop where
  ascending : r.symbols.Pairwise (fun a b => a.startLine < b.startLine)
  before : ∀ x ∈ r.symbols, x.startLine < lineNo

theorem ImportRun.Before.nodup {lineNo : Nat} {r : ImportRun} (h : r.Before lineNo) : r.symbols.Nodup := by
  unfold List.Nodup
  refine h.ascending.imp fun {a b} lt => ?_
  rintro rfl
  exact Nat.lt_irrefl _ lt

theorem ImportRun.Before.later {lineNo m : Nat} {r : ImportRun} (h : r.Before lineNo) (le : lineNo ≤ m) :
    r.Before m :=
  ⟨h.ascending, fun x mem => Nat.lt_of_lt_of_le (h.before x mem) le⟩

theorem ImportRun.Before.single {lineNo stop : Nat} {symbol : Symbol} (starts : symbol.startLine = stop) :
    (⟨lineNo, stop, [symbol]⟩ : ImportRun).Before (stop + 1) :=
  ⟨List.pairwise_singleton _ _, fun x mem => by rw [List.mem_singleton.mp mem, starts]; omega⟩

theorem ImportRun.Before.push {lineNo stop : Nat} {symbol : Symbol} {r : ImportRun} (h : r.Before lineNo)
    (starts : symbol.startLine = stop) (after : lineNo ≤ stop) :
    ({ r with stop, symbols := r.symbols ++ [symbol] } : ImportRun).Before (stop + 1) := by
  refine ⟨List.pairwise_append.mpr ⟨h.ascending, List.pairwise_singleton _ _, ?_⟩, fun x mem => ?_⟩
  · intro x old y new
    rw [List.mem_singleton.mp new, starts]
    exact Nat.lt_of_lt_of_le (h.before x old) after
  · rcases List.mem_append.mp mem with old | new
    · have := h.before x old
      omega
    · rw [List.mem_singleton.mp new, starts]
      omega

/-- No chunk a scan has collected lists a symbol twice, and its open run lies before `lineNo`. -/
structure Scan.Distinct (lineNo : Nat) (s : Scan) : Prop where
  chunks : ∀ c ∈ s.chunks, c.symbols.Nodup
  comments : ∀ c ∈ s.comments, c.symbols.Nodup
  run : ∀ r, s.run = some r → r.Before lineNo

namespace Scan.Distinct

variable {lineNo : Nat} {s : Scan}

theorem later (h : s.Distinct lineNo) {m : Nat} (le : lineNo ≤ m) : s.Distinct m :=
  ⟨h.chunks, h.comments, fun r open_ => (h.run r open_).later le⟩

theorem setRun (h : s.Distinct lineNo) {m : Nat} {r : ImportRun} (before : r.Before m) :
    ({ s with run := some r } : Scan).Distinct m :=
  ⟨h.chunks, h.comments, fun _ same => Option.some.inj same ▸ before⟩

theorem add_chunk (h : s.Distinct lineNo) {c : Chunk} (distinct : c.symbols.Nodup) :
    ({ s with chunks := s.chunks ++ [c] } : Scan).Distinct lineNo := by
  refine ⟨fun x mem => ?_, h.comments, h.run⟩
  rcases List.mem_append.mp mem with old | new
  · exact h.chunks x old
  · rw [List.mem_singleton.mp new]
    exact distinct

theorem add_comment (h : s.Distinct lineNo) {c : Chunk} (distinct : c.symbols.Nodup) :
    ({ s with comments := s.comments ++ [c] } : Scan).Distinct lineNo := by
  refine ⟨h.chunks, fun x mem => ?_, h.run⟩
  rcases List.mem_append.mp mem with old | new
  · exact h.comments x old
  · rw [List.mem_singleton.mp new]
    exact distinct

theorem closeRun (h : s.Distinct lineNo) (m : Nat) : (s.closeRun d).Distinct m := by
  simp only [Scan.closeRun]
  split
  · next r open_ =>
    refine ⟨fun c mem => ?_, h.comments, fun _ none => by cases none⟩
    rcases List.mem_append.mp mem with old | new
    · exact h.chunks c old
    · rw [List.mem_singleton.mp new, Document.chunk_symbols]
      exact (h.run r open_).nodup
  · next closed =>
    exact ⟨h.chunks, h.comments, fun r open_ => by rw [closed] at open_; cases open_⟩

end Scan.Distinct

theorem scanFrom_distinct : ∀ fuel lineNo (s : Scan), s.Distinct lineNo →
    ∃ m, (scanFrom d t fuel lineNo s).Distinct m := by
  intro fuel
  induction fuel with
  | zero => intro lineNo s h; exact ⟨lineNo, h⟩
  | succ fuel ih =>
    intro lineNo s h
    simp only [scanFrom]
    split
    · exact ⟨lineNo, h⟩
    · split
      · next stop symbol found =>
        obtain ⟨⟨module, col, -, rfl⟩, after, -⟩ := importStatement_eq_some found
        have starts : (pointSymbol t module .import stop col (d.line lineNo)).startLine = stop := rfl
        apply ih
        apply h.setRun
        split
        · next r open_ => exact (h.run r open_).push starts after
        · exact ImportRun.Before.single starts
      · split
        · exact ih _ _ (h.later (Nat.le_succ _))
        · apply ih
          have closed := h.closeRun (d := d) (lineNo + 1)
          split
          · refine Scan.Distinct.add_comment ?_ (by simp)
            split
            · exact closed.add_chunk (by simp)
            · exact closed
          · split
            · exact closed.add_chunk (by simp)
            · exact closed

end Script

theorem scriptChunks_symbols_nodup : ∀ c ∈ scriptChunks d t, c.symbols.Nodup := by
  intro c mem
  obtain ⟨m, scanned⟩ := Script.scanFrom_distinct (d := d) (t := t) (d.lineCount + 1) 1 {}
    ⟨fun _ none => (by cases none), fun _ none => (by cases none), fun _ none => (by cases none)⟩
  have closed := scanned.closeRun (d := d) m
  simp only [scriptChunks] at mem
  split at mem
  · cases mem
  · rcases List.mem_append.mp mem with found | comment
    · exact closed.chunks c found
    · exact closed.comments c comment

/-! ### Elements and their attributes -/

namespace Markup

theorem lt_of_slice_nonblank {text : Array Char} {a b : Nat}
    (nonblank : (trimBlank (slice text a b)).isEmpty = false) : a < b := by
  refine Nat.lt_of_not_le fun le => ?_
  have empty : slice text a b = "" := by simp [slice, Nat.sub_eq_zero_of_le le]
  rw [empty] at nonblank
  exact absurd nonblank (by decide)

/-- An attribute symbol runs from the first character of a nonblank quoted value its match
records to the character after it. -/
theorem attributeSymbol_eq_some {base : Nat} {element : Array Char} {m : Match} {sym : Symbol}
    (made : attributeSymbol d t base element m = some sym) :
    ∃ name v0 v1, (name = "dq" ∨ name = "sq") ∧ m.spans.get? name = some (v0, v1) ∧ v0 < v1 ∧
      sym.kind = .attribute ∧ (sym.startLine, sym.startColumn) = d.positionOfChar (base + v0) ∧
      (sym.endLine, sym.endColumn) = d.positionOfChar (base + v1) := by
  simp only [attributeSymbol] at made
  obtain ⟨⟨a0, a1⟩, -, made⟩ := Option.bind_eq_some_iff.mp made
  obtain ⟨⟨v0, v1⟩, value, made⟩ := Option.bind_eq_some_iff.mp made
  -- the value is the double-quoted one when there is one, and the single-quoted one otherwise
  have named : ∃ name, (name = "dq" ∨ name = "sq") ∧ m.spans.get? name = some (v0, v1) := by
    cases dq : m.spans.get? "dq" with
    | some span => exact ⟨"dq", .inl rfl, by rw [dq] at value ⊢; simpa using value⟩
    | none => exact ⟨"sq", .inr rfl, by rw [dq] at value; simpa using value⟩
  obtain ⟨name, quoted, named⟩ := named
  split at made
  · cases made
  · next nonblank =>
    refine ⟨name, v0, v1, quoted, named, lt_of_slice_nonblank (by simpa using nonblank), ?_⟩
    generalize d.positionOfChar (base + v0) = start at made ⊢
    generalize d.positionOfChar (base + v1) = stop at made ⊢
    obtain ⟨startLine, startColumn⟩ := start
    obtain ⟨endLine, endColumn⟩ := stop
    cases made
    exact ⟨rfl, rfl, rfl⟩

theorem attributeSymbols_nodup (located : d.Located) {base : Nat} {element : Array Char}
    (inside : base + element.size ≤ d.chars.size) : (attributeSymbols d t base element).Nodup := by
  have apart := (@matches_pairwise element attributePattern).imp_of_mem
    fun {a b} memA memB before => And.intro before (And.intro (matches_inText _ a memA) (matches_inText _ b memB))
  refine apart.filterMap _ fun a b ⟨before, inA, inB⟩ x madeX y madeY same => ?_
  obtain ⟨_, v0, v1, -, valueX, shortX, -, placeX, -⟩ := attributeSymbol_eq_some madeX
  obtain ⟨_, w0, w1, -, valueY, shortY, -, placeY, -⟩ := attributeSymbol_eq_some madeY
  have boundsX := inA.spans.get? valueX
  have boundsY := inB.spans.get? valueY
  have stopX := inA.bounded
  -- the two values start at one place of the document, so at one place of the element
  have placed : base + v0 = base + w0 := by
    refine located.positionOfChar_injective (by omega) (by have := inB.bounded; omega) ?_
    rw [← placeX, ← placeY, same]
  omega

theorem elementChunk_symbols_nodup (located : d.Located) {m : Match} (inText : m.InText d.chars) {c : Chunk}
    (made : elementChunk d t m = some c) : c.symbols.Nodup := by
  obtain ⟨tag, -, made⟩ := Option.bind_eq_some_iff.mp made
  obtain ⟨inner, -, made⟩ := Option.bind_eq_some_iff.mp made
  cases made
  rw [Document.chunk_symbols, List.nodup_cons]
  refine ⟨fun mem => ?_, attributeSymbols_nodup located ?_⟩
  · obtain ⟨a, -, madeA⟩ := List.mem_filterMap.mp mem
    obtain ⟨_, _, _, -, -, -, kind, -, -⟩ := attributeSymbol_eq_some madeA
    cases kind
  · have := inText.ordered
    have := inText.bounded
    simp only [Array.size_extract]
    omega

end Markup

theorem markupChunks_symbols_nodup (located : d.Located) : ∀ c ∈ markupChunks d t, c.symbols.Nodup := by
  intro c mem
  obtain ⟨p, -, found⟩ := List.mem_flatMap.mp mem
  obtain ⟨m, matched, made⟩ := List.mem_filterMap.mp found
  exact Markup.elementChunk_symbols_nodup located (matches_inText p m matched) made

/-! ### Every chunk cut from a document -/

theorem patternChunks_symbols_nodup (located : d.Located) (family : LanguageFamily) :
    ∀ c ∈ patternChunks family d t, c.symbols.Nodup := by
  cases family with
  | markup => exact markupChunks_symbols_nodup located
  | procedural => exact scriptChunks_symbols_nodup
  | markdown => exact markdownChunks_symbols_nodup
  | generic => intro c mem; cases mem

theorem cutChunks_symbols_nodup (located : d.Located) (family : LanguageFamily) :
    ∀ c ∈ cutChunks t family d, c.symbols.Nodup := by
  intro c mem
  simp only [cutChunks] at mem
  split at mem
  · rw [Document.windows_symbols _ _ _ c mem]
    exact List.nodup_nil
  · rcases List.mem_append.mp mem with found | gap
    · exact patternChunks_symbols_nodup located family c found
    · rw [fillGaps_symbols _ c gap]
      exact List.nodup_nil

/-! ### The chunks of a file -/

/-- Whether chunk `c` lies over the lines of chunk `k` with its kind. -/
def samePlace (c k : Chunk) : Bool :=
  c.startLine == k.startLine && c.endLine == k.endLine && c.kind == k.kind

theorem samePlace_iff_id {path : String} {c k : Chunk} (ofC : c.OfFile path) (ofK : k.OfFile path) :
    samePlace c k = true ↔ c.id = k.id := by
  rw [ofC.id, ofK.id, makeId_inj]
  simp [samePlace, and_assoc]

/-- The chunks of a file with text are the chunks cut from it, merged by place and kind and
ordered. Their ids are distinct and made from the path, lines and kind; they lie strictly one
after another; each place and kind cut is carried by exactly one of them, the first chunk cut
there with the symbols of all the chunks cut there in order, each once; so none lists a symbol
twice. -/
theorem chunkFile_merges_by_place (t : Tunables) (path : String) (language : Language) (text : String)
    (notBlank : isBlankText text = false) :
    let chunks := chunkFile t path language text
    let cut := cutChunks t language.family (Document.ofText path language.name text)
    (chunks.map (·.id)).Nodup ∧
      (∀ k ∈ chunks, k.id = makeId path k.startLine k.endLine k.kind) ∧
      chunks.Pairwise Precedes ∧
      (∀ c ∈ cut, ∃! k, k ∈ chunks ∧ samePlace c k = true) ∧
      (∀ k ∈ chunks, ∃ first, cut.find? (samePlace · k) = some first ∧
        k = { first with symbols := ((cut.filter (samePlace · k)).flatMap (·.symbols)).eraseDups }) ∧
      ∀ k ∈ chunks, k.symbols.Nodup := by
  intro chunks cut
  have made : chunks = mergeAndOrder cut := chunkFile_eq_mergeAndOrder notBlank
  have kept : ∀ k, k ∈ chunks ↔ k ∈ mergeById cut := fun k => by
    rw [made, mergeAndOrder, List.mem_mergeSort]
  have cutOfFile : ∀ c ∈ cut, c.OfFile path := fun c mem => (cutChunks_cuts _ c mem).ofFile
  have outOfFile : ∀ k ∈ chunks, k.OfFile path := chunkFile_ofFile t path language text
  have distinctIds := chunkFile_ids_nodup t path language text
  -- a chunk kept is the first of its place, with the symbols of every chunk cut there
  have merged : ∀ k ∈ chunks, ∃ first, cut.find? (samePlace · k) = some first ∧
      k = { first with symbols := ((cut.filter (samePlace · k)).flatMap (·.symbols)).eraseDups } := by
    intro k mem
    obtain ⟨first, found, shape⟩ :=
      mergeById_spec (cutChunks_symbols_nodup (Document.located_ofText _ _ _) _) k ((kept k).mp mem)
    have same : ∀ c ∈ cut, samePlace c k = (c.id == k.id) := fun c memC => by
      rw [Bool.eq_iff_iff, samePlace_iff_id (cutOfFile c memC) (outOfFile k mem), beq_iff_eq]
    refine ⟨first, by rw [List.find?_congr same]; exact found, ?_⟩
    rw [List.filter_congr same]
    exact shape
  refine ⟨distinctIds, fun k mem => (outOfFile k mem).id, by rw [made]; exact mergeAndOrder_ordered cutOfFile,
    fun c mem => ?_, merged, fun k mem => ?_⟩
  · -- merging keeps the id of every chunk cut, and no two chunks kept share one
    obtain ⟨k, keptK, same⟩ := mergeById_ids cut c mem
    have memK := (kept k).mpr keptK
    refine ⟨k, ⟨memK, (samePlace_iff_id (cutOfFile c mem) (outOfFile k memK)).mpr same.symm⟩, ?_⟩
    rintro k' ⟨memK', place⟩
    have same' := (samePlace_iff_id (cutOfFile c mem) (outOfFile k' memK')).mp place
    exact List.inj_on_of_nodup_map distinctIds memK' memK (same'.symm.trans same.symm)
  · obtain ⟨first, -, shape⟩ := merged k mem
    rw [shape]
    exact nodup_eraseDups _

/-- A title and a heading with an `id` on one line of a template: both element chunks lie over that
line, so they are merged into one. -/
theorem same_line_elements_merged :
    isBlankText "<title>Home</title><h1 id=\"top\">Home</h1>\n" = false ∧
      let chunks := chunkFile {} "index.html" ⟨"html", .markup, ["html"]⟩
        "<title>Home</title><h1 id=\"top\">Home</h1>\n"
      let cut := cutChunks {} .markup
        (Document.ofText "index.html" "html" "<title>Home</title><h1 id=\"top\">Home</h1>\n")
      (chunks.map (·.id)).Nodup ∧
        (∀ k ∈ chunks, k.id = makeId "index.html" k.startLine k.endLine k.kind) ∧
        chunks.Pairwise Precedes ∧
        (∀ c ∈ cut, ∃! k, k ∈ chunks ∧ samePlace c k = true) ∧
        (∀ k ∈ chunks, ∃ first, cut.find? (samePlace · k) = some first ∧
          k = { first with symbols := ((cut.filter (samePlace · k)).flatMap (·.symbols)).eraseDups }) ∧
        ∀ k ∈ chunks, k.symbols.Nodup :=
  ⟨by decide, chunkFile_merges_by_place {} "index.html" ⟨"html", .markup, ["html"]⟩ _ (by decide)⟩

end RepoSearch.Chunking
