import RepoSearch.Chunking.Chunker
import Mathlib.Data.List.Nodup
/-! Chunk ids. A chunk's id is its file's path, its first and last line and its kind, written
`path:start-stop:kind`; the path is read back from the right, so a path holding colons or
dashes still names one file. Every chunk the chunker cuts from a file carries that file's
path and an id made from its own lines and kind, and merging by id leaves no two chunks of a
file with one id.

Main statements: `Chunk.makeId_inj`, `chunkFile_ofFile` and `chunkFile_ids_nodup`. -/
namespace RepoSearch

/-! ### Reading an id back -/

theorem eq_of_last_sep {c : Char} {l₁ l₂ r₁ r₂ : List Char} (h : l₁ ++ c :: r₁ = l₂ ++ c :: r₂)
    (n₁ : c ∉ r₁) (n₂ : c ∉ r₂) : l₁ = l₂ ∧ r₁ = r₂ := by
  rcases List.append_eq_append_iff.mp h with ⟨a, rfl, rest⟩ | ⟨a, rfl, rest⟩
  · cases a with
    | nil => simp_all
    | cons x a =>
      simp only [List.cons_append, List.cons.injEq] at rest
      exact absurd (rest.2 ▸ List.mem_append_right _ List.mem_cons_self) n₁
  · cases a with
    | nil => simp_all
    | cons x a =>
      simp only [List.cons_append, List.cons.injEq] at rest
      exact absurd (rest.2 ▸ List.mem_append_right _ List.mem_cons_self) n₂

theorem ChunkKind.colon_not_mem_name (k : ChunkKind) : ':' ∉ k.name.toList := by
  cases k <;> decide

theorem ChunkKind.name_inj {k₁ k₂ : ChunkKind} (h : k₁.name = k₂.name) : k₁ = k₂ := by
  revert h
  cases k₁ <;> cases k₂ <;> decide

theorem not_mem_toDigits {c : Char} (notDigit : c.isDigit = false) (n : Nat) :
    c ∉ Nat.toDigits 10 n := by
  intro mem
  have digit := Nat.isDigit_of_mem_toDigits (by decide) (by decide) mem
  simp_all

theorem toDigits_inj {a b : Nat} (h : Nat.toDigits 10 a = Nat.toDigits 10 b) : a = b :=
  calc a = Nat.ofDigitChars 10 (Nat.toDigits 10 a) 0 := Nat.ofDigitChars_ten_toDigits.symm
    _ = Nat.ofDigitChars 10 (Nat.toDigits 10 b) 0 := by rw [h]
    _ = b := Nat.ofDigitChars_ten_toDigits

namespace Chunk

theorem toList_makeId (path : String) (start stop : Nat) (kind : ChunkKind) :
    (makeId path start stop kind).toList =
      ((path.toList ++ ':' :: Nat.toDigits 10 start) ++ '-' :: Nat.toDigits 10 stop) ++
        ':' :: kind.name.toList := by
  simp [makeId, String.toList_append]

theorem makeId_inj {p₁ p₂ : String} {a₁ a₂ b₁ b₂ : Nat} {k₁ k₂ : ChunkKind} :
    makeId p₁ a₁ b₁ k₁ = makeId p₂ a₂ b₂ k₂ ↔ p₁ = p₂ ∧ a₁ = a₂ ∧ b₁ = b₂ ∧ k₁ = k₂ := by
  constructor
  · intro h
    have lists := congrArg String.toList h
    rw [toList_makeId, toList_makeId] at lists
    -- the kind follows the last colon, the last line the last dash, the first line the colon
    -- before it; none of them holds its separator, whatever the path holds
    obtain ⟨front, kinds⟩ := eq_of_last_sep lists (ChunkKind.colon_not_mem_name k₁)
      (ChunkKind.colon_not_mem_name k₂)
    obtain ⟨front, stops⟩ := eq_of_last_sep front (not_mem_toDigits (by decide) b₁)
      (not_mem_toDigits (by decide) b₂)
    obtain ⟨paths, starts⟩ := eq_of_last_sep front (not_mem_toDigits (by decide) a₁)
      (not_mem_toDigits (by decide) a₂)
    exact ⟨String.toList_inj.mp paths, toDigits_inj starts, toDigits_inj stops,
      ChunkKind.name_inj (String.toList_inj.mp kinds)⟩
  · rintro ⟨rfl, rfl, rfl, rfl⟩
    rfl

/-- A chunk cut from the file at `path`: it names that file, and its id is made from the path,
its own lines and its kind. -/
structure OfFile (path : String) (c : Chunk) : Prop where
  file : c.filePath = path
  id : c.id = makeId path c.startLine c.endLine c.kind

theorem OfFile.id_ne {p₁ p₂ : String} {c₁ c₂ : Chunk} (h₁ : c₁.OfFile p₁) (h₂ : c₂.OfFile p₂)
    (apart : p₁ ≠ p₂) : c₁.id ≠ c₂.id := by
  rw [h₁.id, h₂.id]
  exact fun same => apart (makeId_inj.mp same).1

/-- Where a chunk lies: its file, its first and last line, and its kind. -/
def place (c : Chunk) : String × Nat × Nat × ChunkKind := (c.filePath, c.startLine, c.endLine, c.kind)

/-- Chunks whose ids are made from their places have distinct ids when their places are
distinct. -/
theorem ids_nodup_of_places {cs : List Chunk}
    (made : ∀ c ∈ cs, c.id = makeId c.filePath c.startLine c.endLine c.kind)
    (distinct : (cs.map place).Nodup) : (cs.map (·.id)).Nodup := by
  have ids : cs.map (·.id) = (cs.map place).map (fun p => makeId p.1 p.2.1 p.2.2.1 p.2.2.2) := by
    rw [List.map_map]
    exact List.map_congr_left made
  rw [ids]
  refine List.Nodup.map (fun x y same => ?_) distinct
  obtain ⟨paths, starts, stops, kinds⟩ := makeId_inj.mp same
  exact Prod.ext paths (Prod.ext starts (Prod.ext stops kinds))

end Chunk

/-! ### Every chunk names its file -/

namespace Chunking

open Chunk

variable {d : Document} {t : Tunables}

theorem Document.chunk_ofFile (d : Document) (start stop : Nat) (kind : ChunkKind)
    (symbols : List Symbol) : (d.chunk start stop kind symbols).OfFile d.path :=
  ⟨rfl, rfl⟩

theorem Document.windowsFrom_ofFile (stop window : Nat) :
    ∀ fuel line, ∀ c ∈ d.windowsFrom stop window fuel line, c.OfFile d.path := by
  intro fuel
  induction fuel with
  | zero => intro line c mem; cases mem
  | succ fuel ih =>
    intro line c mem
    simp only [Document.windowsFrom] at mem
    split at mem
    · rcases List.mem_cons.mp mem with rfl | later
      · exact d.chunk_ofFile _ _ _ _
      · exact ih _ c later
    · cases mem

theorem Document.windows_ofFile (start stop window : Nat) :
    ∀ c ∈ d.windows start stop window, c.OfFile d.path :=
  Document.windowsFrom_ofFile _ _ _ _

theorem markupChunks_ofFile : ∀ c ∈ markupChunks d t, c.OfFile d.path := by
  intro c mem
  obtain ⟨p, -, found⟩ := List.mem_flatMap.mp mem
  obtain ⟨m, -, made⟩ := List.mem_filterMap.mp found
  obtain ⟨tag, -, made⟩ := Option.bind_eq_some_iff.mp made
  obtain ⟨inner, -, made⟩ := Option.bind_eq_some_iff.mp made
  cases made
  exact d.chunk_ofFile _ _ _ _

theorem Markdown.sections_ofFile (total : Nat) :
    ∀ hs, ∀ c ∈ Markdown.sections d t total hs, c.OfFile d.path := by
  intro hs
  induction hs with
  | nil => intro c mem; cases mem
  | cons h rest ih =>
    intro c mem
    rcases List.mem_cons.mp mem with rfl | later
    · exact d.chunk_ofFile _ _ _ _
    · exact ih c later

theorem markdownChunks_ofFile : ∀ c ∈ markdownChunks d t, c.OfFile d.path := by
  intro c mem
  simp only [markdownChunks] at mem
  split at mem
  · cases mem
  · rcases List.mem_append.mp mem with lead | later
    · split at lead
      · rcases List.mem_singleton.mp lead with rfl
        exact d.chunk_ofFile _ _ _ _
      · cases lead
    · exact Markdown.sections_ofFile _ _ c later

namespace Script

/-- Every chunk a script scan has collected names the scanned file. -/
def Scan.OfFile (path : String) (s : Scan) : Prop :=
  (∀ c ∈ s.chunks, c.OfFile path) ∧ ∀ c ∈ s.comments, c.OfFile path

theorem Scan.OfFile.add_chunk {s : Scan} (h : s.OfFile d.path) (start stop : Nat) (kind : ChunkKind)
    (symbols : List Symbol) : ({ s with chunks := s.chunks ++ [d.chunk start stop kind symbols] } : Scan).OfFile d.path := by
  refine ⟨fun c mem => ?_, h.2⟩
  rcases List.mem_append.mp mem with old | new
  · exact h.1 c old
  · rcases List.mem_singleton.mp new with rfl
    exact d.chunk_ofFile _ _ _ _

theorem Scan.OfFile.add_comment {s : Scan} (h : s.OfFile d.path) (start stop : Nat) (kind : ChunkKind)
    (symbols : List Symbol) :
    ({ s with comments := s.comments ++ [d.chunk start stop kind symbols] } : Scan).OfFile d.path := by
  refine ⟨h.1, fun c mem => ?_⟩
  rcases List.mem_append.mp mem with old | new
  · exact h.2 c old
  · rcases List.mem_singleton.mp new with rfl
    exact d.chunk_ofFile _ _ _ _

theorem Scan.OfFile.closeRun {s : Scan} (h : s.OfFile d.path) : (s.closeRun d).OfFile d.path := by
  simp only [Scan.closeRun]
  split
  · exact h.add_chunk _ _ _ _
  · exact h

theorem scanFrom_ofFile : ∀ fuel lineNo (s : Scan), s.OfFile d.path →
    (scanFrom d t fuel lineNo s).OfFile d.path := by
  intro fuel
  induction fuel with
  | zero => intro lineNo s h; exact h
  | succ fuel ih =>
    intro lineNo s h
    simp only [scanFrom]
    split
    · exact h
    · split
      · exact ih _ _ h
      · split
        · exact ih _ _ h
        · apply ih
          have closed := h.closeRun (d := d)
          split
          · split
            · exact (closed.add_chunk _ _ _ _).add_comment _ _ _ _
            · exact closed.add_comment _ _ _ _
          · split
            · exact closed.add_chunk _ _ _ _
            · exact closed

end Script

theorem scriptChunks_ofFile : ∀ c ∈ scriptChunks d t, c.OfFile d.path := by
  intro c mem
  have scanned := (Script.scanFrom_ofFile (d := d) (t := t) (d.lineCount + 1) 1 {}
    ⟨fun _ none => (by cases none), fun _ none => (by cases none)⟩).closeRun
  simp only [scriptChunks] at mem
  split at mem
  · cases mem
  · rcases List.mem_append.mp mem with found | comment
    · exact scanned.1 c found
    · exact scanned.2 c comment

theorem patternChunks_ofFile (family : LanguageFamily) :
    ∀ c ∈ patternChunks family d t, c.OfFile d.path := by
  cases family with
  | markup => exact markupChunks_ofFile
  | procedural => exact scriptChunks_ofFile
  | markdown => exact markdownChunks_ofFile
  | generic => intro c mem; cases mem

theorem fillGaps_ofFile (chunks : List Chunk) : ∀ c ∈ fillGaps d t chunks, c.OfFile d.path := by
  intro c mem
  obtain ⟨⟨first, last⟩, -, windowed⟩ := List.mem_flatMap.mp mem
  dsimp only at windowed
  split at windowed
  · exact Document.windows_ofFile _ _ _ c windowed
  · cases windowed

/-! ### Merging by id -/

/-- Merging changes nothing of a chunk but its symbols, so it keeps every property that does
not look at them. -/
theorem mergeById_keeps (P : Chunk → Prop) (symbolsFree : ∀ c symbols, P c → P { c with symbols })
    (chunks : List Chunk) (all : ∀ c ∈ chunks, P c) : ∀ c ∈ mergeById chunks, P c := by
  unfold mergeById
  refine List.foldlRecOn (motive := fun kept : List Chunk => ∀ k ∈ kept, P k) chunks _
    (fun _ none => (by cases none)) ?_
  intro kept keptAll c taken k mem
  split at mem
  · obtain ⟨k', old, rfl⟩ := List.mem_map.mp mem
    split
    · exact symbolsFree _ _ (keptAll k' old)
    · exact keptAll k' old
  · rcases List.mem_append.mp mem with old | added
    · exact keptAll k old
    · rcases List.mem_singleton.mp added with rfl
      exact all k taken

theorem mergeById_ids_nodup (chunks : List Chunk) : ((mergeById chunks).map (·.id)).Nodup := by
  unfold mergeById
  apply List.foldlRecOn (motive := fun kept : List Chunk => (kept.map (·.id)).Nodup)
  · exact List.nodup_nil
  intro kept distinct c _
  split
  · -- the chunk is merged into the one holding its id: the ids stay as they were
    simpa [List.map_map, Function.comp_def, apply_ite] using distinct
  · next fresh =>
    have absent : c.id ∉ kept.map (·.id) := by simpa using fresh
    rw [List.map_append, List.map_singleton, List.nodup_append]
    exact ⟨distinct, List.nodup_singleton _, fun a held b new => by
      rw [List.mem_singleton.mp new]
      exact fun same => absent (same ▸ held)⟩

/-! ### The chunks of a file -/

/-- Every chunk of a file names the file, with an id made from the path, its lines and its
kind. -/
theorem chunkFile_ofFile (t : Tunables) (path : String) (language : Language) (text : String) :
    ∀ c ∈ chunkFile t path language text, c.OfFile path := by
  intro c mem
  simp only [chunkFile, mergeAndOrder] at mem
  split at mem
  · cases mem
  · have merged := (List.mergeSort_perm _ _).mem_iff.mp mem
    refine mergeById_keeps (OfFile path) (fun _ _ h => ⟨h.file, h.id⟩) _ ?_ c merged
    intro c cut
    split at cut
    · exact Document.windows_ofFile _ _ _ c cut
    · rcases List.mem_append.mp cut with found | gap
      · exact patternChunks_ofFile _ c found
      · exact fillGaps_ofFile _ c gap

theorem chunkFile_ids_nodup (t : Tunables) (path : String) (language : Language) (text : String) :
    ((chunkFile t path language text).map (·.id)).Nodup := by
  simp only [chunkFile, mergeAndOrder]
  split
  · exact List.nodup_nil
  · exact ((List.mergeSort_perm _ _).map _).nodup_iff.mpr (mergeById_ids_nodup _)

end Chunking

end RepoSearch
