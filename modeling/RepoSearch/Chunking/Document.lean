import RepoSearch.Chunk.Basic
import RepoSearch.Text.Blank
/-! A file's text with its lines and offsets. Lines are the pieces between line feeds with
their trailing carriage returns removed; a final line feed ends the last line rather than
starting another. Positions are 1-based lines and 1-based columns counted in characters. -/
namespace RepoSearch.Chunking

open RepoSearch.Text

/-- How many entries of an ascending array are at most `x`, searching indices `[lo, hi)`
of which all below `lo` are at most `x` and all from `hi` on exceed it. -/
def countAtMostIn (a : Array Nat) (x : Nat) (lo hi : Nat) : Nat :=
  if _h : lo < hi then
    let mid := (lo + hi) / 2
    if a[mid]?.getD 0 ≤ x then countAtMostIn a x (mid + 1) hi else countAtMostIn a x lo mid
  else lo
termination_by hi - lo

/-- How many entries of an ascending array are at most `x`. -/
def countAtMost (a : Array Nat) (x : Nat) : Nat := countAtMostIn a x 0 a.size

/-- Remove every carriage return at the end of a line. -/
def dropCarriageReturns (line : String) : String :=
  String.ofList (line.toList.reverse.dropWhile (· == '\r')).reverse

/-- The byte offset of every character and of the text's end. -/
def charOffsets (cs : List Char) : Array Nat :=
  (cs.foldl (fun (acc : Array Nat × Nat) c => (acc.1.push acc.2, acc.2 + c.utf8Size)) (#[], 0)) |>
    fun (offsets, total) => offsets.push total

/-- A file's text, split into lines, with the offsets needed to locate its characters. -/
structure Document where
  path : String
  language : String
  text : String
  /-- The characters of the text. -/
  chars : Array Char
  /-- The lines, without line feeds and trailing carriage returns. -/
  lines : Array String
  /-- The byte offset at which each line starts. -/
  lineStarts : Array Nat
  /-- The byte offset of each character, then of the text's end. -/
  offsets : Array Nat

namespace Document

def ofText (path language text : String) : Document :=
  let cs := text.toList
  let offsets := charOffsets cs
  let breaks := ((List.range cs.length).zip cs).filterMap
    (fun (i, c) => if c == '\n' then some (offsets[i]?.getD 0 + 1) else none)
  let pieces := (cs.splitOn '\n').map (fun piece => dropCarriageReturns (String.ofList piece))
  let endsWithNewline := cs.getLast? == some '\n'
  let lines := if endsWithNewline then pieces.dropLast else pieces
  let starts := if endsWithNewline then (0 :: breaks).dropLast else 0 :: breaks
  { path, language, text, chars := cs.toArray, lines := lines.toArray,
    lineStarts := starts.toArray, offsets }

def lineCount (d : Document) : Nat := d.lines.size

/-- Line `n` (from 1); empty beyond the text. -/
def line (d : Document) (n : Nat) : String :=
  match n with
  | 0 => ""
  | k + 1 => d.lines[k]?.getD ""

def byteOf (d : Document) (i : Nat) : Nat := d.offsets[i]?.getD d.text.utf8ByteSize

/-- Line and column of a byte offset (clamped to the text). The column counts the
characters from the line's start; an offset inside a character has column 1. -/
def position (d : Document) (offset : Nat) : Nat × Nat :=
  let offset := min offset d.text.utf8ByteSize
  let idx := min (countAtMost d.lineStarts offset - 1) (d.lineStarts.size - 1)
  let start := d.lineStarts[idx]?.getD 0
  let j := countAtMost d.offsets offset
  let column :=
    if j > 0 && d.offsets[j - 1]? == some offset then
      (j - 1) - (countAtMost d.offsets start - 1)
    else 0
  (idx + 1, column + 1)

def positionOfChar (d : Document) (i : Nat) : Nat × Nat := d.position (d.byteOf i)

/-- Whether any of lines `start..stop` holds a character that is not blank. -/
def hasContent (d : Document) (start stop : Nat) : Bool :=
  (List.range (stop + 1 - start)).any (fun i => !isBlankText (d.line (start + i)))

/-- The chunk over lines `start..stop`, both clamped into the file. -/
def chunk (d : Document) (start stop : Nat) (kind : ChunkKind) (symbols : List Symbol) : Chunk :=
  let last := max d.lineCount 1
  let start := min (max start 1) last
  let stop := min (max stop start) last
  let content := "\n".intercalate ((d.lines.toList.drop (start - 1)).take (stop + 1 - start))
  Chunk.build d.path content d.language kind start stop symbols

end Document

end RepoSearch.Chunking
