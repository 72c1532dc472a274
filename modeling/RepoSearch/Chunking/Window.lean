import RepoSearch.Chunking.Document
/-! Fixed windows of lines: the chunks used where no pattern of a language applies. The
windows over a range of lines are disjoint, follow each other without gaps, and each but
the last has exactly the window's number of lines. -/
namespace RepoSearch.Chunking

namespace Document

/-- Block chunks of `window` lines from line `line` up to line `stop`; `fuel` bounds the
number of windows. -/
def windowsFrom (d : Document) (stop window : Nat) : Nat → Nat → List Chunk
  | 0, _ => []
  | fuel + 1, line =>
    if line ≤ stop then
      let last := min (line + window - 1) stop
      d.chunk line last .block [] :: d.windowsFrom stop window fuel (last + 1)
    else []

/-- Disjoint block chunks of `window` lines (at least one) covering lines `start..stop`,
clipped to the file. -/
def windows (d : Document) (start stop window : Nat) : List Chunk :=
  let stop := min stop d.lineCount
  d.windowsFrom stop (max window 1) (stop + 1) (max start 1)

end Document

end RepoSearch.Chunking
