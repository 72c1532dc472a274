/-! Character properties given as sorted tables of inclusive code point ranges.
A lookup is a binary search over the ranges. -/
namespace RepoSearch.Text

/-- Binary search, among the entries with index in `[lo, hi)` of a table sorted by
disjoint inclusive ranges `[first e, last e]`, for the entry whose range holds `c`. -/
def findRangeIn {α : Type} (t : Array α) (first last : α → Nat) (c : Nat) (lo hi : Nat) :
    Option α :=
  if _h : lo < hi then
    let mid := (lo + hi) / 2
    match t[mid]? with
    | none => none
    | some e =>
      if c < first e then findRangeIn t first last c lo mid
      else if last e < c then findRangeIn t first last c (mid + 1) hi
      else some e
  else none
termination_by hi - lo

/-- The entry of a sorted range table whose range holds `c`, if any. -/
def findRange {α : Type} (t : Array α) (first last : α → Nat) (c : Nat) : Option α :=
  findRangeIn t first last c 0 t.size

/-- A character property as inclusive code point ranges, ascending and disjoint. -/
abbrev RangeTable := Array (Nat × Nat)

namespace RangeTable

/-- Whether code point `c` lies in one of the table's ranges. -/
def contains (t : RangeTable) (c : Nat) : Bool :=
  (findRange t Prod.fst Prod.snd c).isSome

def has (t : RangeTable) (c : Char) : Bool :=
  t.contains c.toNat

end RangeTable

end RepoSearch.Text
