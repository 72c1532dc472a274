/-! Comparisons of doubles that the scoring rules rely on: the larger of two numbers where
a NaN yields to the other operand, clamping that leaves NaN alone, and the total order
on doubles (negative NaN, negative infinity, the negatives, negative zero, positive zero,
the positives, positive infinity, positive NaN). -/
namespace RepoSearch.Number

/-- The larger of two doubles; a NaN operand yields to the other, and of two equal operands
the second is taken. -/
def maxNum (a b : Float) : Float :=
  if a.isNaN then b else if b.isNaN then a else if b < a then a else b

/-- `x` clamped into `[lo, hi]`; a NaN stays NaN. -/
def clampTo (lo hi x : Float) : Float :=
  if x < lo then lo else if x > hi then hi else x

/-- The key of a double in the total order, as a signed integer. -/
def totalKey (x : Float) : Int :=
  let bits := x.toBits.toNat
  if bits ≥ Nat.pow 2 63 then -((bits - Nat.pow 2 63 : Nat) : Int) - 1 else bits

def totalCompare (a b : Float) : Ordering := compare (totalKey a) (totalKey b)

end RepoSearch.Number
