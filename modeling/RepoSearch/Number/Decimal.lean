import RepoSearch.Number.Binary
/-! Decimal text of binary floats. The shortest form of a finite value is the decimal with
the fewest significant digits that reads back to the same value (the nearest of those,
ties to an even last digit); it is written positionally or with an exponent by the layout
rules below. Fixed-place text rounds the exact value, ties to even. -/
namespace RepoSearch.Number

def compareScaled (a : Nat) (d : Int) (b : Nat) (e : Int) : Ordering :=
  compare (a * Nat.pow 10 d.toNat * Nat.pow 2 (-e).toNat) (b * Nat.pow 2 e.toNat * Nat.pow 10 (-d).toNat)

/-- The largest `t` with `10^t ≤ n · 2^e`, for `n > 0`. -/
def floorLog10 (n : Nat) (e : Int) : Int :=
  let est : Int := ((n.log2 : Int) + e) * 30103 / 100000
  let up (t : Int) : Int := if compareScaled 1 (t + 1) n e != .gt then t + 1 else t
  let down (t : Int) : Int := if compareScaled 1 t n e == .gt then t - 1 else t
  down (down (down (up (up (up est)))))

/-- The shortest decimal `k · 10^d` strictly or inclusively between `lo · 2^e` and
`hi · 2^e` that is nearest to `v · 2^e`, trying 1 to `maxDigits` significant digits;
`k` has no trailing zero. -/
def shortestIn (v lo hi : Nat) (e : Int) (inclusive : Bool) (maxDigits : Nat) : Nat × Int :=
  let top := floorLog10 v e
  let within (k : Nat) (d : Int) : Bool :=
    let aboveLo := compareScaled k d lo e
    let belowHi := compareScaled k d hi e
    (aboveLo == .gt || (inclusive && aboveLo == .eq)) &&
      (belowHi == .lt || (inclusive && belowHi == .eq))
  let attempt (n : Nat) : Option (Nat × Int) :=
    let d : Int := top + 1 - n
    -- floor of v·2^e / 10^d
    let kLo := (v * Nat.pow 2 e.toNat * Nat.pow 10 (-d).toNat) / (Nat.pow 2 (-e).toNat * Nat.pow 10 d.toNat)
    let kHi := kLo + 1
    let okLo := within kLo d
    let okHi := within kHi d
    if okLo && okHi then
      -- distances scaled by 2^(-e)·10^(-d)
      let vs := v * Nat.pow 2 e.toNat * Nat.pow 10 (-d).toNat
      let los := kLo * Nat.pow 10 d.toNat * Nat.pow 2 (-e).toNat
      let his := kHi * Nat.pow 10 d.toNat * Nat.pow 2 (-e).toNat
      if vs - los < his - vs then some (kLo, d)
      else if his - vs < vs - los then some (kHi, d)
      else if kLo % 2 == 0 then some (kLo, d) else some (kHi, d)
    else if okLo then some (kLo, d)
    else if okHi then some (kHi, d)
    else none
  let found := ((List.range maxDigits).map (· + 1)).findSome? attempt
  let (k, d) := found.getD (v, e)
  strip k d (k.log2 + 2)
where
  /-- Remove trailing zeros of `k`, raising `d`. -/
  strip (k : Nat) (d : Int) : Nat → Nat × Int
    | 0 => (k, d)
    | fuel + 1 => if k ≠ 0 && k % 10 == 0 then strip (k / 10) (d + 1) fuel else (k, d)

/-- The shortest decimal `k · 10^d` that reads back as the finite value of format `f`;
zero is `(0, 0)`. -/
def shortestDigits (f : Format) (x : Exact) : Nat × Int :=
  if x.significand = 0 then (0, 0)
  else
    let m := x.significand
    -- the value's neighbours are half a unit away, or a quarter below a power of two
    let lowerCloser := m == Nat.pow 2 f.fractionBits && x.exponent > f.minExponent
    let lo := if lowerCloser then 4 * m - 1 else 4 * m - 2
    shortestIn (4 * m) lo (4 * m + 2) (x.exponent - 2) (m % 2 == 0) (f.fractionBits / 3 + 3)

def digitText (k : Nat) : String := toString k

def zeros (n : Nat) : String := String.ofList (List.replicate n '0')

/-- The layout of a shortest decimal in data files: positional with at least one decimal
place when the point falls within the first `wide` places or at most `deep` zeros follow
it, otherwise a digit, an optional fraction and an exponent without plus sign (`1e20`,
`1.5e-7`). Doubles use 16 and 4, singles 13 and 5. -/
def layoutData (wide deep : Nat) (k : Nat) (d : Int) : String :=
  let ds := digitText k
  let len : Int := ds.length
  let kk := len + d
  if 0 ≤ d && kk ≤ wide then ds ++ zeros d.toNat ++ ".0"
  else if 0 < kk && kk ≤ wide then
    String.ofList (ds.toList.take kk.toNat) ++ "." ++ String.ofList (ds.toList.drop kk.toNat)
  else if -(deep : Int) ≤ kk && kk ≤ 0 then "0." ++ zeros (-kk).toNat ++ ds
  else
    let exp := toString (kk - 1)
    if ds.length == 1 then ds ++ "e" ++ exp
    else String.ofList (ds.toList.take 1) ++ "." ++ String.ofList (ds.toList.drop 1) ++ "e" ++ exp

/-- The layout of a shortest decimal in messages: always positional, without a decimal
point for whole numbers (`1`, `0.02`, `0.0000001`). -/
def layoutPlain (k : Nat) (d : Int) : String :=
  let ds := digitText k
  let len : Int := ds.length
  let kk := len + d
  if 0 ≤ d then ds ++ zeros d.toNat
  else if 0 < kk then
    String.ofList (ds.toList.take kk.toNat) ++ "." ++ String.ofList (ds.toList.drop kk.toNat)
  else "0." ++ zeros (-kk).toNat ++ ds

/-- The text of a value of format `f` by a layout; `NaN`, `inf` and `-inf` otherwise. -/
def render (f : Format) (layout : Nat → Int → String) : Kind → String
  | .nan => "NaN"
  | .infinite neg => if neg then "-inf" else "inf"
  | .finite x =>
    let (k, d) := shortestDigits f x
    (if x.negative then "-" else "") ++ layout k d

def doubleText (x : Float) : String := render .double (layoutData 16 4) (doubleKind x)

def singleText (x : Float32) : String := render .single (layoutData 13 5) (singleKind x)

def doublePlainText (x : Float) : String := render .double layoutPlain (doubleKind x)

/-- A double with `places` decimal places: the exact value rounded, ties to even, with a
minus sign for every negative value, zero included. -/
def fixedText (places : Nat) (x : Float) : String :=
  match doubleKind x with
  | .nan => "NaN"
  | .infinite neg => if neg then "-inf" else "inf"
  | .finite v =>
    let scaled :=
      if v.exponent ≥ 0 then v.significand * Nat.pow 2 v.exponent.toNat * Nat.pow 10 places
      else divRoundEven (v.significand * Nat.pow 10 places) (Nat.pow 2 (-v.exponent).toNat)
    let scaled := if v.exponent ≥ 0 then scaled else scaled
    let ds := digitText scaled
    let ds := if ds.length ≤ places then zeros (places + 1 - ds.length) ++ ds else ds
    let whole := String.ofList (ds.toList.take (ds.length - places))
    let frac := String.ofList (ds.toList.drop (ds.length - places))
    (if v.negative then "-" else "") ++ whole ++ (if places = 0 then "" else "." ++ frac)

end RepoSearch.Number
