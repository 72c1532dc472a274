/-! Binary floating-point numbers as exact values. A finite double or single is a sign, an
integer significand and a power of two; this module takes a number apart into those parts
and builds the nearest double to an exact decimal, ties going to the even significand. -/
namespace RepoSearch.Number

/-- The exact value of a finite binary float: `(-1)^negative · significand · 2^exponent`. -/
structure Exact where
  negative : Bool
  significand : Nat
  exponent : Int
  deriving Repr, Inhabited

/-- What a binary float is: a finite value, an infinity or not a number. -/
inductive Kind where
  | finite (x : Exact)
  | infinite (negative : Bool)
  | nan
  deriving Repr, Inhabited

/-- The shape of a binary format: bits of the stored fraction, bits of the exponent and
the exponent bias. -/
structure Format where
  fractionBits : Nat
  exponentBits : Nat
  bias : Nat

/-- Doubles: 52 fraction bits, 11 exponent bits. -/
def Format.double : Format := ⟨52, 11, 1023⟩

/-- Singles: 23 fraction bits, 8 exponent bits. -/
def Format.single : Format := ⟨23, 8, 127⟩

namespace Format

/-- The exponent of the least significand unit: that of the subnormals. -/
def minExponent (f : Format) : Int := 1 - (f.bias : Int) - f.fractionBits

/-- Take apart the bit pattern of a number of this format. -/
def decode (f : Format) (bits : Nat) : Kind :=
  let fraction := bits % Nat.pow 2 f.fractionBits
  let biased := (bits / Nat.pow 2 f.fractionBits) % Nat.pow 2 f.exponentBits
  let negative := bits / Nat.pow 2 (f.fractionBits + f.exponentBits) % 2 == 1
  if biased = Nat.pow 2 f.exponentBits - 1 then
    if fraction = 0 then .infinite negative else .nan
  else if biased = 0 then .finite ⟨negative, fraction, f.minExponent⟩
  else .finite ⟨negative, fraction + Nat.pow 2 f.fractionBits, (biased : Int) - 1 + f.minExponent⟩

end Format

/-- `x / y` rounded to the nearest integer, a tie going to the even one. -/
def divRoundEven (x y : Nat) : Nat :=
  let q := x / y
  let r := x % y
  if 2 * r > y then q + 1
  else if 2 * r < y then q
  else if q % 2 == 0 then q else q + 1

/-- The bit pattern of the double nearest to `num / den` (with `den > 0`), ties to the even
significand, overflowing to infinity; `negative` gives the sign. -/
def doubleBitsOfRatio (negative : Bool) (num den : Nat) : Nat :=
  let f := Format.double
  let sign := if negative then Nat.pow 2 63 else 0
  if num = 0 then sign
  else
    -- the exponent `e` with 2^e ≤ num/den < 2^(e+1)
    let e0 : Int := (num.log2 : Int) - den.log2
    let below : Bool :=
      if e0 ≥ 0 then num < den * Nat.pow 2 e0.toNat else num * Nat.pow 2 (-e0).toNat < den
    let e := if below then e0 - 1 else e0
    let unit := max (e - f.fractionBits) f.minExponent
    let m := if unit ≥ 0 then divRoundEven num (den * Nat.pow 2 unit.toNat)
      else divRoundEven (num * Nat.pow 2 (-unit).toNat) den
    let (m, unit) := if m = Nat.pow 2 (f.fractionBits + 1) then (m / 2, unit + 1) else (m, unit)
    if m < Nat.pow 2 f.fractionBits then sign + m
    else
      let biased := unit - f.minExponent + 1
      if biased ≥ Nat.pow 2 f.exponentBits - 1 then sign + (Nat.pow 2 f.exponentBits - 1) * Nat.pow 2 f.fractionBits
      else sign + biased.toNat * Nat.pow 2 f.fractionBits + (m - Nat.pow 2 f.fractionBits)

/-- The double nearest to `digits · 10^exp10`, with the given sign. -/
def doubleOfDecimal (negative : Bool) (digits : Nat) (exp10 : Int) : Float :=
  let bits :=
    if exp10 ≥ 0 then doubleBitsOfRatio negative (digits * Nat.pow 10 exp10.toNat) 1
    else doubleBitsOfRatio negative digits (Nat.pow 10 (-exp10).toNat)
  Float.ofBits bits.toUInt64

def doubleKind (x : Float) : Kind := Format.double.decode x.toBits.toNat

def singleKind (x : Float32) : Kind := Format.single.decode x.toBits.toNat

end RepoSearch.Number
