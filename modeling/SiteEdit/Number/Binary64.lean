/-!
# Binary floating point of 64 bits

A finite number is a sign and a magnitude `mantissa · 2 ^ exponent` with less than 53 bits of mantissa, and every
operation rounds its exact result to the nearest such number, a tie to the even mantissa.  All of it is arithmetic
on natural numbers.
-/
namespace SiteEdit.Number

/-- The magnitude `mantissa · 2 ^ exponent`. -/
structure Magnitude where
  mantissa : Nat
  exponent : Int
  deriving DecidableEq, Repr

/-- The exponent of the smallest magnitudes. -/
def leastExponent : Int := -1074

/-- The exponent of the largest magnitudes. -/
def greatestExponent : Int := 971

/-- A quotient to the nearest whole number, a half to the even one. -/
def roundHalfEven (num den : Nat) : Nat :=
  let q := num / den
  let r := num % den
  if 2 * r < den then q else if den < 2 * r then q + 1 else q + q % 2

/-- The quotient `num / den` in units of `2 ^ e`. -/
def inUnits (num den : Nat) (e : Int) : Nat × Nat :=
  if 0 ≤ e then (num, den * Nat.pow 2 e.toNat) else (num * Nat.pow 2 (-e).toNat, den)

/-- The magnitude nearest to `num / den`, or nothing where that is past the largest. -/
def Magnitude.round? (num den : Nat) : Option Magnitude :=
  if num = 0 then some ⟨0, leastExponent⟩
  else
    let guess : Int := (Nat.log2 num : Int) - Nat.log2 den - 52
    let atGuess := inUnits num den guess
    let exact := if atGuess.1 / atGuess.2 < Nat.pow 2 52 then guess - 1 else guess
    let e := max exact leastExponent
    let units := inUnits num den e
    let m := roundHalfEven units.1 units.2
    let result : Magnitude := if m = Nat.pow 2 53 then ⟨Nat.pow 2 52, e + 1⟩ else ⟨m, e⟩
    if greatestExponent < result.exponent then none else some result

/-- The magnitude as a quotient. -/
def Magnitude.ratio (x : Magnitude) : Nat × Nat :=
  if 0 ≤ x.exponent then (x.mantissa * Nat.pow 2 x.exponent.toNat, 1) else (x.mantissa, Nat.pow 2 (-x.exponent).toNat)

/-- The rounded product. -/
def Magnitude.mul? (x y : Magnitude) : Option Magnitude :=
  Magnitude.round? (x.ratio.1 * y.ratio.1) (x.ratio.2 * y.ratio.2)

/-- The rounded quotient. -/
def Magnitude.div? (x y : Magnitude) : Option Magnitude :=
  Magnitude.round? (x.ratio.1 * y.ratio.2) (x.ratio.2 * y.ratio.1)

/-- The rounded power of ten. -/
def Magnitude.pow10? (k : Nat) : Option Magnitude := Magnitude.round? (Nat.pow 10 k) 1

/-- Divides `steps` times by `y`; zero stays zero. -/
def Magnitude.divTimes? (y : Magnitude) : Nat → Magnitude → Option Magnitude
  | 0, x => some x
  | steps + 1, x => if x.mantissa = 0 then some x else (x.div? y).bind (Magnitude.divTimes? y steps)

/-- The greatest power of ten that is used as one factor. -/
def greatestPower : Nat := 308

/-- Divides by `10 ^ k`, in steps of at most `10 ^ greatestPower`. -/
def Magnitude.scaleDown? (x : Magnitude) (k : Nat) : Option Magnitude :=
  let steps := (k - 1) / greatestPower
  match Magnitude.pow10? greatestPower, Magnitude.pow10? (k - greatestPower * steps) with
  | some large, some small => (Magnitude.divTimes? large steps x).bind (·.div? small)
  | _, _ => none

/-- Multiplies by `10 ^ k`; nothing where the result is past the largest magnitude. -/
def Magnitude.scaleUp? (x : Magnitude) (k : Nat) : Option Magnitude :=
  if k ≤ greatestPower then (Magnitude.pow10? k).bind x.mul?
  else if x.mantissa = 0 then some x
  else none

/-- A finite binary number of 64 bits; zero has a sign too. -/
structure Binary64 where
  negative : Bool
  magnitude : Magnitude
  deriving DecidableEq, Repr

/-- The number written `±significand · 10 ^ exponent`: the significand is rounded once and scaled once more. -/
def Binary64.ofDecimal? (negative : Bool) (significand : Nat) (exponent : Int) : Option Binary64 :=
  let start := Magnitude.round? significand 1
  let scaled :=
    if 0 ≤ exponent then start.bind (·.scaleUp? exponent.toNat) else start.bind (·.scaleDown? (-exponent).toNat)
  scaled.map fun m => { negative := negative, magnitude := m }

/-- The number nearest to `±significand · 10 ^ exponent`, or nothing where that is past the largest.  Far out of range
the power of ten is not worked out. -/
def Binary64.nearest? (negative : Bool) (significand : Nat) (exponent : Int) : Option Binary64 :=
  let magnitude :=
    if significand = 0 ∨ exponent < -(Nat.log2 significand + 400 : Int) then some ⟨0, leastExponent⟩
    else if greatestPower < exponent then none
    else if 0 ≤ exponent then Magnitude.round? (significand * Nat.pow 10 exponent.toNat) 1
    else Magnitude.round? significand (Nat.pow 10 (-exponent).toNat)
  magnitude.map fun m => { negative := negative, magnitude := m }

end SiteEdit.Number
