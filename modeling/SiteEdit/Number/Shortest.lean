import SiteEdit.Number.Binary64
/-!
# The shortest text of a binary number

The text has the fewest digits that read back as the same number, and of those the digits nearest to it.  Numbers
from `10 ^ -5` to below `10 ^ 16` are written in positional notation, with at least one place; the others with an
exponent that always carries its sign.
-/
namespace SiteEdit.Number

/-- A decimal `0.d₁d₂…dₙ · 10 ^ point`. -/
structure Digits where
  digits : List Char
  point : Int
  deriving DecidableEq, Repr

/-- The reals that round to a positive magnitude: from `low / scale` to `high / scale`, the ends included if
`closed`; the magnitude itself is `value / scale`. -/
structure Neighbourhood where
  low : Nat
  value : Nat
  high : Nat
  scale : Nat
  closed : Bool

/-- The reals that round to `x`.  Below a power of two the lower neighbour is only half as far away. -/
def Magnitude.neighbourhood (x : Magnitude) : Neighbourhood :=
  let num := if 0 ≤ x.exponent then Nat.pow 2 x.exponent.toNat else 1
  let den := if 0 ≤ x.exponent then 1 else Nat.pow 2 (-x.exponent).toNat
  let below := if x.mantissa = Nat.pow 2 52 ∧ leastExponent < x.exponent then 1 else 2
  { low := (4 * x.mantissa - below) * num, value := 4 * x.mantissa * num, high := (4 * x.mantissa + 2) * num,
    scale := 4 * den, closed := x.mantissa % 2 == 0 }

/-- The least `p` with `value < 10 ^ p`, searched upwards from `from_`. -/
def pointFrom (num den : Nat) : Nat → Int → Int
  | 0, p => p
  | fuel + 1, p =>
    let below := if 0 ≤ p then num < den * Nat.pow 10 p.toNat else num * Nat.pow 10 (-p).toNat < den
    if below then p else pointFrom num den fuel (p + 1)

/-- Whether `n` units of `10 ^ q` lie in the neighbourhood. -/
def Neighbourhood.holds (h : Neighbourhood) (n : Nat) (q : Int) : Bool :=
  let v := if 0 ≤ q then n * Nat.pow 10 q.toNat * h.scale else n * h.scale
  let s := if 0 ≤ q then 1 else Nat.pow 10 (-q).toNat
  if h.closed then h.low * s ≤ v && v ≤ h.high * s else h.low * s < v && v < h.high * s

/-- The point of the grid of `10 ^ q` to use for the number: of its two neighbours there, the nearer one in the
neighbourhood. -/
def Neighbourhood.nearest? (h : Neighbourhood) (q : Int) : Option Nat :=
  let num := if 0 ≤ q then h.value else h.value * Nat.pow 10 (-q).toNat
  let den := if 0 ≤ q then h.scale * Nat.pow 10 q.toNat else h.scale
  let n := num / den
  let near := roundHalfEven num den
  let far := if near = n then n + 1 else n
  if h.holds near q then some near else if h.holds far q then some far else none

/-- The first of the grids `10 ^ (p - n), 10 ^ (p - n - 1), …` that meets the neighbourhood. -/
def Neighbourhood.shortest (h : Neighbourhood) (p : Int) : Nat → Nat → Nat × Int
  | 0, n => (0, p - n)
  | fuel + 1, n =>
    match h.nearest? (p - n) with
    | some k => (k, p - n)
    | none => h.shortest p fuel (n + 1)

/-- Drops final zeros. -/
def trimZeros (ds : List Char) : List Char := (ds.reverse.dropWhile (· == '0')).reverse

/-- The shortest digits of a positive magnitude. -/
def Magnitude.digits (x : Magnitude) : Digits :=
  let h := x.neighbourhood
  let p := pointFrom h.value h.scale 700 (-330)
  let best := h.shortest p 17 1
  let ds := Nat.toDigits 10 best.1
  { digits := trimZeros ds, point := best.2 + ds.length }

/-- Positional notation, with at least one digit on either side of the point. -/
def Digits.positional (d : Digits) : List Char :=
  if d.point ≤ 0 then ['0', '.'] ++ List.replicate (-d.point).toNat '0' ++ d.digits
  else if (d.digits.length : Int) ≤ d.point then
    d.digits ++ List.replicate (d.point - d.digits.length).toNat '0' ++ ['.', '0']
  else d.digits.take d.point.toNat ++ ['.'] ++ d.digits.drop d.point.toNat

/-- One digit before the point, and an exponent with its sign. -/
def Digits.scientific (d : Digits) : List Char :=
  let e := d.point - 1
  let tail := if d.digits.length ≤ 1 then [] else '.' :: d.digits.drop 1
  d.digits.take 1 ++ tail ++ ['e', if 0 ≤ e then '+' else '-'] ++ Nat.toDigits 10 e.natAbs

/-- The text of a number. -/
def Binary64.text (x : Binary64) : List Char :=
  let body :=
    if x.magnitude.mantissa = 0 then ['0', '.', '0']
    else
      let d := x.magnitude.digits
      if -5 < d.point ∧ d.point ≤ 16 then d.positional else d.scientific
  if x.negative then '-' :: body else body

end SiteEdit.Number
