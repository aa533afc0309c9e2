import NodeTrial.Number.Binary64

/-!
The shortest decimal that reads back as a given binary number, found in exact arithmetic: on the
grids of 1, 2, … 17 significant digits the two neighbours of the number are tried, the first grid
with a neighbour inside the rounding interval wins, and of two such neighbours the nearer one.
-/

namespace NodeTrial.Binary64

structure Decimal where
  digits : Nat
  scale : Int
  deriving DecidableEq, Repr

/-- The interval of reals that round to a number, over a common denominator: lower end, value, upper
end, denominator, and whether the ends belong to it. -/
structure Interval where
  low : Nat
  value : Nat
  high : Nat
  den : Nat
  closed : Bool

/-- The rounding interval of a positive number. Below a power of two the grid is twice as fine. -/
def interval (x : Binary64) : Interval :=
  let m := x.mantissa
  let below := if m == Nat.pow 2 52 && minExponent < x.exponent then 1 else 2
  let (num, den) : Nat × Nat :=
    if 0 ≤ x.exponent then (Nat.pow 2 x.exponent.toNat, 4)
    else (1, 4 * Nat.pow 2 (-x.exponent).toNat)
  { low := (4 * m - below) * num
    value := 4 * m * num
    high := (4 * m + 2) * num
    den := den
    closed := m % 2 == 0 }

def Interval.holds (i : Interval) (d : Nat) (scale : Int) : Bool :=
  let (n, low, high) :=
    if 0 ≤ scale then (d * Nat.pow 10 scale.toNat * i.den, i.low, i.high)
    else (d * i.den, i.low * Nat.pow 10 (-scale).toNat, i.high * Nat.pow 10 (-scale).toNat)
  if i.closed then low ≤ n && n ≤ high else low < n && n < high

/-- The neighbours of the value on the grid of multiples of `10 ^ scale`, the nearer one first; of
two equally near ones the even one. -/
def Interval.neighbours (i : Interval) (scale : Int) : List Nat :=
  let (num, den) :=
    if 0 ≤ scale then (i.value, i.den * Nat.pow 10 scale.toNat)
    else (i.value * Nat.pow 10 (-scale).toNat, i.den)
  let q := num / den
  let r := num % den
  if 2 * r < den || (2 * r == den && q % 2 == 0) then [q, q + 1] else [q + 1, q]

/-- The decimal on the coarsest grid that has a neighbour inside the interval, trying `count` grids
from `scale` downwards. -/
def Interval.shortest (i : Interval) : (count : Nat) → (scale : Int) → Option Decimal
  | 0, _ => none
  | count + 1, scale =>
    match (i.neighbours scale).find? (i.holds · scale) with
    | some d => some ⟨d, scale⟩
    | none => i.shortest count (scale - 1)

/-- An exponent above that of the leading decimal digit of `num / den`, by one or two. On the grid
of that power of ten the only candidates are zero and one, so no shortest decimal found from there
downwards ends in a zero. -/
def topExponent (num den : Nat) : Int :=
  (Nat.toDigits 10 num).length - (Nat.toDigits 10 den).length + 1

/-- The shortest decimal that reads back as the magnitude of a number. -/
def shortest (x : Binary64) : Decimal :=
  if x.isZero then ⟨0, 0⟩
  else
    let i := x.interval
    (i.shortest 20 (topExponent i.value i.den)).getD ⟨0, 0⟩

/-- How numbers are written: a fraction is always shown, the positional form serves the exponents of
the leading digit from `least` to `most`, and any other exponent carries its sign. -/
structure Style where
  least : Int
  most : Int

/-- The style of the documents of this library. -/
def documentStyle : Style := ⟨-5, 15⟩

def zeros (n : Int) : List Char := List.replicate n.toNat '0'

def digitChars (n : Nat) : List Char := Nat.toDigits 10 n

def Decimal.write (style : Style) (d : Decimal) : List Char :=
  let ds := digitChars d.digits
  if d.digits == 0 then ['0', '.', '0']
  else
    let lead : Int := ds.length + d.scale - 1
    if style.least ≤ lead && lead ≤ style.most then
      if 0 ≤ d.scale then ds ++ zeros d.scale ++ ['.', '0']
      else if 0 ≤ lead then
        ds.take (lead + 1).toNat ++ '.' :: ds.drop (lead + 1).toNat
      else '0' :: '.' :: zeros (-lead - 1) ++ ds
    else
      let fraction := match ds with
        | d :: [] => [d]
        | d :: rest => d :: '.' :: rest
        | [] => []
      let sign := if lead < 0 then '-' else '+'
      fraction ++ 'e' :: sign :: digitChars lead.natAbs

/-- The written form of a number: the shortest decimal that reads back, in the document style. -/
def write (x : Binary64) : List Char :=
  let body := x.shortest.write documentStyle
  if x.negative then '-' :: body else body

end NodeTrial.Binary64
