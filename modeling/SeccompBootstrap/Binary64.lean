/-!
Finite magnitudes of the binary64 format, in exact natural-number arithmetic. A magnitude is
`mantissa * 2 ^ exponent` with a mantissa below `2 ^ 53`; an operation computes the exact rational
result and rounds it to the nearest magnitude, a tie to the even mantissa, or gives none where the
result is too large. Its text has the fewest significant digits whose value still rounds to it, and
of those the nearest to it. Numbers from `10 ^ -5` up to `10 ^ 16` are written positionally with at
least one digit on each side of the point, all others with an exponent that carries its sign.
-/

set_option autoImplicit false
set_option relaxedAutoImplicit false

namespace SeccompBootstrap.Binary64

def leastExponent : Int := -1074

def greatestExponent : Int := 971

/-- What every mantissa stays below: mantissas have 53 bits. -/
def mantissaBound : Nat := 9007199254740992

def leastFullMantissa : Nat := 4503599627370496

structure Magnitude where
  mantissa : Nat
  exponent : Int
  deriving DecidableEq, Repr

def Magnitude.zero : Magnitude := ⟨0, leastExponent⟩

/-- The quotient nearest to `num / den`, a tie to the even one. -/
def divideToEven (num den : Nat) : Nat :=
  let q := num / den
  let r := num % den
  if 2 * r < den then q
  else if den < 2 * r then q + 1
  else if q % 2 = 0 then q else q + 1

/-- Numerator and denominator of `num / den / 2 ^ exponent`. -/
def scaledBy (num den : Nat) (exponent : Int) : Nat × Nat :=
  if 0 ≤ exponent then (num, den * Nat.pow 2 exponent.toNat)
  else (num * Nat.pow 2 (-exponent).toNat, den)

/-- The exponent at which the quotient has a mantissa of 53 bits, or the least one. -/
def exponentFor (num den : Nat) : Int :=
  let low := max leastExponent ((Nat.log2 num : Int) - Nat.log2 den - 53)
  let scaled := scaledBy num den low
  if scaled.1 / scaled.2 < mantissaBound then low else low + 1

/-- The magnitude nearest to `num / den * 2 ^ shift`, none where that is too large. -/
def round (num den : Nat) (shift : Int) : Option Magnitude :=
  if num = 0 then some .zero
  else
    let whole := scaledBy num den (-shift)
    let exponent := exponentFor whole.1 whole.2
    let scaled := scaledBy whole.1 whole.2 exponent
    let mantissa := divideToEven scaled.1 scaled.2
    let rounded : Magnitude :=
      if mantissa < mantissaBound then ⟨mantissa, exponent⟩
      else ⟨leastFullMantissa, exponent + 1⟩
    if greatestExponent < rounded.exponent then none else some rounded

def ofNat? (n : Nat) : Option Magnitude :=
  round n 1 0

def multiply? (x y : Magnitude) : Option Magnitude :=
  round (x.mantissa * y.mantissa) 1 (x.exponent + y.exponent)

def divide? (x y : Magnitude) : Option Magnitude :=
  round x.mantissa y.mantissa (x.exponent - y.exponent)

def powerOfTen? (n : Nat) : Option Magnitude :=
  ofNat? (Nat.pow 10 n)

def greatestPower : Nat := 308

/-- `steps` divisions by the greatest power of ten, each of them rounded. -/
def divideByGreatest : Nat → Magnitude → Option Magnitude
  | 0, x => some x
  | steps + 1, x =>
    if x.mantissa = 0 then some x
    else ((powerOfTen? greatestPower).bind (divide? x)).bind (divideByGreatest steps)

/-- Division by `10 ^ n`: by the greatest power of ten while `n` exceeds it, then by the rest. -/
def divideByPower (x : Magnitude) (n : Nat) : Option Magnitude :=
  let steps := (n - 1) / greatestPower
  (divideByGreatest steps x).bind fun y =>
    (powerOfTen? (n - steps * greatestPower)).bind (divide? y)

/-- The reading of `significand * 10 ^ power`: the significand is rounded first, then multiplied
or divided by rounded powers of ten. None where the result is too large. -/
def ofDecimal? (significand : Nat) (power : Int) : Option Magnitude :=
  match ofNat? significand with
  | none => none
  | some x =>
    if power < 0 then divideByPower x power.natAbs
    else if power ≤ greatestPower then (powerOfTen? power.toNat).bind (multiply? x)
    else if x.mantissa = 0 then some x else none

structure Decimal where
  digits : Nat
  power : Int
  deriving DecidableEq, Repr

/-- A magnitude and the ends of the interval that rounds to it, as numerators over one
denominator, together with whether the ends themselves round to it. -/
structure Interval where
  low : Nat
  value : Nat
  high : Nat
  denominator : Nat
  closed : Bool

/-- The interval of a positive magnitude. Its lower half is narrower where the neighbour below has
a smaller exponent. -/
def Interval.ofMagnitude (x : Magnitude) : Interval :=
  let narrow := x.mantissa = leastFullMantissa ∧ leastExponent < x.exponent
  let unit := scaledBy 1 4 (-x.exponent)
  { low := (4 * x.mantissa - if narrow then 1 else 2) * unit.1
    value := 4 * x.mantissa * unit.1
    high := (4 * x.mantissa + 2) * unit.1
    denominator := unit.2
    closed := x.mantissa % 2 = 0 }

def Interval.admits (i : Interval) (num den : Nat) : Bool :=
  let point := num * i.denominator
  let low := i.low * den
  let high := i.high * den
  if i.closed then low ≤ point && point ≤ high else low < point && point < high

/-- The distance from the interval's magnitude to `num / den`, over both denominators. -/
def Interval.distance (i : Interval) (num den : Nat) : Nat :=
  let point := num * i.denominator
  let value := i.value * den
  (point - value) + (value - point)

/-- The decimal on the grid of `10 ^ power` that rounds to the interval's magnitude: of the two
grid points beside the magnitude the nearer one, the even one on a tie. -/
def Interval.onGrid? (i : Interval) (power : Int) : Option Decimal :=
  let unit : Nat × Nat :=
    if 0 ≤ power then (Nat.pow 10 power.toNat, 1) else (1, Nat.pow 10 (-power).toNat)
  let below := i.value * unit.2 / (i.denominator * unit.1)
  let above := below + 1
  let near := i.distance (below * unit.1) unit.2
  let far := i.distance (above * unit.1) unit.2
  let lowFits := i.admits (below * unit.1) unit.2 && 0 < below
  let highFits := i.admits (above * unit.1) unit.2
  if lowFits && (!highFits || near < far || (near = far && below % 2 = 0)) then
    some ⟨below, power⟩
  else if highFits then some ⟨above, power⟩
  else none

/-- The first decimal on ever finer grids, starting at `10 ^ power`. -/
def Interval.search (i : Interval) : Nat → Int → Decimal
  | 0, power => ⟨i.value * Nat.pow 10 (-power).toNat / i.denominator, power⟩
  | fuel + 1, power => (i.onGrid? power).getD (i.search fuel (power - 1))

/-- The exponent of the least power of ten above a value of at least one, and of ten below. -/
def Interval.coarsest (i : Interval) : Int :=
  (Nat.toDigits 10 (i.value / i.denominator)).length

/-- More grids than any magnitude needs: the smallest one has no decimal place beyond the 324th
and no magnitude needs more than 17 digits. -/
def gridCount : Nat := 700

def shortest (x : Magnitude) : Decimal :=
  let interval := Interval.ofMagnitude x
  interval.search gridCount interval.coarsest

def digitsOf (n : Nat) : List Char :=
  Nat.toDigits 10 n

/-- Digits with a point behind the first `whole` of them, filled with zeros where digits lack. -/
def positional (digits : List Char) (whole : Int) : List Char :=
  if whole ≤ 0 then '0' :: '.' :: List.replicate whole.natAbs '0' ++ digits
  else
    let front := digits.take whole.toNat
    let back := digits.drop whole.toNat
    front ++ List.replicate (whole.toNat - digits.length) '0' ++
      '.' :: if back.isEmpty then ['0'] else back

/-- Digits with a point behind the first of them, if others follow, and a signed exponent. -/
def withExponent (digits : List Char) (exponent : Int) : List Char :=
  let back := digits.drop 1
  digits.take 1 ++ (if back.isEmpty then [] else '.' :: back) ++
    'e' :: (if exponent < 0 then '-' else '+') :: digitsOf exponent.natAbs

def Decimal.text (d : Decimal) : List Char :=
  let digits := digitsOf d.digits
  let whole := d.power + digits.length
  if -5 < whole && whole ≤ 16 then positional digits whole
  else withExponent digits (whole - 1)

def Magnitude.text (x : Magnitude) : List Char :=
  if x.mantissa = 0 then ['0', '.', '0'] else (shortest x).text

end SeccompBootstrap.Binary64
