import TagDispatch.Number.Binary64

/-!
The shortest decimal that reads back as a given number. The reals that round to a finite number
form an interval; on the grid of decimals with one, two, … significant digits the first grid with
a point in that interval gives the digits. Of two such points the nearer one is taken, and of two
equally near ones the larger.
-/

namespace TagDispatch

/-- `digits * 10 ^ scale`. -/
structure Decimal where
  digits : Nat
  scale : Int
  deriving DecidableEq, Repr

namespace Decimal

/-- How many decimal digits `n` has; none for zero. -/
def countDigits (n : Nat) : Nat := if n = 0 then 0 else (Nat.toDigits 10 n).length

/-- The number of places by which `num / den`, below one, must move left to reach one. -/
private def leadingPlaces (den : Nat) : Nat → Nat → Nat → Nat
  | 0, places, _ => places
  | fuel + 1, places, num =>
    if den ≤ num then places else leadingPlaces den fuel (places + 1) (10 * num)

/-- The decimal exponent `e` with `10 ^ (e - 1) ≤ num / den < 10 ^ e`. -/
def magnitude (num den : Nat) : Int :=
  if den ≤ num then countDigits (num / den)
  else 1 - (leadingPlaces den 400 0 num : Int)

/-- Removes trailing zeros; `fuel` bounds their number. -/
def trim : Nat → Decimal → Decimal
  | 0, d => d
  | fuel + 1, d =>
    if d.digits ≠ 0 ∧ d.digits % 10 = 0 then trim fuel ⟨d.digits / 10, d.scale + 1⟩ else d

end Decimal

namespace Binary64

/-- The interval of reals that round to a number, over a common denominator: the number itself is
`value / den`, and the ends belong to the interval iff `closed`. -/
structure Rounding where
  low : Nat
  value : Nat
  high : Nat
  den : Nat
  closed : Bool

/-- The gap below a power of two is half the gap above it, except at the bottom of the range. -/
def rounding (x : Binary64) : Rounding :=
  let m := x.mantissa
  let below := if x.fraction = 0 ∧ 1 < x.exponentField then 1 else 2
  let p := x.exponent - 2
  let up := Nat.pow 2 p.toNat
  { low := (4 * m - below) * up
    value := 4 * m * up
    high := (4 * m + 2) * up
    den := Nat.pow 2 (-p).toNat
    closed := m % 2 == 0 }

namespace Rounding

/-- Whether `k * 10 ^ scale` lies in the interval. -/
def holds (r : Rounding) (k : Nat) (scale : Int) : Bool :=
  let point := k * Nat.pow 10 scale.toNat * r.den
  let unit := Nat.pow 10 (-scale).toNat
  if r.closed then r.low * unit ≤ point && point ≤ r.high * unit
  else r.low * unit < point && point < r.high * unit

/-- The point of the grid `10 ^ scale` to write, if one of the number's two neighbours fits. -/
def pick (r : Rounding) (scale : Int) : Option Nat :=
  let unit := Nat.pow 10 scale.toNat * r.den
  let value := r.value * Nat.pow 10 (-scale).toNat
  let k := value / unit
  let rest := value % unit
  match r.holds k scale, r.holds (k + 1) scale with
  | true, true => if 2 * rest < unit then some k else some (k + 1)
  | true, false => some k
  | false, true => some (k + 1)
  | false, false => none

/-- Seventeen digits always suffice, so `fuel` counts the digits still to be tried. -/
def search (r : Rounding) (e : Int) : Nat → Nat → Decimal
  | 0, _ => ⟨r.value / r.den, 0⟩
  | fuel + 1, n =>
    match r.pick (e - n) with
    | some k => Decimal.trim 20 ⟨k, e - n⟩
    | none => search r e fuel (n + 1)

end Rounding

/-- The shortest decimal for the magnitude of a finite number. -/
def shortest (x : Binary64) : Decimal :=
  if x.isZero then ⟨0, 0⟩
  else
    let r := x.rounding
    r.search (Decimal.magnitude r.value r.den) 17 1

end Binary64

end TagDispatch
